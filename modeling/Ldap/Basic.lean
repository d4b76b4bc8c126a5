import Mathlib.Data.List.Lex
import Mathlib.Order.Basic

/-!
# Values of the search layer

Go strings, BER packets, controls, errors, entries and requests as `search.go` reads and
builds them. A Go string is its bytes and compares byte by byte, as `sort.Strings` does. A
packet keeps the four fields the search loops read. Indexing a slice and asserting an
interface's dynamic type return `Except Panic`, so a panic of the Go runtime is a value of the
model. Collaborators whose code is not under `src/` (`GetLDAPError`, `DecodeControl`) are the
fields of `Conn`, which carries the one law of the control registry that the paging helper
relies on.
-/

namespace Ldap

/-- A Go `string`: immutable bytes. -/
structure GoString where
  /-- `[]byte(s)`. -/
  bytes : List UInt8
  deriving DecidableEq, Repr

namespace GoString

/-- A string literal of the source, by its UTF-8 encoding. -/
def ofString (text : String) : GoString := ⟨text.data.flatMap String.utf8EncodeChar⟩

/-- Byte values, for the byte-wise order of Go's string comparison. -/
def codes (s : GoString) : List ℕ := s.bytes.map UInt8.toNat

/-- Distinct strings have distinct byte values. -/
theorem codes_injective : Function.Injective codes := by
  rintro ⟨left⟩ ⟨right⟩ same
  congr
  exact List.map_injective_iff.mpr (fun _ _ h => UInt8.toNat.inj h) same

/-- Go orders strings lexicographically by bytes. -/
instance : LinearOrder GoString := LinearOrder.lift' codes codes_injective

end GoString

/-- A Go runtime panic the modelled code can raise. -/
inductive Panic where
  /-- `xs[i]` with `i` past the end of `xs`. -/
  | indexOutOfRange
  /-- `v.(T)` on an interface whose dynamic type is not `T`. -/
  | typeAssertion
  /-- A `reflect.Value` setter called on a value whose kind does not admit it. -/
  | reflectKind
  /-- A write through a nil pointer. -/
  | nilDereference
  deriving DecidableEq, Repr

/-- `xs[i]`: the element, or Go's index-out-of-range panic. -/
def index {α : Type} (xs : List α) (i : ℕ) : Except Panic α :=
  match xs[i]? with
  | some x => .ok x
  | none => .error .indexOutOfRange

/-- Indexing inside the slice returns the element. -/
@[simp] theorem index_of_lt {α : Type} (xs : List α) (i : ℕ) (inside : i < xs.length) :
    index xs i = .ok xs[i] := by
  simp [index, inside]

/-- Indexing past the end panics. -/
@[simp] theorem index_of_le {α : Type} (xs : List α) (i : ℕ) (outside : xs.length ≤ i) :
    index xs i = .error .indexOutOfRange := by
  simp [index, List.getElem?_eq_none outside]

section Except

variable {ε α β : Type}

/-! The `Except` monad evaluated on its two constructors, for `simp`. -/

/-- `pure` is `ok`; not a `simp` lemma, so that `bind_pure_comp` still applies. -/
theorem except_pure (value : α) : (pure value : Except ε α) = .ok value := rfl

/-- A bind on an error is that error. -/
@[simp] theorem except_error_bind (err : ε) (f : α → Except ε β) :
    (Except.error err >>= f) = .error err := rfl

/-- A bind on a value applies the continuation to it. -/
@[simp] theorem except_ok_bind (value : α) (f : α → Except ε β) :
    (Except.ok value >>= f) = f value := rfl

/-- A map over an error is that error. -/
@[simp] theorem except_map_error (err : ε) (f : α → β) :
    f <$> (Except.error err : Except ε α) = .error err := rfl

/-- A map over a value applies the function to it. -/
@[simp] theorem except_map_ok (value : α) (f : α → β) :
    f <$> (Except.ok value : Except ε α) = .ok (f value) := rfl

/-- A bind that succeeds ran both of its steps. -/
theorem except_bind_eq_ok {x : Except ε α} {f : α → Except ε β} {b : β} :
    x >>= f = .ok b ↔ ∃ a, x = .ok a ∧ f a = .ok b := by
  cases x <;> simp

end Except

/-- `ber.Packet.Value`: what the BER decoder stored in the node's `interface{}` field. -/
inductive Value where
  | nil
  | string (text : GoString)
  | int64 (number : BitVec 64)
  | bool (flag : Bool)
  deriving DecidableEq, Repr

/-- `value.(string)`. -/
def Value.assertString : Value → Except Panic GoString
  | .string text => .ok text
  | _ => .error .typeAssertion

/-- `ber.Packet`, with the fields the search loops read. -/
structure Packet where
  /-- `Tag`, the node's tag number. -/
  tag : UInt64
  /-- `Value`, the decoded content. -/
  value : Value
  /-- `ByteValue`, the raw content bytes. -/
  byteValue : List UInt8
  /-- `Children`, in order. -/
  children : List Packet

/-- `packet.Children[i]`. -/
def Packet.child (packet : Packet) (i : ℕ) : Except Panic Packet := index packet.children i

/-- Modelled from the spec: `ControlTypePaging`, declared in control.go, which is not under
`src/`; the spec gives the paging control's OID. -/
def controlTypePaging : GoString := .ofString "1.2.840.113556.1.4.319"

/-- A `Control`: a `*ControlPaging` with its two fields, or a control of another Go type, of
which the modelled code reads only `GetControlType()`. -/
inductive Control where
  /-- `&ControlPaging{PagingSize, Cookie}`. -/
  | paging (pagingSize : UInt32) (cookie : List UInt8)
  /-- Any other implementation of `Control`. -/
  | other (controlType : GoString)
  deriving DecidableEq, Repr

/-- `GetControlType()`. -/
def Control.controlType : Control → GoString
  | .paging _ _ => controlTypePaging
  | .other controlType => controlType

/-- Modelled from the spec: `FindControl` (control.go, not under `src/`) looks a control up by
its type in a request's or a response's control list; the first one of the type is found. -/
def findControl (controls : List Control) (controlType : GoString) : Option Control :=
  controls.find? (·.controlType = controlType)

/-- Modelled from the spec: the result codes `ErrorNetwork` and `ErrorUsage` that this file
passes to `NewError`; error.go, which gives their numbers, is not under `src/`. -/
inductive ErrorCode where
  | errorNetwork
  | errorUsage
  deriving DecidableEq, Repr

/-- An argument of `fmt.Errorf`. -/
inductive FormatArg where
  /-- A Go string, printed by `%s`. -/
  | string (text : GoString)
  /-- An unsigned number, printed by `%d`. -/
  | number (value : ℕ)
  /-- A control, printed by `%v` through its `String` method. -/
  | control (control : Control)
  /-- A `reflect` kind or type, printed by its `String` method. -/
  | name (text : String)
  deriving DecidableEq, Repr

/-- A Go `error`. Errors made outside `src/` are any of these values. -/
inductive Error where
  /-- `NewError(code, errors.New(text))`. -/
  | coded (code : ErrorCode) (text : String)
  /-- `fmt.Errorf(format, args...)`. -/
  | formatted (format : String) (args : List FormatArg)
  /-- `fmt.Errorf(format, err)`, wrapping another error. -/
  | wrapped (format : String) (cause : Error)
  deriving DecidableEq, Repr

/-- `EntryAttribute`: a name and its values, as strings and as bytes. -/
structure EntryAttribute where
  name : GoString
  values : List GoString
  byteValues : List (List UInt8)
  deriving DecidableEq, Repr

/-- `Entry`: a distinguished name and its attributes, in order. -/
structure Entry where
  dn : GoString
  attributes : List EntryAttribute
  deriving DecidableEq, Repr

/-- `SearchResult`. A nil slice and an empty one are both the empty list. -/
structure SearchResult where
  entries : List Entry := []
  referrals : List GoString := []
  controls : List Control := []
  deriving DecidableEq, Repr

/-- Results concatenate field by field, as the paging helper appends pages. -/
instance : Append SearchResult :=
  ⟨fun left right => ⟨left.entries ++ right.entries, left.referrals ++ right.referrals,
    left.controls ++ right.controls⟩⟩

namespace SearchResult

/-- The entries of an appended result are those of both, in order. -/
@[simp] theorem append_entries (left right : SearchResult) :
    (left ++ right).entries = left.entries ++ right.entries := rfl

/-- The referrals of an appended result are those of both, in order. -/
@[simp] theorem append_referrals (left right : SearchResult) :
    (left ++ right).referrals = left.referrals ++ right.referrals := rfl

/-- The controls of an appended result are those of both, in order. -/
@[simp] theorem append_controls (left right : SearchResult) :
    (left ++ right).controls = left.controls ++ right.controls := rfl

/-- Results are determined by their three fields. -/
theorem ext_fields {left right : SearchResult} (entries : left.entries = right.entries)
    (referrals : left.referrals = right.referrals) (controls : left.controls = right.controls) :
    left = right := by
  cases left
  cases right
  simp_all

/-- The empty result is a left unit of appending. -/
@[simp] theorem empty_append (result : SearchResult) : {} ++ result = result := rfl

/-- The empty result is a right unit of appending. -/
@[simp] theorem append_empty (result : SearchResult) : result ++ {} = result :=
  ext_fields (List.append_nil _) (List.append_nil _) (List.append_nil _)

/-- Appending results is associative. -/
theorem append_assoc (first second third : SearchResult) :
    first ++ second ++ third = first ++ (second ++ third) :=
  ext_fields (List.append_assoc ..) (List.append_assoc ..) (List.append_assoc ..)

/-- Appending one entry is appending a result that holds only it. -/
@[simp] theorem update_entries (result : SearchResult) (entries : List Entry) :
    { result with entries := result.entries ++ entries } = result ++ { entries } :=
  ext_fields rfl (List.append_nil _).symm (List.append_nil _).symm

/-- Appending referrals is appending a result that holds only them. -/
@[simp] theorem update_referrals (result : SearchResult) (referrals : List GoString) :
    { result with referrals := result.referrals ++ referrals } = result ++ { referrals } :=
  ext_fields (List.append_nil _).symm rfl (List.append_nil _).symm

/-- Appending controls is appending a result that holds only them. -/
@[simp] theorem update_controls (result : SearchResult) (controls : List Control) :
    { result with controls := result.controls ++ controls } = result ++ { controls } :=
  ext_fields (List.append_nil _).symm (List.append_nil _).symm rfl

end SearchResult

/-- Results joined field by field, in order. -/
def joined (results : List SearchResult) : SearchResult := results.foldr (· ++ ·) {}

/-- No results join to the empty result. -/
@[simp] theorem joined_nil : joined [] = {} := rfl

/-- Joining puts the first result before the others. -/
@[simp] theorem joined_cons (result : SearchResult) (results : List SearchResult) :
    joined (result :: results) = result ++ joined results := rfl

/-- Joining two lists of results appends their joins. -/
theorem joined_append (first second : List SearchResult) :
    joined (first ++ second) = joined first ++ joined second := by
  induction first with
  | nil => simp
  | cons result first ih => simp [ih, SearchResult.append_assoc]

/-- `SearchRequest`. Go's `int` fields are passed to the server unread. -/
structure SearchRequest where
  baseDN : GoString
  scope : ℤ
  derefAliases : ℤ
  sizeLimit : ℤ
  timeLimit : ℤ
  typesOnly : Bool
  filter : GoString
  attributes : List GoString
  controls : List Control
  deriving DecidableEq, Repr

/-- `NewSearchRequest`. -/
def newSearchRequest (baseDN : GoString) (scope derefAliases sizeLimit timeLimit : ℤ)
    (typesOnly : Bool) (filter : GoString) (attributes : List GoString)
    (controls : List Control) : SearchRequest :=
  ⟨baseDN, scope, derefAliases, sizeLimit, timeLimit, typesOnly, filter, attributes, controls⟩

/-- The collaborators of the search layer whose code is not under `src/`. -/
structure Conn where
  /-- `GetLDAPError` (error.go): the error a SearchResultDone's result code stands for, or
  none for success. -/
  getLDAPError : Packet → Option Error
  /-- `DecodeControl` (control.go): one control of a response. -/
  decodeControl : Packet → Except Error Control
  /-- Modelled from the spec: the registry decodes the paging OID to a paging control. -/
  decodeControl_paging : ∀ child control, decodeControl child = .ok control →
    control.controlType = controlTypePaging → ∃ size cookie, control = .paging size cookie

end Ldap

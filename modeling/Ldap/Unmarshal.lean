import Ldap.Entry

/-!
# Filling a struct from an entry

`Entry.Unmarshal` fills the exported fields of the struct a pointer points to: a field whose
`ldap` tag key is `dn` gets the entry's DN, and any other field whose attribute has values gets
them through a type switch on the field's value. The model keeps what `reflect` tells apart
here: the kind of the value given, the fields with their names, package paths, tags and
values, and for a field of interface type the value it holds, which is what the switch sees.
A `reflect` setter on a value of a kind that does not admit it panics.

Outside the two cases that panic, `Unmarshal` returns the first field's error and fills the
fields before it; it changes only values, and only those of exported fields tagged `dn` or whose
attribute has values. An entry `NewEntry` builds is read back into a struct of `[]string` fields
as the map it came from.
-/

namespace Ldap

/-- `reflect.Kind`. -/
inductive Kind where
  | invalid | bool | int | int8 | int16 | int32 | int64 | uint | uint8 | uint16 | uint32
  | uint64 | uintptr | float32 | float64 | complex64 | complex128 | array | chan | func
  | interface | map | pointer | slice | string | struct | unsafePointer
  deriving DecidableEq, Repr

/-- `Kind.String()`, as `%s` prints a kind. -/
def Kind.name : Kind → String
  | .invalid => "invalid" | .bool => "bool" | .int => "int" | .int8 => "int8"
  | .int16 => "int16" | .int32 => "int32" | .int64 => "int64" | .uint => "uint"
  | .uint8 => "uint8" | .uint16 => "uint16" | .uint32 => "uint32" | .uint64 => "uint64"
  | .uintptr => "uintptr" | .float32 => "float32" | .float64 => "float64"
  | .complex64 => "complex64" | .complex128 => "complex128" | .array => "array"
  | .chan => "chan" | .func => "func" | .interface => "interface" | .map => "map"
  | .pointer => "ptr" | .slice => "slice" | .string => "string" | .struct => "struct"
  | .unsafePointer => "unsafe.Pointer"

/-- A value of a concrete type, as `Unmarshal` tells them apart: the five types its switch
names, a defined type of kind `String`, and any other type. Go's `int` has 64 bits. -/
inductive Concrete where
  | string (text : GoString)
  | int (number : BitVec 64)
  | int64 (number : BitVec 64)
  /-- `[]byte`. -/
  | bytes (content : List UInt8)
  /-- `[]string`. -/
  | strings (items : List GoString)
  /-- A value of a defined type of kind `String`, such as `type DN string`, with the type's
  name as `%v` prints it. -/
  | namedString (type : String) (text : GoString)
  /-- A value of any other concrete type, by its name and kind; its content is not read. -/
  | other (type : String) (kind : Kind) (concrete : kind ≠ .string ∧ kind ≠ .interface)
  deriving DecidableEq

/-- The value of a struct field: a concrete value, or a value of an interface type holding a
concrete value or nil. -/
inductive FieldValue where
  | concrete (value : Concrete)
  | interface (type : String) (dynamic : Option Concrete)
  deriving DecidableEq

/-- `reflect.StructField` with the field's value: `Tag` is the key-value pairs
`Tag.Lookup` reads, in order. -/
structure StructField where
  name : GoString
  pkgPath : GoString
  tag : List (GoString × GoString)
  value : FieldValue
  deriving DecidableEq

/-- What `Unmarshal` is given as `i interface{}`. -/
inductive Target where
  /-- A value that is not a pointer, by its kind; `Invalid` for a nil interface. -/
  | value (kind : Kind) (notPointer : kind ≠ .pointer)
  /-- A nil pointer. -/
  | nilPointer
  /-- A pointer to a struct with these fields, in order. -/
  | toStruct (fields : List StructField)
  /-- A pointer to a value of another kind. -/
  | toOther (kind : Kind) (notStruct : kind ≠ .struct)
  deriving DecidableEq

/-- The kind of a concrete value. -/
def Concrete.kind : Concrete → Kind
  | .string _ | .namedString _ _ => .string
  | .int _ => .int
  | .int64 _ => .int64
  | .bytes _ | .strings _ => .slice
  | .other _ kind _ => kind

/-- `fv.Kind()`. -/
def FieldValue.kind : FieldValue → Kind
  | .concrete value => value.kind
  | .interface _ _ => .interface

/-- A concrete type as `%v` prints it. -/
def Concrete.typeName : Concrete → String
  | .string _ => "string"
  | .int _ => "int"
  | .int64 _ => "int64"
  | .bytes _ => "[]uint8"
  | .strings _ => "[]string"
  | .namedString type _ | .other type _ _ => type

/-- `ft.Type`, as `%v` prints it. -/
def FieldValue.typeName : FieldValue → String
  | .concrete value => value.typeName
  | .interface type _ => type

/-- `fv.Interface()`: the value whose dynamic type the switch reads; nil for an interface
holding nothing. -/
def FieldValue.dynamic : FieldValue → Option Concrete
  | .concrete value => some value
  | .interface _ dynamic => dynamic

/-! ## The setters of `reflect`

Each setter panics on a value whose kind does not admit it. The switch calls `SetBytes`,
`SetInt` and `Append` only on a field whose value has the type of its case, which is that type
itself or an interface type; the model spells out those two. -/

/-- `fv.SetString(text)`: allowed on kind `String`. -/
def FieldValue.setString (text : GoString) : FieldValue → Except Panic FieldValue
  | .concrete (.string _) => .ok (.concrete (.string text))
  | .concrete (.namedString type _) => .ok (.concrete (.namedString type text))
  | _ => .error .reflectKind

/-- `fv.SetBytes(content)`: allowed on a slice of bytes. -/
def FieldValue.setBytes (content : List UInt8) : FieldValue → Except Panic FieldValue
  | .concrete (.bytes _) => .ok (.concrete (.bytes content))
  | _ => .error .reflectKind

/-- `fv.SetInt(number)`: allowed on the signed integer kinds. -/
def FieldValue.setInt (number : BitVec 64) : FieldValue → Except Panic FieldValue
  | .concrete (.int _) => .ok (.concrete (.int number))
  | .concrete (.int64 _) => .ok (.concrete (.int64 number))
  | _ => .error .reflectKind

/-- `fv.Set(reflect.Append(fv, reflect.ValueOf(item)))`: `Append` is allowed on a slice whose
elements a string can be assigned to. -/
def FieldValue.append (item : GoString) : FieldValue → Except Panic FieldValue
  | .concrete (.strings items) => .ok (.concrete (.strings (items ++ [item])))
  | _ => .error .reflectKind

/-! ## `Unmarshal` -/

/-- `decoderTagName`. -/
def decoderTagName : GoString := .ofString "ldap"

/-- `Tag.Lookup(key)`: the value of the first pair with the key. -/
def lookupTag (tag : List (GoString × GoString)) (key : GoString) : Option GoString :=
  (tag.find? (·.1 = key)).map (·.2)

/-- `strings.Split(s, ",")`. A comma is one byte of UTF-8 and occurs in no other character. -/
def splitComma (s : GoString) : List GoString := (s.bytes.splitOn 44).map GoString.mk

/-- `readTag` (lines 172-183): the text of the `ldap` key before its first comma, or the field's
name when the key is absent; and whether the key is `name,omitempty`. -/
def readTag (f : StructField) : Except Panic (GoString × Bool) :=
  match lookupTag f.tag decoderTagName with
  | none => pure (f.name, false)
  | some val => do
    let opts := splitComma val
    let omitEmpty ←
      if opts.length = 2 then (decide <| · = .ofString "omitempty") <$> index opts 1
      else pure false
    pure (← index opts 0, omitEmpty)

/-- `strconv.ParseInt(s, 10, 64)`: an optional sign and one or more decimal digits, of a value
in the range of `int64`; none for its syntax and range errors. -/
def parseInt (s : GoString) : Option (BitVec 64) :=
  let (neg, digits) : Bool × List UInt8 :=
    match s.bytes with
    | 43 :: rest => (false, rest)
    | 45 :: rest => (true, rest)
    | bytes => (false, bytes)
  if digits.isEmpty || digits.any (fun digit => digit < 48 || 57 < digit) then none
  else
    let un := digits.foldl (fun n digit => 10 * n + (digit.toNat - 48)) (0 : ℕ)
    if neg then (if un ≤ Nat.pow 2 63 then some (BitVec.ofInt 64 (-(un : ℤ))) else none)
    else if un < Nat.pow 2 63 then some (BitVec.ofNat 64 un) else none

/-- The error of line 275. -/
def parseError (value : GoString) : Error :=
  .formatted "ldap: could not parse value '%s' into int field" [.string value]

/-- The error of line 279. -/
def typeError (field : StructField) : Error :=
  .formatted "ldap: expected field to be of type string, []string, int, int64 or []byte, got %v"
    [.name field.value.typeName]

/-- The field with a new value, from a setter. -/
def StructField.set (field : StructField) (value : Except Panic FieldValue) :
    Except Panic (Except Error StructField) :=
  (fun value => .ok { field with value }) <$> value

/-- Lines 258-280 on a field whose attribute has `values`: nothing when there are none, or the
type switch on `fv.Interface()` with `values[0]` as `first`. -/
def fillField (field : StructField) : List GoString → Except Panic (Except Error StructField)
  | [] => pure (.ok field)
  | values@(first :: _) =>
    match field.value.dynamic with
    | some (.strings _) =>
      field.set (values.foldlM (fun value item => value.append item) field.value)
    | some (.string _) => field.set (field.value.setString first)
    | some (.bytes _) => field.set (field.value.setBytes first.bytes)
    | some (.int _) | some (.int64 _) =>
      match parseInt first with
      | none => pure (.error (parseError first))
      | some intVal => field.set (field.value.setInt intVal)
    | _ => pure (.error (typeError field))

/-- The body of the loop of `Unmarshal` (lines 242-280) on one field: the field as it leaves it,
or the error it returns. -/
def unmarshalField (e : Entry) (field : StructField) : Except Panic (Except Error StructField) :=
  if field.pkgPath ≠ .ofString "" then pure (.ok field)
  else do
    let (fieldTag, _) ← readTag field
    if fieldTag = .ofString "dn" then field.set (field.value.setString e.dn)
    else fillField field (e.getAttributeValues fieldTag)

/-- The loop of `Unmarshal` over the fields (lines 240-281): the fields as it leaves them, and
the error it returns; the fields from the one that failed on are left as they were. -/
def unmarshalFields (e : Entry) :
    List StructField → Except Panic (Option Error × List StructField)
  | [] => pure (none, [])
  | field :: fields => do
    match ← unmarshalField e field with
    | .error err => pure (some err, field :: fields)
    | .ok filled => (fun (err, rest) => (err, filled :: rest)) <$> unmarshalFields e fields

/-- The error of line 237. -/
def notStruct (kind : Kind) : Error :=
  .formatted "ldap: expected pointer to a struct, got %s" [.name kind.name]

/-- `Entry.Unmarshal` (lines 228-283): the error it returns, and what `i` points to after. -/
def Entry.unmarshal (e : Entry) (i : Target) : Except Panic (Option Error × Target) :=
  match i with
  | .value kind _ =>
    pure (some (.formatted "ldap: cannot use %s, expected pointer to a struct"
      [.name kind.name]), i)
  | .nilPointer => pure (some (notStruct .invalid), i)
  | .toOther kind _ => pure (some (notStruct kind), i)
  | .toStruct fields => (fun (err, fields) => (err, .toStruct fields)) <$> unmarshalFields e fields

/-! ## The errors of `Unmarshal` -/

/-- The five types of the switch. -/
def Concrete.supported : Concrete → Bool
  | .string _ | .int _ | .int64 _ | .bytes _ | .strings _ => true
  | _ => false

/-- The two integer types of the switch. -/
def Concrete.integer : Concrete → Bool
  | .int _ | .int64 _ => true
  | _ => false

/-- Whether the field is exported: `ft.PkgPath == ""`. -/
def StructField.exported (field : StructField) : Bool := field.pkgPath = .ofString ""

/-- The key `readTag` returns: the text of the `ldap` key before its first comma, or the field's
name. -/
def StructField.key (field : StructField) : GoString :=
  match lookupTag field.tag decoderTagName with
  | none => field.name
  | some val => (splitComma val).headD (.ofString "")

/-- Whether the field is of an interface type holding a value of a type of the switch. -/
def FieldValue.boxesSupported : FieldValue → Bool
  | .interface _ (some value) => value.supported
  | _ => false

/-- A field outside the two slips of `Unmarshal` for the entry `e`, wherever the `dn` case or
the switch reaches it: an exported field it fills with the DN has kind `String`, and an exported
field of interface type whose attribute has values holds no value of a type of the switch. -/
def StructField.Typed (e : Entry) (field : StructField) : Prop :=
  (field.exported = true → field.key = .ofString "dn" → field.value.kind = .string) ∧
    (field.exported = true → field.key ≠ .ofString "dn" → e.getAttributeValues field.key ≠ [] →
      field.value.boxesSupported = false)

/-- Whether a field is outside the slips is decidable. -/
instance (e : Entry) (field : StructField) : Decidable (field.Typed e) :=
  inferInstanceAs (Decidable (_ ∧ _))

/-- The error the switch returns on a field whose attribute has `values`: the error of
line 279 when the field's value is of none of its types, and the parse error when it is an
integer and the first value is not one. -/
def StructField.refusal (field : StructField) : List GoString → Option Error
  | [] => none
  | first :: _ =>
    if field.value.dynamic.map (·.supported) ≠ some true then some (typeError field)
    else if field.value.dynamic.map (·.integer) = some true ∧ parseInt first = none then
      some (parseError first)
    else none

/-- The error `Unmarshal` returns at a field: the switch's, on an exported field not tagged
`dn`. -/
def StructField.rejection (e : Entry) (field : StructField) : Option Error :=
  if field.exported = true ∧ field.key ≠ .ofString "dn" then
    field.refusal (e.getAttributeValues field.key)
  else none

/-! ## What `Unmarshal` writes -/

/-- `SetString` on a value of kind `String`: the value with its text replaced. -/
def FieldValue.withText (text : GoString) : FieldValue → FieldValue
  | .concrete (.string _) => .concrete (.string text)
  | .concrete (.namedString type _) => .concrete (.namedString type text)
  | value => value

/-- What the switch leaves in a value from the values of its attribute: every value appended to
a `[]string`, or the first value as a string, as bytes or as an integer; the value as it was
when there are no values or the first is not an integer. -/
def FieldValue.written (values : List GoString) : FieldValue → FieldValue
  | .concrete (.strings items) => .concrete (.strings (items ++ values))
  | .concrete (.string text) => .concrete (.string (values.headD text))
  | .concrete (.bytes content) => .concrete (.bytes ((values.head?.map (·.bytes)).getD content))
  | .concrete (.int number) => .concrete (.int ((values.head?.bind parseInt).getD number))
  | .concrete (.int64 number) => .concrete (.int64 ((values.head?.bind parseInt).getD number))
  | value => value

/-- The field as `Unmarshal` leaves it when it passes it without an error: the DN in an exported
field tagged `dn`, the values of its attribute in any other exported field. -/
def StructField.fill (e : Entry) (field : StructField) : StructField :=
  if field.exported then
    if field.key = .ofString "dn" then { field with value := field.value.withText e.dn }
    else { field with value := field.value.written (e.getAttributeValues field.key) }
  else field

/-- The fields as `Unmarshal` leaves them: each filled up to the first that has an error, and
that one and the rest as they were. -/
def fillFields (e : Entry) : List StructField → List StructField
  | [] => []
  | field :: fields =>
    match field.rejection e with
    | some _ => field :: fields
    | none => field.fill e :: fillFields e fields

/-! ## No panic on a typed struct -/

/-- Splitting a tag at commas gives at least one part. -/
theorem splitComma_ne_nil (s : GoString) : splitComma s ≠ [] := by
  simpa [splitComma, List.splitOn] using List.splitOnP_ne_nil _ s.bytes

/-- `readTag` returns the field's key. -/
theorem readTag_key (field : StructField) :
    ∃ omitEmpty, readTag field = .ok (field.key, omitEmpty) := by
  unfold readTag StructField.key
  cases lookupTag field.tag decoderTagName with
  | none => exact ⟨false, rfl⟩
  | some val =>
    obtain ⟨first, rest, split⟩ := List.exists_cons_of_ne_nil (splitComma_ne_nil val)
    rcases rest with _ | ⟨second, _ | ⟨third, more⟩⟩ <;> simp [split, index, except_pure]

/-- Appending the values one by one to a `[]string` field appends them all. -/
theorem foldlM_append (items values : List GoString) :
    values.foldlM (fun (value : FieldValue) item => value.append item)
      (.concrete (.strings items)) = .ok (.concrete (.strings (items ++ values))) := by
  induction values generalizing items with
  | nil => simp [except_pure]
  | cons item values ih =>
    rw [List.foldlM_cons]
    exact (ih (items ++ [item])).trans (by simp)

/-- `SetString` on a value of kind `String` replaces its text. -/
theorem setString_withText {value : FieldValue} (text : GoString) (kind : value.kind = .string) :
    value.setString text = .ok (value.withText text) := by
  rcases value with (_ | _ | _ | _ | _ | _ | ⟨_, _, concrete⟩) | _ <;>
    simp_all [FieldValue.kind, Concrete.kind, FieldValue.setString, FieldValue.withText]

/-- No values leave a value as it was. -/
@[simp] theorem written_nil (value : FieldValue) : value.written [] = value := by
  rcases value with (_ | _ | _ | _ | _ | _ | _) | _ <;> simp [FieldValue.written]

/-- The switch on a field that holds no value of its types inside an interface returns the
field's refusal, and otherwise the field with the values written, without panic. -/
theorem fillField_written {field : StructField} {values : List GoString}
    (boxed : values ≠ [] → field.value.boxesSupported = false) :
    fillField field values = .ok ((field.refusal values).elim
      (.ok { field with value := field.value.written values }) .error) := by
  cases values with
  | nil => simp [fillField, StructField.refusal, except_pure]
  | cons first rest =>
    obtain ⟨name, pkgPath, tag, value | ⟨type, _ | held⟩⟩ := field
    · cases value <;> cases parsed : parseInt first <;>
        simp [fillField, StructField.refusal, StructField.set, FieldValue.dynamic,
          Concrete.supported, Concrete.integer, FieldValue.setString, FieldValue.setBytes,
          FieldValue.setInt, FieldValue.written, parsed, except_pure, -List.foldlM_cons,
          foldlM_append]
    · simp [fillField, StructField.refusal, FieldValue.dynamic, except_pure]
    · have boxed := boxed (List.cons_ne_nil _ _)
      cases held <;> simp_all [fillField, StructField.refusal, FieldValue.dynamic,
        FieldValue.boxesSupported, Concrete.supported, except_pure]

/-- On a typed field, the body of the loop returns the field's rejection, and otherwise the
field filled, without panic. -/
theorem unmarshalField_fill (e : Entry) {field : StructField} (typed : field.Typed e) :
    unmarshalField e field = .ok ((field.rejection e).elim (.ok (field.fill e)) .error) := by
  obtain ⟨dnKind, boxed⟩ := typed
  unfold unmarshalField StructField.rejection StructField.fill
  by_cases exported : field.exported = true
  · have shown : ¬field.pkgPath ≠ .ofString "" := by simpa [StructField.exported] using exported
    obtain ⟨omitEmpty, tagged⟩ := readTag_key field
    rw [if_neg shown, tagged, except_ok_bind]
    by_cases dn : field.key = .ofString "dn"
    · simp [dn, exported, StructField.set, setString_withText e.dn (dnKind exported dn)]
    · simpa [dn, exported] using fillField_written (boxed exported dn)
  · have hidden : field.pkgPath ≠ .ofString "" := by simpa [StructField.exported] using exported
    simp [hidden, exported, except_pure]

/-- On typed fields, the loop returns the first field's rejection and the fields filled up to
it, without panic. -/
theorem unmarshalFields_fill (e : Entry) {fields : List StructField}
    (typed : ∀ field ∈ fields, field.Typed e) :
    unmarshalFields e fields = .ok (fields.findSome? (·.rejection e), fillFields e fields) := by
  induction fields with
  | nil => rfl
  | cons field fields ih =>
    have body := unmarshalField_fill e (typed field (List.mem_cons_self _ _))
    have loop := ih fun other member => typed other (List.mem_cons_of_mem _ member)
    cases rejected : field.rejection e with
    | some err => simp [unmarshalFields, body, rejected, fillFields, except_pure]
    | none => simp [unmarshalFields, body, rejected, loop, fillFields]

/-! ## A sample entry and struct -/

/-- The entry `cn=a` with the attribute `cn: a`. -/
def sampleEntry : Entry :=
  newEntry (.ofString "cn=a") ((∅ : AttributeMap).insert (.ofString "cn") [.ofString "a"])

/-- An exported field `name` tagged `ldap:"key"`. -/
def taggedField (name key : String) (value : FieldValue) : StructField :=
  ⟨.ofString name, .ofString "", [(decoderTagName, .ofString key)], value⟩

/-- A `uint32`. -/
def uint32Value : FieldValue := .concrete (.other "uint32" .uint32 ⟨by decide, by decide⟩)

/-- A struct of a DN, the values of `cn`, and a `uint32` whose attribute is absent. -/
def sampleFields : List StructField :=
  [taggedField "DN" "dn" (.concrete (.string (.ofString ""))),
    taggedField "CN" "cn" (.concrete (.strings [])),
    taggedField "Flags" "userAccountControl" uint32Value]

/-! ## What `Unmarshal` returns -/

/-- On a pointer to a struct outside the two slips, `Unmarshal` returns the first field's
rejection and leaves the fields filled up to it. -/
theorem unmarshal_fill (e : Entry) {fields : List StructField}
    (typed : ∀ field ∈ fields, field.Typed e) :
    e.unmarshal (.toStruct fields) =
      .ok (fields.findSome? (·.rejection e), .toStruct (fillFields e fields)) := by
  simp [Entry.unmarshal, unmarshalFields_fill e typed]

/-- A field that `Unmarshal` may have turned from `old` into `new`: only the value changes, and
only in an exported field tagged `dn` or one whose attribute has values in the entry. -/
def StructField.Kept (e : Entry) (old new : StructField) : Prop :=
  new = { old with value := new.value } ∧
    (old.exported = false ∨ old.key ≠ .ofString "dn" ∧ e.getAttributeValues old.key = [] →
      new = old)

/-- Filling a field only changes a value `Unmarshal` writes. -/
theorem fill_kept (e : Entry) (field : StructField) : StructField.Kept e field (field.fill e) := by
  unfold StructField.Kept StructField.fill
  split_ifs with exported tagged
  · exact ⟨rfl, by simp [exported, tagged]⟩
  · refine ⟨rfl, fun untouched => ?_⟩
    simp_all
  · exact ⟨rfl, fun _ => rfl⟩

/-- The loop only changes values `Unmarshal` writes. -/
theorem fillFields_kept (e : Entry) (fields : List StructField) :
    List.Forall₂ (StructField.Kept e) fields (fillFields e fields) := by
  induction fields with
  | nil => exact .nil
  | cons field fields ih =>
    unfold fillFields
    split
    · exact List.forall₂_same.mpr fun _ _ => ⟨rfl, fun _ => rfl⟩
    · exact .cons (fill_kept e field) ih

/-- On a pointer to a struct outside the two slips, `Unmarshal` changes no field's name, package
path or tag, and no value of a field that is unexported, or not tagged `dn` while the entry has
no values for its attribute: such fields keep what the struct held before the call. -/
theorem unmarshal_frame (e : Entry) {fields : List StructField}
    (typed : ∀ field ∈ fields, field.Typed e) :
    ∃ fields', e.unmarshal (.toStruct fields) =
        .ok (fields.findSome? (·.rejection e), .toStruct fields') ∧
      List.Forall₂ (StructField.Kept e) fields fields' :=
  ⟨_, unmarshal_fill e typed, fillFields_kept e fields⟩

/-- `Unmarshal` leaves alone the fields of `sampleFields` it does not write. -/
theorem unmarshal_frame_sample :
    (∀ field ∈ sampleFields, field.Typed sampleEntry) ∧
    ∃ fields', sampleEntry.unmarshal (.toStruct sampleFields) =
        .ok (sampleFields.findSome? (·.rejection sampleEntry), .toStruct fields') ∧
      List.Forall₂ (StructField.Kept sampleEntry) sampleFields fields' :=
  ⟨by decide, unmarshal_frame sampleEntry (by decide)⟩

/-! ## Reading back an entry `NewEntry` built -/

/-- With no field refused, the loop fills every field. -/
theorem fillFields_of_accepted (e : Entry) {fields : List StructField}
    (accepted : ∀ field ∈ fields, field.rejection e = none) :
    fillFields e fields = fields.map (·.fill e) := by
  induction fields with
  | nil => rfl
  | cons field fields ih =>
    simp only [List.forall_mem_cons] at accepted
    simp [fillFields, accepted.1, ih accepted.2]

/-- What a field holds after `Unmarshal` reads an entry `NewEntry` built: the DN in a field
tagged `dn`, and the map's values for its key in any other. -/
def StructField.readBack (dn : GoString) (attributes : AttributeMap) (field : StructField) :
    StructField :=
  if field.key = .ofString "dn" then { field with value := .concrete (.string dn) }
  else { field with value := .concrete (.strings (attributes.index field.key)) }

/-- `NewEntry` and `Unmarshal` make a round trip. Read into a struct of exported fields, each an
empty `[]string` or a `string` tagged `dn`, the entry `NewEntry` builds from a DN and a map gives
back the DN and, in each other field, the map's values for its key, in the map's order, with no
error. -/
theorem unmarshal_newEntry (dn : GoString) (attributes : AttributeMap) (fields : List StructField)
    (exported : ∀ field ∈ fields, field.exported = true)
    (named : ∀ field ∈ fields, field.key = .ofString "dn" →
      ∃ text, field.value = .concrete (.string text))
    (empty : ∀ field ∈ fields, field.key ≠ .ofString "dn" →
      field.value = .concrete (.strings [])) :
    (newEntry dn attributes).unmarshal (.toStruct fields) =
      .ok (none, .toStruct (fields.map (·.readBack dn attributes))) := by
  have values (key : GoString) : (newEntry dn attributes).getAttributeValues key =
      attributes.index key := findAttribute_newEntry dn attributes key _ rfl
  have typed : ∀ field ∈ fields, field.Typed (newEntry dn attributes) := by
    intro field member
    by_cases tagged : field.key = .ofString "dn"
    · obtain ⟨text, holds⟩ := named field member tagged
      simp [StructField.Typed, holds, FieldValue.kind, Concrete.kind, FieldValue.boxesSupported]
    · simp [StructField.Typed, tagged, empty field member tagged, FieldValue.boxesSupported]
  have accepted : ∀ field ∈ fields, field.rejection (newEntry dn attributes) = none := by
    intro field member
    by_cases tagged : field.key = .ofString "dn"
    · simp [StructField.rejection, tagged]
    · cases reads : attributes.index field.key <;>
        simp [StructField.rejection, StructField.refusal, tagged, values, reads,
          empty field member tagged, FieldValue.dynamic, Concrete.supported, Concrete.integer]
  rw [unmarshal_fill _ typed, List.findSome?_eq_none_iff.mpr accepted,
    fillFields_of_accepted _ accepted]
  congr 3
  refine List.map_congr_left fun field member => ?_
  by_cases tagged : field.key = .ofString "dn"
  · obtain ⟨text, holds⟩ := named field member tagged
    simp [StructField.fill, StructField.readBack, exported field member, tagged, holds,
      FieldValue.withText, dn_newEntry]
  · simp [StructField.fill, StructField.readBack, exported field member, tagged, values,
      empty field member tagged, FieldValue.written]

/-- A struct of the DN, the values of `mail` and those of `telephoneNumber`, all empty. -/
def readBackFields : List StructField :=
  [taggedField "DN" "dn" (.concrete (.string (.ofString ""))),
    taggedField "Mail" "mail" (.concrete (.strings [])),
    taggedField "Phone" "telephoneNumber" (.concrete (.strings []))]

/-- A struct of the DN and two `[]string`s reads back the entry `NewEntry` builds. -/
theorem unmarshal_newEntry_sample :
    (∀ field ∈ readBackFields, field.exported = true) ∧
    (∀ field ∈ readBackFields, field.key = .ofString "dn" →
      ∃ text, field.value = .concrete (.string text)) ∧
    (∀ field ∈ readBackFields, field.key ≠ .ofString "dn" →
      field.value = .concrete (.strings [])) ∧
    (newEntry (.ofString "cn=a") sampleAttributes).unmarshal (.toStruct readBackFields) =
      .ok (none, .toStruct (readBackFields.map (·.readBack (.ofString "cn=a") sampleAttributes))) :=
  have named : ∀ field ∈ readBackFields, field.key = .ofString "dn" →
      ∃ text, field.value = .concrete (.string text) := by
    intro field member tagged
    simp only [readBackFields, List.mem_cons, List.mem_singleton, List.not_mem_nil,
      or_false] at member
    rcases member with rfl | rfl | rfl
    · exact ⟨_, rfl⟩
    all_goals exact absurd tagged (by decide)
  ⟨by decide, named, by decide, unmarshal_newEntry _ _ _ (by decide) named (by decide)⟩

end Ldap

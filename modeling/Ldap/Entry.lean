import Mathlib.Data.List.AList
import Mathlib.Data.List.Sort
import Ldap.Basic

/-!
# Entries built on the client

`NewEntry` builds an entry from a DN and a `map[string][]string`. Go enumerates a map in an
order it leaves unspecified, so the model takes the map as an association list in the order
one `range` gives, and two enumerations of one map are permutations of each other. The names
are sorted before the attributes are built, so every enumeration gives the same entry: its
names are the map's keys in strictly increasing byte-wise order, and each lookup by name
returns the map's values for it. The lookups up to case take `strings.EqualFold` with its laws;
on a map whose keys differ beyond case they return the values of the key the name matches.
-/

namespace Ldap

/-- A Go `map[string][]string`, in the order one `range` over it enumerates its keys: each key
once. -/
abbrev AttributeMap := AList fun _ : GoString => List GoString

/-- `m[k]`: the values under `k`, or a nil slice when `k` is not a key. -/
def AttributeMap.index (attributes : AttributeMap) (name : GoString) : List GoString :=
  (attributes.lookup name).getD []

/-- `sort.Strings`: the strings in increasing byte-wise order. A list has one sorted
permutation, so every sorting algorithm returns this one. -/
def sortStrings (names : List GoString) : List GoString := names.insertionSort (· ≤ ·)

/-- `NewEntryAttribute` (lines 285-296): the values, and the bytes of each. -/
def newEntryAttribute (name : GoString) (values : List GoString) : EntryAttribute :=
  ⟨name, values, values.map (·.bytes)⟩

/-- `NewEntry` (lines 44-62): the keys as `range` enumerates them, sorted, each with the
attribute of its values. -/
def newEntry (dn : GoString) (attributes : AttributeMap) : Entry :=
  let attributeNames := sortStrings attributes.keys
  ⟨dn, attributeNames.map fun attributeName =>
    newEntryAttribute attributeName (attributes.index attributeName)⟩

/-- The loop of the lookups by name (lines 72-101): a field of the first attribute whose name
matches, or an empty list. -/
def Entry.findAttribute {β : Type} (e : Entry) (named : GoString → Bool)
    (field : EntryAttribute → List β) : List β :=
  match e.attributes.find? (named ·.name) with
  | some attr => field attr
  | none => []

/-- `GetAttributeValues` (lines 72-80). -/
def Entry.getAttributeValues (e : Entry) (name : GoString) : List GoString :=
  e.findAttribute (· = name) (·.values)

/-- `GetRawAttributeValues` (lines 93-101). -/
def Entry.getRawAttributeValues (e : Entry) (name : GoString) : List (List UInt8) :=
  e.findAttribute (· = name) (·.byteValues)

/-- `GetAttributeValue` (lines 113-120): the first value, or `""`. -/
def Entry.getAttributeValue (e : Entry) (name : GoString) : GoString :=
  (e.getAttributeValues name).headD (.ofString "")

/-- `GetRawAttributeValue` (lines 132-138): the first value's bytes, or an empty slice. -/
def Entry.getRawAttributeValue (e : Entry) (name : GoString) : List UInt8 :=
  (e.getRawAttributeValues name).headD []

/-- Modelled from Go's documentation: `strings.EqualFold` (standard library) tells whether two
strings are equal under simple Unicode case folding, so it is reflexive, symmetric and
transitive. The model takes it with these laws. -/
structure CaseFold where
  equalFold : GoString → GoString → Bool
  equalFold_self : ∀ s, equalFold s s = true
  equalFold_comm : ∀ s t, equalFold s t = equalFold t s
  equalFold_trans : ∀ s t u, equalFold s t = true → equalFold t u = true → equalFold s u = true

/-- `GetEqualFoldAttributeValues` (lines 84-91): `strings.EqualFold(attribute, attr.Name)`. -/
def Entry.getEqualFoldAttributeValues (e : Entry) (fold : CaseFold) (name : GoString) :
    List GoString :=
  e.findAttribute (fold.equalFold name ·) (·.values)

/-- `GetEqualFoldRawAttributeValues` (lines 104-111): `strings.EqualFold(attr.Name, attribute)`,
with the arguments the other way round. -/
def Entry.getEqualFoldRawAttributeValues (e : Entry) (fold : CaseFold) (name : GoString) :
    List (List UInt8) :=
  e.findAttribute (fold.equalFold · name) (·.byteValues)

/-- `GetEqualFoldAttributeValue` (lines 124-130): the first value, or `""`. -/
def Entry.getEqualFoldAttributeValue (e : Entry) (fold : CaseFold) (name : GoString) :
    GoString :=
  (e.getEqualFoldAttributeValues fold name).headD (.ofString "")

/-- `GetEqualFoldRawAttributeValue` (lines 142-148): the first value's bytes, or an empty
slice. -/
def Entry.getEqualFoldRawAttributeValue (e : Entry) (fold : CaseFold) (name : GoString) :
    List UInt8 :=
  (e.getEqualFoldRawAttributeValues fold name).headD []

/-- The raw lookup up to case calls `EqualFold` with its arguments the other way round, and
finds the attribute the string lookup finds, `EqualFold` being symmetric. -/
theorem getEqualFoldRawAttributeValues_eq (e : Entry) (fold : CaseFold) (name : GoString) :
    e.getEqualFoldRawAttributeValues fold name =
      e.findAttribute (fold.equalFold name ·) (·.byteValues) := by
  unfold Entry.getEqualFoldRawAttributeValues
  congr 1
  funext other
  exact fold.equalFold_comm other name

/-! ## Sorting the names -/

/-- `sort.Strings` permutes the names. -/
theorem sortStrings_perm (names : List GoString) : (sortStrings names).Perm names :=
  List.perm_insertionSort _ names

/-- Distinct names come out of `sort.Strings` in strictly increasing order. -/
theorem sortStrings_sorted {names : List GoString} (distinct : names.Nodup) :
    (sortStrings names).Sorted (· < ·) :=
  (List.sorted_insertionSort _ names).lt_of_le ((sortStrings_perm names).nodup_iff.mpr distinct)

/-- Byte order puts upper case before lower case. -/
example : sortStrings [.ofString "cn", .ofString "CN", .ofString "c"] =
    [.ofString "CN", .ofString "c", .ofString "cn"] := by decide

/-- Permuted lists sort to the same list. -/
theorem sortStrings_eq_of_perm {names names' : List GoString} (permuted : names.Perm names') :
    sortStrings names = sortStrings names' :=
  List.eq_of_perm_of_sorted
    ((sortStrings_perm names).trans (permuted.trans (sortStrings_perm names').symm))
    (List.sorted_insertionSort _ names) (List.sorted_insertionSort _ names')

/-- The first element equal to a member is that member. -/
theorem find?_eq_self {names : List GoString} {name : GoString} (member : name ∈ names) :
    names.find? (· = name) = some name := by
  induction names with
  | nil => cases member
  | cons head names ih =>
    by_cases same : head = name
    · simp [same]
    · rw [List.find?_cons_of_neg _ (by simpa using same)]
      exact ih ((List.mem_cons.mp member).resolve_left (Ne.symm same))

/-! ## The entry `NewEntry` builds -/

/-- `NewEntryAttribute` keeps the name it is given. -/
@[simp] theorem newEntryAttribute_name (name : GoString) (values : List GoString) :
    (newEntryAttribute name values).name = name := rfl

/-- `NewEntry` keeps the DN it is given. -/
@[simp] theorem dn_newEntry (dn : GoString) (attributes : AttributeMap) :
    (newEntry dn attributes).dn = dn := rfl

/-- The names of the entry are the sorted keys. -/
theorem names_newEntry (dn : GoString) (attributes : AttributeMap) :
    (newEntry dn attributes).attributes.map (·.name) = sortStrings attributes.keys := by
  simp [newEntry, Function.comp_def]

/-- A lookup by name in the entry finds the attribute of the map's values for that name. -/
theorem findAttribute_newEntry {β : Type} (dn : GoString) (attributes : AttributeMap)
    (name : GoString) (field : EntryAttribute → List β)
    (empty : field (newEntryAttribute name []) = []) :
    (newEntry dn attributes).findAttribute (· = name) field =
      field (newEntryAttribute name (attributes.index name)) := by
  simp only [newEntry, Entry.findAttribute, List.find?_map, Function.comp_def,
    newEntryAttribute_name]
  by_cases key : name ∈ attributes
  · have member := (sortStrings_perm _).mem_iff.mpr (AList.mem_keys.mp key)
    simp [find?_eq_self member]
  · have absent : name ∉ sortStrings attributes.keys := by
      rw [(sortStrings_perm _).mem_iff, ← AList.mem_keys]
      exact key
    have missing : attributes.index name = [] := by
      simp [AttributeMap.index, AList.lookup_eq_none.mpr key]
    rw [missing, empty, List.find?_eq_none.mpr
      fun other member same => absent ((of_decide_eq_true same : other = name) ▸ member)]
    rfl

/-- Tests that agree on the members of a list find the same member. -/
theorem find?_congr {names : List GoString} {named named' : GoString → Bool}
    (agree : ∀ name ∈ names, named name = named' name) :
    names.find? named = names.find? named' := by
  induction names with
  | nil => rfl
  | cons head names ih =>
    rw [List.find?_cons, List.find?_cons, agree head (List.mem_cons_self _ _),
      ih fun name member => agree name (List.mem_cons_of_mem _ member)]

/-- A lookup whose test holds of one key of the map and of no other finds the attribute of that
key's values. -/
theorem findAttribute_newEntry_of {β : Type} (dn : GoString) (attributes : AttributeMap)
    {named : GoString → Bool} {key : GoString} (present : key ∈ attributes.keys)
    (only : ∀ other ∈ attributes.keys, named other = true ↔ other = key)
    (field : EntryAttribute → List β) :
    (newEntry dn attributes).findAttribute named field =
      field (newEntryAttribute key (attributes.index key)) := by
  have agree : ∀ other ∈ sortStrings attributes.keys, named other = decide (other = key) := by
    intro other member
    rw [Bool.eq_iff_iff, decide_eq_true_iff]
    exact only other ((sortStrings_perm _).mem_iff.mp member)
  simp only [newEntry, Entry.findAttribute, List.find?_map, Function.comp_def,
    newEntryAttribute_name]
  rw [find?_congr agree, find?_eq_self ((sortStrings_perm _).mem_iff.mpr present)]
  rfl

/-- A lookup whose test holds of no key of the map finds nothing. -/
theorem findAttribute_newEntry_none {β : Type} (dn : GoString) (attributes : AttributeMap)
    {named : GoString → Bool} (absent : ∀ other ∈ attributes.keys, named other = false)
    (field : EntryAttribute → List β) :
    (newEntry dn attributes).findAttribute named field = [] := by
  simp only [newEntry, Entry.findAttribute, List.find?_map, Function.comp_def,
    newEntryAttribute_name]
  rw [List.find?_eq_none.mpr fun other member => by
    simp [absent other ((sortStrings_perm _).mem_iff.mp member)]]
  rfl

/-- `NewEntry` gives one entry for every enumeration of the map: one attribute per key, in
strictly increasing byte-wise order of names, and each lookup by name returns the map's values
for it, as strings and as bytes. -/
theorem newEntry_canonical (dn : GoString) (attributes : AttributeMap) :
    (∀ enumerated : AttributeMap, enumerated.entries.Perm attributes.entries →
      newEntry dn enumerated = newEntry dn attributes) ∧
    ((newEntry dn attributes).attributes.map (·.name)).Perm attributes.keys ∧
    ((newEntry dn attributes).attributes.map (·.name)).Sorted (· < ·) ∧
    ∀ name, (newEntry dn attributes).getAttributeValues name = attributes.index name ∧
      (newEntry dn attributes).getRawAttributeValues name =
        (attributes.index name).map (·.bytes) := by
  refine ⟨fun enumerated permuted => ?_, ?_, ?_, fun name => ⟨?_, ?_⟩⟩
  · have keys : enumerated.keys.Perm attributes.keys := permuted.map Sigma.fst
    simp only [newEntry, AttributeMap.index, sortStrings_eq_of_perm keys,
      AList.perm_lookup permuted]
  · rw [names_newEntry]
    exact sortStrings_perm _
  · rw [names_newEntry]
    exact sortStrings_sorted attributes.keys_nodup
  · exact findAttribute_newEntry dn attributes name _ rfl
  · exact findAttribute_newEntry dn attributes name _ rfl

/-- The first value of an attribute of the entry is the first of the map's values. -/
theorem getAttributeValue_newEntry (dn : GoString) (attributes : AttributeMap)
    (name : GoString) :
    (newEntry dn attributes).getAttributeValue name =
      (attributes.index name).headD (.ofString "") := by
  rw [Entry.getAttributeValue, Entry.getAttributeValues, findAttribute_newEntry _ _ _ _ rfl]
  rfl

/-! ## Lookups up to case -/

/-- On an entry `NewEntry` builds from a map no two of whose keys are equal up to case, a lookup
up to case returns the values of the key the name is equal to up to case, as strings and as
bytes, although the two lookups call `EqualFold` with their arguments in opposite orders; and
nothing when the name is equal to no key up to case. -/
theorem newEntry_equalFold (fold : CaseFold) (dn : GoString) (attributes : AttributeMap)
    (distinct : ∀ key ∈ attributes.keys, ∀ key' ∈ attributes.keys,
      fold.equalFold key key' = true → key = key') (name : GoString) :
    (∀ key ∈ attributes.keys, fold.equalFold name key = true →
      (newEntry dn attributes).getEqualFoldAttributeValues fold name = attributes.index key ∧
      (newEntry dn attributes).getEqualFoldRawAttributeValues fold name =
        (attributes.index key).map (·.bytes)) ∧
    ((∀ key ∈ attributes.keys, fold.equalFold name key = false) →
      (newEntry dn attributes).getEqualFoldAttributeValues fold name = [] ∧
      (newEntry dn attributes).getEqualFoldRawAttributeValues fold name = []) := by
  rw [Entry.getEqualFoldAttributeValues, getEqualFoldRawAttributeValues_eq]
  refine ⟨fun key present folds => ?_, fun absent => ⟨findAttribute_newEntry_none dn attributes
    absent _, findAttribute_newEntry_none dn attributes absent _⟩⟩
  have only : ∀ other ∈ attributes.keys, fold.equalFold name other = true ↔ other = key := by
    refine fun other member => ⟨fun folded => ?_, fun same => same ▸ folds⟩
    have keyFolds := fold.equalFold_trans key name other
      ((fold.equalFold_comm key name).trans folds) folded
    exact (distinct key present other member keyFolds).symm
  exact ⟨findAttribute_newEntry_of dn attributes present only _,
    findAttribute_newEntry_of dn attributes present only _⟩

/-- An upper-case ASCII letter to lower case; any other byte as it is. -/
def lowerAscii (byte : UInt8) : UInt8 := if 65 ≤ byte ∧ byte ≤ 90 then byte + 32 else byte

/-- ASCII case folding, a sample of the laws of `strings.EqualFold`, with which it agrees on
ASCII text. -/
def asciiFold : CaseFold where
  equalFold := fun s t => decide (s.bytes.map lowerAscii = t.bytes.map lowerAscii)
  equalFold_self _ := by simp
  equalFold_comm _ _ := decide_eq_decide.mpr eq_comm
  equalFold_trans _ _ _ := by simpa using Eq.trans

/-- A map with the keys `cn` and `mail`. -/
def sampleAttributes : AttributeMap :=
  let cn : AttributeMap := (∅ : AttributeMap).insert (.ofString "cn") [.ofString "a"]
  cn.insert (.ofString "mail") [.ofString "a@example.org"]

/-- The keys of `sampleAttributes` differ under ASCII folding, and looking up `CN` finds `cn`. -/
theorem newEntry_equalFold_sample :
    (∀ key ∈ sampleAttributes.keys, ∀ key' ∈ sampleAttributes.keys,
      asciiFold.equalFold key key' = true → key = key') ∧
    (∀ key ∈ sampleAttributes.keys, asciiFold.equalFold (.ofString "CN") key = true →
      (newEntry (.ofString "cn=a") sampleAttributes).getEqualFoldAttributeValues asciiFold
          (.ofString "CN") = sampleAttributes.index key ∧
      (newEntry (.ofString "cn=a") sampleAttributes).getEqualFoldRawAttributeValues asciiFold
          (.ofString "CN") = (sampleAttributes.index key).map (·.bytes)) ∧
    ((∀ key ∈ sampleAttributes.keys, asciiFold.equalFold (.ofString "CN") key = false) →
      (newEntry (.ofString "cn=a") sampleAttributes).getEqualFoldAttributeValues asciiFold
          (.ofString "CN") = [] ∧
      (newEntry (.ofString "cn=a") sampleAttributes).getEqualFoldRawAttributeValues asciiFold
          (.ofString "CN") = []) :=
  have distinct : ∀ key ∈ sampleAttributes.keys, ∀ key' ∈ sampleAttributes.keys,
      asciiFold.equalFold key key' = true → key = key' := by decide
  ⟨distinct, newEntry_equalFold asciiFold _ sampleAttributes distinct _⟩

end Ldap

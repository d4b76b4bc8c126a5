import Ldap.Unmarshal

/-!
# Filling a struct that already holds values

`Unmarshal` writes into the struct it is given and does not clear it first. A field it writes
before the first error ends with a value fixed by the entry and the field's type, except a
`[]string`, to which line 266 appends the values; the field with the error and the ones after
it keep what they held. So a second call on the struct the first one left returns the same
error and leaves every field but the `[]string`s as the first call did.
-/

namespace Ldap

/-- The zero value of a concrete type. -/
def Concrete.zero : Concrete → Concrete
  | .string _ => .string (.ofString "")
  | .int _ => .int 0
  | .int64 _ => .int64 0
  | .bytes _ => .bytes []
  | .strings _ => .strings []
  | .namedString type _ => .namedString type (.ofString "")
  | value@(.other _ _ _) => value

/-- The zero value of the field's type: nil for an interface type. -/
def FieldValue.zero : FieldValue → FieldValue
  | .concrete value => .concrete value.zero
  | .interface type _ => .interface type none

/-- The field as the zero value of its struct type holds it: two structs of one type have the
same fields up to their values, and the same zeros. -/
def StructField.zero (field : StructField) : StructField := { field with value := field.value.zero }

/-- Whether the value is a `[]string`, the one case of the switch that appends. -/
def FieldValue.isStrings : FieldValue → Bool
  | .concrete (.strings _) => true
  | _ => false

/-- A field whose value `Unmarshal` writes: an exported field tagged `dn`, or an exported field
whose attribute has values. -/
def StructField.Held (e : Entry) (field : StructField) : Prop :=
  field.exported = true ∧ (field.key = .ofString "dn" ∨ e.getAttributeValues field.key ≠ [])

/-- Whether `Unmarshal` writes a field is decidable. -/
instance (e : Entry) (field : StructField) : Decidable (field.Held e) :=
  inferInstanceAs (Decidable (_ ∧ _))

/-- The position of the first field that has an error, or the number of fields. -/
def reached (e : Entry) (fields : List StructField) : ℕ :=
  fields.findIdx fun field => (field.rejection e).isSome

/-! ## What a field's type fixes -/

section Zero

variable (value : Concrete)

/-- Whether the switch supports a type does not depend on the value. -/
@[simp] theorem supported_zero : value.zero.supported = value.supported := by cases value <;> rfl
/-- Whether a type is an integer type does not depend on the value. -/
@[simp] theorem integer_zero : value.zero.integer = value.integer := by cases value <;> rfl
/-- The name of a type does not depend on the value. -/
@[simp] theorem typeName_zero : value.zero.typeName = value.typeName := by cases value <;> rfl

end Zero

/-- The kind of a field is that of its zero value. -/
@[simp] theorem kind_zero (value : FieldValue) : value.zero.kind = value.kind := by
  rcases value with (_ | _ | _ | _ | _ | _ | _) | _ <;> rfl

/-- A `[]string` stays one at its zero value. -/
@[simp] theorem isStrings_zero (value : FieldValue) : value.zero.isStrings = value.isStrings := by
  rcases value with (_ | _ | _ | _ | _ | _ | _) | _ <;> rfl

/-- A field's zero value keeps whether it is exported. -/
@[simp] theorem exported_zero (field : StructField) : field.zero.exported = field.exported := rfl

/-- A field's zero value keeps its key. -/
@[simp] theorem key_zero (field : StructField) : field.zero.key = field.key := rfl

/-- The switch's error reads the field's type, and of an interface whether it holds a value of
one of its types. -/
theorem refusal_zero {field : StructField} {values : List GoString}
    (boxed : values ≠ [] → field.value.boxesSupported = false) :
    field.zero.refusal values = field.refusal values := by
  cases values with
  | nil => rfl
  | cons first rest =>
    have boxed := boxed (List.cons_ne_nil _ _)
    obtain ⟨name, pkgPath, tag, value | ⟨type, _ | dynamic⟩⟩ := field <;>
      simp_all [StructField.refusal, StructField.zero, FieldValue.zero, FieldValue.dynamic,
        FieldValue.boxesSupported, typeError, FieldValue.typeName]

/-- Outside the slips, the error at a field is fixed by the entry and the field's type. -/
theorem rejection_zero (e : Entry) {field : StructField} (typed : field.Typed e) :
    field.zero.rejection e = field.rejection e := by
  simp only [StructField.rejection, exported_zero, key_zero]
  split_ifs with reached
  · exact refusal_zero (typed.2 reached.1 reached.2)
  · rfl

/-! ## What `Unmarshal` leaves of a field's type -/

/-- `SetString` keeps the type of the value. -/
@[simp] theorem zero_withText (text : GoString) (value : FieldValue) :
    (value.withText text).zero = value.zero := by
  rcases value with (_ | _ | _ | _ | _ | _ | _) | _ <;> rfl

/-- The switch keeps the type of the value. -/
@[simp] theorem zero_written (values : List GoString) (value : FieldValue) :
    (value.written values).zero = value.zero := by
  rcases value with (_ | _ | _ | _ | _ | _ | _) | _ <;> rfl

/-- `SetString` keeps what an interface holds a value of. -/
@[simp] theorem boxesSupported_withText (text : GoString) (value : FieldValue) :
    (value.withText text).boxesSupported = value.boxesSupported := by
  rcases value with (_ | _ | _ | _ | _ | _ | _) | _ <;> rfl

/-- The switch keeps what an interface holds a value of. -/
@[simp] theorem boxesSupported_written (values : List GoString) (value : FieldValue) :
    (value.written values).boxesSupported = value.boxesSupported := by
  rcases value with (_ | _ | _ | _ | _ | _ | _) | _ <;> rfl

/-- `Unmarshal` changes a field's value, never its type. -/
theorem zero_fill (e : Entry) (field : StructField) : (field.fill e).zero = field.zero := by
  unfold StructField.fill
  split_ifs <;> simp [StructField.zero]

/-- `Unmarshal` keeps what an interface field holds a value of. -/
theorem boxesSupported_fill (e : Entry) (field : StructField) :
    (field.fill e).value.boxesSupported = field.value.boxesSupported := by
  unfold StructField.fill
  split_ifs <;> simp

/-- `Unmarshal` keeps whether a field is exported. -/
@[simp] theorem exported_fill (e : Entry) (field : StructField) :
    (field.fill e).exported = field.exported := by
  simpa using congrArg StructField.exported (zero_fill e field)

/-- `Unmarshal` keeps a field's key. -/
@[simp] theorem key_fill (e : Entry) (field : StructField) : (field.fill e).key = field.key := by
  simpa using congrArg StructField.key (zero_fill e field)

/-- `Unmarshal` keeps whether a field is a `[]string`. -/
@[simp] theorem isStrings_fill (e : Entry) (field : StructField) :
    (field.fill e).value.isStrings = field.value.isStrings := by
  simpa [StructField.zero] using congrArg (·.value.isStrings) (zero_fill e field)

/-- A field is written after a fill exactly when it was before. -/
@[simp] theorem held_fill (e : Entry) (field : StructField) :
    (field.fill e).Held e ↔ field.Held e := by
  simp [StructField.Held]

/-- A filled field stays outside the slips. -/
theorem typed_fill (e : Entry) {field : StructField} (typed : field.Typed e) :
    (field.fill e).Typed e := by
  have kind : (field.fill e).value.kind = field.value.kind := by
    simpa [StructField.zero] using congrArg (·.value.kind) (zero_fill e field)
  exact ⟨by simpa [kind] using typed.1, by simpa [boxesSupported_fill] using typed.2⟩

/-- A filled field has the error it had. -/
theorem rejection_fill (e : Entry) {field : StructField} (typed : field.Typed e) :
    (field.fill e).rejection e = field.rejection e := by
  rw [← rejection_zero e (typed_fill e typed), zero_fill, rejection_zero e typed]

/-! ## A field written without error -/

/-- `SetString` leaves the same value whatever the text it replaces. -/
theorem withText_zero {value : FieldValue} (text : GoString) (kind : value.kind = .string) :
    value.zero.withText text = value.withText text := by
  rcases value with (_ | _ | _ | _ | _ | _ | ⟨_, _, concrete⟩) | _ <;>
    simp_all [FieldValue.kind, Concrete.kind, FieldValue.zero, Concrete.zero, FieldValue.withText]

/-- The switch, on values it takes without error, leaves the same value whatever the value it
replaces, except in a `[]string`. -/
theorem written_zero {field : StructField} {values : List GoString} (filled : values ≠ [])
    (boxed : field.value.boxesSupported = false) (accepted : field.refusal values = none)
    (notStrings : field.value.isStrings = false) :
    field.value.zero.written values = field.value.written values := by
  obtain ⟨first, rest, rfl⟩ := List.exists_cons_of_ne_nil filled
  obtain ⟨name, pkgPath, tag, value | ⟨type, _ | dynamic⟩⟩ := field
  · cases value <;> cases parsed : parseInt first <;>
      simp_all [StructField.refusal, FieldValue.dynamic, FieldValue.isStrings, FieldValue.zero,
        Concrete.zero, FieldValue.written, Concrete.supported, Concrete.integer]
  · rfl
  · simp_all [StructField.refusal, FieldValue.dynamic, FieldValue.boxesSupported]

/-- A typed field that `Unmarshal` writes without error, other than a `[]string`, ends as it
does from the zero value of its type. -/
theorem fill_zero (e : Entry) {field : StructField} (typed : field.Typed e) (held : field.Held e)
    (accepted : field.rejection e = none) (notStrings : field.value.isStrings = false) :
    field.zero.fill e = field.fill e := by
  obtain ⟨exported, dnOrValues⟩ := held
  rw [StructField.fill.eq_1 e field.zero, exported_zero, key_zero]
  by_cases dn : field.key = .ofString "dn"
  · simp [StructField.fill, StructField.zero, exported, dn,
      withText_zero e.dn (typed.1 exported dn)]
  · have refused : field.refusal (e.getAttributeValues field.key) = none := by
      simpa [StructField.rejection, exported, dn] using accepted
    simp [StructField.fill, StructField.zero, exported, dn,
      written_zero (dnOrValues.resolve_left dn) (typed.2 exported dn (dnOrValues.resolve_left dn))
        refused notStrings]

/-- Two typed fields of one type have the same error. -/
theorem rejection_eq_of_zero_eq (e : Entry) {field field' : StructField} (typed : field.Typed e)
    (typed' : field'.Typed e) (sameType : field.zero = field'.zero) :
    field.rejection e = field'.rejection e := by
  rw [← rejection_zero e typed, sameType, rejection_zero e typed']

/-- Two typed fields of one type that `Unmarshal` writes without error, other than
`[]string`s, end with the same value. -/
theorem fill_eq_of_zero_eq (e : Entry) {field field' : StructField} (typed : field.Typed e)
    (typed' : field'.Typed e) (sameType : field.zero = field'.zero) (held : field.Held e)
    (accepted : field.rejection e = none) (notStrings : field.value.isStrings = false) :
    field.fill e = field'.fill e := by
  have held' : field'.zero.Held e := sameType ▸ held
  have notStrings' : field'.value.isStrings = false := by
    simpa [StructField.zero, notStrings] using (congrArg (·.value.isStrings) sameType).symm
  rw [← fill_zero e typed held accepted notStrings, sameType,
    fill_zero e typed' held' ((rejection_eq_of_zero_eq e typed typed' sameType).symm.trans accepted)
      notStrings']

/-! ## A field written twice -/

/-- `SetString` twice with one text is `SetString` once. -/
@[simp] theorem withText_withText (text : GoString) (value : FieldValue) :
    (value.withText text).withText text = value.withText text := by
  rcases value with (_ | _ | _ | _ | _ | _ | _) | _ <;> rfl

/-- Writing the same values twice writes them once, except in a `[]string`. -/
theorem written_written {value : FieldValue} (values : List GoString)
    (notStrings : value.isStrings = false) :
    (value.written values).written values = value.written values := by
  cases values with
  | nil => simp
  | cons first rest =>
    rcases value with (_ | _ | _ | _ | _ | _ | _) | _ <;> cases parsed : parseInt first <;>
      simp_all [FieldValue.written, FieldValue.isStrings]

/-- Filling a filled field changes nothing, except in a `[]string`. -/
theorem fill_fill (e : Entry) {field : StructField} (notStrings : field.value.isStrings = false) :
    (field.fill e).fill e = field.fill e := by
  rw [StructField.fill.eq_1 e (field.fill e), exported_fill, key_fill]
  by_cases exported : field.exported = true <;> by_cases dn : field.key = .ofString "dn" <;>
    simp [StructField.fill, exported, dn, written_written _ notStrings]

/-! ## The loop over the fields -/

/-- The first error is at the head, or one past the first error of the tail. -/
theorem reached_cons (e : Entry) (field : StructField) (fields : List StructField) :
    reached e (field :: fields) =
      if (field.rejection e).isSome then 0 else reached e fields + 1 := by
  simp [reached, List.findIdx_cons, cond_eq_if]

/-- Two structs of one type pair their fields in order, each with one of the same type. -/
theorem forall₂_zero {fields fields' : List StructField}
    (sameTypes : fields.map StructField.zero = fields'.map StructField.zero) :
    List.Forall₂ (fun field field' => field.zero = field'.zero) fields fields' := by
  have paired : List.Forall₂ Eq (fields.map StructField.zero) (fields'.map StructField.zero) :=
    sameTypes ▸ List.forall₂_same.mpr fun _ _ => rfl
  simpa only [List.forall₂_map_left_iff, List.forall₂_map_right_iff] using paired

/-- Typed fields of the same types have the same first error. -/
theorem findSome?_rejection_eq (e : Entry) {fields fields' : List StructField}
    (typed : ∀ field ∈ fields, field.Typed e) (typed' : ∀ field ∈ fields', field.Typed e)
    (sameTypes : List.Forall₂ (fun field field' => field.zero = field'.zero) fields fields') :
    fields.findSome? (·.rejection e) = fields'.findSome? (·.rejection e) := by
  induction sameTypes with
  | nil => rfl
  | cons sameType _ ih =>
    simp only [List.forall_mem_cons] at typed typed'
    rw [List.findSome?_cons, List.findSome?_cons,
      rejection_eq_of_zero_eq e typed.1 typed'.1 sameType, ih typed.2 typed'.2]

/-- Up to the first error, two structs of one type end with the same value in each field that
`Unmarshal` writes, other than a `[]string`. -/
theorem fillFields_take_reached (e : Entry) {fields fields' : List StructField}
    (typed : ∀ field ∈ fields, field.Typed e) (typed' : ∀ field ∈ fields', field.Typed e)
    (sameTypes : List.Forall₂ (fun field field' => field.zero = field'.zero) fields fields') :
    List.Forall₂
      (fun field field' => field.Held e → field.value.isStrings = false → field = field')
      ((fillFields e fields).take (reached e fields))
      ((fillFields e fields').take (reached e fields)) := by
  induction sameTypes with
  | nil => simp [fillFields, reached]
  | @cons field field' _ _ sameType _ ih =>
    simp only [List.forall_mem_cons] at typed typed'
    cases rejected : field.rejection e with
    | some err => simp [reached_cons, rejected]
    | none =>
      have accepted' := (rejection_eq_of_zero_eq e typed.1 typed'.1 sameType).symm.trans rejected
      simp only [fillFields, reached_cons, rejected, accepted', Option.isSome_none,
        Bool.false_eq_true, if_false, List.take_succ_cons]
      exact .cons (fun held notStrings => fill_eq_of_zero_eq e typed.1 typed'.1 sameType
        ((held_fill e field).mp held) rejected ((isStrings_fill e field).symm.trans notStrings))
        (ih typed.2 typed'.2)

/-- From the first error on, the fields keep what they held. -/
theorem drop_reached (e : Entry) (fields : List StructField) :
    (fillFields e fields).drop (reached e fields) = fields.drop (reached e fields) := by
  induction fields with
  | nil => rfl
  | cons field fields ih =>
    cases rejected : field.rejection e <;> simp [fillFields, reached_cons, rejected, ih]

/-- Filled fields stay outside the slips. -/
theorem typed_fillFields (e : Entry) {fields : List StructField}
    (typed : ∀ field ∈ fields, field.Typed e) :
    ∀ field ∈ fillFields e fields, field.Typed e := by
  induction fields with
  | nil => simp [fillFields]
  | cons field fields ih =>
    simp only [List.forall_mem_cons] at typed
    cases rejected : field.rejection e with
    | none => simpa [fillFields, rejected] using ⟨typed_fill e typed.1, ih typed.2⟩
    | some err => simpa [fillFields, rejected] using typed

/-- The filled fields have the first error the fields had. -/
theorem findSome?_fillFields (e : Entry) {fields : List StructField}
    (typed : ∀ field ∈ fields, field.Typed e) :
    (fillFields e fields).findSome? (·.rejection e) = fields.findSome? (·.rejection e) := by
  induction fields with
  | nil => rfl
  | cons field fields ih =>
    simp only [List.forall_mem_cons] at typed
    cases rejected : field.rejection e <;>
      simp [fillFields, rejected, rejection_fill e typed.1, ih typed.2]

/-- Filling the filled fields changes none of them but the `[]string`s. -/
theorem fillFields_fillFields (e : Entry) {fields : List StructField}
    (typed : ∀ field ∈ fields, field.Typed e) :
    List.Forall₂ (fun field field' => field.value.isStrings = false → field = field')
      (fillFields e fields) (fillFields e (fillFields e fields)) := by
  induction fields with
  | nil => exact .nil
  | cons field fields ih =>
    simp only [List.forall_mem_cons] at typed
    cases rejected : field.rejection e with
    | none =>
      simp only [fillFields, rejected, rejection_fill e typed.1]
      exact .cons (fun notStrings => (fill_fill e ((isStrings_fill e field).symm.trans
        notStrings)).symm) (ih typed.2)
    | some err =>
      simp only [fillFields, rejected]
      exact List.forall₂_same.mpr fun _ _ _ => rfl

/-! ## Two calls -/

/-- On two structs of one type outside the slips, `Unmarshal` returns one error, and each field
it writes before the field with the error, other than a `[]string`, ends with the same value in
both; the field with the error and the ones after it keep what they held. A second call on the
struct the first one left returns the same error and leaves every field but the `[]string`s as
the first call did. -/
theorem unmarshal_reuse (e : Entry) (fields fields' : List StructField)
    (typed : ∀ field ∈ fields, field.Typed e) (typed' : ∀ field ∈ fields', field.Typed e)
    (sameTypes : fields.map StructField.zero = fields'.map StructField.zero) :
    ∃ err after after' again,
      e.unmarshal (.toStruct fields) = .ok (err, .toStruct after) ∧
      e.unmarshal (.toStruct fields') = .ok (err, .toStruct after') ∧
      List.Forall₂
        (fun field field' => field.Held e → field.value.isStrings = false → field = field')
        (after.take (reached e fields)) (after'.take (reached e fields)) ∧
      after.drop (reached e fields) = fields.drop (reached e fields) ∧
      e.unmarshal (.toStruct after) = .ok (err, .toStruct again) ∧
      List.Forall₂ (fun field field' => field.value.isStrings = false → field = field')
        after again := by
  have paired := forall₂_zero sameTypes
  refine ⟨_, _, _, _, unmarshal_fill e typed, ?_,
    fillFields_take_reached e typed typed' paired, drop_reached e fields, ?_,
    fillFields_fillFields e typed⟩
  · rw [unmarshal_fill e typed', findSome?_rejection_eq e typed typed' paired]
  · rw [unmarshal_fill e (typed_fillFields e typed), findSome?_fillFields e typed]

/-- A struct of a DN, the values of `cn` and a name that also reads `cn`, holding old values. -/
def reusedFields : List StructField :=
  [taggedField "DN" "dn" (.concrete (.string (.ofString "cn=old"))),
    taggedField "CN" "cn" (.concrete (.strings [.ofString "x"])),
    taggedField "Name" "cn" (.concrete (.string (.ofString "old")))]

/-- The reused struct and its zero value are outside the slips, and `Unmarshal` fills both alike. -/
theorem unmarshal_reuse_sample :
    (∀ field ∈ reusedFields, field.Typed sampleEntry) ∧
    (∀ field ∈ reusedFields.map StructField.zero, field.Typed sampleEntry) ∧
    reusedFields.map StructField.zero = (reusedFields.map StructField.zero).map StructField.zero ∧
    ∃ err after after' again,
      sampleEntry.unmarshal (.toStruct reusedFields) = .ok (err, .toStruct after) ∧
      sampleEntry.unmarshal (.toStruct (reusedFields.map StructField.zero)) =
        .ok (err, .toStruct after') ∧
      List.Forall₂
        (fun field field' =>
          field.Held sampleEntry → field.value.isStrings = false → field = field')
        (after.take (reached sampleEntry reusedFields))
        (after'.take (reached sampleEntry reusedFields)) ∧
      after.drop (reached sampleEntry reusedFields) =
        reusedFields.drop (reached sampleEntry reusedFields) ∧
      sampleEntry.unmarshal (.toStruct after) = .ok (err, .toStruct again) ∧
      List.Forall₂ (fun field field' => field.value.isStrings = false → field = field')
        after again :=
  ⟨by decide, by decide, by decide,
    unmarshal_reuse sampleEntry reusedFields (reusedFields.map StructField.zero)
      (by decide) (by decide) (by decide)⟩

/-- A `[]string` field keeps what it held and gets the values after it, once per call; after the
error of an `int` field, a field whose attribute the entry holds keeps its old value. -/
theorem unmarshal_keeps_old_values :
    sampleEntry.unmarshal
      (.toStruct [taggedField "CN" "cn" (.concrete (.strings [.ofString "x"]))]) =
      .ok (none, .toStruct
        [taggedField "CN" "cn" (.concrete (.strings [.ofString "x", .ofString "a"]))]) ∧
    sampleEntry.unmarshal (.toStruct
      [taggedField "CN" "cn" (.concrete (.strings [.ofString "x", .ofString "a"]))]) =
      .ok (none, .toStruct
        [taggedField "CN" "cn"
          (.concrete (.strings [.ofString "x", .ofString "a", .ofString "a"]))]) ∧
    sampleEntry.unmarshal (.toStruct [taggedField "ID" "cn" (.concrete (.int 0)),
      taggedField "Name" "cn" (.concrete (.string (.ofString "old")))]) =
      .ok (some (parseError (.ofString "a")), .toStruct [taggedField "ID" "cn" (.concrete (.int 0)),
        taggedField "Name" "cn" (.concrete (.string (.ofString "old")))]) :=
  ⟨rfl, rfl, rfl⟩

end Ldap

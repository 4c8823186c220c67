import CheckConstraints.Descriptor.Conversion

/-!
Of all the ways in which the steps of a conversion can fail, only a malformed value gets out. A text
and descriptors always make a record, and the two other failures can only come up below a column
mapping, which handles both. So a conversion with failures is one with causes.
-/

namespace CheckConstraints

open Script (Value)

namespace Descriptor

theorem checkScalars_toOption (vs : List Value) : (checkScalars vs).toOption = scalars? vs := by
  induction vs with
  | nil => rfl
  | cons v vs ih =>
      rw [scalars?, ← ih, checkScalars, checkScalar]
      cases Scalar.ofValue? v <;> cases checkScalars vs <;> rfl

theorem checkItems_descriptors (ds : List Descriptor) :
    checkItems (ds.map Value.descriptor) = .ok ds := by
  induction ds with
  | nil => rw [List.map_nil, checkItems]
  | cons d ds ih =>
      rw [List.map_cons, checkItems, ih, check]
      rfl

end Descriptor

namespace Conversion

theorem mapError_ok {ε ε' α : Type} (f : ε → ε') (a : α) :
    (Except.ok a : Except ε α).mapError f = .ok a := rfl

theorem conjunction_eq (parts : List Descriptor) : conjunction parts = .ok (.all parts) := by
  rw [conjunction, Descriptor.checkParts, Descriptor.checkItems_descriptors]
  rfl

theorem choices_eq (column : String) (v : Value) :
    choices column v = (Descriptor.choices column v).mapError .malformed := by
  cases v with
  | set items | frozenSet items =>
      simp only [choices, Descriptor.choices, sorted]
      cases Value.listed? items <;> rfl
  | _ => rfl

/-- A value that a record refuses is one that the shorthand cannot read as a scalar. -/
theorem ofColumn_eq (e : Value × Value) :
    ofColumn e = (Descriptor.ofColumn e).mapError .malformed := by
  obtain ⟨key, v⟩ := e
  cases key with
  | text column =>
      simp only [ofColumn, Descriptor.ofColumn, choices_eq]
      cases Descriptor.choices column v with
      | error cause => rfl
      | ok items =>
          have record : Descriptor.checkInSet (some (.text column)) (some (.list items)) =
              (Descriptor.checkScalars items).map (.inSet column) := by
            cases checked : Descriptor.checkScalars items <;>
              simp [Descriptor.checkInSet, Descriptor.checkField, Descriptor.checkText,
                Descriptor.checkValues, Value.items?, checked, Checked.both, Except.map]
          have read := Descriptor.checkScalars_toOption items
          simp only [mapError_ok, bind, Except.bind, record]
          cases checked : Descriptor.checkScalars items with
          | error errors =>
              rw [checked] at read
              rw [← read]
              rfl
          | ok values =>
              rw [checked] at read
              rw [← read]
              rfl
  | _ => rfl

theorem ofColumns_eq (entries : List (Value × Value)) :
    ofColumns entries = (Descriptor.ofColumns entries).mapError .malformed := by
  induction entries with
  | nil => rfl
  | cons e es ih =>
      rw [ofColumns, Descriptor.ofColumns, ofColumn_eq, ih]
      cases Descriptor.ofColumn e <;> cases Descriptor.ofColumns es <;> rfl

mutual

theorem ofShorthand_eq (v : Value) :
    ofShorthand v = (Descriptor.ofShorthand v).mapError .malformed := by
  cases v with
  | mapping entries =>
      cases entries with
      | nil => rw [ofShorthand, Descriptor.ofShorthand]; rfl
      | cons e es =>
          rw [ofShorthand, Descriptor.ofShorthand, ofColumns_eq]
          cases Descriptor.ofColumns (e :: es) with
          | error cause => rfl
          | ok ds =>
              match ds with
              | [] => exact conjunction_eq []
              | [d] => rfl
              | d :: d' :: ds => exact conjunction_eq (d :: d' :: ds)
  | list items | tuple items =>
      rw [ofShorthand, Descriptor.ofShorthand, ofItems_eq items]
      cases Descriptor.ofItems items with
      | error cause => rfl
      | ok ds => exact conjunction_eq ds
  | _ => simp only [ofShorthand, Descriptor.ofShorthand]; rfl

theorem ofItems_eq (items : List Value) :
    ofItems items = (Descriptor.ofItems items).mapError .malformed := by
  cases items with
  | nil => rw [ofItems, Descriptor.ofItems]; rfl
  | cons v vs =>
      rw [ofItems, Descriptor.ofItems, ofShorthand_eq v, ofItems_eq vs]
      cases Descriptor.ofShorthand v <;> cases Descriptor.ofItems vs <;> rfl

end

/-- A value without a predicate is malformed, at its conversion or at its compilation. -/
theorem predicate_eq (v : Value) :
    predicate v = (Descriptor.ofShorthand v >>= Descriptor.compile).mapError .malformed := by
  rw [predicate, ofShorthand_eq]
  cases Descriptor.ofShorthand v <;> rfl

end Conversion

end CheckConstraints

import CheckConstraints.Descriptor.Predicate
import CheckConstraints.Descriptor.Serialized

/-!
A serialized descriptor is read back as the descriptor that was written, whatever it holds. Reading
other data may change what it finds: octets become texts or numbers, and a decimal that is not
finite becomes a binary number. What was read once is not changed by writing and reading it again.
-/

namespace CheckConstraints.Descriptor

open Script (Value)

theorem tag?_kind (tag : Tag) (entries : List (Value × Value)) :
    tag? ((.text "kind", .text tag.text) :: entries) = some tag := by
  cases tag <;> rfl

theorem checkScalars_ofScalar (vs : List Scalar) :
    checkScalars (vs.map Script.ofScalar) = .ok vs := by
  induction vs with
  | nil => rfl
  | cons v vs ih => simp [checkScalars, checkScalar, Scalar.ofValue?_ofScalar, ih, Checked.both]

mutual

theorem check_dump (d : Descriptor) : check d.dump = .ok d := by
  cases d with
  | raw text =>
      rw [dump, check, tag?_kind]
      rfl
  | inSet column values =>
      have read : checkValues (.list (values.map Script.ofScalar)) = .ok values :=
        checkScalars_ofScalar values
      rw [dump, check, tag?_kind]
      simp [checkInSet, field?, checkField, checkText, read, Checked.both]
  | all parts =>
      have read := checkItems_dumpParts parts
      rw [dump, check, tag?_kind]
      simp [checkPartsField, checkParts, read, Except.map]

theorem checkItems_dumpParts (ps : List Descriptor) : checkItems (dumpParts ps) = .ok ps := by
  cases ps with
  | nil => rw [dumpParts, checkItems]
  | cons p ps =>
      rw [dumpParts, checkItems, check_dump p, checkItems_dumpParts ps]
      rfl

end

theorem parse_dump (d : Descriptor) : parse d.dump = .ok d := by
  rw [parse, check_dump]
  rfl

/-- Each value comes back as it was, its type included, since a descriptor with `true`, `1` and `"1"`
in these places differs from one with them in others. The text of a predicate, or what is malformed
about it, can be told from the serialized form. -/
theorem serialized_round_trip :
    (∀ d : Descriptor, parse d.dump = .ok d ∧ (parse d.dump >>= compile) = d.compile) ∧
    ∀ data d, parse data = .ok d →
      parse d.dump = parse data ∧ (parse d.dump >>= compile) = (parse data >>= compile) := by
  constructor
  · intro d
    rw [parse_dump]
    exact ⟨rfl, rfl⟩
  · intro data d accepted
    rw [parse_dump, accepted]
    exact ⟨rfl, rfl⟩

/-- Octets and a diagnostic are read as other values, which are then kept. -/
theorem serialized_round_trip_of_octets :
    let data : Value := .mapping [(.text "parts", .tuple [
        .descriptor (.raw "a > 0"),
        .mapping [(.text "kind", .text "in_set"), (.text "column", .bytes [112]),
          (.text "values", .list [.bytes [49, 50], .bytes [121, 101, 115], .bytes [112],
            .decimal (.nan true false 7), .decimal (.finite ⟨false, 10, -1⟩), .bool true, .int 1,
            .text "1"])]]),
      (.text "kind", .text "and")]
    let d : Descriptor := .all [.raw "a > 0", .inSet "p" [.int 12, .bool true, .text "p",
      .float Number.Binary64.nan, .decimal ⟨false, 10, -1⟩, .bool true, .int 1, .text "1"]]
    parse data = .ok d ∧ parse d.dump = .ok d ∧
      (parse d.dump >>= compile) = .error (.nonFinite "nan") := by
  intro data d
  have accepted : parse data = .ok d := by rfl
  obtain ⟨again, same⟩ := serialized_round_trip.2 data d accepted
  refine ⟨accepted, again.trans accepted, same.trans ?_⟩
  rw [accepted]
  rfl

end CheckConstraints.Descriptor

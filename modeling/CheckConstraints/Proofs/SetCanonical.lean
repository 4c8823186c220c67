import CheckConstraints.Proofs.SetListing
import CheckConstraints.Proofs.SetValues

/-!
Sets in the authoring shorthand. A set of different choices is read as its one listing, so that two
sets with the same elements stand for the same descriptor, alone and at any place in nested lists.
-/

namespace CheckConstraints

open Script (Value)

namespace Script.Value

variable {v : Value} {items : List Value}

/-- A set of either kind with the given elements: built by adding them in some order, or one that
yields them in some order. -/
def IsSetOf (items : List Value) (v : Value) : Prop :=
  ∃ others : List Value, others.Perm items ∧
    (v = setOf others ∨ v = frozenSetOf others ∨ v = .set others ∨ v = .frozenSet others)

theorem isScalar_of_isChoice (choice : v.IsChoice) : v.IsScalar := by
  cases v with
  | bool b => exact ⟨.bool b, rfl⟩
  | int n => exact ⟨.int n, rfl⟩
  | float x => exact ⟨.float x, rfl⟩
  | decimal d =>
      obtain ⟨q, rfl⟩ := isChoice_decimal.mp choice
      exact ⟨.decimal q, rfl⟩
  | text s => exact ⟨.text s, rfl⟩
  | _ => exact choice.elim

/-- Choices are scalars, which are read as what they are. -/
theorem exists_scalars (choices : ∀ v ∈ items, v.IsChoice) :
    ∃ values, Descriptor.scalars? items = some values ∧ values.map ofScalar = items ∧
      ∀ s ∈ values, s.IsFinite := by
  have plain : ∀ v ∈ items, v.bytesFree = true := by
    intro v member
    obtain ⟨s, rfl⟩ := isScalar_of_isChoice (choices v member)
    cases s <;> rfl
  obtain ⟨values, read, finite⟩ := (Descriptor.exists_scalars? plain).mpr choices
  have became := Descriptor.scalars?_eq_some_iff.mp read
  refine ⟨values, read, (Descriptor.kept_iff became).mpr ?_, finite⟩
  intro v member
  exact isScalar_of_isChoice (choices v member)

end Script.Value

namespace Descriptor

theorem ofItems_append (vs ws : List Value) :
    ofItems (vs ++ ws) = (do
      let ds ← ofItems vs
      let es ← ofItems ws
      return ds ++ es) := by
  induction vs with
  | nil => cases later : ofItems ws <;> simp [ofItems, later, bind, Except.bind, pure, Except.pure]
  | cons v vs ih => simp [ofItems, ih]

theorem exists_ofItems_of_each {vs : List Value} (each : ∀ v ∈ vs, ∃ d, ofShorthand v = .ok d) :
    ∃ ds, ofItems vs = .ok ds := by
  induction vs with
  | nil => exact ⟨[], rfl⟩
  | cons v vs ih =>
      obtain ⟨⟨d, first⟩, rest⟩ := List.forall_mem_cons.mp each
      obtain ⟨ds, later⟩ := ih rest
      refine ⟨d :: ds, ?_⟩
      rw [ofItems]
      exact cons_ok.mpr ⟨d, ds, rfl, first, later⟩

/-- A place in nested lists, by the way to it from the outside: on each level it has items before
and after it. -/
inductive Nest where
  | here
  | list (before : List Value) (inner : Nest) (after : List Value)
  | tuple (before : List Value) (inner : Nest) (after : List Value)

namespace Nest

/-- The whole with a value at the place. -/
def fill (v : Value) : Nest → Value
  | here => v
  | list before inner after => .list (before ++ inner.fill v :: after)
  | tuple before inner after => .tuple (before ++ inner.fill v :: after)

/-- All items next to the place, on any level. -/
def others : Nest → List Value
  | here => []
  | list before inner after | tuple before inner after => before ++ inner.others ++ after

/-- What the whole stands for when a descriptor stands at the place. -/
def convert (d : Descriptor) : Nest → Except Malformed Descriptor
  | here => .ok d
  | list before inner after | tuple before inner after => do
    let first ← ofItems before
    let d ← inner.convert d
    let last ← ofItems after
    return .all (first ++ d :: last)

variable {v : Value} {d : Descriptor}

theorem ofShorthand_fill (nest : Nest) (read : ofShorthand v = .ok d) :
    ofShorthand (nest.fill v) = nest.convert d := by
  induction nest with
  | here => exact read
  | list before inner after ih | tuple before inner after ih =>
      simp only [fill, convert, ofShorthand, ofItems_append, ofItems, ih]
      cases ofItems before with
      | error cause => rfl
      | ok first =>
          cases inner.convert d with
          | error cause => rfl
          | ok whole => cases ofItems after <;> rfl

theorem exists_convert {nest : Nest} (readable : ∀ w ∈ nest.others, ∃ d, ofShorthand w = .ok d) :
    ∃ whole, nest.convert d = .ok whole := by
  induction nest with
  | here => exact ⟨d, rfl⟩
  | list before inner after ih | tuple before inner after ih =>
      simp only [others, List.forall_mem_append] at readable
      obtain ⟨⟨before', inner'⟩, after'⟩ := readable
      obtain ⟨first, read⟩ := exists_ofItems_of_each before'
      obtain ⟨whole, converted⟩ := ih inner'
      obtain ⟨last, read'⟩ := exists_ofItems_of_each after'
      refine ⟨.all (first ++ whole :: last), ?_⟩
      simp only [convert, read, converted, read', bind, Except.bind, pure, Except.pure]

end Nest

theorem ofShorthand_set {column : String} {items sorted : List Value} {values : List Scalar}
    (listed : Value.listed? items = some sorted) (read : scalars? sorted = some values)
    {v : Value} (set : v = .set items ∨ v = .frozenSet items) :
    ofShorthand (.mapping [(.text column, v)]) = .ok (.inSet column values) := by
  have chosen : choices column v = .ok sorted := by
    obtain rfl | rfl := set <;> simp only [choices, listed]
  simp only [ofShorthand, ofColumns, ofColumn, chosen, read, bind, Except.bind, pure, Except.pure,
    Except.map, single]

/-- Different choices are listed in one order, by type and then by value, and a set of them is read
as the same descriptor whatever its kind and however its elements were added or come out. That
descriptor stands wherever the set does in nested lists, and it has a predicate unless the set is
empty. -/
theorem set_canonical (column : String) {vs : List Value} (distinct : Value.DistinctChoices vs) :
    ∃ values : List Scalar,
      (values.map Script.ofScalar).Perm vs ∧
      (values.map Script.ofScalar).Pairwise Value.Precedes ∧
      (∀ v, v.IsSetOf vs →
        ofShorthand (.mapping [(.text column, v)]) = .ok (.inSet column values) ∧
        ∀ nest : Nest,
          ofShorthand (nest.fill (.mapping [(.text column, v)])) =
            nest.convert (.inSet column values)) ∧
      (∀ nest : Nest, (∀ w ∈ nest.others, ∃ d, ofShorthand w = .ok d) →
        ∃ whole, nest.convert (.inSet column values) = .ok whole) ∧
      (vs ≠ [] → ∃ predicate, ∀ v, v.IsSetOf vs →
        (ofShorthand (.mapping [(.text column, v)]) >>= compile) = .ok predicate) := by
  obtain ⟨sorted, same, ordered, listed⟩ := distinct.exists_listing
  obtain ⟨values, read, kept, finite⟩ := Value.exists_scalars (distinct.perm same).choices
  have plain : ∀ v, v.IsSetOf vs →
      ofShorthand (.mapping [(.text column, v)]) = .ok (.inSet column values) := by
    rintro v ⟨ws, same', built⟩
    refine ofShorthand_set (listed ws same') read ?_
    simp only [Value.setOf, Value.frozenSetOf, (distinct.perm same').distinct_eq] at built
    tauto
  rw [← kept] at same ordered
  refine ⟨values, same, ordered, fun v set => ⟨plain v set, fun nest => ?_⟩, fun nest => ?_, ?_⟩
  · exact nest.ofShorthand_fill (plain v set)
  · exact Nest.exists_convert
  · intro filled
    have values_filled : values ≠ [] := by
      rintro rfl
      exact filled same.symm.eq_nil
    obtain ⟨predicate, compiled⟩ :=
      (exists_compile (.inSet column values)).mpr (sound_inSet.mpr ⟨values_filled, finite⟩)
    refine ⟨predicate, fun v set => ?_⟩
    rw [plain v set]
    exact compiled

/-- Two orders of the same elements, the second one in a frozen set inside nested lists. -/
theorem set_canonical_on_four_types :
    let vs : List Value := [.text "b", .int 10, .bool true, .decimal (.finite ⟨false, 15, -1⟩),
      .int 9, .decimal (.finite ⟨true, 2, -1⟩), .text "B", .bool false]
    let listed : Descriptor := .inSet "c" [.decimal ⟨true, 2, -1⟩, .decimal ⟨false, 15, -1⟩,
      .bool false, .bool true, .int 9, .int 10, .text "B", .text "b"]
    ofShorthand (.mapping [(.text "c", .setOf vs)]) = .ok listed ∧
    ofShorthand (.list [.text "c > 0",
      .tuple [.mapping [(.text "c", .frozenSetOf vs.reverse)]]]) =
        .ok (.all [.raw "c > 0", .all [listed]]) := by
  intro vs listed
  have distinct : Value.DistinctChoices vs := by
    refine ⟨?_, ?_⟩
    · simp [vs, Value.IsChoice]
    · decide +kernel
  obtain ⟨values, _, _, read, _, _⟩ := set_canonical "c" distinct
  have first : ofShorthand (.mapping [(.text "c", .setOf vs)]) = .ok listed := by
    decide +kernel
  have same : Descriptor.inSet "c" values = listed :=
    Except.ok.inj ((read (.setOf vs) ⟨vs, .refl _, .inl rfl⟩).1.symm.trans first)
  refine ⟨first, ?_⟩
  rw [← same]
  exact (read (.frozenSetOf vs.reverse) ⟨vs.reverse, vs.reverse_perm, .inr (.inl rfl)⟩).2
    (.list [.text "c > 0"] (.tuple [] .here []) [])

end Descriptor

end CheckConstraints

import CheckConstraints.Descriptor.Grammar
import CheckConstraints.Script.Order

/-!
Listing the elements of a set loses none and makes none up. It succeeds when each element can be
compared with each other, which holds of the choices of a column whatever their types.
-/

namespace CheckConstraints.Script.Value

open Number (DecimalDatum)

variable {v w : Value} {items sorted : List Value}

theorem insertListed?_cons_eq_some {ws : List Value} (h : insertListed? v (w :: ws) = some sorted) :
    sorted = v :: w :: ws ∨ ∃ rest, insertListed? v ws = some rest ∧ sorted = w :: rest := by
  cases before : listedBefore? v w with
  | none => simp [insertListed?, before] at h
  | some first =>
      cases first with
      | true =>
          simp only [insertListed?, before, Option.bind_eq_bind, Option.bind_some, if_true] at h
          exact Or.inl (Option.some.inj h).symm
      | false =>
          simp only [insertListed?, before, Option.bind_eq_bind, Option.bind_some,
            Bool.false_eq_true, if_false, Option.bind_eq_some_iff] at h
          obtain ⟨rest, inserted, kept⟩ := h
          exact Or.inr ⟨rest, inserted, (Option.some.inj kept).symm⟩

theorem insertListed?_perm {ws : List Value} (h : insertListed? v ws = some sorted) :
    sorted.Perm (v :: ws) := by
  induction ws generalizing sorted with
  | nil =>
      rw [← Option.some.inj h]
  | cons w ws ih =>
      rcases insertListed?_cons_eq_some h with rfl | ⟨rest, inserted, rfl⟩
      · exact .refl _
      · exact ((ih inserted).cons w).trans (.swap v w ws)

theorem foldlM_insertListed?_perm {acc : List Value}
    (h : items.foldlM (fun sorted v => insertListed? v sorted) acc = some sorted) :
    sorted.Perm (acc ++ items) := by
  induction items generalizing acc with
  | nil =>
      rw [← Option.some.inj h, List.append_nil]
  | cons v items ih =>
      obtain ⟨next, inserted, later⟩ := Option.bind_eq_some_iff.mp h
      refine (ih later).trans ?_
      exact ((insertListed?_perm inserted).append_right items).trans List.perm_middle.symm

theorem listed?_perm (h : listed? items = some sorted) : sorted.Perm items :=
  foldlM_insertListed?_perm h

theorem exists_insertListed? {ws : List Value} (comparable : ∀ w ∈ ws, (listedBefore? v w).isSome) :
    ∃ sorted, insertListed? v ws = some sorted := by
  induction ws with
  | nil => exact ⟨[v], rfl⟩
  | cons w ws ih =>
      obtain ⟨first, rest⟩ := List.forall_mem_cons.mp comparable
      obtain ⟨before, compared⟩ := Option.isSome_iff_exists.mp first
      obtain ⟨sorted, inserted⟩ := ih rest
      cases before <;> simp [insertListed?, compared, inserted]

theorem exists_listed? {P : Value → Prop}
    (comparable : ∀ v w, P v → P w → (listedBefore? v w).isSome) (each : ∀ v ∈ items, P v) :
    ∃ sorted, listed? items = some sorted := by
  suffices ∀ acc : List Value, (∀ v ∈ acc, P v) →
      ∃ sorted, items.foldlM (fun sorted v => insertListed? v sorted) acc = some sorted from
    this [] (by simp)
  induction items with
  | nil => exact fun acc _ => ⟨acc, rfl⟩
  | cons v items ih =>
      intro acc held
      obtain ⟨first, rest⟩ := List.forall_mem_cons.mp each
      obtain ⟨next, inserted⟩ :=
        exists_insertListed? fun w member => comparable v w first (held w member)
      have still : ∀ w ∈ next, P w := fun w member =>
        List.forall_mem_cons.mpr ⟨first, held⟩ w ((insertListed?_perm inserted).mem_iff.mp member)
      obtain ⟨sorted, later⟩ := ih rest next still
      exact ⟨sorted, Option.bind_eq_some_iff.mpr ⟨next, inserted, later⟩⟩

theorem lessNumber?_decimal {d e : DecimalDatum} (hd : (Value.decimal d).IsChoice)
    (he : (Value.decimal e).IsChoice) : (lessNumber? (.decimal d) (.decimal e)).isSome := by
  obtain ⟨q, rfl⟩ := isChoice_decimal.mp hd
  obtain ⟨r, rfl⟩ := isChoice_decimal.mp he
  rfl

/-- Choices of one type are compared by their values, those of different types by the names of
their types. -/
theorem listedBefore?_isSome (hv : v.IsChoice) (hw : w.IsChoice) : (listedBefore? v w).isSome := by
  simp only [listedBefore?]
  split
  · rename_i alike
    split
    · rfl
    · cases v with
      | bool _ | int _ | float _ | text _ =>
          cases w <;> first | rfl | exact hw.elim | simp [typeName] at alike
      | decimal d =>
          cases w with
          | decimal e => exact lessNumber?_decimal hv hw
          | bool _ | int _ | float _ | text _ => simp [typeName] at alike
          | _ => exact hw.elim
      | _ => exact hv.elim
  · rfl

/-- A set of choices can be listed, and what is listed is what it holds. -/
theorem exists_listed?_choices (items : List Value) :
    (∃ sorted, listed? items = some sorted ∧ sorted ≠ [] ∧ ∀ v ∈ sorted, v.IsChoice) ↔
      items ≠ [] ∧ ∀ v ∈ items, v.IsChoice := by
  constructor
  · rintro ⟨sorted, listed, filled, each⟩
    have same := listed?_perm listed
    exact ⟨fun none => filled (none ▸ same).eq_nil, fun v member => each v (same.mem_iff.mpr member)⟩
  · rintro ⟨filled, each⟩
    obtain ⟨sorted, listed⟩ := exists_listed? (fun _ _ => listedBefore?_isSome) each
    have same := listed?_perm listed
    exact ⟨sorted, listed, fun none => filled (none ▸ same.symm).eq_nil,
      fun v member => each v (same.mem_iff.mp member)⟩

end CheckConstraints.Script.Value

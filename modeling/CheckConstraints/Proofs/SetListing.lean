import CheckConstraints.Proofs.SetOrder
import Mathlib.Algebra.Order.Ring.Unbundled.Rat

/-!
One listing for each set. Elements are listed by the names of their types and within a type by their
values, so that values of different types are never compared. The order is strict, and of two
elements that are not equal one comes first: the listing of a set does not depend on the order in
which the set yields its elements.
-/

namespace CheckConstraints

open Number (Binary64 Decimal Exact)
open Script (Value)

namespace Script.Value

/-- The order of the values of one type: falsity before truth, numbers by their exact value, texts
in dictionary order of their code points. -/
inductive Less : Value → Value → Prop
  | truth : Less (.bool false) (.bool true)
  | integer {m n : Int} (less : m < n) : Less (.int m) (.int n)
  | number {x y : Binary64} (less : x.toRat < y.toRat) : Less (.float x) (.float y)
  | decimal {d e : Decimal} (less : d.toRat < e.toRat) :
      Less (.decimal (.finite d)) (.decimal (.finite e))
  | text {s t : String} (less : s < t) : Less (.text s) (.text t)

/-- The order of a listing: by the name of the type, and within a type by the value. -/
def Precedes (v w : Value) : Prop :=
  v.typeName < w.typeName ∨ v.typeName = w.typeName ∧ v.Less w

variable {u v w : Value}

theorem Less.trans (first : u.Less v) (second : v.Less w) : u.Less w := by
  cases first with
  | truth => cases second
  | integer less =>
      cases second with
      | integer less' => exact .integer (Int.lt_trans less less')
  | number less =>
      cases second with
      | number less' => exact .number (lt_trans less less')
  | decimal less =>
      cases second with
      | decimal less' => exact .decimal (lt_trans less less')
  | text less =>
      cases second with
      | text less' => exact .text (String.lt_trans less less')

theorem Less.irrefl : ¬ v.Less v := by
  intro less
  cases less with
  | integer less => exact Int.lt_irrefl _ less
  | number less | decimal less => exact Rat.lt_irrefl less
  | text less => exact String.lt_irrefl _ less

theorem Precedes.trans (first : u.Precedes v) (second : v.Precedes w) : u.Precedes w := by
  obtain name | ⟨alike, less⟩ := first
  · obtain name' | ⟨alike', _⟩ := second
    · exact .inl (String.lt_trans name name')
    · exact .inl (alike' ▸ name)
  · obtain name' | ⟨alike', less'⟩ := second
    · exact .inl (alike ▸ name')
    · exact .inr ⟨alike.trans alike', less.trans less'⟩

theorem Precedes.asymm (first : v.Precedes w) : ¬ w.Precedes v := by
  intro second
  obtain name | ⟨_, less⟩ := first.trans second
  · exact String.lt_irrefl _ name
  · exact less.irrefl

theorem lt_or_gt_of_text_ne {s t : String} (differ : s ≠ t) : s < t ∨ t < s := by
  by_cases less : s < t
  · exact .inl less
  · exact .inr (String.not_le.mp fun le => differ (String.le_antisymm le (String.not_lt.mp less)))

theorem ofBinary64_of_isFinite {x : Binary64} (finite : x.isFinite = true) :
    Exact.ofBinary64 x = .finite x.toRat := by
  have number : x.isNaN = false := by
    have small : x.exponent.val < 2047 := by simpa [Binary64.isFinite] using finite
    simp [Binary64.isNaN, Nat.ne_of_lt small]
  simp [Exact.ofBinary64, number, finite]

theorem parts?_of_number {e : Exact} (hv : v.number? = some e) :
    v.parts? = some (e, .finite 0) := by
  cases v with
  | bool _ | int _ | float _ | decimal _ => simp [parts?, hv]
  | _ => cases hv

theorem same_of_number {q r : Rat} (hv : v.number? = some (.finite q))
    (hw : w.number? = some (.finite r)) : v.same w = (q == r) := by
  have left := parts?_of_number hv
  have right := parts?_of_number hw
  cases v with
  | bool _ | int _ | float _ | decimal _ => simp [same, sameAtom, left, right, Exact.same]
  | _ => cases hv

theorem less?_of_number {q r : Rat} (hv : v.number? = some (.finite q))
    (hw : w.number? = some (.finite r)) : less? v w = some (decide (q < r)) := by
  cases v with
  | bool _ | int _ | float _ | decimal _ => simp [less?, lessNumber?, hv, hw, Exact.less]
  | _ => cases hv

/-- Two unequal numbers compare, and one of them is the smaller one. -/
theorem less?_or_less? {q r : Rat} (hv : v.number? = some (.finite q))
    (hw : w.number? = some (.finite r)) (unequal : v.same w = false) :
    less? v w = some true ∧ q < r ∨ less? v w = some false ∧ r < q := by
  rw [same_of_number hv hw] at unequal
  rw [less?_of_number hv hw]
  obtain less | greater := lt_or_gt_of_ne (ne_of_beq_false unequal)
  · exact .inl ⟨by simp [less], less⟩
  · exact .inr ⟨by simp [le_of_lt greater], greater⟩

theorem number?_float {x : Binary64} (finite : x.isFinite = true) :
    (Value.float x).number? = some (.finite x.toRat) :=
  congrArg some (ofBinary64_of_isFinite finite)

/-- Of two unequal choices of one type the comparison finds the smaller one. -/
theorem less?_tells (hv : v.IsChoice) (hw : w.IsChoice) (alike : v.typeName = w.typeName)
    (unequal : v.same w = false) :
    less? v w = some true ∧ v.Less w ∨ less? v w = some false ∧ w.Less v := by
  cases v with
  | bool a =>
      cases w with
      | bool b =>
          have told := less?_or_less? rfl rfl unequal
          cases a <;> cases b
          · simp at told
          · exact told.imp (.imp_right fun _ => .truth) (by simp)
          · exact told.imp (by simp) (.imp_right fun _ => .truth)
          · simp at told
      | _ => first | exact hw.elim | simp [typeName] at alike
  | int m =>
      cases w with
      | int n =>
          have told := less?_or_less? rfl rfl unequal
          simp only [Rat.intCast_lt_intCast] at told
          exact told.imp (.imp_right .integer) (.imp_right .integer)
      | _ => first | exact hw.elim | simp [typeName] at alike
  | float x =>
      cases w with
      | float y =>
          have told := less?_or_less? (number?_float hv) (number?_float hw) unequal
          exact told.imp (.imp_right .number) (.imp_right .number)
      | _ => first | exact hw.elim | simp [typeName] at alike
  | decimal d =>
      cases w with
      | decimal e =>
          obtain ⟨q, rfl⟩ := isChoice_decimal.mp hv
          obtain ⟨r, rfl⟩ := isChoice_decimal.mp hw
          have told := less?_or_less? rfl rfl unequal
          exact told.imp (.imp_right .decimal) (.imp_right .decimal)
      | _ => first | exact hw.elim | simp [typeName] at alike
  | text s =>
      cases w with
      | text t =>
          have differ : s ≠ t := by
            simpa [same, sameAtom] using unequal
          obtain less | greater := lt_or_gt_of_text_ne differ
          · exact .inl ⟨by simp [less?, less], .text less⟩
          · exact .inr ⟨by simp [less?, String.lt_asymm greater], .text greater⟩
      | _ => first | exact hw.elim | simp [typeName] at alike
  | _ => exact hv.elim

/-- Of two unequal choices the one that precedes the other is listed before it. -/
theorem listedBefore?_tells (hv : v.IsChoice) (hw : w.IsChoice) (unequal : v.same w = false) :
    listedBefore? v w = some true ∧ v.Precedes w ∨
      listedBefore? v w = some false ∧ w.Precedes v := by
  by_cases alike : v.typeName = w.typeName
  · have decided : listedBefore? v w = less? v w := by simp [listedBefore?, alike, unequal]
    rw [decided]
    obtain ⟨told, less⟩ | ⟨told, less⟩ := less?_tells hv hw alike unequal
    · exact .inl ⟨told, .inr ⟨alike, less⟩⟩
    · exact .inr ⟨told, .inr ⟨alike.symm, less⟩⟩
  · have decided : listedBefore? v w = some (decide (v.typeName < w.typeName)) := by
      simp [listedBefore?, alike]
    rw [decided]
    obtain before | after := lt_or_gt_of_text_ne alike
    · exact .inl ⟨by simp [before], .inl before⟩
    · exact .inr ⟨by simp [String.lt_asymm after], .inl after⟩

theorem number?_or_text (hv : v.IsChoice) :
    (∃ q, v.number? = some (.finite q)) ∨ ∃ s, v = .text s := by
  cases v with
  | bool _ | int _ => exact .inl ⟨_, rfl⟩
  | float _ => exact .inl ⟨_, number?_float hv⟩
  | decimal _ =>
      obtain ⟨q, rfl⟩ := isChoice_decimal.mp hv
      exact .inl ⟨_, rfl⟩
  | text s => exact .inr ⟨s, rfl⟩
  | _ => exact hv.elim

theorem same_text_of_number {e : Exact} (hv : v.number? = some e) (s : String) :
    v.same (.text s) = false ∧ (Value.text s).same v = false := by
  cases v with
  | bool _ | int _ | float _ | decimal _ => simp [same, sameAtom, parts?, number?]
  | _ => cases hv

theorem same_comm (hv : v.IsChoice) (hw : w.IsChoice) : v.same w = w.same v := by
  obtain ⟨q, number⟩ | ⟨s, rfl⟩ := number?_or_text hv <;>
    obtain ⟨r, number'⟩ | ⟨t, rfl⟩ := number?_or_text hw
  · rw [same_of_number number number', same_of_number number' number, BEq.comm]
  · have other := same_text_of_number number t
    rw [other.1, other.2]
  · have other := same_text_of_number number' s
    rw [other.1, other.2]
  · simp only [same, sameAtom, BEq.comm]

theorem insertListed?_before {ws : List Value} (told : listedBefore? v w = some true) :
    insertListed? v (w :: ws) = some (v :: w :: ws) := by
  simp [insertListed?, told]

theorem insertListed?_after {ws : List Value} (told : listedBefore? v w = some false) :
    insertListed? v (w :: ws) = (insertListed? v ws).map (w :: ·) := by
  simp [insertListed?, told, Option.map_eq_bind]

/-- Choices of which no two are equal. -/
structure DistinctChoices (items : List Value) : Prop where
  choices : ∀ v ∈ items, v.IsChoice
  unequal : items.Pairwise fun v w => v.same w = false

namespace DistinctChoices

variable {items others : List Value}

theorem perm (distinct : DistinctChoices items) (same : others.Perm items) :
    DistinctChoices others := by
  have choices : ∀ v ∈ others, v.IsChoice := fun v member =>
    distinct.choices v (same.mem_iff.mp member)
  refine ⟨choices, ?_⟩
  have both : items.Pairwise fun v w => v.same w = false ∧ w.same v = false :=
    distinct.unequal.imp_of_mem fun hv hw unequal =>
      ⟨unequal, same_comm (distinct.choices _ hv) (distinct.choices _ hw) ▸ unequal⟩
  exact (same.symm.pairwise both fun unequal => unequal.symm).imp And.left

theorem sublist (distinct : DistinctChoices items) (part : others.Sublist items) :
    DistinctChoices others :=
  ⟨fun v member => distinct.choices v (part.subset member), distinct.unequal.sublist part⟩

/-- A set that is built from different elements holds all of them, in the order in which they were
added. -/
theorem distinct_eq (distinct : DistinctChoices items) : Value.distinct items = items := by
  -- the elements that are in the set already are generalised, and all together are different
  suffices ∀ kept : List Value, DistinctChoices (kept ++ items) →
      items.foldl insertItem kept = kept ++ items from this [] distinct
  clear distinct
  induction items with
  | nil => simp
  | cons v items ih =>
      intro kept distinct
      have absent : kept.any (same v) = false := by
        rw [List.any_eq_false]
        intro w member
        have different := (distinct.perm List.perm_middle.symm).unequal
        simpa using (List.pairwise_cons.mp different).1 w (by simp [member])
      have next : kept ++ v :: items = (kept ++ [v]) ++ items := by simp
      rw [next] at distinct ⊢
      simpa [insertItem, absent] using ih _ distinct

/-- The insertion of an element that differs from all others keeps the order. -/
theorem insertListed?_pairwise {ws sorted : List Value} (distinct : DistinctChoices (v :: ws))
    (ordered : ws.Pairwise Precedes) (h : insertListed? v ws = some sorted) :
    sorted.Pairwise Precedes := by
  induction ws generalizing sorted with
  | nil =>
      rw [← Option.some.inj h]
      simp
  | cons w ws ih =>
      obtain ⟨hv, hw, _⟩ : v.IsChoice ∧ w.IsChoice ∧ _ := by simpa using distinct.choices
      obtain ⟨unequal, _⟩ := List.pairwise_cons.mp distinct.unequal
      obtain ⟨first, later⟩ := List.pairwise_cons.mp ordered
      obtain ⟨told, before⟩ | ⟨told, after⟩ :=
        listedBefore?_tells hv hw (unequal w List.mem_cons_self)
      · rw [insertListed?_before told] at h
        obtain rfl := Option.some.inj h
        refine List.pairwise_cons.mpr ⟨?_, ordered⟩
        intro u member
        obtain rfl | member := List.mem_cons.mp member
        · exact before
        · exact before.trans (first u member)
      · rw [insertListed?_after told] at h
        obtain ⟨rest, inserted, rfl⟩ := Option.map_eq_some_iff.mp h
        have fewer : DistinctChoices (v :: ws) :=
          (distinct.perm (.swap v w ws)).sublist (List.sublist_cons_self w _)
        refine List.pairwise_cons.mpr ⟨?_, ih fewer later inserted⟩
        intro u member
        obtain rfl | member := List.mem_cons.mp ((insertListed?_perm inserted).mem_iff.mp member)
        · exact after
        · exact first u member

/-- Insertion of different elements, one after the other, keeps the order. -/
theorem foldlM_insertListed?_pairwise {acc sorted : List Value}
    (distinct : DistinctChoices (acc ++ items)) (ordered : acc.Pairwise Precedes)
    (h : items.foldlM (fun sorted v => insertListed? v sorted) acc = some sorted) :
    sorted.Pairwise Precedes := by
  induction items generalizing acc with
  | nil =>
      rw [← Option.some.inj h]
      exact ordered
  | cons v items ih =>
      obtain ⟨next, inserted, later⟩ := Option.bind_eq_some_iff.mp h
      have moved : (next ++ items).Perm (acc ++ v :: items) :=
        ((insertListed?_perm inserted).append_right items).trans List.perm_middle.symm
      have grown : DistinctChoices (v :: acc) :=
        (distinct.perm List.perm_middle.symm).sublist
          ((List.sublist_append_left acc items).cons_cons v)
      exact ih (distinct.perm moved) (insertListed?_pairwise grown ordered inserted) later

/-- Different elements have one listing, whatever the order in which they are met. -/
theorem exists_listing (distinct : DistinctChoices items) :
    ∃ sorted : List Value, sorted.Perm items ∧ sorted.Pairwise Precedes ∧
      ∀ others : List Value, others.Perm items → listed? others = some sorted := by
  have each : ∀ others : List Value, others.Perm items →
      ∃ sorted, listed? others = some sorted ∧ sorted.Perm items ∧ sorted.Pairwise Precedes := by
    intro others same
    have distinct' : DistinctChoices ([] ++ others) := distinct.perm same
    obtain ⟨sorted, listed⟩ := exists_listed? (fun _ _ => listedBefore?_isSome) distinct'.choices
    exact ⟨sorted, listed, (listed?_perm listed).trans same,
      foldlM_insertListed?_pairwise distinct' .nil listed⟩
  obtain ⟨sorted, _, same, ordered⟩ := each items (.refl items)
  refine ⟨sorted, same, ordered, fun others same' => ?_⟩
  obtain ⟨sorted', listed, same'', ordered'⟩ := each others same'
  have equal : sorted' = sorted :=
    List.Perm.eq_of_pairwise (fun _ _ _ _ first second => absurd second first.asymm)
      ordered' ordered (same''.trans same.symm)
  rw [listed, equal]

end DistinctChoices

end Script.Value

end CheckConstraints

import CheckConstraints.Registry

/-!
A registry as a partial map from tables and names to constraints. `get?` is the view: what `put` and
`erase` do to it says all about them, and registries with the same view are equal.
-/

namespace CheckConstraints.Registry

theorem isAt_of_get? {r : Registry} {table name : String} {c : Constraint}
    (h : r.get? table name = some c) : c.IsAt table name := by
  simpa using List.find?_some h

theorem mem_of_get? {r : Registry} {table name : String} {c : Constraint}
    (h : r.get? table name = some c) : c ∈ r.entries :=
  List.mem_of_find?_eq_some h

theorem eq_of_isAt {ds : List Constraint} (h : ds.Pairwise Constraint.Before) {c d : Constraint}
    (hc : c ∈ ds) (hd : d ∈ ds) (hcd : d.IsAt c.table c.name) : c = d := by
  induction ds with
  | nil => simp at hc
  | cons e es ih =>
    obtain ⟨he, hes⟩ := List.pairwise_cons.1 h
    rcases List.mem_cons.1 hc with hce | hc'
    · rcases List.mem_cons.1 hd with hde | hd'
      · rw [hce, hde]
      · exact absurd (hce ▸ he d hd') (Constraint.not_before_of_isAt hcd)
    · rcases List.mem_cons.1 hd with hde | hd'
      · exact absurd (hde ▸ he c hc') (Constraint.not_before_of_isAt ⟨hcd.1.symm, hcd.2.symm⟩)
      · exact ih hes hc' hd'

theorem get?_eq_some_iff {r : Registry} {table name : String} {c : Constraint} :
    r.get? table name = some c ↔ c ∈ r.entries ∧ c.IsAt table name := by
  constructor
  · intro h
    exact ⟨mem_of_get? h, isAt_of_get? h⟩
  · rintro ⟨hc, hat⟩
    cases h : r.get? table name with
    | none =>
      have := List.find?_eq_none.1 h c hc
      simp [hat] at this
    | some d =>
      have hd := isAt_of_get? h
      rw [eq_of_isAt r.sorted hc (mem_of_get? h) ⟨hd.1.trans hat.1.symm, hd.2.trans hat.2.symm⟩]

theorem get?_eq_none_iff {r : Registry} {table name : String} :
    r.get? table name = none ↔ ∀ c ∈ r.entries, ¬ c.IsAt table name := by
  simp [get?]

/-- A live constraint is found under its own table and name. -/
theorem get?_of_mem {r : Registry} {c : Constraint} (h : c ∈ r.entries) :
    r.get? c.table c.name = some c :=
  get?_eq_some_iff.2 ⟨h, rfl, rfl⟩

theorem contains_iff {r : Registry} {table name : String} :
    r.contains table name = true ↔ ∃ c, r.get? table name = some c := by
  simp [contains, Option.isSome_iff_exists]

theorem mem_putEntry_iff {ds : List Constraint} (h : ds.Pairwise Constraint.Before)
    {c d : Constraint} :
    d ∈ putEntry c ds ↔ d = c ∨ d ∈ ds ∧ ¬ d.IsAt c.table c.name := by
  induction ds with
  | nil => simp [putEntry]
  | cons e es ih =>
    obtain ⟨he, hes⟩ := List.pairwise_cons.1 h
    simp only [putEntry]
    split
    · rename_i hce
      constructor
      · intro hd
        rcases List.mem_cons.1 hd with rfl | hd
        · exact Or.inl rfl
        · refine Or.inr ⟨hd, fun hat => ?_⟩
          rcases List.mem_cons.1 hd with rfl | hd
          · exact Constraint.not_before_of_isAt hat hce
          · exact Constraint.not_before_of_isAt hat (hce.trans (he d hd))
      · rintro (rfl | ⟨hd, _⟩)
        · exact List.mem_cons_self ..
        · exact List.mem_cons_of_mem _ hd
    · rename_i hce
      split
      · rename_i hec
        rw [List.mem_cons, ih hes, List.mem_cons]
        constructor
        · rintro (rfl | rfl | ⟨hd, hat⟩)
          · exact Or.inr ⟨Or.inl rfl, fun hat =>
              Constraint.not_before_of_isAt ⟨hat.1.symm, hat.2.symm⟩ hec⟩
          · exact Or.inl rfl
          · exact Or.inr ⟨Or.inr hd, hat⟩
        · rintro (rfl | ⟨rfl | hd, hat⟩)
          · exact Or.inr (Or.inl rfl)
          · exact Or.inl rfl
          · exact Or.inr (Or.inr ⟨hd, hat⟩)
      · rename_i hec
        have heat := Constraint.isAt_of_not_before hce hec
        rw [List.mem_cons, List.mem_cons]
        constructor
        · rintro (rfl | hd)
          · exact Or.inl rfl
          · refine Or.inr ⟨Or.inr hd, fun hat => ?_⟩
            have hat' : d.IsAt e.table e.name :=
              ⟨hat.1.trans heat.1.symm, hat.2.trans heat.2.symm⟩
            exact Constraint.not_before_of_isAt hat' (he d hd)
        · rintro (rfl | ⟨rfl | hd, hat⟩)
          · exact Or.inl rfl
          · exact absurd heat hat
          · exact Or.inr hd

theorem mem_put {r : Registry} {c d : Constraint} :
    d ∈ (r.put c).entries ↔ d = c ∨ d ∈ r.entries ∧ ¬ d.IsAt c.table c.name :=
  mem_putEntry_iff r.sorted

theorem mem_erase {r : Registry} {table name : String} {d : Constraint} :
    d ∈ (r.erase table name).entries ↔ d ∈ r.entries ∧ ¬ d.IsAt table name := by
  simp [erase]

theorem get?_put_self (r : Registry) (c : Constraint) :
    (r.put c).get? c.table c.name = some c :=
  get?_eq_some_iff.2 ⟨mem_put.2 (Or.inl rfl), rfl, rfl⟩

theorem get?_put_of_ne {r : Registry} {c : Constraint} {table name : String}
    (h : ¬ c.IsAt table name) : (r.put c).get? table name = r.get? table name := by
  apply Option.ext
  intro d
  rw [get?_eq_some_iff, get?_eq_some_iff, mem_put]
  constructor
  · rintro ⟨rfl | ⟨hd, _⟩, hat⟩
    · exact absurd hat h
    · exact ⟨hd, hat⟩
  · rintro ⟨hd, hat⟩
    exact ⟨Or.inr ⟨hd, fun h' => h ⟨h'.1.symm.trans hat.1, h'.2.symm.trans hat.2⟩⟩, hat⟩

theorem get?_erase_self (r : Registry) (table name : String) :
    (r.erase table name).get? table name = none :=
  get?_eq_none_iff.2 fun _ hc => (mem_erase.1 hc).2

theorem get?_erase_of_ne {r : Registry} {table name table' name' : String}
    (h : ¬ (table = table' ∧ name = name')) :
    (r.erase table name).get? table' name' = r.get? table' name' := by
  apply Option.ext
  intro d
  rw [get?_eq_some_iff, get?_eq_some_iff, mem_erase]
  constructor
  · rintro ⟨⟨hd, _⟩, hat⟩
    exact ⟨hd, hat⟩
  · rintro ⟨hd, hat⟩
    exact ⟨⟨hd, fun h' => h ⟨h'.1.symm.trans hat.1, h'.2.symm.trans hat.2⟩⟩, hat⟩

/-- Ordered lists with the same members are equal. -/
theorem eq_of_mem_iff {cs ds : List Constraint} (hc : cs.Pairwise Constraint.Before)
    (hd : ds.Pairwise Constraint.Before) (h : ∀ c, c ∈ cs ↔ c ∈ ds) : cs = ds := by
  induction cs generalizing ds with
  | nil =>
    cases ds with
    | nil => rfl
    | cons d ds => exact absurd ((h d).2 (List.mem_cons_self ..)) (by simp)
  | cons c cs ih =>
    cases ds with
    | nil => exact absurd ((h c).1 (List.mem_cons_self ..)) (by simp)
    | cons d ds =>
      obtain ⟨hcs, hcs'⟩ := List.pairwise_cons.1 hc
      obtain ⟨hds, hds'⟩ := List.pairwise_cons.1 hd
      have head : c = d := by
        rcases List.mem_cons.1 ((h c).1 (List.mem_cons_self ..)) with hcd | hcd
        · exact hcd
        · rcases List.mem_cons.1 ((h d).2 (List.mem_cons_self ..)) with hdc | hdc
          · exact hdc.symm
          · exact absurd ((hcs d hdc).trans (hds c hcd)) (Constraint.Before.irrefl c)
      subst head
      congr 1
      refine ih hcs' hds' fun e => ?_
      have hce : e ∈ cs → e ≠ c := fun he hec => Constraint.Before.irrefl c (hec ▸ hcs e he)
      have hde : e ∈ ds → e ≠ c := fun he hec => Constraint.Before.irrefl c (hec ▸ hds e he)
      have := h e
      simp only [List.mem_cons] at this
      constructor
      · intro he
        exact (this.1 (Or.inr he)).resolve_left (hce he)
      · intro he
        exact (this.2 (Or.inr he)).resolve_left (hde he)

/-- The view determines the registry. -/
theorem eq_of_get? {r s : Registry}
    (h : ∀ table name, r.get? table name = s.get? table name) : r = s := by
  apply ext
  refine eq_of_mem_iff r.sorted s.sorted fun c => ?_
  constructor
  · intro hc
    exact mem_of_get? (h c.table c.name ▸ get?_of_mem hc)
  · intro hc
    exact mem_of_get? ((h c.table c.name).symm ▸ get?_of_mem hc)

/-- What was at the place of a constraint does not matter once the constraint is put there. -/
theorem put_erase (r : Registry) (c : Constraint) :
    (r.erase c.table c.name).put c = r.put c := by
  apply eq_of_get?
  intro table name
  by_cases h : c.IsAt table name
  · obtain ⟨rfl, rfl⟩ := h
    rw [get?_put_self, get?_put_self]
  · rw [get?_put_of_ne h, get?_put_of_ne h]
    exact get?_erase_of_ne h

theorem put_of_get? {r : Registry} {c : Constraint} (h : r.get? c.table c.name = some c) :
    r.put c = r := by
  apply eq_of_get?
  intro table name
  by_cases away : c.IsAt table name
  · obtain ⟨rfl, rfl⟩ := away
    rw [get?_put_self, h]
  · exact get?_put_of_ne away

/-- The constraint goes where nothing is, and everything else stays. -/
theorem mem_put_of_free {r : Registry} {c d : Constraint}
    (free : r.get? c.table c.name = none) : d ∈ (r.put c).entries ↔ d = c ∨ d ∈ r.entries := by
  rw [mem_put]
  refine or_congr_right ⟨And.left, fun live => ⟨live, ?_⟩⟩
  exact get?_eq_none_iff.mp free d live

/-- What was put at a free place is taken out again. -/
theorem erase_put {r : Registry} {c : Constraint} (free : r.get? c.table c.name = none) :
    (r.put c).erase c.table c.name = r := by
  apply eq_of_get?
  intro table name
  by_cases here : c.IsAt table name
  · obtain ⟨rfl, rfl⟩ := here
    rw [get?_erase_self, free]
  · rw [get?_erase_of_ne here, get?_put_of_ne here]

theorem mem_constraints_iff {r : Registry} {table : String} {c : Constraint} :
    c ∈ r.constraints table ↔ c ∈ r.entries ∧ c.table = table := by
  simp [constraints]

theorem mem_names {r : Registry} {table name : String} :
    name ∈ r.names table ↔ ∃ c, r.get? table name = some c := by
  simp only [names, constraints, List.mem_map, List.mem_filter, get?_eq_some_iff]
  constructor
  · rintro ⟨c, ⟨hc, ht⟩, rfl⟩
    exact ⟨c, hc, by simpa using ht, rfl⟩
  · rintro ⟨c, hc, ht, hn⟩
    exact ⟨c, ⟨hc, by simpa using ht⟩, hn⟩

theorem add_eq_ok {r : Registry} {c : Constraint} (h : c.name ∉ r.names c.table) :
    r.add c = .ok (r.put c) := by
  have : r.contains c.table c.name = false := by
    rw [Bool.eq_false_iff, ne_eq, contains_iff]
    exact fun hc => h (mem_names.2 hc)
  simp [add, this]

end CheckConstraints.Registry

import CheckConstraints.Descriptor.Predicate

/-!
What a compilation gives. Each kind of descriptor has one exit with a predicate, on which its parts
have theirs; every other exit names what is malformed.
-/

namespace CheckConstraints.Descriptor

/-- A traversal gives a list if the first item and the later ones each give something. -/
theorem cons_ok {ε α : Type} {x : Except ε α} {y : Except ε (List α)} {l : List α} :
    (do let a ← x; let as ← y; return a :: as) = .ok l ↔
      ∃ a as, l = a :: as ∧ x = .ok a ∧ y = .ok as := by
  cases x with
  | error cause => simp [bind, Except.bind]
  | ok a =>
      cases y with
      | error cause => simp [bind, Except.bind]
      | ok as => simp [bind, Except.bind, pure, Except.pure, eq_comm]

theorem literals_cons_ok {v : Scalar} {vs : List Scalar} {ls : List String} :
    literals (v :: vs) = .ok ls ↔
      ∃ l ls', ls = l :: ls' ∧ v.literal = .ok l ∧ literals vs = .ok ls' := by
  rw [literals]
  exact cons_ok

theorem compileParts_cons_ok {p : Descriptor} {ps : List Descriptor} {qs : List String} :
    compileParts (p :: ps) = .ok qs ↔
      ∃ q qs', qs = q :: qs' ∧ p.compile = .ok q ∧ compileParts ps = .ok qs' := by
  rw [compileParts]
  exact cons_ok

/-- The exits of a compilation: the text of each kind of descriptor. -/
theorem compile_ok_cases {d : Descriptor} {predicate : String}
    (h : d.compile = .ok predicate) :
    (∃ text, d = .raw text ∧ Text.allBlank text = false ∧ predicate = rawPredicate text) ∨
    (∃ column v vs l ls, d = .inSet column (v :: vs) ∧ v.literal = .ok l ∧
      literals vs = .ok ls ∧ predicate = memberPredicate column (l :: ls)) ∨
    (∃ p ps q qs, d = .all (p :: ps) ∧ p.compile = .ok q ∧ compileParts ps = .ok qs ∧
      predicate = conjoin (q :: qs)) := by
  cases d with
  | raw text =>
      refine Or.inl ⟨text, rfl, ?_⟩
      cases blank : Text.allBlank text with
      | true => simp [compile, blank] at h
      | false =>
          simp only [compile, blank] at h
          exact ⟨rfl, (Except.ok.inj h).symm⟩
  | inSet column values =>
      refine Or.inr (Or.inl ?_)
      cases values with
      | nil => simp [compile] at h
      | cons v vs =>
          simp only [compile] at h
          cases written : literals (v :: vs) with
          | error cause => simp [written, Except.map] at h
          | ok ls =>
              obtain ⟨l, ls', rfl, first, later⟩ := literals_cons_ok.mp written
              simp only [written, Except.map, Except.ok.injEq] at h
              exact ⟨column, v, vs, l, ls', rfl, first, later, h.symm⟩
  | all parts =>
      refine Or.inr (Or.inr ?_)
      cases parts with
      | nil => simp [compile] at h
      | cons p ps =>
          simp only [compile] at h
          cases written : compileParts (p :: ps) with
          | error cause => simp [written, Except.map] at h
          | ok qs =>
              obtain ⟨q, qs', rfl, first, later⟩ := compileParts_cons_ok.mp written
              simp only [written, Except.map, Except.ok.injEq] at h
              exact ⟨p, ps, q, qs', rfl, first, later, h.symm⟩

theorem compile_starts {d : Descriptor} {predicate : String} (h : d.compile = .ok predicate) :
    ∃ tail, predicate.toList = '(' :: tail := by
  rw [← List.head?_eq_some_iff]
  obtain ⟨_, _, _, rfl⟩ | ⟨_, _, _, _, _, _, _, _, rfl⟩ | ⟨_, _, _, _, _, _, _, rfl⟩ :=
    compile_ok_cases h
  · simp [rawPredicate]
  · simp [memberPredicate]
  · simp [conjoin]

theorem ne_empty_of_compile {d : Descriptor} {predicate : String}
    (h : d.compile = .ok predicate) : predicate ≠ "" := by
  obtain ⟨tail, starts⟩ := compile_starts h
  rintro rfl
  simp at starts

end CheckConstraints.Descriptor

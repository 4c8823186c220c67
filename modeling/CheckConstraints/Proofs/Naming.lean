import CheckConstraints.Naming

/-!
What a resolved name satisfies: it is free on its table, it is not empty, and an explicit name is
kept as it is. The search for an anonymous name gives nothing but free names, whatever its source of
suffixes holds.
-/

namespace CheckConstraints.Naming

variable {settings : Settings} {table name : String} {taken : List String}

/-- An explicit name is accepted exactly when it passes the three checks. -/
theorem validate_eq_ok_iff {given : String} :
    validate settings table given taken = .ok name ↔
      name = given ∧ given ≠ "" ∧ (given.length : Int) ≤ settings.maxNameLength ∧
        given ∉ taken := by
  simp only [validate]
  by_cases empty : given = ""
  · simp [empty]
  · by_cases long : settings.maxNameLength < given.length
    · have tooLong := Int.not_le.mpr long
      simp [empty, long, tooLong]
    · have short := Int.not_lt.mp long
      by_cases used : given ∈ taken
      · simp [empty, long, used]
      · simp [empty, long, used, short, eq_comm]

theorem anonymous_ne_empty (table : String) (suffix : Int) : anonymous table suffix ≠ "" := by
  intro empty
  have characters := congrArg String.toList empty
  simp [anonymous] at characters

theorem search_found {draw : Nat → Except Fault Int} {exhausted : Fault}
    (remaining position tried : Nat)
    (h : (search table taken draw exhausted remaining position tried).result = .ok name) :
    name ∉ taken ∧ ∃ k suffix, draw k = .ok suffix ∧ name = anonymous table suffix := by
  induction remaining generalizing position tried with
  | zero => cases h
  | succ remaining ih =>
      simp only [search] at h
      cases hd : draw position with
      | error fault => simp [hd] at h
      | ok suffix =>
          simp only [hd] at h
          by_cases used : anonymous table suffix ∈ taken
          · simp only [used, ite_true] at h
            exact ih _ _ h
          · simp only [used, ite_false, Except.ok.injEq] at h
            exact ⟨h ▸ used, position, suffix, hd, h.symm⟩

variable {source : SuffixSource} {position : Nat}

theorem resolve_free {explicit : Option String}
    (h : (resolve settings table explicit taken source position).result = .ok name) :
    name ∉ taken := by
  cases explicit with
  | none => exact (search_found _ _ _ h).1
  | some given =>
      obtain ⟨rfl, _, _, free⟩ := validate_eq_ok_iff.mp h
      exact free

theorem resolve_nonempty {explicit : Option String}
    (h : (resolve settings table explicit taken source position).result = .ok name) :
    name ≠ "" := by
  cases explicit with
  | none =>
      obtain ⟨_, _, suffix, _, rfl⟩ := search_found _ _ _ h
      exact anonymous_ne_empty table suffix
  | some given =>
      obtain ⟨rfl, nonempty, _⟩ := validate_eq_ok_iff.mp h
      exact nonempty

theorem resolve_explicit {given : String}
    (h : (resolve settings table (some given) taken source position).result = .ok name) :
    name = given :=
  (validate_eq_ok_iff.mp h).1

end CheckConstraints.Naming

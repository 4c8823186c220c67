import CheckConstraints.Proofs.NameSearch

/-!
Anonymous names given one after the other. Each of them is free when it is given and taken from
then on, so that none comes twice and none was there before, whatever the source draws. With
suffixes from a million on and below a thousand million the digits of each are seven to nine,
without a zero in front.
-/

namespace CheckConstraints

theorem Number.head?_toDigits_ne_zero {n : Nat} (positive : 0 < n) :
    (Nat.toDigits 10 n).head? ≠ some '0' := by
  induction n using Nat.strongRecOn with
  | ind n ih =>
      by_cases small : n < 10
      · rw [Nat.toDigits_of_lt_base small]
        simp
        omega
      · rw [Nat.toDigits_of_base_le (by decide) (by omega),
          List.head?_append_of_ne_nil _ Nat.toDigits_ne_nil]
        exact ih (n / 10) (by omega) (by omega)

namespace Naming

variable {settings : Settings} {table name : String} {taken : List String}

/-- A table, an underscore and seven to nine decimal digits, the first of which is not zero. -/
def Patterned (table name : String) : Prop :=
  ∃ digits : List Char, name = table ++ "_" ++ String.ofList digits ∧
    7 ≤ digits.length ∧ digits.length ≤ 9 ∧ (∀ d ∈ digits, d.isDigit = true) ∧
    digits.head? ≠ some '0'

/-- The check of names that have the pattern accepts them. -/
theorem Patterned.isAnonymousName (patterned : Patterned table name) :
    isAnonymousName table name = true := by
  obtain ⟨digits, rfl, least, most, each, _⟩ := patterned
  have characters : (table ++ "_" ++ String.ofList digits).toList =
      (table.toList ++ ['_']) ++ digits := by simp
  have front : (table.toList ++ ['_']).length = table.length + 1 := by
    rw [List.length_append, String.length_toList, List.length_singleton]
  have all : digits.all Char.isDigit = true := List.all_eq_true.mpr each
  simp only [Naming.isAnonymousName, characters, List.take_left' front, List.drop_left' front]
  simp [least, most, all]

theorem patterned_anonymous {suffix : Int} (least : 1000000 ≤ suffix)
    (greatest : suffix ≤ 999999999) : Patterned table (anonymous table suffix) := by
  obtain ⟨n, rfl⟩ := Int.eq_ofNat_of_zero_le (by omega : 0 ≤ suffix)
  have long : ¬ (Nat.toDigits 10 n).length ≤ 6 := by
    rw [Nat.length_toDigits_le_iff (by decide) (by decide)]
    omega
  have short : (Nat.toDigits 10 n).length ≤ 9 := by
    rw [Nat.length_toDigits_le_iff (by decide) (by decide)]
    omega
  have written : toString (n : Int) = String.ofList (Nat.toDigits 10 n) := by
    apply String.toList_injective
    rw [Number.toList_toString_int, if_neg (by omega), String.toList_ofList, Int.natAbs_natCast]
  refine ⟨Nat.toDigits 10 n, ?_, by omega, short, Number.isDigit_of_mem_toDigits,
    Number.head?_toDigits_ne_zero (by omega)⟩
  rw [anonymous, written]

/-- What chance gives at the position of a draw. -/
def chosen (chance : Nat → Nat) (low high : Int) (position : Nat) (k : Nat) : Int :=
  low + (chance (position + k) : Int) % (high - low + 1)

theorem yields_random {chance : Nat → Nat} {key : Nat} {low high : Int} (ordered : low ≤ high)
    (position n : Nat) :
    Yields (.random chance key low high) position (chosen chance low high position) n := by
  intro j _
  simp only [SuffixSource.random, if_neg (Int.not_lt.mpr ordered)]
  rfl

theorem chosen_bounds {chance : Nat → Nat} {low high : Int} (ordered : low ≤ high)
    (position k : Nat) :
    low ≤ chosen chance low high position k ∧ chosen chance low high position k ≤ high := by
  have nonneg := Int.emod_nonneg (chance (position + k)) (by omega : high - low + 1 ≠ 0)
  have less := Int.emod_lt_of_pos (chance (position + k)) (by omega : 0 < high - low + 1)
  simp only [chosen]
  omega

/-- A search in a range either gives a free name with a suffix of the range or tries in vain as
often as it may. -/
theorem resolve_random_cases {chance : Nat → Nat} {key : Nat} {low high : Int}
    (ordered : low ≤ high) (position : Nat) :
    let resolution := resolve settings table none taken (.random chance key low high) position
    (∃ suffix, resolution.result = .ok (anonymous table suffix) ∧ low ≤ suffix ∧ suffix ≤ high) ∨
      resolution.result =
        .error (.duplicateName table (table ++ "_*") (.exhausted settings.nameAttempts)) := by
  intro resolution
  have drawn : ∀ n, Yields (.random chance key low high) position
      (chosen chance low high position) n := yields_random ordered position
  by_cases used : ∀ j : Nat, (j : Int) < settings.nameAttempts →
      anonymous table (chosen chance low high position j) ∈ taken
  · right
    exact congrArg Resolution.result (resolve_of_taken (drawn _) used)
  · left
    simp only [not_forall] at used
    obtain ⟨k, within, free⟩ := used
    obtain ⟨j, before, first⟩ := exists_firstFree free
    refine ⟨chosen chance low high position j, ?_, chosen_bounds ordered position j⟩
    exact congrArg Resolution.result (resolve_of_firstFree (by omega) (drawn _) first)

/-- The names among the results of some calls. -/
def granted (results : List (Except Fault String)) : List String :=
  results.filterMap Except.toOption

variable {explicit : Option String} {source : SuffixSource} {result : Except Fault String}

theorem mem_granted {results : List (Except Fault String)} :
    name ∈ granted results ↔ .ok name ∈ results := by
  simp only [granted, List.mem_filterMap]
  constructor
  · rintro ⟨result, member, given⟩
    cases result with
    | error fault => cases given
    | ok other =>
        obtain rfl := Option.some.inj given
        exact member
  · intro member
    exact ⟨.ok name, member, rfl⟩

/-- What is given was free, and it is not given again. -/
theorem granted_resolveMany (count position : Nat) (taken : List String) :
    let names := granted (resolveMany settings table explicit source count position taken)
    names.Nodup ∧ ∀ name ∈ names, name ∉ taken := by
  induction count generalizing position taken with
  | zero => simp [granted, resolveMany]
  | succ count ih =>
      simp only [resolveMany]
      cases given : (resolve settings table explicit taken source position).result with
      | error fault => exact ih _ _
      | ok name =>
          obtain ⟨different, fresh⟩ :=
            ih (position + (resolve settings table explicit taken source position).drawn)
              (name :: taken)
          refine ⟨List.nodup_cons.mpr ⟨fun again => ?_, different⟩, ?_⟩
          · exact fresh name again List.mem_cons_self
          · intro other member
            obtain rfl | member := List.mem_cons.mp member
            · exact resolve_free given
            · exact fun used => fresh other member (List.mem_cons_of_mem name used)

theorem length_resolveMany (count position : Nat) (taken : List String) :
    (resolveMany settings table explicit source count position taken).length = count := by
  induction count generalizing position taken with
  | zero => rfl
  | succ count ih => simp [resolveMany, ih]

/-- Each result is that of one call, at some position of the source and with some names taken. -/
theorem mem_resolveMany {count position : Nat}
    (member : result ∈ resolveMany settings table explicit source count position taken) :
    ∃ position' taken',
      result = (resolve settings table explicit taken' source position').result := by
  induction count generalizing position taken with
  | zero => cases member
  | succ count ih =>
      obtain rfl | later := List.mem_cons.mp member
      · exact ⟨position, taken, rfl⟩
      · exact ih later

/-- Any number of anonymous names from the random source, whatever chance brings: each call gives
a name or tries in vain as often as it may, and the names have the pattern, are not among the ones
that were taken and are all different. -/
theorem anonymous_names_follow_pattern (settings : Settings) (table : String)
    (taken : List String) (chance : Nat → Nat) (count position : Nat)
    (least : 1000000 ≤ settings.suffixMin) (ordered : settings.suffixMin ≤ settings.suffixMax)
    (greatest : settings.suffixMax ≤ 999999999) :
    let source : SuffixSource :=
      .random chance SuffixSource.defaultKey settings.suffixMin settings.suffixMax
    let results := resolveMany settings table none source count position taken
    results.length = count ∧
    (∀ result ∈ results, (∃ name, result = .ok name) ∨ result =
      .error (.duplicateName table (table ++ "_*") (.exhausted settings.nameAttempts))) ∧
    (∀ name ∈ granted results,
      Patterned table name ∧ isAnonymousName table name = true ∧ name ∉ taken) ∧
    (granted results).Nodup := by
  intro source results
  have each : ∀ result ∈ results, (∃ name, result = .ok name ∧ Patterned table name) ∨ result =
      .error (.duplicateName table (table ++ "_*") (.exhausted settings.nameAttempts)) := by
    intro result member
    obtain ⟨position', taken', rfl⟩ := mem_resolveMany member
    obtain ⟨suffix, given, lower, upper⟩ | failed := resolve_random_cases ordered position'
    · exact .inl ⟨_, given, patterned_anonymous (by omega) (by omega)⟩
    · exact .inr failed
  obtain ⟨different, fresh⟩ := granted_resolveMany count position taken
  refine ⟨length_resolveMany count position taken, ?_, ?_, different⟩
  · intro result member
    exact (each result member).imp_left fun ⟨name, given, _⟩ => ⟨name, given⟩
  · intro name member
    obtain ⟨name', given, patterned⟩ | failed := each _ (mem_granted.mp member)
    · obtain rfl := Except.ok.inj given
      exact ⟨patterned, patterned.isAnonymousName, fresh name member⟩
    · cases failed

/-- Every suffix comes twice and one name is taken before: three names are given, without the taken
one. -/
theorem anonymous_names_follow_pattern_despite_repeats :
    let source : SuffixSource := .random (· / 2) SuffixSource.defaultKey 1000000 999999999
    let results := resolveMany {} "prices" none source 3 0 ["prices_1000001"]
    granted results = ["prices_1000000", "prices_1000002", "prices_1000003"] ∧
    (granted results).Nodup ∧ ∀ name ∈ granted results, Patterned "prices" name := by
  intro source results
  obtain ⟨_, _, patterned, different⟩ := anonymous_names_follow_pattern {} "prices"
    ["prices_1000001"] (· / 2) 3 0 (by decide) (by decide) (by decide)
  exact ⟨by decide +kernel, different, fun name member => (patterned name member).1⟩

end Naming

end CheckConstraints

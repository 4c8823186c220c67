import CheckConstraints.Proofs.LiteralReading
import CheckConstraints.Proofs.Naming
import Mathlib.Data.Finset.Card
import Mathlib.Data.Nat.Find

/-!
The search for an anonymous name. It stops at the first candidate that is free and draws no suffix
after it; it fails only when as many candidates as it may try are all taken. Suffixes are written in
one way, so different ones make different candidates, and a source without repetition has a free one
among more candidates than there are names.
-/

namespace CheckConstraints.Naming

variable {settings : Settings} {table : String} {taken : List String} {f : Nat → Int}

/-- Different suffixes make different names, as an integer can be read back from its digits. -/
theorem anonymous_injective (table : String) : Function.Injective (anonymous table) := by
  intro m n same
  have suffixes : toString m = toString n := by
    simpa only [anonymous, String.append_right_inj] using same
  have read := PredicateReader.integer?_toString m
  rw [suffixes, PredicateReader.integer?_toString] at read
  exact (Option.some.inj read).symm

/-- Draw `k` gives a free candidate, and no draw before it does. -/
def FirstFree (table : String) (taken : List String) (f : Nat → Int) (k : Nat) : Prop :=
  anonymous table (f k) ∉ taken ∧ ∀ j < k, anonymous table (f j) ∈ taken

section Search

variable {draw : Nat → Except Fault Int} {exhausted : Fault} {remaining position tried k : Nat}

theorem drawn_later {n : Nat} (drawn : ∀ j < n + 1, draw (position + j) = .ok (f j)) :
    ∀ j < n, draw (position + 1 + j) = .ok (f (j + 1)) := by
  intro j before
  rw [Nat.add_right_comm]
  exact drawn (j + 1) (by omega)

/-- The search returns the first free candidate that is within its attempts, and it takes no suffix
after the one of that candidate. -/
theorem search_of_firstFree (within : k < remaining)
    (drawn : ∀ j < k + 1, draw (position + j) = .ok (f j)) (first : FirstFree table taken f k) :
    search table taken draw exhausted remaining position tried =
      ⟨.ok (anonymous table (f k)), tried + (k + 1), some (tried + (k + 1))⟩ := by
  induction remaining generalizing f position tried k with
  | zero => omega
  | succ remaining ih =>
      obtain ⟨free, used⟩ := first
      have now : draw position = .ok (f 0) := drawn 0 (by omega)
      cases k with
      | zero => simp [search, now, free]
      | succ k =>
          have first' : FirstFree table taken (fun j => f (j + 1)) k :=
            ⟨free, fun j before => used (j + 1) (by omega)⟩
          simp only [search, now, used 0 (by omega), if_true]
          rw [ih (by omega) (drawn_later drawn) first', Nat.add_assoc, Nat.add_comm 1]

/-- When all candidates are taken the search tries each of them and fails. -/
theorem search_of_taken (drawn : ∀ j < remaining, draw (position + j) = .ok (f j))
    (used : ∀ j < remaining, anonymous table (f j) ∈ taken) :
    search table taken draw exhausted remaining position tried =
      ⟨.error exhausted, tried + remaining, none⟩ := by
  induction remaining generalizing f position tried with
  | zero => rfl
  | succ remaining ih =>
      have now : draw position = .ok (f 0) := drawn 0 (by omega)
      simp only [search, now, used 0 (by omega), if_true]
      rw [ih (drawn_later drawn) fun j before => used (j + 1) (by omega), Nat.add_assoc,
        Nat.add_comm 1]

end Search

/-- A free candidate has a first one before it. -/
theorem exists_firstFree {k : Nat} (free : anonymous table (f k) ∉ taken) :
    ∃ j ≤ k, FirstFree table taken f j := by
  have some_free : ∃ j, anonymous table (f j) ∉ taken := ⟨k, free⟩
  exact ⟨Nat.find some_free, Nat.find_min' some_free free, Nat.find_spec some_free,
    fun j before => not_not.mp (Nat.find_min some_free before)⟩

/-- Among more different candidates than there are names one is free. -/
theorem exists_free {n : Nat} (different : Set.InjOn f {k | k < n})
    (few : taken.toFinset.card < n) : ∃ k < n, anonymous table (f k) ∉ taken := by
  have candidates : ((Finset.range n).image fun k => anonymous table (f k)).card = n := by
    rw [Finset.card_image_of_injOn, Finset.card_range]
    intro i hi j hj same
    exact different (by simpa using hi) (by simpa using hj) (anonymous_injective table same)
  obtain ⟨name, candidate, free⟩ :=
    Finset.exists_mem_notMem_of_card_lt_card (candidates.symm ▸ few)
  obtain ⟨k, member, rfl⟩ := Finset.mem_image.mp candidate
  exact ⟨k, Finset.mem_range.mp member, fun used => free (List.mem_toFinset.mpr used)⟩

/-- The next draws of a source, from a position on, give the first `n` values of a sequence. -/
def Yields (source : SuffixSource) (position : Nat) (f : Nat → Int) (n : Nat) : Prop :=
  ∀ j < n, source.draw (position + j) = .ok (f j)

variable {source : SuffixSource} {position : Nat}

theorem resolve_of_firstFree {k : Nat} (within : (k : Int) < settings.nameAttempts)
    (drawn : Yields source position f (k + 1)) (first : FirstFree table taken f k) :
    resolve settings table none taken source position =
      ⟨.ok (anonymous table (f k)), k + 1, some (k + 1)⟩ := by
  have limit : k < settings.nameAttempts.toNat := by omega
  rw [resolve, search_of_firstFree limit drawn first, Nat.zero_add]

theorem resolve_of_taken (drawn : Yields source position f settings.nameAttempts.toNat)
    (used : ∀ j : Nat, (j : Int) < settings.nameAttempts → anonymous table (f j) ∈ taken) :
    resolve settings table none taken source position =
      ⟨.error (.duplicateName table (anonymousPattern table) (.exhausted settings.nameAttempts)),
        settings.nameAttempts.toNat, none⟩ := by
  have all : ∀ j < settings.nameAttempts.toNat, anonymous table (f j) ∈ taken :=
    fun j before => used j (by omega)
  rw [resolve, search_of_taken drawn all, Nat.zero_add]

/-- With more attempts than there are names, a sequence without repetition has a free candidate. -/
theorem resolve_succeeds (few : (taken.toFinset.card : Int) < settings.nameAttempts)
    (drawn : Yields source position f settings.nameAttempts.toNat)
    (different : Set.InjOn f {k | (k : Int) < settings.nameAttempts}) :
    ∃ name, (resolve settings table none taken source position).result = .ok name := by
  have different' : Set.InjOn f {k | k < settings.nameAttempts.toNat} :=
    different.mono fun k (before : k < settings.nameAttempts.toNat) => Int.lt_toNat.mp before
  obtain ⟨k, within, free⟩ :
      ∃ k < settings.nameAttempts.toNat, anonymous table (f k) ∉ taken :=
    exists_free different' (Int.lt_toNat.mpr few)
  obtain ⟨j, before, first⟩ := exists_firstFree free
  have stops : Yields source position f (j + 1) := fun i bound => drawn i (by omega)
  rw [resolve_of_firstFree (by omega) stops first]
  exact ⟨_, rfl⟩

/-- Without an explicit name the first free candidate is the name, and the suffixes up to its own
are drawn. When no candidate is free each of them was drawn, and none for a number of attempts that
is not positive. A sequence without repetition has a free candidate if there are fewer names than
attempts, as the integers from any start on. -/
theorem resolve_finds_first_free (settings : Settings) (table : String) (taken : List String)
    (source : SuffixSource) (position : Nat) (f : Nat → Int) :
    let attempts := settings.nameAttempts
    let resolution := resolve settings table none taken source position
    (∀ k : Nat, (k : Int) < attempts → Yields source position f (k + 1) →
      anonymous table (f k) ∉ taken → (∀ j < k, anonymous table (f j) ∈ taken) →
      resolution = ⟨.ok (anonymous table (f k)), k + 1, some (k + 1)⟩) ∧
    (Yields source position f attempts.toNat →
      (∀ j : Nat, (j : Int) < attempts → anonymous table (f j) ∈ taken) →
      resolution = ⟨.error (.duplicateName table (table ++ "_*") (.exhausted attempts)),
        (max attempts 0).toNat, none⟩) ∧
    ((taken.toFinset.card : Int) < attempts →
      (Yields source position f attempts.toNat → Set.InjOn f {k | (k : Int) < attempts} →
        ∃ name, resolution.result = .ok name) ∧
      ∀ key start, ∃ name,
        (resolve settings table none taken (.sequential key start) position).result =
          .ok name) := by
  intro attempts resolution
  refine ⟨?_, ?_, fun few => ⟨resolve_succeeds few, ?_⟩⟩
  · intro k within drawn free used
    exact resolve_of_firstFree within drawn ⟨free, used⟩
  · intro drawn used
    have count : (max attempts 0).toNat = attempts.toNat := by omega
    rw [count]
    exact resolve_of_taken drawn used
  · intro key start
    have drawn : Yields (.sequential key start) position
        (fun k => start + (position + k : Nat)) attempts.toNat := fun _ _ => rfl
    refine resolve_succeeds few drawn ?_
    intro i _ j _ same
    have sums : start + ((position + i : Nat) : Int) = start + ((position + j : Nat) : Int) := same
    omega

/-- Two names are taken: the third integer is found in three attempts, and two do not suffice. -/
theorem resolve_finds_first_free_after_two :
    let taken := ["prices_-1", "prices_0", "orders_1"]
    let source : SuffixSource := .sequential 1 (-1)
    resolve { nameAttempts := 3 } "prices" none taken source 0 = ⟨.ok "prices_1", 3, some 3⟩ ∧
    resolve { nameAttempts := 2 } "prices" none taken source 0 =
      ⟨.error (.duplicateName "prices" "prices_*" (.exhausted 2)), 2, none⟩ ∧
    ∃ name, (resolve { nameAttempts := 4 } "prices" none taken source 0).result = .ok name := by
  intro taken source
  let f : Nat → Int := fun k => -1 + (k : Nat)
  have drawn : ∀ n, Yields source 0 f n := fun n j _ => by simp [source, f, SuffixSource.sequential]
  obtain ⟨found, _⟩ :=
    resolve_finds_first_free { nameAttempts := 3 } "prices" taken source 0 f
  obtain ⟨_, exhausted, _⟩ :=
    resolve_finds_first_free { nameAttempts := 2 } "prices" taken source 0 f
  obtain ⟨_, _, succeeds⟩ :=
    resolve_finds_first_free { nameAttempts := 4 } "prices" taken source 0 f
  refine ⟨found 2 (by decide) (drawn 3) (by decide) (by decide), exhausted (drawn _) ?_, ?_⟩
  · intro j before
    have first_two : j = 0 ∨ j = 1 := by
      change (j : Int) < 2 at before
      omega
    obtain rfl | rfl := first_two <;> decide
  · exact (succeeds (by decide)).2 1 (-1)

end CheckConstraints.Naming

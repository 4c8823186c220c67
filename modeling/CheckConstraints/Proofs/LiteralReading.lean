import CheckConstraints.Proofs.Compilation
import CheckConstraints.Proofs.PredicateReader
import CheckConstraints.Text.Scan

/-!
Reading the values of a set. A word is read up to the character that ends it, and a text up to its
own closing quote, whatever it holds: a quote inside is written twice, and none follows the closing
one.
-/

namespace CheckConstraints

namespace Number

theorem digitsToNat_toDigits (n : Nat) : digitsToNat (Nat.toDigits 10 n) = n := by
  rw [digitsToNat, ← Nat.ofDigitChars_eq_foldl]
  exact Nat.ofDigitChars_ten_toDigits

theorem isDigit_of_mem_toDigits {n : Nat} : ∀ c ∈ Nat.toDigits 10 n, c.isDigit = true :=
  fun _ member => Nat.isDigit_of_mem_toDigits (by decide) (by decide) member

theorem digits?_of_digits {cs : List Char} (filled : cs ≠ [])
    (digits : ∀ c ∈ cs, c.isDigit = true) : digits? cs = some (digitsToNat cs) := by
  have digits : cs.all Char.isDigit = true := List.all_eq_true.mpr digits
  simp [digits?, digits, filled]

theorem digits?_toDigits (n : Nat) : digits? (Nat.toDigits 10 n) = some n := by
  rw [digits?_of_digits Nat.toDigits_ne_nil isDigit_of_mem_toDigits, digitsToNat_toDigits]

/-- What begins with a digit has no sign. -/
theorem takeSign_of_digit {cs : List Char} (first : ∀ c ∈ cs.head?, c.isDigit = true) :
    takeSign cs = (false, cs) := by
  cases cs with
  | nil => rfl
  | cons c cs =>
      have head : c.isDigit = true := first c rfl
      have minus : c ≠ '-' := by
        rintro rfl
        simp at head
      have plus : c ≠ '+' := by
        rintro rfl
        simp at head
      simp [takeSign, minus, plus]

/-- An integer is written as a minus sign or nothing and the digits of its absolute value. -/
theorem toList_toString_int (n : Int) :
    (toString n).toList =
      if n < 0 then '-' :: Nat.toDigits 10 n.natAbs else Nat.toDigits 10 n.natAbs := by
  cases n with
  | ofNat m =>
      have nonneg : ¬ Int.ofNat m < 0 := Int.not_lt.mpr (Int.natCast_nonneg m)
      rw [if_neg nonneg]
      exact Nat.toList_repr
  | negSucc m =>
      rw [if_pos (Int.negSucc_lt_zero m)]
      simp [Int.repr]

end Number

namespace PredicateReader

/-- A character of an integer neither ends a word nor begins a quoted one. -/
theorem mem_toString_int {n : Int} {c : Char} (member : c ∈ (toString n).toList) :
    endsWord c = false ∧ c ≠ '\'' ∧ c ≠ 't' ∧ c ≠ 'f' := by
  have sign_or_digit : c = '-' ∨ c.isDigit = true := by
    rw [Number.toList_toString_int] at member
    split at member
    · rcases List.mem_cons.mp member with minus | member
      · exact Or.inl minus
      · exact Or.inr (Number.isDigit_of_mem_toDigits c member)
    · exact Or.inr (Number.isDigit_of_mem_toDigits c member)
  rcases sign_or_digit with rfl | digit
  · decide
  · refine ⟨?_, ?_, ?_, ?_⟩
    · rw [Bool.eq_false_iff]
      intro ends
      simp only [endsWord, Bool.or_eq_true, beq_iff_eq] at ends
      rcases ends with rfl | rfl <;> simp at digit
    all_goals
      rintro rfl
      simp at digit

theorem integer?_toString (n : Int) : integer? (toString n).toList = some n := by
  rw [Number.toList_toString_int]
  by_cases negative : n < 0
  · have magnitude : -(n.natAbs : Int) = n := by omega
    simp only [if_pos negative, integer?, Number.takeSign, Number.digits?_toDigits]
    exact congrArg some magnitude
  · have unsigned := Number.takeSign_of_digit fun c first =>
      Number.isDigit_of_mem_toDigits (n := n.natAbs) c (List.mem_of_mem_head? first)
    have magnitude : (n.natAbs : Int) = n := by omega
    simp only [if_neg negative, integer?, unsigned, Number.digits?_toDigits]
    exact congrArg some magnitude

theorem ofWord?_toString_int (n : Int) : ofWord? (toString n).toList = some (.int n) := by
  have not_true : (toString n).toList ≠ "true".toList := by
    intro same
    have member : 't' ∈ (toString n).toList := by
      rw [same]
      decide
    exact (mem_toString_int member).2.2.1 rfl
  have not_false : (toString n).toList ≠ "false".toList := by
    intro same
    have member : 'f' ∈ (toString n).toList := by
      rw [same]
      decide
    exact (mem_toString_int member).2.2.2 rfl
  rw [ofWord?, if_neg not_true, if_neg not_false, integer?_toString]
  rfl

/-- A word is read up to the character that ends it. -/
theorem readScalar_word {word rest : List Char} {v : Scalar} {c : Char}
    (unquoted : ∀ c ∈ word, endsWord c = false ∧ c ≠ '\'') (ends : endsWord c = true)
    (means : ofWord? word = some v) :
    readScalar (word ++ c :: rest) = some (v, c :: rest) := by
  have start : ∀ tail, word ++ c :: rest ≠ '\'' :: tail := by
    intro tail same
    cases word with
    | nil =>
        obtain ⟨rfl, _⟩ := List.cons.inj same
        simp [endsWord] at ends
    | cons first word =>
        obtain ⟨rfl, _⟩ := List.cons.inj same
        exact (unquoted '\'' List.mem_cons_self).2 rfl
  have inside : ∀ c ∈ word, (!endsWord c) = true := fun c member => by
    simp [(unquoted c member).1]
  have stops : ∀ d ∈ (c :: rest).head?, (!endsWord d) = false := by simp [ends]
  rw [readScalar_of_word start, Text.takeWhile_run inside stops, Text.dropWhile_run inside stops,
    means]
  rfl

/-- A text is read up to its own closing quote, whatever it holds. -/
theorem readQuoted_doubleQuotes (text rest : List Char) (after : rest.head? ≠ some '\'') :
    readQuoted (Scalar.doubleQuotes text ++ '\'' :: rest) = some (text, rest) := by
  induction text with
  | nil =>
      cases rest with
      | nil => rfl
      | cons c rest =>
          have other : c ≠ '\'' := by simpa using after
          simp [Scalar.doubleQuotes, readQuoted, other]
  | cons c text ih =>
      by_cases quote : c = '\''
      · subst quote
        simpa [Scalar.doubleQuotes, readQuoted] using ih
      · have read := congrArg (Option.map fun r => (c :: r.1, r.2)) ih
        simpa [Scalar.doubleQuotes, readQuoted, quote] using read

theorem readScalar_textLiteral (s : String) {rest : List Char}
    (after : rest.head? ≠ some '\'') :
    readScalar ((Scalar.textLiteral s).toList ++ rest) = some (.text s, rest) := by
  have read := readQuoted_doubleQuotes s.toList rest after
  simp [Scalar.textLiteral, readScalar, read]

end PredicateReader

/-- A scalar whose literal is a word or a quoted text. -/
def Scalar.Plain : Scalar → Prop
  | .bool _ | .int _ | .text _ => True
  | .float _ | .decimal _ => False

instance : (v : Scalar) → Decidable v.Plain
  | .bool _ | .int _ | .text _ => isTrue True.intro
  | .float _ | .decimal _ => isFalse id

namespace PredicateReader

open Descriptor

theorem readScalar_literal {v : Scalar} {l : String} {c : Char} {rest : List Char}
    (plain : v.Plain) (written : v.literal = .ok l) (ends : endsWord c = true) :
    readScalar (l.toList ++ c :: rest) = some (v, c :: rest) := by
  cases v with
  | bool b =>
      cases b <;> obtain rfl := Except.ok.inj written
      · exact readScalar_word (by simp [endsWord]) ends rfl
      · exact readScalar_word (by simp [endsWord]) ends rfl
  | int n =>
      obtain rfl := Except.ok.inj written
      refine readScalar_word ?_ ends (ofWord?_toString_int n)
      intro c member
      exact ⟨(mem_toString_int member).1, (mem_toString_int member).2.1⟩
  | float x => exact plain.elim
  | decimal d => exact plain.elim
  | text s =>
      obtain rfl := Except.ok.inj written
      apply readScalar_textLiteral
      rintro same
      obtain rfl := Option.some.inj same
      simp [endsWord] at ends

theorem readScalars_literals {vs : List Scalar} {ls : List String} {v : Scalar} {l : String}
    (plain : ∀ v' ∈ v :: vs, v'.Plain) (first : v.literal = .ok l)
    (later : Descriptor.literals vs = .ok ls) (rest : List Char) :
    readScalars ((", ".intercalate (l :: ls)).toList ++ ']' :: rest) = some (v :: vs, rest) := by
  have head : v.Plain := plain v List.mem_cons_self
  induction vs generalizing v l ls with
  | nil =>
      obtain rfl := Except.ok.inj later
      rw [String.intercalate_singleton]
      exact readScalars_last (readScalar_literal head first rfl)
  | cons second vs ih =>
      obtain ⟨l', ls', rfl, first', later'⟩ := literals_cons_ok.mp later
      have tail : ∀ v' ∈ second :: vs, v'.Plain := fun v' member =>
        plain v' (List.mem_cons_of_mem _ member)
      have others := ih tail first' later' (tail second List.mem_cons_self)
      have split : (", ".intercalate (l :: l' :: ls')).toList ++ ']' :: rest =
          l.toList ++ ',' :: ' ' :: ((", ".intercalate (l' :: ls')).toList ++ ']' :: rest) := by
        simp [String.intercalate_cons_cons]
      rw [split, readScalars_next (readScalar_literal head first rfl), others]
      rfl

end PredicateReader

end CheckConstraints

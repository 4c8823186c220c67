import CheckConstraints.Proofs.LiteralReading
import Mathlib.Tactic.FieldSimp
import Mathlib.Tactic.Ring

/-!
Numeric literals of SQL, and what they denote. A literal is read by its places: the digits before
the point, those after it, and a power of ten by which both are multiplied. It also writes a
decimal, which keeps all of its digits and the power of ten of the last one. The two readings agree,
and a text is a literal of one decimal at most.
-/

namespace CheckConstraints

open Number (Decimal Numeral digitsToNat digits? takeSign)

namespace Number

theorem digitsToNat_append (ds es : List Char) :
    digitsToNat (ds ++ es) = digitsToNat ds * 10 ^ es.length + digitsToNat es := by
  -- What is read so far counts ten times more with each digit that comes.
  have continued : ∀ n, es.foldl (fun n c => 10 * n + (c.toNat - '0'.toNat)) n =
      n * 10 ^ es.length + digitsToNat es := by
    induction es with
    | nil => simp [digitsToNat]
    | cons e es ih =>
        intro n
        rw [digitsToNat, List.foldl_cons, List.foldl_cons, ih, ih, List.length_cons, Nat.pow_succ]
        ring
  rw [digitsToNat, List.foldl_append, continued]
  rfl

/-- The value of a decimal: its signed coefficient times its power of ten. -/
theorem Decimal.toRat_eq (d : Decimal) : d.toRat = d.signed * (10 : ℚ) ^ d.exponent := by
  rw [Decimal.toRat, Rat.mkRat_eq_div]
  cases d.exponent with
  | ofNat k => simp
  | negSucc k => simp [div_eq_mul_inv]

end Number

namespace Sql

/-- Decimal digits in a row, at least one. -/
structure Digits where
  chars : List Char
  filled : chars ≠ []
  digits : ∀ c ∈ chars, c.isDigit = true

/-- A numeric literal: `[-]digits[.digits][E(+|-)digits]`. -/
structure NumericLiteral where
  negative : Bool
  whole : Digits
  fraction : Option Digits
  /-- Whether the power of ten is negative, and its digits. -/
  power : Option (Bool × Digits)

namespace NumericLiteral

def fractionChars : Option Digits → List Char
  | none => []
  | some ds => '.' :: ds.chars

def powerChars : Option (Bool × Digits) → List Char
  | none => []
  | some (negative, ds) => 'E' :: (if negative then '-' else '+') :: ds.chars

def chars (l : NumericLiteral) : List Char :=
  (if l.negative then ['-'] else []) ++
    (l.whole.chars ++ (fractionChars l.fraction ++ powerChars l.power))

def text (l : NumericLiteral) : String := String.ofList l.chars

/-- The digits after the point. -/
def places : Option Digits → List Char
  | none => []
  | some ds => ds.chars

/-- The power of ten that is written. -/
def powerValue : Option (Bool × Digits) → Int
  | none => 0
  | some (negative, ds) =>
    if negative then -(digitsToNat ds.chars : Int) else digitsToNat ds.chars

/-- The number that a literal denotes. -/
def value (l : NumericLiteral) : ℚ :=
  (if l.negative then -1 else 1) *
    (digitsToNat l.whole.chars +
      digitsToNat (places l.fraction) / 10 ^ (places l.fraction).length) *
    10 ^ powerValue l.power

/-- The decimal that a literal writes. -/
def decimal (l : NumericLiteral) : Decimal where
  negative := l.negative
  coefficient := digitsToNat (l.whole.chars ++ places l.fraction)
  exponent := powerValue l.power - (places l.fraction).length

/-- The number that a literal denotes is the value of the decimal that it writes. -/
theorem value_eq (l : NumericLiteral) : l.value = l.decimal.toRat := by
  have ten : (10 : ℚ) ≠ 0 := by norm_num
  rw [Decimal.toRat_eq, value]
  simp only [decimal, Decimal.signed, Number.digitsToNat_append, zpow_sub₀ ten, zpow_natCast]
  cases l.negative <;> simp <;> field_simp

section Reading
variable (fraction : Option Digits) (power : Option (Bool × Digits))

theorem digit_not_after_places : ∀ c ∈ (powerChars power).head?, c.isDigit = false := by
  obtain _ | ⟨negative, ds⟩ := power <;> simp [powerChars]

theorem digit_not_after_whole :
    ∀ c ∈ (fractionChars fraction ++ powerChars power).head?, c.isDigit = false := by
  obtain _ | ds := fraction
  · exact digit_not_after_places power
  · simp [fractionChars]

theorem exponent?_powerChars : Number.exponent? (powerChars power) = some (powerValue power) := by
  obtain _ | ⟨negative, ds⟩ := power
  · rfl
  · have read := Number.digits?_of_digits ds.filled ds.digits
    cases negative <;> simp [powerChars, Number.exponent?, takeSign, read, powerValue]

theorem afterPoint_fraction :
    Number.afterPoint (fractionChars fraction ++ powerChars power) =
      (places fraction, powerChars power) := by
  obtain _ | ds := fraction
  · obtain _ | ⟨negative, ds⟩ := power <;> rfl
  · have stops := digit_not_after_places power
    simp [fractionChars, places, Number.afterPoint, Text.takeWhile_run ds.digits stops,
      Text.dropWhile_run ds.digits stops]

end Reading

/-- Read as a numeral, a literal is the decimal that it writes. -/
theorem parse?_chars (l : NumericLiteral) : Numeral.parse? l.chars =
    some ⟨l.decimal.negative, l.decimal.coefficient, l.decimal.exponent⟩ := by
  have signed : takeSign l.chars =
      (l.negative, l.whole.chars ++ (fractionChars l.fraction ++ powerChars l.power)) := by
    rw [chars]
    cases l.negative with
    | true => rfl
    | false =>
        refine Number.takeSign_of_digit fun c first => l.whole.digits c ?_
        rw [if_neg Bool.false_ne_true, List.nil_append,
          List.head?_append_of_ne_nil _ l.whole.filled] at first
        exact List.mem_of_mem_head? first
  have stops := digit_not_after_whole l.fraction l.power
  simp [Numeral.parse?, signed, Text.takeWhile_run l.whole.digits stops,
    Text.dropWhile_run l.whole.digits stops, afterPoint_fraction, exponent?_powerChars,
    l.whole.filled, decimal]

/-- Literals with the same text write the same decimal. -/
theorem decimal_eq_of_text_eq {l m : NumericLiteral} (same : l.text = m.text) :
    l.decimal = m.decimal := by
  have read := parse?_chars l
  rw [String.ofList_injective same, parse?_chars] at read
  obtain ⟨negative, coefficient, exponent⟩ := Numeral.mk.inj (Option.some.inj read)
  exact (Decimal.mk.injEq ..).mpr ⟨negative.symm, coefficient.symm, exponent.symm⟩

end NumericLiteral

/-- The text is a numeric literal, and it writes the decimal. -/
def Writes (text : String) (d : Decimal) : Prop :=
  ∃ l : NumericLiteral, l.text = text ∧ l.decimal = d

/-- The text is a numeric literal, and it denotes the number. -/
def Denotes (text : String) (q : ℚ) : Prop :=
  ∃ l : NumericLiteral, l.text = text ∧ l.value = q

theorem Writes.unique {text : String} {d e : Decimal} (one : Writes text d)
    (other : Writes text e) : d = e := by
  obtain ⟨l, rfl, rfl⟩ := one
  obtain ⟨m, same, rfl⟩ := other
  exact (NumericLiteral.decimal_eq_of_text_eq same).symm

/-- What a text denotes is settled by the decimal that it writes. -/
theorem Writes.denotes_iff {text : String} {d : Decimal} {q : ℚ} (writes : Writes text d) :
    Denotes text q ↔ q = d.toRat := by
  constructor
  · rintro ⟨l, same, rfl⟩
    rw [l.value_eq, writes.unique ⟨l, same, rfl⟩]
  · rintro rfl
    obtain ⟨l, same, rfl⟩ := writes
    exact ⟨l, same, l.value_eq⟩

end Sql

end CheckConstraints

import CheckConstraints.Proofs.NumericLiteral
import Mathlib.Tactic.SplitIfs

/-!
The literals of integers and decimals. Wherever the point of a decimal is put, inside its digits, in
front of them with zeros between or not at all, and whether a power of ten is written or not, the
literal writes exactly the decimal: neither a digit nor a place is lost or gained.
-/

namespace CheckConstraints

open Number (Decimal digitsToNat digitsToNat_toDigits isDigit_of_mem_toDigits)
open Sql (Denotes Digits NumericLiteral Writes)
open Sql.NumericLiteral (fractionChars places powerChars powerValue)

namespace Sql

namespace Digits

def zero : Digits := ⟨['0'], by simp, by simp⟩

def ofNat (n : Nat) : Digits := ⟨Nat.toDigits 10 n, Nat.toDigits_ne_nil, isDigit_of_mem_toDigits⟩

/-- The digits with zeros in front. -/
def padded (ds : Digits) (zeros : Nat) : Digits where
  chars := List.replicate zeros '0' ++ ds.chars
  filled := by simp [ds.filled]
  digits := by
    intro c member
    obtain zero | digit := List.mem_append.mp member
    · rw [List.eq_of_mem_replicate zero]
      rfl
    · exact ds.digits c digit

/-- The digits before a point inside. -/
def before (ds : Digits) (index : Nat) (inside : 0 < index) : Digits where
  chars := ds.chars.take index
  filled := by simp [ds.filled, Nat.pos_iff_ne_zero.mp inside]
  digits := fun c member => ds.digits c (List.mem_of_mem_take member)

/-- The digits after a point inside. -/
def after (ds : Digits) (index : Nat) (inside : index < ds.chars.length) : Digits where
  chars := ds.chars.drop index
  filled := by simpa using inside
  digits := fun c member => ds.digits c (List.mem_of_mem_drop member)

theorem digitsToNat_padded (ds : Digits) (zeros : Nat) :
    digitsToNat (ds.padded zeros).chars = digitsToNat ds.chars := by
  induction zeros with
  | zero => rfl
  | succ zeros ih => exact ih

end Digits

namespace NumericLiteral

/-- A power of ten as it is written with its sign. -/
def powerOf (power : Int) : Option (Bool × Digits) :=
  some (decide (power < 0), Digits.ofNat power.natAbs)

theorem powerValue_powerOf (power : Int) : powerValue (powerOf power) = power := by
  simp only [powerValue, powerOf, Digits.ofNat, digitsToNat_toDigits, decide_eq_true_eq]
  split <;> omega

end NumericLiteral

end Sql

open Sql.NumericLiteral (powerOf powerValue_powerOf)

namespace Number.Decimal

/-- With a point before its last digits, a row of digits is a whole part and a fraction with as many
digits, which are together the same number. -/
theorem exists_pointed (ds : Digits) (count : Nat) :
    ∃ (whole : Digits) (fraction : Option Digits),
      pointed ds.chars count = whole.chars ++ fractionChars fraction ∧
      digitsToNat (whole.chars ++ places fraction) = digitsToNat ds.chars ∧
      (places fraction).length = count := by
  rw [pointed]
  split_ifs with unpointed inside
  · exact ⟨ds, none, by simp [fractionChars], by simp [places], unpointed.symm⟩
  · refine ⟨ds.before (ds.chars.length - count) (by omega),
      some (ds.after (ds.chars.length - count) (by omega)), rfl, ?_, ?_⟩
    · exact congrArg digitsToNat (List.take_append_drop _ ds.chars)
    · simp only [places, Digits.after, List.length_drop]
      omega
  · -- The zero before the point is one more zero in front.
    refine ⟨Digits.zero, some (ds.padded (count - ds.chars.length)), rfl, ?_, ?_⟩
    · exact ds.digitsToNat_padded (count - ds.chars.length + 1)
    · simp only [places, Digits.padded, List.length_append, List.length_replicate]
      omega

theorem scientific_eq (digits : List Char) (power : Int) :
    scientific digits power = pointed digits (digits.length - 1) ++ powerChars (powerOf power) := by
  simp [scientific, powerChars, powerOf, Digits.ofNat]

/-- In either notation the digits of a decimal without its sign are its coefficient, and the last of
them has its exponent. -/
theorem exists_unsigned (d : Decimal) :
    ∃ (whole : Digits) (fraction : Option Digits) (power : Option (Bool × Digits)),
      d.unsigned = whole.chars ++ (fractionChars fraction ++ powerChars power) ∧
      digitsToNat (whole.chars ++ places fraction) = d.coefficient ∧
      powerValue power - (places fraction).length = d.exponent := by
  let ds := Digits.ofNat d.coefficient
  have coefficient : digitsToNat ds.chars = d.coefficient := digitsToNat_toDigits _
  rw [unsigned]
  split_ifs with plain
  · obtain ⟨whole, fraction, written, same, count⟩ := exists_pointed ds d.exponent.natAbs
    refine ⟨whole, fraction, none, ?_, same.trans coefficient, ?_⟩
    · rw [powerChars, List.append_nil]
      exact written
    · rw [count, powerValue]
      omega
  · obtain ⟨whole, fraction, written, same, count⟩ := exists_pointed ds (ds.chars.length - 1)
    refine ⟨whole, fraction, powerOf d.adjusted, ?_, same.trans coefficient, ?_⟩
    · rw [← List.append_assoc, ← written]
      exact scientific_eq ds.chars d.adjusted
    · have filled := List.length_pos_iff_ne_nil.mpr ds.filled
      have adjusted : d.adjusted = d.exponent + ds.chars.length - 1 := rfl
      rw [count, powerValue_powerOf, adjusted]
      omega

/-- The text of a decimal is a literal that writes it. -/
theorem writes_text (d : Decimal) : Writes d.text d := by
  obtain ⟨whole, fraction, power, written, coefficient, exponent⟩ := d.exists_unsigned
  refine ⟨⟨d.negative, whole, fraction, power⟩, ?_, ?_⟩
  · rw [text, chars, NumericLiteral.text, NumericLiteral.chars, written]
    cases d.negative <;> rfl
  · rw [NumericLiteral.decimal, coefficient, exponent]

/-- The decimal with the sign and the digits of an integer. -/
def ofInt (n : Int) : Decimal := ⟨decide (n < 0), n.natAbs, 0⟩

theorem text_ofInt (n : Int) : (ofInt n).text = toString n := by
  have short : -6 ≤ (ofInt n).adjusted := by
    simp only [adjusted, ofInt]
    omega
  have whole : (ofInt n).unsigned = Nat.toDigits 10 n.natAbs := if_pos ⟨le_refl _, short⟩
  rw [← String.toList_inj, toList_toString_int, text, String.toList_ofList, chars, whole]
  simp [ofInt]

theorem toRat_ofInt (n : Int) : (ofInt n).toRat = n := by
  have signed : (ofInt n).signed = n := by
    simp only [Decimal.signed, ofInt, decide_eq_true_eq]
    split <;> omega
  rw [toRat_eq, signed]
  simp [ofInt]

end Number.Decimal

open Script (Value)

/-- An integer and a finite decimal have literals, and these are numeric literals that denote
exactly the integer and exactly the decimal. The literal of a decimal writes this decimal and no
other: no decimal with another sign, other digits or another exponent has the same literal. -/
theorem Script.Value.literal_of_number :
    (∀ n : Int, ∃ text, (Value.int n).literal = .ok text ∧ ∀ q, Denotes text q ↔ q = n) ∧
    ∀ d : Decimal, ∃ text, (Value.decimal (.finite d)).literal = .ok text ∧
      (∀ q, Denotes text q ↔ q = d.toRat) ∧
      (∀ e, Writes text e ↔ e = d) ∧
      ∀ e, (Value.decimal (.finite e)).literal = .ok text ↔ e = d := by
  constructor
  · intro n
    refine ⟨toString n, rfl, fun q => ?_⟩
    rw [← Decimal.text_ofInt, (Decimal.writes_text _).denotes_iff, Decimal.toRat_ofInt]
  · intro d
    have writes := d.writes_text
    refine ⟨d.text, rfl, fun q => writes.denotes_iff, fun e => ?_, fun e => ?_⟩
    · exact ⟨fun other => other.unique writes, fun same => same ▸ writes⟩
    · constructor
      · intro rendered
        have same : e.text = d.text := Except.ok.inj rendered
        exact (same ▸ e.writes_text).unique writes
      · rintro rfl
        rfl

/-- The last plain and the first scientific notation of small decimals, and a negative zero. -/
example : Decimal.text ⟨false, 10, -7⟩ = "0.0000010" ∧ Decimal.text ⟨false, 1, -7⟩ = "1E-7" ∧
    Decimal.text ⟨true, 0, 2⟩ = "-0E+2" := by decide

end CheckConstraints

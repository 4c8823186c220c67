import CheckConstraints.Number.Numeral

/-!
Binary floating-point numbers of 64 bits: a sign, eleven exponent bits and fifty-two fraction bits.
Every value of the type is a number of the format, so two finite numbers are equal exactly when
their fields are, zero and its negative apart. Numerals are rounded to the nearest number, a tie
going to the even significand. Powers of natural numbers are written `Nat.pow`, which reads the
same beside every algebraic hierarchy.
-/

namespace CheckConstraints.Number

structure Binary64 where
  negative : Bool
  exponent : Fin 2048
  fraction : Fin (Nat.pow 2 52)
deriving DecidableEq, Repr

namespace Binary64

/-- The largest exponent field marks infinities and diagnostics. -/
def isFinite (x : Binary64) : Bool := decide (x.exponent.val < 2047)

def isNaN (x : Binary64) : Bool := decide (x.exponent.val = 2047) && decide (x.fraction.val ≠ 0)

def infinity (negative : Bool) : Binary64 := ⟨negative, 2047, ⟨0, by decide⟩⟩

/-- The one diagnostic that texts are read as. -/
def nan : Binary64 := ⟨false, 2047, ⟨Nat.pow 2 51, by decide⟩⟩

@[simp] theorem isFinite_infinity (negative : Bool) : (infinity negative).isFinite = false := by
  cases negative <;> decide

@[simp] theorem isFinite_nan : nan.isFinite = false := by decide

def zero (negative : Bool) : Binary64 := ⟨negative, 0, ⟨0, by decide⟩⟩

def isZero (x : Binary64) : Bool := decide (x.exponent.val = 0) && decide (x.fraction.val = 0)

/-- The integer that the unit of the last place is multiplied by. -/
def significand (x : Binary64) : Nat :=
  if x.exponent.val = 0 then x.fraction.val else Nat.pow 2 52 + x.fraction.val

def scale (x : Binary64) : Int := (max x.exponent.val 1 : Nat) - 1075

def toRat (x : Binary64) : Rat :=
  mkRat ((if x.negative then -(x.significand : Int) else x.significand) * Nat.pow 2 x.scale.toNat)
    (Nat.pow 2 (-x.scale).toNat)

/-- The number with the given sign whose exponent and fraction fields, read as one number, are
`magnitude`; from the largest exponent field on it is infinite. -/
def ofMagnitude (negative : Bool) (magnitude : Nat) : Binary64 :=
  if h : magnitude / Nat.pow 2 52 < 2047 then
    ⟨negative, ⟨magnitude / Nat.pow 2 52, by omega⟩,
      ⟨magnitude % Nat.pow 2 52, Nat.mod_lt _ (by decide)⟩⟩
  else infinity negative

/-- The quotient rounded to the nearest integer, a tie going to the even one. -/
def roundQuotient (num den : Nat) : Nat :=
  let q := num / den
  let twice := 2 * (num % den)
  if twice < den then q
  else if den < twice then q + 1
  else if q % 2 = 0 then q else q + 1

/-- `num / den` times a power of two, rounded; the last place is `2 ^ place`. -/
def roundAt (num den : Nat) (place : Int) : Nat :=
  roundQuotient (num * Nat.pow 2 (-place).toNat) (den * Nat.pow 2 place.toNat)

/-- The power of two of the last place when `num / den` is written with 53 significant bits, but
never less than that of the smallest number of the format. -/
def lastPlace (num den : Nat) : Int :=
  let estimate : Int := (num.log2 : Int) - den.log2 - 52
  let fits := den * Nat.pow 2 estimate.toNat * Nat.pow 2 52 ≤ num * Nat.pow 2 (-estimate).toNat
  max (if fits then estimate else estimate - 1) (-1074)

/-- The number nearest to `num / den`. A significand that is rounded up to the next power of two
carries into the exponent field. -/
def ofQuotient (negative : Bool) (num den : Nat) : Binary64 :=
  let place := lastPlace num den
  ofMagnitude negative ((place + 1074).toNat * Nat.pow 2 52 + roundAt num den place)

/-- The number nearest to a numeral. Numerals far outside the range of the format are decided by
their number of digits, so that no huge power is computed. -/
def ofNumeral (n : Numeral) : Binary64 :=
  if n.coefficient = 0 then zero n.negative
  else
    let length : Int := (Nat.toDigits 10 n.coefficient).length
    if 400 < length + n.exponent then infinity n.negative
    else if length + n.exponent < -400 then zero n.negative
    else
      ofQuotient n.negative (n.coefficient * Nat.pow 10 n.exponent.toNat)
        (Nat.pow 10 (-n.exponent).toNat)

/-- Reads a number: a numeral, an infinity or a diagnostic, in any case. -/
def parse? (text : List Char) : Option Binary64 :=
  let (negative, cs) := takeSign text
  match cs.map Char.toLower with
  | ['i', 'n', 'f'] | ['i', 'n', 'f', 'i', 'n', 'i', 't', 'y'] => some (infinity negative)
  | ['n', 'a', 'n'] => some nan
  | _ => (Numeral.parse? text).map ofNumeral

end Binary64

end CheckConstraints.Number

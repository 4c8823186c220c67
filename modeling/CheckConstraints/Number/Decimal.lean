import CheckConstraints.Number.Numeral

/-!
Decimal numbers as they are written: `1.50` and `1.5` are different decimals of the same value.
Next to the finite ones there are infinities and not-a-number diagnostics, which no value set may
hold but a migration author may write.
-/

namespace CheckConstraints.Number

/-- A finite decimal: sign, coefficient and power of ten. -/
structure Decimal where
  negative : Bool
  coefficient : Nat
  exponent : Int
deriving DecidableEq, Repr

namespace Decimal

/-- The coefficient with the sign of the decimal; negative zero becomes zero. -/
def signed (d : Decimal) : Int := if d.negative then -(d.coefficient : Int) else d.coefficient

def toRat (d : Decimal) : Rat :=
  mkRat (d.signed * Nat.pow 10 d.exponent.toNat) (Nat.pow 10 (-d.exponent).toNat)

/-- The digits of the coefficient, at least one. -/
def digits (d : Decimal) : List Char := Nat.toDigits 10 d.coefficient

/-- The power of ten of the first digit. -/
def adjusted (d : Decimal) : Int := d.exponent + d.digits.length - 1

/-- A point before the last `places` digits, with zeros in front where digits are missing. -/
def pointed (digits : List Char) (places : Nat) : List Char :=
  if places = 0 then digits
  else if places < digits.length then
    digits.take (digits.length - places) ++ '.' :: digits.drop (digits.length - places)
  else '0' :: '.' :: (List.replicate (places - digits.length) '0' ++ digits)

/-- One digit, the others after a point, and the power of ten with its sign. -/
def scientific (digits : List Char) (power : Int) : List Char :=
  pointed digits (digits.length - 1) ++ 'E' :: (if power < 0 then '-' else '+')
    :: Nat.toDigits 10 power.natAbs

/-- The decimal without its sign. It is written out when the exponent is not positive and at most
six zeros come before the first digit; otherwise the power of ten is written. -/
def unsigned (d : Decimal) : List Char :=
  if d.exponent ≤ 0 ∧ -6 ≤ d.adjusted then pointed d.digits d.exponent.natAbs
  else scientific d.digits d.adjusted

def chars (d : Decimal) : List Char := if d.negative then '-' :: d.unsigned else d.unsigned

def text (d : Decimal) : String := String.ofList d.chars

end Decimal

/-- A decimal of a migration script: finite, infinite, or a diagnostic with a payload. -/
inductive DecimalDatum where
  | finite (d : Decimal)
  | infinity (negative : Bool)
  | nan (negative signaling : Bool) (payload : Nat)
deriving DecidableEq, Repr

namespace DecimalDatum

/-- The written form; a payload of zero is left out. -/
def text : DecimalDatum → String
  | .finite d => d.text
  | .infinity negative => (if negative then "-" else "") ++ "Infinity"
  | .nan negative signaling payload =>
    (if negative then "-" else "") ++ (if signaling then "sNaN" else "NaN")
      ++ (if payload = 0 then "" else toString payload)

/-- The payload of a diagnostic: digits, or nothing for zero. -/
def payload? (cs : List Char) : Option Nat := if cs.isEmpty then some 0 else digits? cs

def parse? (text : String) : Option DecimalDatum :=
  let (negative, cs) := takeSign text.toList
  match cs.map Char.toLower with
  | ['i', 'n', 'f'] | ['i', 'n', 'f', 'i', 'n', 'i', 't', 'y'] => some (.infinity negative)
  | 'n' :: 'a' :: 'n' :: rest => (payload? rest).map (.nan negative false)
  | 's' :: 'n' :: 'a' :: 'n' :: rest => (payload? rest).map (.nan negative true)
  | _ =>
    (Numeral.parse? text.toList).map fun n => .finite ⟨n.negative, n.coefficient, n.exponent⟩

end DecimalDatum

end CheckConstraints.Number

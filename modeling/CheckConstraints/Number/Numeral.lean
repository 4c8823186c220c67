/-!
Numerals: decimal digits with an optional sign, point and power of ten. A numeral keeps what is
written (digits and exponent), so it is finer than the number that it denotes.
-/

namespace CheckConstraints.Number

/-- A sign, the written digits as one natural number, and the power of ten of the last digit. -/
structure Numeral where
  negative : Bool
  coefficient : Nat
  exponent : Int
deriving DecidableEq, Repr

def digitsToNat (digits : List Char) : Nat :=
  digits.foldl (fun n c => 10 * n + (c.toNat - '0'.toNat)) 0

def takeSign : List Char → Bool × List Char
  | '-' :: rest => (true, rest)
  | '+' :: rest => (false, rest)
  | cs => (false, cs)

def digits? (cs : List Char) : Option Nat :=
  if !cs.isEmpty && cs.all Char.isDigit then some (digitsToNat cs) else none

/-- The power of ten after the digits: nothing, or `e` with an optionally signed number. -/
def exponent? : List Char → Option Int
  | [] => some 0
  | 'e' :: rest | 'E' :: rest =>
    let (negative, ds) := takeSign rest
    (digits? ds).map fun n => if negative then -(n : Int) else n
  | _ => none

/-- The characters after a point, if one comes next. -/
def afterPoint : List Char → List Char × List Char
  | '.' :: rest => (rest.takeWhile Char.isDigit, rest.dropWhile Char.isDigit)
  | cs => ([], cs)

/-- Reads a whole text as a numeral: `[sign] digits [. digits] [e [sign] digits]`, where one of the
two rows of digits may be empty. -/
def Numeral.parse? (text : List Char) : Option Numeral :=
  let (negative, unsigned) := takeSign text
  let whole := unsigned.takeWhile Char.isDigit
  let (fraction, rest) := afterPoint (unsigned.dropWhile Char.isDigit)
  if whole.isEmpty && fraction.isEmpty then none
  else (exponent? rest).map fun exponent =>
    ⟨negative, digitsToNat (whole ++ fraction), exponent - fraction.length⟩

end CheckConstraints.Number

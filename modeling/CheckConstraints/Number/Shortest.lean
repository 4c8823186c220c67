import CheckConstraints.Number.Binary64

/-!
The shortest decimal of a binary number: of all decimals that round to the number, one with the
fewest digits, and of those the nearest. For one, two, … digits the two neighbours of the number on
the grid of that many digits are tried; seventeen digits always suffice.
-/

namespace CheckConstraints.Number

/-- Decimal digits after a point, and the power of ten that the whole is multiplied by:
`⟨[1, 5], 1⟩` is `0.15 * 10 ^ 1`. -/
structure ShortestDecimal where
  digits : List Char
  point : Int
deriving DecidableEq, Repr

namespace Binary64

/-- Four times a number's significand, with the two ends of the interval that rounds to it. The
gap below a power of two is half as wide as the gap above. -/
structure Interval where
  low : Nat
  middle : Nat
  high : Nat
  closed : Bool

/-- The interval of reals that round to a finite number, in quarters of its last place. -/
def interval (x : Binary64) : Interval :=
  let m := 4 * x.significand
  { low := if x.fraction.val = 0 ∧ 1 < x.exponent.val then m - 1 else m - 2
    middle := m
    high := m + 2
    closed := x.significand % 2 = 0 }

/-- `m * 2 ^ p` and `c * 10 ^ g` on one scale: both are multiplied by the same positive number. -/
def onScale (p g : Int) : (Nat → Nat) × (Nat → Nat) :=
  (fun m => m * Nat.pow 2 p.toNat * Nat.pow 10 (-g).toNat,
   fun c => c * Nat.pow 10 g.toNat * Nat.pow 2 (-p).toNat)

/-- The number of decimal digits before the point of `m * 2 ^ p`, negative when zeros follow the
point. The shift by `10 ^ 400` makes every positive number of the format at least one. -/
def decimalPoint (m : Nat) (p : Int) : Int :=
  (Nat.toDigits 10 (m * Nat.pow 2 p.toNat * Nat.pow 10 400 / Nat.pow 2 (-p).toNat)).length - 400

/-- The better of the two neighbours of the number on the grid `10 ^ g`, if one of them lies in the
interval. Of two, the nearer wins, and of two equally near the even one. -/
def neighbour? (i : Interval) (p g : Int) : Option Nat :=
  let (binary, decimal) := onScale p g
  let inside (c : Nat) : Bool :=
    if i.closed then decide (binary i.low ≤ decimal c) && decide (decimal c ≤ binary i.high)
    else decide (binary i.low < decimal c) && decide (decimal c < binary i.high)
  let below := binary i.middle / decimal 1
  let above := below + 1
  match inside below, inside above with
  | false, false => none
  | true, false => some below
  | false, true => some above
  | true, true =>
    let down := binary i.middle - decimal below
    let up := decimal above - binary i.middle
    if down < up then some below
    else if up < down then some above
    else some (if below % 2 = 0 then below else above)

/-- Tries grids of more and more digits, at most `fuel` of them. -/
def searchDigits (i : Interval) (p point : Int) : (fuel count : Nat) → Nat × Int
  | 0, count => (0, point - count)
  | fuel + 1, count =>
    let g := point - count
    match neighbour? i p g with
    | some c => (c, g)
    | none => searchDigits i p point fuel (count + 1)

/-- The shortest decimal that rounds to the size of a finite number other than zero. -/
def shortest (x : Binary64) : ShortestDecimal :=
  let p := x.scale - 2
  let i := x.interval
  let (c, g) := searchDigits i p (decimalPoint i.middle p) 17 1
  let written := Nat.toDigits 10 c
  ⟨(written.reverse.dropWhile (· == '0')).reverse, g + written.length⟩

/-- How a finite number is laid out: from `10 ^ firstScientific` on and below
`10 ^ -lastPositional` the power of ten is written, and `integerMark` follows digits that need no
point. -/
structure Layout where
  integerMark : List Char
  firstScientific : Int := 16
  lastPositional : Int := 4

/-- The digits with their point, or with the power of ten in at least two digits. -/
def Layout.write (layout : Layout) (d : ShortestDecimal) : List Char :=
  let power := d.point - 1
  if -layout.lastPositional ≤ power ∧ power < layout.firstScientific then
    if d.point ≤ 0 then '0' :: '.' :: (List.replicate d.point.natAbs '0' ++ d.digits)
    else if d.digits.length ≤ d.point.toNat then
      d.digits ++ List.replicate (d.point.toNat - d.digits.length) '0' ++ layout.integerMark
    else d.digits.take d.point.toNat ++ '.' :: d.digits.drop d.point.toNat
  else
    let size := Nat.toDigits 10 power.natAbs
    let mantissa := match d.digits with
      | [] => []
      | [c] => [c]
      | c :: rest => c :: '.' :: rest
    mantissa ++ 'e' :: (if power < 0 then '-' else '+')
      :: (List.replicate (2 - size.length) '0' ++ size)

def write (layout : Layout) (x : Binary64) : List Char :=
  if x.isNaN then ['n', 'a', 'n']
  else
    let size :=
      if !x.isFinite then ['i', 'n', 'f']
      else if x.significand = 0 then '0' :: layout.integerMark
      else layout.write x.shortest
    if x.negative then '-' :: size else size

/-- Alone, a number shows by `.0` that it is not an integer. -/
def alone : Layout := { integerMark := ['.', '0'] }

/-- As a part of a complex number, a number is written without `.0`. -/
def part : Layout := { integerMark := [] }

def text (x : Binary64) : String := String.ofList (x.write alone)

end Binary64

end CheckConstraints.Number

import CheckConstraints.Number.Binary64
import CheckConstraints.Number.Decimal

/-!
Exact values of numbers of every kind on one line, so that an integer, a binary number and a decimal
compare without rounding. A diagnostic is neither equal to nor less than anything.
-/

namespace CheckConstraints.Number

inductive Exact where
  | nan
  | infinity (negative : Bool)
  | finite (q : Rat)
deriving DecidableEq, Repr

namespace Exact

def ofBinary64 (x : Binary64) : Exact :=
  if x.isNaN then .nan else if x.isFinite then .finite x.toRat else .infinity x.negative

def ofDecimal : DecimalDatum → Exact
  | .finite d => .finite d.toRat
  | .infinity negative => .infinity negative
  | .nan _ _ _ => .nan

/-- Equality of numbers, under which a diagnostic differs from itself. -/
def same : Exact → Exact → Bool
  | .infinity n, .infinity m => n == m
  | .finite q, .finite r => q == r
  | _, _ => false

def less : Exact → Exact → Bool
  | .finite q, .finite r => q < r
  | .infinity true, .finite _ | .infinity true, .infinity false | .finite _, .infinity false => true
  | _, _ => false

end Exact

end CheckConstraints.Number

import CheckConstraints.Script.Value
import CheckConstraints.Text.Blank

/-!
Which script values a column can be compared with, and as which scalar. Scalars keep their type and
their value. Octets are read as the first of a truth value, an integer, a number and a text that
they spell. A decimal that is not finite becomes the binary number of the same meaning.
-/

namespace CheckConstraints

open Number (Binary64)
open Script (Value)

namespace Text

def ofUtf8? (octets : List UInt8) : Option String := String.fromUTF8? ⟨octets.toArray⟩

def truthValue? (cs : List Char) : Option Bool :=
  let word := String.ofList (cs.map Char.toLower)
  if word ∈ ["1", "on", "t", "true", "y", "yes"] then some true
  else if word ∈ ["0", "off", "f", "false", "n", "no"] then some false
  else none

def hasDoubleUnderscore : List Char → Bool
  | '_' :: '_' :: _ => true
  | _ :: rest => hasDoubleUnderscore rest
  | [] => false

/-- Drops the underscores that stand alone between two characters; with other ones, or with none,
there is no answer. -/
def withoutUnderscores? (cs : List Char) : Option (List Char) :=
  if cs.head? == some '_' || cs.getLast? == some '_' || !cs.contains '_'
    || hasDoubleUnderscore cs then none
  else some (cs.filter (· != '_'))

/-- The integer that a text spells: digits with a sign and single underscores between them, and
after a point nothing but zeros. -/
def integer? (cs : List Char) : Option Int :=
  let (negative, unsigned) := Number.takeSign (trimmed isWhiteSpace cs)
  let whole := unsigned.takeWhile (· != '.')
  let fraction := (unsigned.dropWhile (· != '.')).drop 1
  if fraction.all (· == '0') then
    (Number.digits? ((withoutUnderscores? whole).getD whole)).map fun n =>
      if negative then -(n : Int) else n
  else none

/-- The number that a text spells, possibly with single underscores between its characters. -/
def number? (cs : List Char) : Option Binary64 :=
  match Binary64.parse? (trimmed isWhiteSpace cs) with
  | some x => some x
  | none => (withoutUnderscores? cs).bind Binary64.parse?

end Text

namespace Scalar

def ofBytes? (octets : List UInt8) : Option Scalar :=
  (Text.ofUtf8? octets).map fun s =>
    match Text.truthValue? s.toList with
    | some b => .bool b
    | none =>
      match Text.integer? s.toList with
      | some n => .int n
      | none =>
        match Text.number? s.toList with
        | some x => .float x
        | none => .text s

def ofValue? : Value → Option Scalar
  | .bool b => some (.bool b)
  | .int n => some (.int n)
  | .float x => some (.float x)
  | .decimal (.finite d) => some (.decimal d)
  | .decimal (.infinity negative) => some (.float (Binary64.infinity negative))
  | .decimal (.nan _ false _) => some (.float Binary64.nan)
  | .text s => some (.text s)
  | .bytes octets => ofBytes? octets
  | _ => none

theorem ofValue?_ofScalar (s : Scalar) : ofValue? (Script.ofScalar s) = some s := by
  cases s <;> rfl

end Scalar

end CheckConstraints

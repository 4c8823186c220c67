import CheckConstraints.Number.Exact
import CheckConstraints.Script.Value

/-!
Equality of script values, and the sets and mappings built with it. Numbers of all kinds are
compared by their exact value, so `1`, `1.0`, true and a decimal one are the same; a text, octets
and a number never are.
-/

namespace CheckConstraints.Script.Value

open Number (Exact)

def number? : Value → Option Exact
  | .bool b => some (.finite (if b then 1 else 0))
  | .int n => some (.finite n)
  | .float x => some (.ofBinary64 x)
  | .decimal d => some (.ofDecimal d)
  | _ => none

/-- The exact real and imaginary parts of a number. -/
def parts? : Value → Option (Exact × Exact)
  | .complex re im => some (.ofBinary64 re, .ofBinary64 im)
  | v => v.number?.map (·, .finite 0)

def sameAtom : Value → Value → Bool
  | .null, .null => true
  | .text s, .text t => s == t
  | .bytes a, .bytes b => a == b
  | .descriptor d, .descriptor e => d == e
  | v, w =>
    match v.parts?, w.parts? with
    | some (a, b), some (c, d) => a.same c && b.same d
    | _, _ => false

mutual

/-- Whether two values are equal. Sets are equal when they have the same elements, mappings when
they have the same keys with equal values. -/
def same : Value → Value → Bool
  | .list xs, w => match w with
    | .list ys => sameItems xs ys
    | _ => false
  | .tuple xs, w => match w with
    | .tuple ys => sameItems xs ys
    | _ => false
  | .set xs, w | .frozenSet xs, w => match w with
    | .set ys | .frozenSet ys => xs.length == ys.length && allAmong xs ys
    | _ => false
  | .mapping xs, w => match w with
    | .mapping ys => xs.length == ys.length && allMapped xs ys
    | _ => false
  | v, w => sameAtom v w

def sameItems : List Value → List Value → Bool
  | [], [] => true
  | x :: xs, y :: ys => same x y && sameItems xs ys
  | _, _ => false

def allAmong : List Value → List Value → Bool
  | [], _ => true
  | x :: xs, ys => ys.any (same x) && allAmong xs ys

/-- Whether every entry of a mapping has an equal key and value in another. -/
def allMapped : List (Value × Value) → List (Value × Value) → Bool
  | [], _ => true
  | (k, v) :: xs, ys => ys.any (fun entry => same k entry.1 && same v entry.2) && allMapped xs ys

end

/-- Adds an element to a set; one that is equal to an earlier element is dropped. -/
def insertItem (items : List Value) (item : Value) : List Value :=
  if items.any (same item) then items else items ++ [item]

/-- The elements of the set built by adding the given values in their order. -/
def distinct (items : List Value) : List Value := items.foldl insertItem []

/-- Gives a key a value. A key that is there already keeps its place and its spelling. -/
def putEntry (key value : Value) : List (Value × Value) → List (Value × Value)
  | [] => [(key, value)]
  | (k, v) :: entries =>
    if same key k then (k, value) :: entries else (k, v) :: putEntry key value entries

/-- The mapping built by giving each key its value in their order. -/
def mappingOf (entries : List (Value × Value)) : Value :=
  .mapping (entries.foldl (fun built entry => putEntry entry.1 entry.2 built) [])

def setOf (items : List Value) : Value := .set (distinct items)

def frozenSetOf (items : List Value) : Value := .frozenSet (distinct items)

end CheckConstraints.Script.Value

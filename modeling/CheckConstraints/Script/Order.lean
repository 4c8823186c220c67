import CheckConstraints.Script.Equality

/-!
The order in which the elements of a set are listed. A set has no order of its own, so its elements
are sorted by the name of their type and then by their value. Elements of one type that cannot be
compared with each other make the listing fail.
-/

namespace CheckConstraints.Script.Value

/-- Comparison of two numbers; a diagnostic compares with nothing once a decimal is involved. -/
def lessNumber? (v w : Value) : Option Bool :=
  match v.number?, w.number? with
  | some a, some b =>
    let decimal := match v, w with
      | .decimal _, _ | _, .decimal _ => true
      | _, _ => false
    if decimal && (a == .nan || b == .nan) then none else some (a.less b)
  | _, _ => none

mutual

/-- Whether one value comes before another, where the two can be compared: numbers by their value,
texts and octets in dictionary order, lists and tuples by the first elements that differ, and a set
before the sets that properly hold it. -/
def less? : Value → Value → Option Bool
  | .text s, w => match w with
    | .text t => some (s < t)
    | _ => none
  | .bytes a, w => match w with
    | .bytes b => some (a < b)
    | _ => none
  | .list xs, w => match w with
    | .list ys => lessItems? xs ys
    | _ => none
  | .tuple xs, w => match w with
    | .tuple ys => lessItems? xs ys
    | _ => none
  | .set xs, w | .frozenSet xs, w => match w with
    | .set ys | .frozenSet ys => some (decide (xs.length < ys.length) && allAmong xs ys)
    | _ => none
  | v, w => lessNumber? v w

def lessItems? : List Value → List Value → Option Bool
  | [], ys => some (!ys.isEmpty)
  | _ :: _, [] => some false
  | x :: xs, y :: ys => if same x y then lessItems? xs ys else less? x y

end

/-- The order of listing: by the name of the type, then by the value. -/
def listedBefore? (v w : Value) : Option Bool :=
  if v.typeName = w.typeName then
    if same v w then some false else less? v w
  else some (v.typeName < w.typeName)

/-- Puts an element in front of the first one that comes after it. -/
def insertListed? (v : Value) : List Value → Option (List Value)
  | [] => some [v]
  | w :: ws => do
    if ← listedBefore? v w then return v :: w :: ws
    let rest ← insertListed? v ws
    return w :: rest

/-- The elements of a set in their order of listing, if they can be ordered. -/
def listed? (items : List Value) : Option (List Value) :=
  items.foldlM (fun sorted v => insertListed? v sorted) []

end CheckConstraints.Script.Value

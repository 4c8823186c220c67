import CheckConstraints.Descriptor.Coercion
import CheckConstraints.Fault
import CheckConstraints.Script.Order

/-!
The authoring shorthand. A text is a raw predicate, a mapping restricts each of its columns to a
value or to a set of values, and a list demands all of its items. A value that is a descriptor
already stands for itself.
-/

namespace CheckConstraints.Descriptor

open Script (Value)

def scalars? : List Value → Option (List Scalar)
  | [] => some []
  | v :: vs => do
    let s ← Scalar.ofValue? v
    let rest ← scalars? vs
    return s :: rest

/-- The values that a column may take: the items of a list, the elements of a set in their order of
listing, or a single value. -/
def choices (column : String) : Value → Except Malformed (List Value)
  | .list items | .tuple items => .ok items
  | .set items | .frozenSet items =>
    match Value.listed? items with
    | some sorted => .ok sorted
    | none => .error (.unordered column)
  | v => .ok [v]

def ofColumn : Value × Value → Except Malformed Descriptor
  | (.text column, v) => do
    match scalars? (← choices column v) with
    | some values => return .inSet column values
    | none => throw (.unsupportedValue column)
  | (key, _) => .error (.columnNotText key.typeName)

def ofColumns : List (Value × Value) → Except Malformed (List Descriptor)
  | [] => .ok []
  | entry :: entries => do
    let d ← ofColumn entry
    let ds ← ofColumns entries
    return d :: ds

/-- One descriptor stands for itself, several for their conjunction. -/
def single : List Descriptor → Descriptor
  | [d] => d
  | ds => .all ds

mutual

def ofShorthand : Value → Except Malformed Descriptor
  | .descriptor d => .ok d
  | .text s => .ok (.raw s)
  | .mapping [] => .error .emptyMapping
  | .mapping (e :: es) => (ofColumns (e :: es)).map single
  | .list items | .tuple items => (ofItems items).map .all
  | v => .error (.unsupportedShape v.typeName)

def ofItems : List Value → Except Malformed (List Descriptor)
  | [] => .ok []
  | v :: vs => do
    let d ← ofShorthand v
    let ds ← ofItems vs
    return d :: ds

end

end CheckConstraints.Descriptor

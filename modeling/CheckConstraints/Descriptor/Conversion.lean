import CheckConstraints.Descriptor.Predicate
import CheckConstraints.Descriptor.Serialized
import CheckConstraints.Descriptor.Shorthand

/-!
The authoring shorthand with the ways in which its steps can fail. Descriptors are built as records
whose fields are checked, and the elements of a set are compared with each other. The conversion of a
column turns both kinds of failure into its own; nothing else handles one.
-/

namespace CheckConstraints

open Script (Value)

inductive Failure where
  | malformed (cause : Malformed)
  /-- A record with the given number of fields that do not fit. -/
  | invalid (errors : Nat)
  /-- Elements of a set that cannot be compared with each other. -/
  | incomparable
deriving DecidableEq, Repr

namespace Conversion

def built (record : Checked Descriptor) : Except Failure Descriptor := record.mapError .invalid

def sorted (items : List Value) : Except Failure (List Value) :=
  match Value.listed? items with
  | some sorted => .ok sorted
  | none => .error .incomparable

def choices (column : String) : Value → Except Failure (List Value)
  | .list items | .tuple items => .ok items
  | .set items | .frozenSet items => do
    try sorted items
    catch
      | .incomparable => throw (.malformed (.unordered column))
      | other => throw other
  | v => .ok [v]

def ofColumn : Value × Value → Except Failure Descriptor
  | (.text column, v) => do
    let values ← choices column v
    try built (Descriptor.checkInSet (some (.text column)) (some (.list values)))
    catch
      | .invalid _ => throw (.malformed (.unsupportedValue column))
      | other => throw other
  | (key, _) => throw (.malformed (.columnNotText key.typeName))

def ofColumns : List (Value × Value) → Except Failure (List Descriptor)
  | [] => .ok []
  | entry :: entries => do
    let d ← ofColumn entry
    let ds ← ofColumns entries
    return d :: ds

def conjunction (parts : List Descriptor) : Except Failure Descriptor :=
  built ((Descriptor.checkParts (.list (parts.map .descriptor))).map .all)

mutual

def ofShorthand : Value → Except Failure Descriptor
  | .descriptor d => .ok d
  | .text s => built (Descriptor.checkRaw (some (.text s)))
  | .mapping [] => throw (.malformed .emptyMapping)
  | .mapping (e :: es) => do
    match ← ofColumns (e :: es) with
    | [d] => return d
    | ds => conjunction ds
  | .list items | .tuple items => do conjunction (← ofItems items)
  | v => throw (.malformed (.unsupportedShape v.typeName))

def ofItems : List Value → Except Failure (List Descriptor)
  | [] => .ok []
  | v :: vs => do
    let d ← ofShorthand v
    let ds ← ofItems vs
    return d :: ds

end

def predicate (v : Value) : Except Failure String := do
  let d ← ofShorthand v
  d.compile.mapError .malformed

end Conversion

end CheckConstraints

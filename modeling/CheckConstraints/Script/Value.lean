import CheckConstraints.Descriptor

/-!
The values of a migration script: what an author may hand over as a constraint. Only some of them
describe one; the others are refused with a message that names or shows them.
-/

namespace CheckConstraints.Script

open Number (Binary64 DecimalDatum)

/-- Dynamically typed values. The elements of a set and the keys of a mapping keep their order of
insertion. -/
inductive Value where
  | null
  | bool (b : Bool)
  | int (n : Int)
  | float (x : Binary64)
  | decimal (d : DecimalDatum)
  | text (s : String)
  | bytes (octets : List UInt8)
  | complex (re im : Binary64)
  | list (items : List Value)
  | tuple (items : List Value)
  | set (items : List Value)
  | frozenSet (items : List Value)
  | mapping (entries : List (Value × Value))
  | descriptor (d : Descriptor)

namespace Value

instance : Inhabited Value := ⟨.null⟩

def typeName : Value → String
  | .null => "NoneType"
  | .bool _ => "bool"
  | .int _ => "int"
  | .float _ => "float"
  | .decimal _ => "Decimal"
  | .text _ => "str"
  | .bytes _ => "bytes"
  | .complex _ _ => "complex"
  | .list _ => "list"
  | .tuple _ => "tuple"
  | .set _ => "set"
  | .frozenSet _ => "frozenset"
  | .mapping _ => "dict"
  | .descriptor (.raw _) => "Raw"
  | .descriptor (.inSet _ _) => "ColumnInSet"
  | .descriptor (.all _) => "Conjunction"

def items? : Value → Option (List Value)
  | .list items | .tuple items | .set items | .frozenSet items => some items
  | _ => none

/-- Whether a value counts as given: nothing, zero, and whatever is empty do not. -/
def isTruthy : Value → Bool
  | .null => false
  | .bool b => b
  | .int n => n != 0
  | .float x => !x.isZero
  | .decimal (.finite d) => d.coefficient != 0
  | .decimal _ => true
  | .text s => s != ""
  | .bytes octets => !octets.isEmpty
  | .complex re im => !re.isZero || !im.isZero
  | .list items | .tuple items | .set items | .frozenSet items => !items.isEmpty
  | .mapping entries => !entries.isEmpty
  | .descriptor _ => true

end Value

def ofScalar : Scalar → Value
  | .bool b => .bool b
  | .int n => .int n
  | .float x => .float x
  | .decimal d => .decimal (.finite d)
  | .text s => .text s

end CheckConstraints.Script

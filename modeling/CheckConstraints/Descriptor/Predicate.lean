import CheckConstraints.Fault
import CheckConstraints.Script.Display
import CheckConstraints.Text.Blank

/-!
Predicates: the text that a database reports back for a descriptor. Equal descriptors have equal
predicates, which is what lets schema snapshots be compared as texts.
-/

namespace CheckConstraints

open Script (Value)

namespace Scalar

def doubleQuotes (cs : List Char) : List Char :=
  cs.flatMap fun c => if c = '\'' then ['\'', '\''] else [c]

def textLiteral (s : String) : String :=
  String.ofList ('\'' :: (doubleQuotes s.toList ++ ['\'']))

/-- The literal of a scalar. An infinite number or a diagnostic has none. -/
def literal : Scalar → Except Malformed String
  | .bool true => .ok "true"
  | .bool false => .ok "false"
  | .int n => .ok (toString n)
  | .float x => if x.isFinite then .ok x.text else .error (.nonFinite x.text)
  | .decimal d => .ok d.text
  | .text s => .ok (textLiteral s)

end Scalar

def Script.Value.literal : Value → Except Malformed String
  | .bool b => Scalar.literal (.bool b)
  | .int n => Scalar.literal (.int n)
  | .float x => Scalar.literal (.float x)
  | .decimal (.finite d) => Scalar.literal (.decimal d)
  | .decimal d => .error (.nonFinite (Value.display (.decimal d)))
  | .text s => Scalar.literal (.text s)
  | v => .error (.unsupportedLiteral v.display)

theorem Script.literal_ofScalar (s : Scalar) : (Script.ofScalar s).literal = s.literal := by
  cases s <;> rfl

namespace Descriptor

/-- The predicate of a raw text: the text in parentheses, whatever it holds. -/
def rawPredicate (text : String) : String := "(" ++ text ++ ")"

def memberPredicate (column : String) (literals : List String) : String :=
  "(" ++ column ++ " = ANY (ARRAY[" ++ ", ".intercalate literals ++ "]))"

def conjoin (predicates : List String) : String := "(" ++ " AND ".intercalate predicates ++ ")"

def literals : List Scalar → Except Malformed (List String)
  | [] => .ok []
  | v :: vs => do
    let l ← v.literal
    let ls ← literals vs
    return l :: ls

mutual

/-- The predicate of a descriptor. A raw text that says nothing, a column without values and a
conjunction without parts have none. -/
def compile : Descriptor → Except Malformed String
  | .raw text => if Text.allBlank text then .error .emptyText else .ok (rawPredicate text)
  | .inSet column [] => .error (.emptyValueSet column)
  | .inSet column (v :: vs) => (literals (v :: vs)).map (memberPredicate column)
  | .all [] => .error .emptyConjunction
  | .all (p :: ps) => (compileParts (p :: ps)).map conjoin

def compileParts : List Descriptor → Except Malformed (List String)
  | [] => .ok []
  | p :: ps => do
    let predicate ← compile p
    let predicates ← compileParts ps
    return predicate :: predicates

end

end Descriptor

def Script.Value.compile : Value → Except Malformed String
  | .descriptor d => d.compile
  | v => .error (.unsupportedShape v.typeName)

end CheckConstraints

import CheckConstraints.Descriptor.Coercion
import CheckConstraints.Fault

/-!
The serialized form of descriptors: mappings tagged with their kind, as they come out of a data file.
Writing always succeeds; reading counts everything that does not fit, so that an author can mend
all of it at once.
-/

namespace CheckConstraints

open Script (Value)

/-- A result, or the number of errors found. -/
abbrev Checked (α : Type) := Except Nat α

/-- Combines two results; the errors of both count. -/
def Checked.both {α β γ : Type} (f : α → β → γ) : Checked α → Checked β → Checked γ
  | .ok a, .ok b => .ok (f a b)
  | .ok _, .error n => .error n
  | .error m, .ok _ => .error m
  | .error m, .error n => .error (m + n)

namespace Descriptor

/-- A text field holds a text, or octets that encode one. -/
def checkText : Value → Checked String
  | .text s => .ok s
  | .bytes octets =>
    match Text.ofUtf8? octets with
    | some s => .ok s
    | none => .error 1
  | _ => .error 1

/-- A field holds a scalar in one of five types, and each of them has its own complaint about a
value that is none. -/
def checkScalar (v : Value) : Checked Scalar :=
  match Scalar.ofValue? v with
  | some s => .ok s
  | none => .error 5

def checkScalars : List Value → Checked (List Scalar)
  | [] => .ok []
  | v :: vs => Checked.both List.cons (checkScalar v) (checkScalars vs)

def checkValues (v : Value) : Checked (List Scalar) :=
  match v.items? with
  | some items => checkScalars items
  | none => .error 1

def checkField {α : Type} (check : Value → Checked α) : Option Value → Checked α
  | some v => check v
  | none => .error 1

/-- The value under a key that is a text. -/
def field? (name : String) : List (Value × Value) → Option Value
  | [] => none
  | (.text key, v) :: entries => if key = name then some v else field? name entries
  | _ :: entries => field? name entries

def checkRaw (text : Option Value) : Checked Descriptor := (checkField checkText text).map .raw

def checkInSet (column values : Option Value) : Checked Descriptor :=
  Checked.both .inSet (checkField checkText column) (checkField checkValues values)

inductive Tag where
  | raw
  | inSet
  | all
deriving DecidableEq, Repr

def Tag.text : Tag → String
  | .raw => "raw"
  | .inSet => "in_set"
  | .all => "and"

def tag? (entries : List (Value × Value)) : Option Tag :=
  match field? "kind" entries with
  | some (.text s) => [Tag.raw, .inSet, .all].find? fun tag => tag.text == s
  | _ => none

mutual

/-- A descriptor, or a mapping that serializes one. -/
def check : Value → Checked Descriptor
  | .descriptor d => .ok d
  | .mapping entries =>
    match tag? entries with
    | some .raw => checkRaw (field? "text" entries)
    | some .inSet => checkInSet (field? "column" entries) (field? "values" entries)
    | some .all => (checkPartsField entries).map .all
    | none => .error 1
  | _ => .error 1

def checkParts : Value → Checked (List Descriptor)
  | .list items | .tuple items | .set items | .frozenSet items => checkItems items
  | _ => .error 1

def checkItems : List Value → Checked (List Descriptor)
  | [] => .ok []
  | v :: vs => Checked.both List.cons (check v) (checkItems vs)

def checkPartsField : List (Value × Value) → Checked (List Descriptor)
  | [] => .error 1
  | (.text key, v) :: entries => if key = "parts" then checkParts v else checkPartsField entries
  | _ :: entries => checkPartsField entries

end

def parse (data : Value) : Except Malformed Descriptor := (check data).mapError .invalidSerialized

mutual

def dump : Descriptor → Value
  | .raw s => .mapping [(.text "kind", .text Tag.raw.text), (.text "text", .text s)]
  | .inSet column values =>
    .mapping [(.text "kind", .text Tag.inSet.text), (.text "column", .text column),
      (.text "values", .list (values.map Script.ofScalar))]
  | .all parts =>
    .mapping [(.text "kind", .text Tag.all.text), (.text "parts", .list (dumpParts parts))]

def dumpParts : List Descriptor → List Value
  | [] => []
  | p :: ps => dump p :: dumpParts ps

end

end Descriptor

end CheckConstraints

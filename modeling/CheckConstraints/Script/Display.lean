import CheckConstraints.Number.Shortest
import CheckConstraints.Script.Value
import CheckConstraints.Text.Quoted

/-!
How a message shows a value: in the form in which a script would write it.
-/

namespace CheckConstraints.Script.Value

open Number (Binary64)

/-- A complex number; a real part of positive zero is left out. -/
def displayComplex (re im : Binary64) : List Char :=
  let imaginary := im.write Binary64.part
  if re = Binary64.zero false then imaginary ++ ['j']
  else
    let signed := if im.negative then imaginary else '+' :: imaginary
    '(' :: (re.write Binary64.part ++ signed ++ ['j', ')'])

def bracketed (opening closing : String) (items : List String) : String :=
  opening ++ ", ".intercalate items ++ closing

/-- Items between parentheses; a comma tells a single item from a parenthesised value. -/
def displayTuple : List String → String
  | [item] => "(" ++ item ++ ",)"
  | items => bracketed "(" ")" items

mutual

/-- A descriptor with its fields by name. -/
def displayDescriptor : Descriptor → String
  | .raw s => "Raw(kind='raw', text=" ++ Text.quoted s ++ ")"
  | .inSet column values =>
    "ColumnInSet(kind='in_set', column=" ++ Text.quoted column ++ ", values="
      ++ bracketed "[" "]" (values.map displayScalar) ++ ")"
  | .all parts => "Conjunction(kind='and', parts=" ++ bracketed "[" "]" (displayParts parts) ++ ")"

def displayParts : List Descriptor → List String
  | [] => []
  | part :: parts => displayDescriptor part :: displayParts parts

def displayScalar : Scalar → String
  | .bool true => "True"
  | .bool false => "False"
  | .int n => toString n
  | .float x => x.text
  | .decimal d => "Decimal('" ++ d.text ++ "')"
  | .text s => Text.quoted s

end

mutual

def display : Value → String
  | .null => "None"
  | .bool b => displayScalar (.bool b)
  | .int n => displayScalar (.int n)
  | .float x => displayScalar (.float x)
  | .decimal d => "Decimal('" ++ d.text ++ "')"
  | .text s => displayScalar (.text s)
  | .bytes octets => Text.quotedBytes octets
  | .complex re im => String.ofList (displayComplex re im)
  | .list items => bracketed "[" "]" (displayItems items)
  | .tuple items => displayTuple (displayItems items)
  | .set [] => "set()"
  | .set items => bracketed "\x7b" "\x7d" (displayItems items)
  | .frozenSet [] => "frozenset()"
  | .frozenSet items => bracketed "frozenset(\x7b" "\x7d)" (displayItems items)
  | .mapping entries => bracketed "\x7b" "\x7d" (displayEntries entries)
  | .descriptor d => displayDescriptor d

def displayItems : List Value → List String
  | [] => []
  | item :: items => display item :: displayItems items

def displayEntries : List (Value × Value) → List String
  | [] => []
  | (key, value) :: entries => (display key ++ ": " ++ display value) :: displayEntries entries

end

end CheckConstraints.Script.Value

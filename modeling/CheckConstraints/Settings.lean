import CheckConstraints.Fault
import CheckConstraints.Number.Numeral
import CheckConstraints.Text.Blank
import CheckConstraints.Text.Digit

/-!
Settings of a run. Each has a default and can be given in the environment of the process; numbers
there may use the decimal digits of any script.
-/

namespace CheckConstraints

structure Settings where
  environment : String := "dev"
  logLevel : String := "INFO"
  databaseUrl : String := "postgresql+asyncpg://postgres:postgres@db:5432/pgcheck_dev"
  /-- The least suffix of an anonymous name. -/
  suffixMin : Int := 1000000
  /-- The greatest suffix of an anonymous name. -/
  suffixMax : Int := 999999999
  /-- How many anonymous names are tried before giving up. -/
  nameAttempts : Int := 100
  /-- The longest name that the database keeps whole. -/
  maxNameLength : Int := 63
  /-- The number of spaces before each constraint in a snapshot. -/
  snapshotIndent : Int := 2
deriving DecidableEq, Repr

namespace Text

def isAsciiSpace (c : Char) : Bool :=
  (decide (0x09 ≤ c.toNat) && decide (c.toNat ≤ 0x0D)) || c == ' '

/-- Digits and white space beyond ASCII become their ASCII counterparts. -/
def toAsciiNumeral (c : Char) : Char :=
  if c.toNat < 0x7F then c
  else if isBlank c then ' '
  else match digitValue? c with
    | some d => Char.ofNat ('0'.toNat + d)
    | none => '?'

/-- Digits that go on after a first one, each with at most one underscore in front. -/
def isDigitTail : List Char → Bool
  | [] => true
  | '_' :: d :: rest => d.isDigit && isDigitTail rest
  | d :: rest => d.isDigit && isDigitTail rest

def groupedDigits? : List Char → Option Nat
  | [] => none
  | d :: rest =>
    if d.isDigit && isDigitTail rest then
      some (Number.digitsToNat ((d :: rest).filter (· != '_')))
    else none

/-- The integer that a text spells: an optional sign and digits, surrounded by white space. -/
def toInt? (text : String) : Option Int :=
  let (negative, unsigned) :=
    Number.takeSign (trimmed isAsciiSpace (text.toList.map toAsciiNumeral))
  (groupedDigits? unsigned).map fun n => if negative then -(n : Int) else n

end Text

namespace Settings

def textSetting (env : String → Option String) (name default : String) : String :=
  (env name).getD default

/-- The value of an environment variable as a number, or the default. -/
def numberSetting (env : String → Option String) (name : String) (default : Int) :
    Except Fault Int :=
  match env name with
  | none => .ok default
  | some text =>
    match Text.toInt? text with
    | some n => .ok n
    | none => .error (.notAnInteger text)

/-- The settings that an environment gives; the first variable that is no number is reported. -/
def ofEnvironment (env : String → Option String) : Except Fault Settings := do
  let d : Settings := {}
  return {
    environment := textSetting env "ENVIRONMENT" d.environment
    logLevel := textSetting env "LOG_LEVEL" d.logLevel
    databaseUrl := textSetting env "DATABASE_URL" d.databaseUrl
    suffixMin := ← numberSetting env "PGCHECK_ANON_SUFFIX_MIN" d.suffixMin
    suffixMax := ← numberSetting env "PGCHECK_ANON_SUFFIX_MAX" d.suffixMax
    nameAttempts := ← numberSetting env "PGCHECK_ANON_NAME_ATTEMPTS" d.nameAttempts
    maxNameLength := ← numberSetting env "PGCHECK_MAX_IDENTIFIER_LENGTH" d.maxNameLength
    snapshotIndent := ← numberSetting env "PGCHECK_SNAPSHOT_INDENT" d.snapshotIndent }

end Settings

end CheckConstraints

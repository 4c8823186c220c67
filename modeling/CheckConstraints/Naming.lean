import CheckConstraints.Fault
import CheckConstraints.Settings

/-!
Names of constraints. An explicit name is checked; without one an anonymous name is made of the
table and a number from a suffix source, and names that are taken are skipped. The search stops at
the first free name, so the number of suffixes drawn tells how many were taken.
-/

namespace CheckConstraints

/-- A source of suffixes. Sources with one key share one position in their sequence of draws. -/
structure SuffixSource where
  key : Nat
  draw : Nat → Except Fault Int

namespace SuffixSource

/-- The key of the random source that is used where no source is given. -/
def defaultKey : Nat := 0

/-- One number after the other. -/
def sequential (key : Nat) (start : Int) : SuffixSource := ⟨key, fun k => .ok (start + k)⟩

def firstSequential : Int := 1000000

/-- Numbers from `low` to `high`, chosen by chance: `chance k` is the outcome of draw `k` among any
number of alternatives, counted round and round. -/
def random (chance : Nat → Nat) (key : Nat) (low high : Int) : SuffixSource :=
  ⟨key, fun k =>
    if high < low then .error .emptyRange
    else .ok (low + (chance k : Int) % (high - low + 1))⟩

def listed (key : Nat) (numbers : List Int) : SuffixSource :=
  ⟨key, fun k => .ok ((numbers[k]?).getD (numbers.getLast?.getD 0))⟩

end SuffixSource

namespace Naming

def validate (settings : Settings) (table name : String) (taken : List String) :
    Except Fault String :=
  if name = "" then .error (.invalidName table name .empty)
  else if settings.maxNameLength < name.length then
    .error (.invalidName table name (.tooLong settings.maxNameLength))
  else if name ∈ taken then .error (.duplicateName table name .alreadyExists)
  else .ok name

def anonymous (table : String) (suffix : Int) : String := table ++ "_" ++ toString suffix

/-- What a search for a name gives: the name or a fault, and how many suffixes were drawn. The
attempt is the number of the draw that gave an anonymous name. -/
structure Resolution where
  result : Except Fault String
  drawn : Nat
  attempt : Option Nat

/-- Tries the suffixes of `draw` from `position` on, with `remaining` attempts left after
`tried` ones. -/
def search (table : String) (taken : List String) (draw : Nat → Except Fault Int)
    (exhausted : Fault) : (remaining position tried : Nat) → Resolution
  | 0, _, tried => ⟨.error exhausted, tried, none⟩
  | remaining + 1, position, tried =>
    match draw position with
    | .error fault => ⟨.error fault, tried + 1, none⟩
    | .ok suffix =>
      if anonymous table suffix ∈ taken then
        search table taken draw exhausted remaining (position + 1) (tried + 1)
      else ⟨.ok (anonymous table suffix), tried + 1, some (tried + 1)⟩

def anonymousPattern (table : String) : String := table ++ "_*"

/-- The name of a constraint on a table, with the suffixes of a source from `position` on. -/
def resolve (settings : Settings) (table : String) (explicit : Option String)
    (taken : List String) (source : SuffixSource) (position : Nat) : Resolution :=
  match explicit with
  | some name => ⟨validate settings table name taken, 0, none⟩
  | none =>
    search table taken source.draw
      (.duplicateName table (anonymousPattern table) (.exhausted settings.nameAttempts))
      settings.nameAttempts.toNat position 0

/-- Whether a name is the table, an underscore and seven to nine digits. -/
def isAnonymousName (table name : String) : Bool :=
  let suffix := name.toList.drop (table.length + 1)
  name.toList.take (table.length + 1) == table.toList ++ ['_']
    && decide (7 ≤ suffix.length) && decide (suffix.length ≤ 9) && suffix.all Char.isDigit

/-- Names a number of constraints one after the other, each name being taken from then on. -/
def resolveMany (settings : Settings) (table : String) (explicit : Option String)
    (source : SuffixSource) : (count position : Nat) → (taken : List String) →
    List (Except Fault String)
  | 0, _, _ => []
  | count + 1, position, taken =>
    let r := resolve settings table explicit taken source position
    let taken := match r.result with
      | .ok name => name :: taken
      | .error _ => taken
    r.result :: resolveMany settings table explicit source count (position + r.drawn) taken

end Naming

end CheckConstraints

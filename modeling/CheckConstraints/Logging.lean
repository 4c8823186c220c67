import CheckConstraints.Event
import CheckConstraints.Settings

/-!
Logging: what becomes of reported events. Before logging is configured every event is recorded.
Afterwards events below a level are dropped; each reporter keeps the level that it found at its
first event, while messages of the rest of the application follow the current level.
-/

namespace CheckConstraints

/-- Something that logging passes on. -/
inductive LogOutput where
  /-- An event as it was reported, before logging was configured. -/
  | recorded (entry : LogEntry)
  | printed (entry : LogEntry)
  /-- A printed message of the rest of the application. -/
  | message (text : String)
deriving DecidableEq, Repr

/-- The current level and the levels that the reporters keep. -/
structure Logging where
  root : Option Int := none
  naming : Option Int := none
  operations : Option Int := none
deriving DecidableEq, Repr

namespace Logging

/-- The upper-case letter of a letter in a level's name; beyond ASCII only two letters have an ASCII
one. -/
def upper (c : Char) : Char :=
  if c = 'ı' then 'I' else if c = 'ſ' then 'S' else c.toUpper

/-- The level of a name in any case; an unknown name means the level of `info`. -/
def levelOf (name : String) : Int :=
  match String.ofList (name.toList.map upper) with
  | "NOTSET" => 0
  | "DEBUG" => 10
  | "WARN" | "WARNING" => 30
  | "ERROR" => 40
  | "CRITICAL" | "FATAL" => 50
  | _ => 20

/-- The level asked for; none asked for, or an empty name, means that of the settings. -/
def chosenLevel (settings : Settings) : Option String → Int
  | none | some "" => levelOf settings.logLevel
  | some name => levelOf name

/-- Sets the current level. Levels that reporters keep stay. -/
def configure (level : Int) (l : Logging) : Logging := { l with root := some level }

def kept (l : Logging) : Reporter → Option Int
  | .naming => l.naming
  | .operations => l.operations

def keep (reporter : Reporter) (level : Int) (l : Logging) : Logging :=
  match reporter with
  | .naming => { l with naming := some level }
  | .operations => { l with operations := some level }

def deliver (entry : LogEntry) (l : Logging) : Option LogOutput × Logging :=
  match l.root with
  | none => (some (.recorded entry), l)
  | some root =>
    let reporter := entry.event.reporter
    let level := (l.kept reporter).getD root
    let output := if level ≤ entry.event.severity.level then some (.printed entry) else none
    (output, l.keep reporter level)

def deliverAll : List LogEntry → Logging → List LogOutput × Logging
  | [], l => ([], l)
  | entry :: entries, l =>
    let (output, l) := l.deliver entry
    let (outputs, l) := deliverAll entries l
    (output.toList ++ outputs, l)

/-- Passes a message of the rest of the application on. Messages are lost until logging is
configured, and those without a positive level always are. -/
def message (level : Int) (text : String) (l : Logging) : Option LogOutput :=
  match l.root with
  | none => none
  | some root => if 0 < level ∧ root ≤ level then some (.message text) else none

end Logging

end CheckConstraints

/-!
Events: what an operation reports about itself. Every emitted statement is followed by one event that
tells the same, so that the events of a run are a trail of its statements.
-/

namespace CheckConstraints

inductive Event where
  /-- An anonymous name was found at the given attempt. -/
  | anonymousName (table name : String) (attempt : Nat)
  | added (table name predicate : String)
  | removed (table name : String) (reversible : Bool)
  | addReversed (table name : String)
  | removeReversed (table name predicate : String)
  | irreversible (table name : String)
deriving DecidableEq, Repr

inductive Severity where
  | debug
  | info
  | warning
deriving DecidableEq, Repr

namespace Severity

def text : Severity → String
  | .debug => "debug"
  | .info => "info"
  | .warning => "warning"

/-- The level of a severity on the scale of log levels. -/
def level : Severity → Int
  | .debug => 10
  | .info => 20
  | .warning => 30

end Severity

inductive Reporter where
  | naming
  | operations
deriving DecidableEq, Repr

inductive Detail where
  | text (s : String)
  | number (n : Nat)
  | flag (b : Bool)
deriving DecidableEq, Repr

namespace Event

def title : Event → String
  | .anonymousName _ _ _ => "check_constraint.anonymous_name"
  | .added _ _ _ => "check_constraint.added"
  | .removed _ _ _ => "check_constraint.removed"
  | .addReversed _ _ | .removeReversed _ _ _ => "check_constraint.reversed"
  | .irreversible _ _ => "check_constraint.irreversible"

def severity : Event → Severity
  | .anonymousName _ _ _ => .debug
  | .irreversible _ _ => .warning
  | _ => .info

def reporter : Event → Reporter
  | .anonymousName _ _ _ => .naming
  | _ => .operations

def details : Event → List (String × Detail)
  | .anonymousName table name attempt =>
    [("table", .text table), ("name", .text name), ("attempt", .number attempt)]
  | .added table name predicate =>
    [("table", .text table), ("name", .text name), ("predicate", .text predicate)]
  | .removed table name reversible =>
    [("table", .text table), ("name", .text name), ("reversible", .flag reversible)]
  | .addReversed table name =>
    [("table", .text table), ("name", .text name), ("operation", .text "add")]
  | .removeReversed table name predicate =>
    [("table", .text table), ("name", .text name), ("operation", .text "remove"),
      ("predicate", .text predicate)]
  | .irreversible table name => [("table", .text table), ("name", .text name)]

end Event

/-- An event with the migration during which it was reported. -/
structure LogEntry where
  event : Event
  migration : Option String
deriving DecidableEq, Repr

end CheckConstraints

import CheckConstraints.Descriptor.Predicate
import CheckConstraints.Event
import CheckConstraints.Naming
import CheckConstraints.Registry
import CheckConstraints.Statement

/-!
The world that operations act on: the registry of live constraints, the statements emitted so far,
the positions of the suffix sources and the log. A statement that the database refuses is not
emitted and changes nothing but the count of calls; the registry is updated after its statement was
emitted.
-/

namespace CheckConstraints

/-- Whether the database refuses a statement, given the number of the call, from one on. -/
abbrev Executor := Nat → Statement → Option Fault

namespace Executor

def accepting : Executor := fun _ _ => none

/-- The longest identifier of the database, whatever the settings say. -/
def identifierLimit : Nat := 63

/-- Takes every statement whose constraint has a name that the database keeps whole. -/
def database : Executor := fun _ statement =>
  if identifierLimit < statement.name.length then
    some (.identifierTooLong statement.name identifierLimit)
  else none

/-- Refuses the calls with the given numbers and leaves the others to another executor. -/
def failingOn (calls : List Nat) (executor : Executor) : Executor := fun call statement =>
  if call ∈ calls then some (.refused call) else executor call statement

end Executor

/-- What stays the same during a step. -/
structure Env where
  settings : Settings
  executor : Executor
  /-- The source of suffixes where none is given. -/
  randomSource : SuffixSource
  migration : Option String

structure World where
  registry : Registry := .empty
  /-- The emitted statements, oldest first. -/
  emitted : List Statement := []
  /-- How many statements were handed to the executor. -/
  calls : Nat := 0
  /-- How many suffixes were drawn from the sources of a key. -/
  drawn : Nat → Nat := fun _ => 0
  /-- The reported events, oldest first. -/
  log : List LogEntry := []

namespace World

def report (env : Env) (event : Event) (w : World) : World :=
  { w with log := w.log ++ [⟨event, env.migration⟩] }

def emit (env : Env) (statement : Statement) (w : World) : Except Fault Unit × World :=
  match env.executor (w.calls + 1) statement with
  | some fault => (.error fault, { w with calls := w.calls + 1 })
  | none => (.ok (), { w with calls := w.calls + 1, emitted := w.emitted ++ [statement] })

def advance (key count : Nat) (w : World) : World :=
  { w with drawn := fun k => if k = key then w.drawn key + count else w.drawn k }

/-- The name of a constraint on a table, given the names that are taken there. -/
def resolve (env : Env) (table : String) (explicit : Option String) (taken : List String)
    (source : Option SuffixSource) (w : World) : Except Fault String × World :=
  let source := source.getD env.randomSource
  let r := Naming.resolve env.settings table explicit taken source (w.drawn source.key)
  let w := w.advance source.key r.drawn
  match r.result, r.attempt with
  | .ok name, some attempt => (.ok name, w.report env (.anonymousName table name attempt))
  | result, _ => (result, w)

/-- Creates a constraint: its predicate and its name come first, then the statement, and last the
registry. -/
def create (env : Env) (table : String) (explicit : Option String) (descriptor : Descriptor)
    (source : Option SuffixSource) (w : World) : Except Fault Constraint × World :=
  match descriptor.compile with
  | .error cause => (.error (.malformed cause), w)
  | .ok predicate =>
    match w.resolve env table explicit (w.registry.names table) source with
    | (.error fault, w) => (.error fault, w)
    | (.ok name, w) =>
      match w.emit env (.create table name predicate) with
      | (.error fault, w) => (.error fault, w)
      | (.ok (), w) =>
        let constraint : Constraint := ⟨name, table, predicate, some descriptor⟩
        match w.registry.add constraint with
        | .error fault => (.error fault, w)
        | .ok registry => (.ok constraint, { w with registry })

/-- Drops a constraint by its name. The answer is the live constraint that went with it. -/
def drop (env : Env) (table name : String) (w : World) : Except Fault (Option Constraint) × World :=
  match w.emit env (.drop table name) with
  | (.error fault, w) => (.error fault, w)
  | (.ok (), w) =>
    let (removed, registry) := w.registry.discard table name
    (.ok removed, { w with registry })

end World

end CheckConstraints

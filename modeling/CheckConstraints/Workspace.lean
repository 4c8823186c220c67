import CheckConstraints.Migration

/-!
Workspaces: any number of operations and migrations that act on one world. Operations are referred to
by handles, which stay valid as more is declared.
-/

namespace CheckConstraints

/-- Where an operation is: on its own, or in a migration. -/
inductive Handle where
  | alone (index : Nat)
  | within (migration index : Nat)
deriving DecidableEq, Repr

structure Workspace where
  world : World := {}
  operations : List Operation := []
  migrations : List Migration := []

namespace Workspace

def operation? (ws : Workspace) : Handle → Option Operation
  | .alone i => ws.operations[i]?
  | .within m i => (ws.migrations[m]?).bind (·.operations[i]?)

def setOperation (ws : Workspace) (op : Operation) : Handle → Workspace
  | .alone i => { ws with operations := ws.operations.set i op }
  | .within m i =>
    { ws with migrations := ws.migrations.modify m fun migration =>
        { migration with operations := migration.operations.set i op } }

def declare (ws : Workspace) (op : Operation) : Handle × Workspace :=
  (.alone ws.operations.length, { ws with operations := ws.operations ++ [op] })

/-- Declares a migration; it is referred to by its number. -/
def declareMigration (ws : Workspace) (m : Migration) : Nat × Workspace :=
  (ws.migrations.length, { ws with migrations := ws.migrations ++ [m] })

def declareWithin (ws : Workspace) (m : Nat) (op : Operation) : Handle × Workspace :=
  (.within m (((ws.migrations[m]?).map (·.operations.length)).getD 0),
    { ws with migrations := ws.migrations.modify m (·.declare op) })

/-- Runs a step of an operation and keeps what it leaves behind. -/
def stepAt (ws : Workspace) (handle : Handle) (op : Operation)
    (step : Operation → World → Outcome Operation (Option Constraint)) :
    Except Fault (Option Constraint) × Workspace :=
  let o := step op ws.world
  (o.result, { ws.setOperation o.subject handle with world := o.world })

/-- Runs a migration and keeps what the run leaves behind. -/
def runAt (ws : Workspace) (index : Nat) (m : Migration)
    (run : Migration → World → Outcome Migration Unit) : Except Fault Unit × Workspace :=
  let o := run m ws.world
  (o.result, { ws with migrations := ws.migrations.set index o.subject, world := o.world })

end Workspace

end CheckConstraints

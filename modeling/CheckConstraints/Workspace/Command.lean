import CheckConstraints.Workspace

/-!
Commands to a workspace: operations and migrations are declared, applied, rolled back and inverted
in any order. A command that refers to nothing changes nothing, and a failed one leaves the
workspace as its failed step did, ready for the next one. The settings and the executor may differ
from command to command.
-/

namespace CheckConstraints

inductive Command where
  | declare (op : Operation)
  | declareMigration (m : Migration)
  | declareWithin (migration : Nat) (op : Operation)
  | apply (handle : Handle)
  | reverse (handle : Handle)
  /-- Declares the inverse of an operation, on its own. -/
  | invert (handle : Handle)
  | upgrade (migration : Nat)
  | downgrade (migration : Nat)

namespace Workspace

def execute (env : Env) (ws : Workspace) : Command → Workspace
  | .declare op => (ws.declare op).2
  | .declareMigration m => (ws.declareMigration m).2
  | .declareWithin m op => (ws.declareWithin m op).2
  | .apply handle =>
    match ws.operation? handle with
    | some op => (ws.stepAt handle op (Operation.apply env)).2
    | none => ws
  | .reverse handle =>
    match ws.operation? handle with
    | some op => (ws.stepAt handle op (Operation.reverse env)).2
    | none => ws
  | .invert handle =>
    match (ws.operation? handle).map Operation.inverse with
    | some (.ok inverse) => (ws.declare inverse).2
    | _ => ws
  | .upgrade index =>
    match ws.migrations[index]? with
    | some m => (ws.runAt index m (Migration.upgrade env)).2
    | none => ws
  | .downgrade index =>
    match ws.migrations[index]? with
    | some m => (ws.runAt index m (Migration.downgrade env)).2
    | none => ws

/-- The workspace after the commands, each in its own environment. -/
def run (ws : Workspace) : List (Env × Command) → Workspace
  | [] => ws
  | (env, command) :: commands => (ws.execute env command).run commands

end Workspace

end CheckConstraints

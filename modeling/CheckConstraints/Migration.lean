import CheckConstraints.Operation

/-!
Migrations: operations in the order of their declaration. An upgrade applies those that are pending,
in that order; a downgrade reverses those that are live, newest first. Both stop at the first
fault, and what was done before stays done.
-/

namespace CheckConstraints

/-- Runs a step on the chosen operations in their order, up to the first fault. -/
def runOperations (chosen : Operation → Bool)
    (step : Operation → World → Outcome Operation (Option Constraint)) :
    List Operation → World → Outcome (List Operation) Unit
  | [], w => ⟨.ok (), [], w⟩
  | op :: ops, w =>
    if chosen op then
      let o := step op w
      match o.result with
      | .error fault => .failed fault (o.subject :: ops) o.world
      | .ok _ => (runOperations chosen step ops o.world).map (o.subject :: ·) id
    else (runOperations chosen step ops w).map (op :: ·) id

structure Migration where
  name : String := "migration"
  /-- The source of suffixes of the anonymous adds. -/
  source : Option SuffixSource := none
  operations : List Operation := []

namespace Migration

def declare (m : Migration) (op : Operation) : Migration :=
  { m with operations := m.operations ++ [op] }

/-- An add of the constraint that a script value describes, with the migration's suffixes. -/
def newAdd (m : Migration) (table : String) (value : Script.Value) (name : Option String) :
    Except Malformed AddOperation :=
  AddOperation.ofShorthand table value name m.source

def reversible (m : Migration) : Bool := m.operations.all Operation.reversible

/-- What stays the same during a run of the migration; its name goes with every event. -/
def env (m : Migration) (env : Env) : Env := { env with migration := some m.name }

def upgrade (env : Env) (m : Migration) (w : World) : Outcome Migration Unit :=
  (runOperations Operation.pending (Operation.apply (m.env env)) m.operations w).map
    (fun operations => { m with operations }) id

/-- Reverses the live operations, newest first. -/
def downgrade (env : Env) (m : Migration) (w : World) : Outcome Migration Unit :=
  (runOperations Operation.live (Operation.reverse (m.env env)) m.operations.reverse w).map
    (fun operations => { m with operations := operations.reverse }) id

end Migration

end CheckConstraints

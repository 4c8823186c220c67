import CheckConstraints.Descriptor.Shorthand
import CheckConstraints.Operation.Outcome

/-!
Adding a check constraint. An add is rolled back by dropping its constraint by name. The constraint
of the first application is remembered: a later application uses its name again.
-/

namespace CheckConstraints

/-- How far an add has come, with the constraint that it created last. -/
inductive AddPhase where
  | declared
  | applied (constraint : Constraint)
  | reversed (constraint : Constraint)
deriving DecidableEq, Repr

structure AddOperation where
  table : String
  descriptor : Descriptor
  name : Option String := none
  source : Option SuffixSource := none
  phase : AddPhase := .declared

namespace AddOperation

def ofShorthand (table : String) (value : Script.Value) (name : Option String)
    (source : Option SuffixSource) : Except Malformed AddOperation := do
  return { table, descriptor := ← Descriptor.ofShorthand value, name, source }

def state (op : AddOperation) : State :=
  match op.phase with
  | .declared => .declared
  | .applied _ => .applied
  | .reversed _ => .reversed

def constraint? (op : AddOperation) : Option Constraint :=
  match op.phase with
  | .declared => none
  | .applied c | .reversed c => some c

/-- The name that the add uses: the one it was applied with, or else the one it was given. -/
def knownName? (op : AddOperation) : Option String :=
  match op.constraint? with
  | some c => some c.name
  | none => op.name

def wrongState (op : AddOperation) (expected : List State) : Fault :=
  .wrongState .add op.table op.state expected

def perform (env : Env) (op : AddOperation) (w : World) : Outcome AddOperation Constraint :=
  match w.create env op.table op.knownName? op.descriptor op.source with
  | (.error fault, w) => .failed fault op w
  | (.ok c, w) =>
    ⟨.ok c, { op with phase := .applied c }, w.report env (.added op.table c.name c.predicate)⟩

def apply (env : Env) (op : AddOperation) (w : World) : Outcome AddOperation Constraint :=
  match op.phase with
  | .declared | .reversed _ => op.perform env w
  | .applied _ => .failed (op.wrongState [.declared, .reversed]) op w

def reverse (env : Env) (op : AddOperation) (w : World) : Outcome AddOperation Unit :=
  match op.phase with
  | .applied c =>
    match w.drop env op.table c.name with
    | (.error fault, w) => .failed fault op w
    | (.ok _, w) =>
      ⟨.ok (), { op with phase := .reversed c }, w.report env (.addReversed op.table c.name)⟩
  | .declared | .reversed _ => .failed (op.wrongState [.applied]) op w

end AddOperation

end CheckConstraints

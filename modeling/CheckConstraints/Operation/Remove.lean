import CheckConstraints.Operation.Add

/-!
Removing a check constraint by name. A removal that carries a descriptor is rolled back by creating
the constraint again; one without is not, and an attempt to do so ends it. The constraint that was
live at the removal is remembered for the advice that the refusal gives.
-/

namespace CheckConstraints

/-- How far a removal has come, with the constraint that it took out last. -/
inductive RemovePhase where
  | declared
  | applied (removed : Option Constraint)
  | reversed (removed : Option Constraint)
  | reversalFailed (removed : Option Constraint)
deriving DecidableEq, Repr

structure RemoveOperation where
  table : String
  name : String
  descriptor : Option Descriptor := none
  phase : RemovePhase := .declared
  /-- The constraint that the last rollback created. -/
  restored : Option Constraint := none

namespace RemoveOperation

def ofShorthand (table name : String) : Option Script.Value → Except Malformed RemoveOperation
  | none => .ok { table, name }
  | some value => do return { table, name, descriptor := some (← Descriptor.ofShorthand value) }

def state (op : RemoveOperation) : State :=
  match op.phase with
  | .declared => .declared
  | .applied _ => .applied
  | .reversed _ => .reversed
  | .reversalFailed _ => .reversalFailed

def removed? (op : RemoveOperation) : Option Constraint :=
  match op.phase with
  | .declared => none
  | .applied removed | .reversed removed | .reversalFailed removed => removed

def reversible (op : RemoveOperation) : Bool := op.descriptor.isSome

def irreversible (op : RemoveOperation) : Fault :=
  .irreversible (.of op.table op.name (op.removed?.map Constraint.predicate))

def wrongState (op : RemoveOperation) (expected : List State) : Fault :=
  .wrongState .remove op.table op.state expected

/-- A descriptor without a predicate makes the removal fail before anything is dropped. -/
def checkDescriptor (op : RemoveOperation) : Except Malformed Unit :=
  match op.descriptor with
  | none => .ok ()
  | some d => d.compile.map fun _ => ()

def perform (env : Env) (op : RemoveOperation) (w : World) :
    Outcome RemoveOperation (Option Constraint) :=
  match op.checkDescriptor with
  | .error cause => .failed (.malformed cause) op w
  | .ok () =>
    match w.drop env op.table op.name with
    | (.error fault, w) => .failed fault op w
    | (.ok removed, w) =>
      ⟨.ok removed, { op with phase := .applied removed },
        w.report env (.removed op.table op.name op.reversible)⟩

def apply (env : Env) (op : RemoveOperation) (w : World) :
    Outcome RemoveOperation (Option Constraint) :=
  match op.phase with
  | .declared | .reversed _ => op.perform env w
  | .applied _ | .reversalFailed _ => .failed (op.wrongState [.declared, .reversed]) op w

/-- Creates the constraint of an applied removal again, under its name. -/
def restore (env : Env) (op : RemoveOperation) (removed : Option Constraint)
    (descriptor : Descriptor) (w : World) : Outcome RemoveOperation Constraint :=
  match w.create env op.table (some op.name) descriptor none with
  | (.error fault, w) => .failed fault op w
  | (.ok c, w) =>
    ⟨.ok c, { op with phase := .reversed removed, restored := some c },
      w.report env (.removeReversed op.table op.name c.predicate)⟩

/-- Rolls an applied removal back. Without a descriptor this fails, and so does every later
attempt. -/
def reverse (env : Env) (op : RemoveOperation) (w : World) : Outcome RemoveOperation Constraint :=
  match op.phase with
  | .applied removed =>
    match op.descriptor with
    | some d => op.restore env removed d w
    | none =>
      .failed op.irreversible { op with phase := .reversalFailed removed }
        (w.report env (.irreversible op.table op.name))
  | .reversalFailed _ => .failed op.irreversible op w
  | .declared | .reversed _ => .failed (op.wrongState [.applied]) op w

def inverse (op : RemoveOperation) : Except Fault AddOperation :=
  match op.descriptor with
  | none => .error op.irreversible
  | some d => .ok { table := op.table, descriptor := d, name := some op.name }

end RemoveOperation

/-- The removal that undoes an add. An anonymous add has none before it was applied. -/
def AddOperation.inverse (op : AddOperation) : Except Fault RemoveOperation :=
  match op.knownName? with
  | none => .error .unnamedAdd
  | some name => .ok { table := op.table, name, descriptor := some op.descriptor }

end CheckConstraints

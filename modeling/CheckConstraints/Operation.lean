import CheckConstraints.Operation.Remove

/-!
Operations on check constraints: adds and removals under one name, with the steps that both have.
-/

namespace CheckConstraints

inductive Operation where
  | add (op : AddOperation)
  | remove (op : RemoveOperation)

namespace Operation

def kind : Operation → OperationKind
  | .add _ => .add
  | .remove _ => .remove

def table : Operation → String
  | .add op => op.table
  | .remove op => op.table

def name? : Operation → Option String
  | .add op => op.name
  | .remove op => some op.name

/-- The name that the operation uses, as far as it is known. -/
def knownName? : Operation → Option String
  | .add op => op.knownName?
  | .remove op => some op.name

def descriptor? : Operation → Option Descriptor
  | .add op => some op.descriptor
  | .remove op => op.descriptor

def state : Operation → State
  | .add op => op.state
  | .remove op => op.state

/-- Whether the operation can be rolled back once it is applied. -/
def reversible : Operation → Bool
  | .add _ => true
  | .remove op => op.reversible

def pending (op : Operation) : Bool := op.state == .declared || op.state == .reversed

def live (op : Operation) : Bool := op.state == .applied || op.state == .reversalFailed

/-- Applies the operation. The answer of a removal is the constraint that it took out. -/
def apply (env : Env) (op : Operation) (w : World) : Outcome Operation (Option Constraint) :=
  match op with
  | .add op => (op.apply env w).map .add some
  | .remove op => (op.apply env w).map .remove id

/-- Rolls the operation back. The answer for a removal is the constraint that it restored. -/
def reverse (env : Env) (op : Operation) (w : World) : Outcome Operation (Option Constraint) :=
  match op with
  | .add op => (op.reverse env w).map .add fun _ => none
  | .remove op => (op.reverse env w).map .remove some

def inverse : Operation → Except Fault Operation
  | .add op => op.inverse.map .remove
  | .remove op => op.inverse.map .add

/-- Every state is one in which an operation is pending or live, and not both. -/
theorem live_eq_not_pending (op : Operation) : op.live = !op.pending := by
  simp only [live, pending]
  cases op.state <;> rfl

end Operation

end CheckConstraints

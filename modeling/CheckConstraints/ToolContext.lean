import CheckConstraints.Operation
import CheckConstraints.Reflection

/-!
Operations run by a migration tool. The tool keeps one registry for a run. It is opened when it is
first needed: from what the database reports where there is a connection, and empty otherwise. To
reverse an operation the tool declares a new one with what the inverse says.
-/

namespace CheckConstraints

/-- The reverse of an operation, for a tool that only knows how to declare operations. -/
def Operation.reversal (op : Operation) : Except Fault Operation := do
  match ← op.inverse with
  | .add inverse =>
    return .add (← (AddOperation.ofShorthand inverse.table (.descriptor inverse.descriptor)
      inverse.name none).mapError .malformed)
  | .remove inverse =>
    return .remove (← (RemoveOperation.ofShorthand inverse.table inverse.name
      (inverse.descriptor.map .descriptor)).mapError .malformed)

structure ToolContext where
  /-- What the connected database reports. -/
  report : Option Report := none
  world : World := {}
  opened : Bool := false

namespace ToolContext

/-- The context with its registry open; a report that cannot be read leaves it closed. -/
def openRegistry (ctx : ToolContext) : Except Fault ToolContext :=
  if ctx.opened then .ok ctx
  else match ctx.report with
    | none => .ok { ctx with opened := true }
    | some report => do
      let registry ← Registry.reflect report none
      return { ctx with world := { ctx.world with registry }, opened := true }

def registry? (ctx : ToolContext) : Option Registry :=
  if ctx.opened then some ctx.world.registry else none

/-- Applies an operation: the answer or a fault, the operation afterwards, and the context
afterwards. -/
def invoke (env : Env) (op : Operation) (ctx : ToolContext) :
    Except Fault (Option Constraint) × Operation × ToolContext :=
  match ctx.openRegistry with
  | .error fault => (.error fault, op, ctx)
  | .ok ctx =>
    let o := op.apply env ctx.world
    (o.result, o.subject, { ctx with world := o.world })

end ToolContext

end CheckConstraints

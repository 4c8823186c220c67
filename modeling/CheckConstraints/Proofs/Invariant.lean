import CheckConstraints.Workspace.Command

/-!
Invariants of a workspace. What every application and every rollback of an operation keeps true of
the world stays true through whatever is done with a workspace, wherever it fails.
-/

namespace CheckConstraints

variable {P : World → Prop}

theorem runOperations_preserves {chosen : Operation → Bool}
    {step : Operation → World → Outcome Operation (Option Constraint)}
    (preserves : ∀ (op : Operation) (w : World), P w → P (step op w).world)
    (ops : List Operation) {w : World} (h : P w) :
    P (runOperations chosen step ops w).world := by
  induction ops generalizing w with
  | nil => exact h
  | cons op ops ih =>
      have head : P (step op w).world := preserves op w h
      simp only [runOperations]
      split
      · split
        · exact head
        · exact ih head
      · exact ih h

namespace Workspace

section
variable (applies : ∀ (env : Env) (op : Operation) (w : World), P w → P (op.apply env w).world)
  (reverses : ∀ (env : Env) (op : Operation) (w : World), P w → P (op.reverse env w).world)
include applies reverses

theorem execute_preserves (env : Env) (ws : Workspace) (command : Command) (h : P ws.world) :
    P (ws.execute env command).world := by
  cases command with
  | declare op | declareMigration m | declareWithin m op => exact h
  | apply handle =>
      simp only [execute]
      split
      · exact applies env _ ws.world h
      · exact h
  | reverse handle =>
      simp only [execute]
      split
      · exact reverses env _ ws.world h
      · exact h
  | invert handle =>
      simp only [execute]
      split <;> exact h
  | upgrade index =>
      simp only [execute]
      split
      · exact runOperations_preserves (applies _) _ h
      · exact h
  | downgrade index =>
      simp only [execute]
      split
      · exact runOperations_preserves (reverses _) _ h
      · exact h

theorem run_preserves (ws : Workspace) (commands : List (Env × Command)) (h : P ws.world) :
    P (ws.run commands).world := by
  induction commands generalizing ws with
  | nil => exact h
  | cons command commands ih =>
      exact ih _ (execute_preserves applies reverses command.1 ws command.2 h)

end

end Workspace

end CheckConstraints

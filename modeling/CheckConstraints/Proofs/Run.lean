import CheckConstraints.Proofs.Stack

/-!
Runs over a stack of live operations. An upgrade puts the operations that it applies on top of the
stack, in their order, and a downgrade takes operations off, newest first. A run that fails on its
way stops between two operations, so that the stack is whole wherever it stops. What was left to do
stays as it was.
-/

namespace CheckConstraints

section
variable (chosen : Operation → Bool)
  (step : Operation → World → Outcome Operation (Option Constraint))

/-- The steps that a run completes, each as the operation and the world that it started from. -/
def completedSteps : List Operation → World → List (Operation × World)
  | [], _ => []
  | op :: ops, w =>
    if chosen op then
      match (step op w).result with
      | .error _ => []
      | .ok _ => (op, w) :: completedSteps ops (step op w).world
    else completedSteps ops w

variable {op : Operation} {ops skipped : List Operation} {w : World}

theorem runOperations_skip (skip : ∀ op ∈ skipped, chosen op = false) :
    runOperations chosen step (skipped ++ ops) w =
      (runOperations chosen step ops w).map (skipped ++ ·) id := by
  induction skipped with
  | nil => simp [Outcome.map]
  | cons first skipped ih =>
      have rest := ih fun op member => skip op (List.mem_cons_of_mem _ member)
      have head : chosen first = false := skip first List.mem_cons_self
      simp [runOperations, head, rest, Outcome.map]

theorem completedSteps_skip (skip : ∀ op ∈ skipped, chosen op = false) :
    completedSteps chosen step (skipped ++ ops) w = completedSteps chosen step ops w := by
  induction skipped with
  | nil => rfl
  | cons first skipped ih =>
      have rest := ih fun op member => skip op (List.mem_cons_of_mem _ member)
      have head : chosen first = false := skip first List.mem_cons_self
      simp [completedSteps, head, rest]

theorem runOperations_error {fault : Fault} (h : chosen op = true)
    (failed : (step op w).result = .error fault) :
    runOperations chosen step (op :: ops) w =
      .failed fault ((step op w).subject :: ops) (step op w).world := by
  simp [runOperations, h, failed]

theorem runOperations_ok {answer : Option Constraint} (h : chosen op = true)
    (done : (step op w).result = .ok answer) :
    runOperations chosen step (op :: ops) w =
      (runOperations chosen step ops (step op w).world).map ((step op w).subject :: ·) id := by
  simp [runOperations, h, done]

theorem runOperations_pass (h : chosen op = false) :
    runOperations chosen step (op :: ops) w =
      (runOperations chosen step ops w).map (op :: ·) id := by
  simp [runOperations, h]

theorem completedSteps_ok {answer : Option Constraint} (h : chosen op = true)
    (done : (step op w).result = .ok answer) :
    completedSteps chosen step (op :: ops) w =
      (op, w) :: completedSteps chosen step ops (step op w).world := by
  simp [completedSteps, h, done]

end

namespace Outcome

theorem map_result {σ τ : Type} (f : σ → τ) (o : Outcome σ Unit) :
    (o.map f id).result = o.result := by
  cases h : o.result <;> simp [map, Except.map, h]

theorem map_eq {σ τ : Type} (f : σ → τ) (o : Outcome σ Unit) :
    o.map f id = ⟨o.result, f o.subject, o.world⟩ := by
  rw [← map_result f o]
  rfl

theorem result_of_isOk {σ : Type} (o : Outcome σ Unit) (h : o.result.isOk = true) :
    o.result = .ok () := by
  cases result : o.result with
  | error fault => simp [result, Except.isOk, Except.toBool] at h
  | ok _ => rfl

end Outcome

section Append
variable {chosen : Operation → Bool}
  {step : Operation → World → Outcome Operation (Option Constraint)}
  {ops : List Operation} {w : World}

/-- A run goes on after operations with which it completes from where it came to. -/
theorem runOperations_append (more : List Operation)
    (completes : (runOperations chosen step ops w).result = .ok ()) :
    runOperations chosen step (ops ++ more) w =
      (runOperations chosen step more (runOperations chosen step ops w).world).map
        ((runOperations chosen step ops w).subject ++ ·) id := by
  induction ops generalizing w with
  | nil => simp [runOperations, Outcome.map_eq]
  | cons op ops ih =>
      cases picked : chosen op with
      | false =>
          rw [runOperations_pass _ _ picked, Outcome.map_result] at completes
          rw [List.cons_append, runOperations_pass _ _ picked, ih completes,
            runOperations_pass _ _ picked]
          simp [Outcome.map_eq]
      | true =>
          cases taken : (step op w).result with
          | error fault =>
              rw [runOperations_error _ _ picked taken] at completes
              cases completes
          | ok answer =>
              rw [runOperations_ok _ _ picked taken, Outcome.map_result] at completes
              rw [List.cons_append, runOperations_ok _ _ picked taken, ih completes,
                runOperations_ok _ _ picked taken]
              simp [Outcome.map_eq]

theorem completes_of_append {more : List Operation}
    (completes : (runOperations chosen step (ops ++ more) w).result = .ok ()) :
    (runOperations chosen step ops w).result = .ok () := by
  induction ops generalizing w with
  | nil => rfl
  | cons op ops ih =>
      rw [List.cons_append] at completes
      cases picked : chosen op with
      | false =>
          rw [runOperations_pass _ _ picked, Outcome.map_result] at completes ⊢
          exact ih completes
      | true =>
          cases taken : (step op w).result with
          | error fault =>
              rw [runOperations_error _ _ picked taken] at completes
              cases completes
          | ok answer =>
              rw [runOperations_ok _ _ picked taken, Outcome.map_result] at completes ⊢
              exact ih completes

theorem completedSteps_append (more : List Operation)
    (completes : (runOperations chosen step ops w).result = .ok ()) :
    completedSteps chosen step (ops ++ more) w = completedSteps chosen step ops w ++
      completedSteps chosen step more (runOperations chosen step ops w).world := by
  induction ops generalizing w with
  | nil => rfl
  | cons op ops ih =>
      cases picked : chosen op with
      | false =>
          rw [runOperations_pass _ _ picked, Outcome.map_result] at completes
          simp [completedSteps, runOperations_pass _ _ picked, picked, Outcome.map_eq,
            ih completes]
      | true =>
          cases taken : (step op w).result with
          | error fault =>
              rw [runOperations_error _ _ picked taken] at completes
              cases completes
          | ok answer =>
              rw [runOperations_ok _ _ picked taken, Outcome.map_result] at completes
              simp [completedSteps_ok _ _ picked taken, runOperations_ok _ _ picked taken,
                Outcome.map_eq, ih completes]

theorem length_completedSteps (all : ∀ op ∈ ops, chosen op = true)
    (completes : (runOperations chosen step ops w).result = .ok ()) :
    (completedSteps chosen step ops w).length = ops.length := by
  induction ops generalizing w with
  | nil => rfl
  | cons op ops ih =>
      have picked : chosen op = true := all op List.mem_cons_self
      cases taken : (step op w).result with
      | error fault =>
          rw [runOperations_error _ _ picked taken] at completes
          cases completes
      | ok answer =>
          rw [runOperations_ok _ _ picked taken, Outcome.map_result] at completes
          have rest := ih (fun op member => all op (List.mem_cons_of_mem _ member)) completes
          rw [completedSteps_ok _ _ picked taken, List.length_cons, rest, List.length_cons]

end Append

/-- An upgrade that completes leaves nothing of what it came to unapplied. -/
theorem upgrade_applies (env : Env) {ops : List Operation} {w : World}
    (pending : ∀ op ∈ ops, op.pending = true)
    (completes : (runOperations Operation.pending (Operation.apply env) ops w).result = .ok ()) :
    let o := runOperations Operation.pending (Operation.apply env) ops w
    o.subject.map Operation.state = List.replicate ops.length .applied ∧
      o.subject.map Operation.declaration = ops.map Operation.declaration := by
  induction ops generalizing w with
  | nil => exact ⟨rfl, rfl⟩
  | cons op ops ih =>
      have head : op.pending = true := pending op List.mem_cons_self
      obtain ⟨fault, failed, _⟩ | ⟨answer, applied, took⟩ := op.apply_cases env w
      · rw [runOperations_error _ _ head failed] at completes
        cases completes
      · rw [runOperations_ok _ _ head applied] at completes ⊢
        rw [Outcome.map_result] at completes
        obtain ⟨states, declarations⟩ :=
          ih (fun op member => pending op (List.mem_cons_of_mem _ member)) completes
        simp [Outcome.map_eq, states, declarations, took.state_eq, took.declaration_eq,
          List.replicate_succ]

/-- What an upgrade leaves behind: it applied the operations `done` by the statements `forward` and
did not come to those of `rest`. -/
structure Raised (start : Catalog) (below ops : List Operation) (ss : List Statement) (w : World)
    (o : Outcome (List Operation) Unit) (done rest : List Operation)
    (forward : List Statement) : Prop where
  split : o.subject = done ++ rest
  pending : ∀ op ∈ rest, op.pending = true
  stacked : Stacked start (done.reverse ++ below) (ss ++ forward) o.world.registry.catalog
  emitted : o.world.emitted = w.emitted ++ forward
  declarations : o.subject.map Operation.declaration = ops.map Operation.declaration
  complete : o.result = .ok () → rest = []

theorem upgrade_raises (env : Env) {start : Catalog} (ops : List Operation) {below : List Operation}
    {ss : List Statement} {w : World} (stacked : Stacked start below ss w.registry.catalog)
    (pending : ∀ op ∈ ops, op.pending = true)
    (finds : ∀ s ∈ completedSteps Operation.pending (Operation.apply env) ops w,
      s.1.Finds s.2.registry.catalog) :
    ∃ done rest forward, Raised start below ops ss w
      (runOperations Operation.pending (Operation.apply env) ops w) done rest forward := by
  induction ops generalizing below ss w with
  | nil =>
      exact ⟨[], [], [], rfl, by simp, by simpa [runOperations] using stacked,
        by simp [runOperations], rfl, fun _ => rfl⟩
  | cons op ops ih =>
      have head : op.pending = true := pending op List.mem_cons_self
      have tail : ∀ op ∈ ops, op.pending = true :=
        fun op member => pending op (List.mem_cons_of_mem _ member)
      obtain ⟨fault, failed, subject, same⟩ | ⟨answer, applied, took⟩ := op.apply_cases env w
      · rw [runOperations_error _ _ head failed]
        refine ⟨[], op :: ops, [], ?_, pending, ?_, ?_, ?_, ?_⟩
        · simp [Outcome.failed, subject]
        · simpa [Outcome.failed, same.registry] using stacked
        · simpa [Outcome.failed] using same.emitted
        · simp [Outcome.failed, subject]
        · intro completes
          cases completes
      · obtain ⟨s, statement, emits⟩ := took.emits_statement
        rw [completedSteps_ok _ _ head applied] at finds
        have found : op.Finds w.registry.catalog := finds (op, w) List.mem_cons_self
        have pushed := Stacked.push stacked (took.standsOn found) statement
        rw [← emits.catalog] at pushed
        obtain ⟨done, rest, forward, later⟩ :=
          ih pushed tail fun step member => finds step (List.mem_cons_of_mem _ member)
        rw [runOperations_ok _ _ head applied]
        refine ⟨(op.apply env w).subject :: done, rest, s :: forward, ?_, later.pending, ?_, ?_,
          ?_, ?_⟩
        · simp [Outcome.map, later.split]
        · simpa [Outcome.map] using later.stacked
        · simp [Outcome.map, later.emitted, emits.emitted]
        · simp [Outcome.map, later.declarations, took.declaration_eq]
        · intro completes
          exact later.complete (Outcome.map_result _ _ ▸ completes)

/-- What a downgrade leaves behind: it took the operations `back` off the stack, whose statements
`undone` it rolled back by the statements `backs`, and left those of `rest` on it. -/
structure Lowered (start : Catalog) (ops : List Operation) (ss : List Statement) (w : World)
    (o : Outcome (List Operation) Unit) (back rest : List Operation)
    (left undone backs : List Statement) : Prop where
  split : o.subject = back ++ rest
  reversed : ∀ op ∈ back, op.state = .reversed
  stacked : Stacked start rest left o.world.registry.catalog
  statements : ss = left ++ undone
  rollback : (start.replay left).rollback? undone = some backs
  emitted : o.world.emitted = w.emitted ++ backs
  declarations : o.subject.map Operation.declaration = ops.map Operation.declaration
  complete : o.result = .ok () → rest = []

theorem downgrade_lowers (env : Env) {start cat : Catalog} {ops : List Operation}
    {ss : List Statement} {w : World} (stacked : Stacked start ops ss cat)
    (top : w.registry.catalog = cat) :
    ∃ back rest left undone backs, Lowered start ops ss w
      (runOperations Operation.live (Operation.reverse env) ops w) back rest left undone backs := by
  induction stacked generalizing w with
  | base =>
      refine ⟨[], [], [], [], [], rfl, by simp, ?_, rfl, rfl, by simp [runOperations], rfl,
        fun _ => rfl⟩
      rw [← top]
      exact .base
  | @push op s ops ss cat below stands statement ih =>
      have head : op.live = true := Operation.live_of_standsOn stands
      obtain ⟨fault, failed, subject, same⟩ | ⟨answer, reversed, took⟩ := op.reverse_cases env w
      · rw [runOperations_error _ _ head failed]
        refine ⟨[], op.afterFailure :: ops, ss ++ [s], [], [], ?_, by simp, ?_, by simp, rfl, ?_,
          ?_, ?_⟩
        · simp [Outcome.failed, subject]
        · have kept := Stacked.push below (Operation.afterFailure_standsOn stands)
            (op.afterFailure_statement?.trans statement)
          simpa [Outcome.failed, same.registry, top] using kept
        · simpa [Outcome.failed] using same.emitted
        · simp [Outcome.failed, subject, Operation.afterFailure_declaration]
        · intro completes
          cases completes
      · obtain ⟨undo, undoes, emits, lower⟩ := took.emits_undo stands statement top
        obtain ⟨back, rest, left, undone, backs, later⟩ := ih lower
        rw [runOperations_ok _ _ head reversed]
        refine ⟨(op.reverse env w).subject :: back, rest, left, undone ++ [s], undo :: backs, ?_,
          ?_, later.stacked, ?_, ?_, ?_, ?_, ?_⟩
        · simp [Outcome.map, later.split]
        · simpa [took.state_eq] using later.reversed
        · rw [later.statements, List.append_assoc]
        · refine Catalog.rollback?_concat _ ?_ later.rollback
          rw [← Catalog.replay_append, ← later.statements, ← below.catalog_eq]
          exact undoes
        · simp [Outcome.map, later.emitted, emits.emitted]
        · simp [Outcome.map, later.declarations, took.declaration_eq]
        · intro completes
          exact later.complete (Outcome.map_result _ _ ▸ completes)

end CheckConstraints

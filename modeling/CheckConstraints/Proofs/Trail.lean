import CheckConstraints.Proofs.Accounting
import CheckConstraints.Proofs.Run
import CheckConstraints.Workspace.Command
import Mathlib.Algebra.BigOperators.Group.List.Basic

/-!
The log is an audit trail. Whatever is done with a workspace and wherever it fails, the log, read
back, is the list of the statements that were emitted meanwhile. There are as many warnings of a
place as there are removals of it that came to their end, however often they were rolled back.
-/

namespace CheckConstraints

namespace Operation

/-- The places of the removals that are over, each as often as there are some of it. -/
def endings (ops : List Operation) : Multiset (String × String) := (ops.map ending).sum

@[simp] theorem endings_cons (op : Operation) (ops : List Operation) :
    endings (op :: ops) = op.ending + endings ops := by
  simp [endings]

theorem endings_reverse (ops : List Operation) : endings ops.reverse = endings ops := by
  simp [endings, List.sum_reverse]

theorem endings_eq_zero {ops : List Operation} (declared : ∀ op ∈ ops, op.state = .declared) :
    endings ops = 0 := by
  apply List.sum_eq_zero
  simp only [List.mem_map]
  rintro _ ⟨op, member, rfl⟩
  exact ending_eq_zero (by simp [declared op member])

end Operation

open Operation (endings)

section Run
variable {step : Operation → World → Outcome Operation (Option Constraint)}

/-- A run is accounted for, wherever it stops, if each of its steps is. -/
theorem runOperations_accounted (chosen : Operation → Bool)
    (accounts : ∀ (op : Operation) (w : World), op.AccountedStep w (step op w))
    (ops : List Operation) (w : World) :
    let o := runOperations chosen step ops w
    ∃ warnings, w.Accounted o.world warnings ∧ endings o.subject = endings ops + warnings := by
  induction ops generalizing w with
  | nil => exact ⟨0, .refl w, (add_zero _).symm⟩
  | cons op ops ih =>
      cases picked : chosen op with
      | false =>
          obtain ⟨warnings, accounted, ended⟩ := ih w
          rw [runOperations_pass _ _ picked, Outcome.map_eq]
          exact ⟨warnings, accounted, by simp [ended, add_assoc]⟩
      | true =>
          obtain ⟨first, head, headEnded⟩ := accounts op w
          cases taken : (step op w).result with
          | error fault =>
              rw [runOperations_error _ _ picked taken]
              exact ⟨first, head, by simp [Outcome.failed, headEnded, add_right_comm]⟩
          | ok answer =>
              obtain ⟨more, tail, tailEnded⟩ := ih (step op w).world
              rw [runOperations_ok _ _ picked taken, Outcome.map_eq]
              refine ⟨first + more, head.trans tail, ?_⟩
              simp [headEnded, tailEnded, add_add_add_comm]

end Run

namespace Migration

/-- What a run of a migration leaves behind is accounted for. -/
def AccountedRun (m : Migration) (w : World) (o : Outcome Migration Unit) : Prop :=
  ∃ warnings, w.Accounted o.world warnings ∧
    endings o.subject.operations = endings m.operations + warnings

theorem upgrade_accounted (env : Env) (m : Migration) (w : World) :
    m.AccountedRun w (m.upgrade env w) :=
  runOperations_accounted Operation.pending (Operation.apply_accounted (m.env env)) m.operations w

theorem downgrade_accounted (env : Env) (m : Migration) (w : World) :
    m.AccountedRun w (m.downgrade env w) := by
  obtain ⟨warnings, accounted, ended⟩ := runOperations_accounted Operation.live
    (Operation.reverse_accounted (m.env env)) m.operations.reverse w
  refine ⟨warnings, accounted, ?_⟩
  -- the run goes from the last operation to the first, which the sum does not see
  rw [Operation.endings_reverse] at ended
  rw [← ended]
  exact Operation.endings_reverse _

end Migration

/-- What is put in the place of a term raises the sum by what it is more than the term. -/
theorem sum_set_add {M : Type} [AddCommMonoid M] {terms : List M} {i : Nat} {term : M}
    (found : terms[i]? = some term) (more : M) :
    (terms.set i (term + more)).sum = terms.sum + more := by
  induction terms generalizing i with
  | nil => cases found
  | cons first terms ih =>
      cases i with
      | zero =>
          obtain rfl : first = term := Option.some.inj found
          simp [add_right_comm]
      | succ i =>
          have rest := ih found
          simp [rest, add_assoc]

/-- What the command declares was not applied yet. -/
def Command.Fresh : Command → Prop
  | .declare op | .declareWithin _ op => op.state = .declared
  | .declareMigration m => ∀ op ∈ m.operations, op.state = .declared
  | _ => True

namespace Workspace

/-- The places of the removals of the workspace that are over. -/
def endings (ws : Workspace) : Multiset (String × String) :=
  Operation.endings ws.operations +
    (ws.migrations.map fun m => Operation.endings m.operations).sum

section
variable {ws : Workspace} {index : Nat} {m : Migration} {op op' : Operation}
  {warnings : Multiset (String × String)}

theorem set_migration_endings (m' : Migration) (found : ws.migrations[index]? = some m)
    (ended : Operation.endings m'.operations = Operation.endings m.operations + warnings) :
    { ws with migrations := ws.migrations.set index m' }.endings = ws.endings + warnings := by
  have term : (ws.migrations.map fun m => Operation.endings m.operations)[index]? =
      some (Operation.endings m.operations) := by simp [found]
  simp [endings, ended, sum_set_add term, add_assoc]

theorem setOperation_endings {handle : Handle} (found : ws.operation? handle = some op)
    (ended : op'.ending = op.ending + warnings) :
    (ws.setOperation op' handle).endings = ws.endings + warnings := by
  have raised : ∀ {ops : List Operation} {i : Nat}, ops[i]? = some op →
      Operation.endings (ops.set i op') = Operation.endings ops + warnings := by
    intro ops i at_i
    have term : (ops.map Operation.ending)[i]? = some op.ending := by simp [at_i]
    simp only [Operation.endings, List.map_set, ended, sum_set_add term]
  cases handle with
  | alone i => simp [setOperation, endings, raised found, add_right_comm]
  | within index i =>
      obtain ⟨m, at_index, at_i⟩ := Option.bind_eq_some_iff.mp found
      have changed :=
        set_migration_endings { m with operations := m.operations.set i op' } at_index (raised at_i)
      simpa [setOperation, List.modify_eq_set_getElem?, at_index] using changed

theorem declare_endings (ws : Workspace) (fresh : op.ending = 0) :
    (ws.declare op).2.endings = ws.endings := by
  simp [declare, endings, Operation.endings, fresh]

theorem declareWithin_endings (ws : Workspace) (index : Nat) (fresh : op.ending = 0) :
    (ws.declareWithin index op).2.endings = ws.endings := by
  cases at_index : ws.migrations[index]? with
  | none => simp [declareWithin, List.modify_eq_set_getElem?, at_index]
  | some m =>
      have same : Operation.endings (m.declare op).operations =
          Operation.endings m.operations + 0 := by
        simp [Migration.declare, Operation.endings, fresh]
      have changed := set_migration_endings (m.declare op) at_index same
      simpa [declareWithin, List.modify_eq_set_getElem?, at_index] using changed

end

/-- A command is accounted for: the log tells of what it emitted and warns of the removals that it
brought to their end. -/
theorem execute_accounted (env : Env) (ws : Workspace) (command : Command)
    (fresh : command.Fresh) :
    ∃ warnings, ws.world.Accounted (ws.execute env command).world warnings ∧
      (ws.execute env command).endings = ws.endings + warnings := by
  have nothing : ∃ warnings, ws.world.Accounted ws.world warnings ∧
      ws.endings = ws.endings + warnings := ⟨0, .refl _, (add_zero _).symm⟩
  cases command with
  | declare op =>
      have ending : op.ending = 0 := Operation.ending_eq_zero (by rw [fresh]; decide)
      exact ⟨0, .refl _, by rw [execute, ws.declare_endings ending, add_zero]⟩
  | declareWithin index op =>
      have ending : op.ending = 0 := Operation.ending_eq_zero (by rw [fresh]; decide)
      exact ⟨0, .refl _, by rw [execute, ws.declareWithin_endings index ending, add_zero]⟩
  | declareMigration m =>
      have ending := Operation.endings_eq_zero fresh
      refine ⟨0, .refl _, ?_⟩
      simp [execute, declareMigration, endings, ending]
  | invert handle =>
      simp only [execute]
      cases inverts : (ws.operation? handle).map Operation.inverse with
      | none => exact nothing
      | some inverted =>
          cases inverted with
          | error fault => exact nothing
          | ok inverse =>
              obtain ⟨op, _, inverts⟩ := Option.map_eq_some_iff.mp inverts
              refine ⟨0, .refl _, ?_⟩
              exact (ws.declare_endings (Operation.inverse_ending inverts)).trans (add_zero _).symm
  | apply handle =>
      simp only [execute]
      cases found : ws.operation? handle with
      | none => exact nothing
      | some op =>
          obtain ⟨warnings, accounted, ended⟩ := op.apply_accounted env ws.world
          exact ⟨warnings, accounted, setOperation_endings found ended⟩
  | reverse handle =>
      simp only [execute]
      cases found : ws.operation? handle with
      | none => exact nothing
      | some op =>
          obtain ⟨warnings, accounted, ended⟩ := op.reverse_accounted env ws.world
          exact ⟨warnings, accounted, setOperation_endings found ended⟩
  | upgrade index =>
      simp only [execute]
      cases found : ws.migrations[index]? with
      | none => exact nothing
      | some m =>
          obtain ⟨warnings, accounted, ended⟩ := m.upgrade_accounted env ws.world
          exact ⟨warnings, accounted, set_migration_endings _ found ended⟩
  | downgrade index =>
      simp only [execute]
      cases found : ws.migrations[index]? with
      | none => exact nothing
      | some m =>
          obtain ⟨warnings, accounted, ended⟩ := m.downgrade_accounted env ws.world
          exact ⟨warnings, accounted, set_migration_endings _ found ended⟩

theorem run_accounted (ws : Workspace) (commands : List (Env × Command))
    (fresh : ∀ command ∈ commands, command.2.Fresh) :
    ∃ warnings, ws.world.Accounted (ws.run commands).world warnings ∧
      (ws.run commands).endings = ws.endings + warnings := by
  induction commands generalizing ws with
  | nil => exact ⟨0, .refl _, (add_zero _).symm⟩
  | cons command commands ih =>
      obtain ⟨first, head, headEnded⟩ :=
        execute_accounted command.1 ws command.2 (fresh command List.mem_cons_self)
      obtain ⟨more, tail, tailEnded⟩ := ih (ws.execute command.1 command.2)
        fun command member => fresh command (List.mem_cons_of_mem _ member)
      exact ⟨first + more, head.trans tail, by rw [run, tailEnded, headEnded, add_assoc]⟩

/-- One entry tells of each emitted statement, in their order, and one warning of each removal that
came to its end. A step that fails emits nothing and tells of nothing, and one of an operation that
is over does not do anything. -/
theorem run_trail (ws : Workspace) (commands : List (Env × Command))
    (fresh : ∀ command ∈ commands, command.2.Fresh) {logging : Logging}
    (captures : logging.CapturesAll) :
    (∃ (entries : List LogEntry) (ss : List Statement) (ended : List (String × String)),
      (ws.run commands).world.log = ws.world.log ++ entries ∧
      (ws.run commands).world.emitted = ws.world.emitted ++ ss ∧
      (ws.run commands).endings = ws.endings + ↑ended ∧
      (logging.deliverAll entries).1.filterMap LogOutput.entry? = entries ∧
      (entries.filter (·.event.tells)).map (·.event.statement?) = ss.map some ∧
      (entries.filter (·.event.warns)).map (·.event.warning?) = ended.map some) ∧
    ∀ (env : Env) (op : Operation) (w : World) (o : Outcome Operation (Option Constraint)),
      o = op.apply env w ∨ o = op.reverse env w →
      ∃ entries, o.world.log = w.log ++ entries ∧
        o.subject.ending = op.ending + LogEntry.warned entries ∧
        (∀ fault, o.result = .error fault →
          o.world.emitted = w.emitted ∧ ∀ entry ∈ entries, entry.event.tells = false) ∧
        (op.state = .reversalFailed → o.subject = op ∧ o.world = w) := by
  refine ⟨?_, ?_⟩
  · obtain ⟨_, ⟨entries, log, emitted, rfl⟩, endings⟩ := ws.run_accounted commands fresh
    exact ⟨entries, LogEntry.told entries, _, log, emitted, endings, captures.deliverAll entries,
      LogEntry.map_statement? entries, LogEntry.map_warning? entries⟩
  · intro env op w o taken
    have accounted : op.AccountedStep w o := by
      obtain rfl | rfl := taken
      · exact op.apply_accounted env w
      · exact op.reverse_accounted env w
    obtain ⟨_, ⟨entries, log, emitted, rfl⟩, ended⟩ := accounted
    refine ⟨entries, log, ended, ?_, ?_⟩
    · intro fault failed
      have same : o.world.emitted = w.emitted := by
        obtain rfl | rfl := taken
        · exact (Operation.untouched_of_apply_error failed).2.emitted
        · exact (Operation.untouched_of_reverse_error failed).2.emitted
      rw [same] at emitted
      exact ⟨same, LogEntry.told_eq_nil_iff.mp (List.append_right_eq_self.mp emitted.symm)⟩
    · intro ended
      obtain ⟨applied, unmoved, reversed, unmoved'⟩ := Operation.step_of_ended ended env w
      obtain rfl | rfl := taken
      · exact ⟨applied, unmoved⟩
      · exact ⟨reversed, unmoved'⟩

/-- The executor refuses the second application of an anonymous add, and the last statement of an
upgrade. Two removals without a descriptor are rolled back again and again, one of them by its
migration. -/
theorem run_trail_of_retried_rollbacks :
    let refusing : Env := { Env.standard with executor := .failingOn [3, 6] .accepting }
    let commands : List (Env × Command) := [
      (.standard, .declare (.add { table := "t", descriptor := .raw "a > 0" })),
      (.standard, .declare (.remove { table := "t", name := "old" })),
      (.standard, .declareMigration { operations := [.remove { table := "t", name := "old" },
        .add { table := "t", descriptor := .raw "b > 0" }] }),
      (refusing, .apply (.alone 0)), (refusing, .reverse (.alone 0)),
      (refusing, .apply (.alone 0)), (refusing, .apply (.alone 0)),
      (refusing, .upgrade 0), (refusing, .downgrade 0), (refusing, .upgrade 0),
      (refusing, .downgrade 0), (refusing, .downgrade 0),
      (refusing, .apply (.alone 1)), (refusing, .reverse (.alone 1)),
      (refusing, .reverse (.alone 1))]
    let logging : Logging := { root := some 10, naming := some 0 }
    let ws := Workspace.run {} commands
    (logging.deliverAll ws.world.log).1.filterMap LogOutput.entry? = ws.world.log ∧
    (ws.world.log.filter (·.event.tells)).map (·.event.statement?) = ws.world.emitted.map some ∧
    ws.world.emitted.length = 7 ∧ ws.endings = {("t", "old"), ("t", "old")} := by
  intro refusing commands logging ws
  have captures : logging.CapturesAll := by
    rintro root configured (_ | _) <;> cases configured <;> decide
  obtain ⟨⟨entries, ss, ended, log, emitted, _, delivered, told, _⟩, _⟩ :=
    run_trail {} commands (by simp [commands, Command.Fresh]; decide) captures
  simp only [List.nil_append] at log emitted
  subst log emitted
  refine ⟨?_, ?_, by decide +kernel, by decide +kernel⟩
  · with_reducible exact delivered
  · with_reducible exact told

end Workspace

end CheckConstraints

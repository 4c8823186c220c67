import CheckConstraints.Proofs.Inversion

/-!
The life of an operation under any calls, each made in a world of its own and with an executor that
may refuse its statement. A call moves an operation along the changes of state that there are, or
leaves it as it is. A removal that is over answers every later call with a refusal and stays over.
An add remembers the constraint of its first application: the later ones create it once more, though
they are given its name instead of looking for one.
-/

namespace CheckConstraints

/-- What an operation is asked for: to be applied, to be rolled back, or for its inverse. -/
inductive Call where
  | apply
  | reverse
  | inverse
deriving DecidableEq

/-- A call with what it meets. The worlds of different calls have nothing to do with each other. -/
structure Encounter where
  call : Call
  env : Env
  world : World

/-- The answer to a call. -/
inductive Reply where
  | constraint (c : Option Constraint)
  | operation (op : Operation)

/-- The changes of state that there are. -/
inductive State.Next : State → State → Prop where
  | applied : Next .declared .applied
  | appliedAgain : Next .reversed .applied
  | reversed : Next .applied .reversed
  | ended : Next .applied .reversalFailed

/-- What a removal that is over has to say to a call. -/
def IrreversibleRemoval.answer (refusal : IrreversibleRemoval) : Call → Fault
  | .apply => .wrongState .remove refusal.table .reversalFailed [.declared, .reversed]
  | .reverse | .inverse => .irreversible refusal

namespace Operation

def meet (op : Operation) (e : Encounter) : Outcome Operation Reply :=
  match e.call with
  | .apply => (op.apply e.env e.world).map id .constraint
  | .reverse => (op.reverse e.env e.world).map id .constraint
  | .inverse => ⟨op.inverse.map .operation, op, e.world⟩

/-- The operation after a number of calls, made one after the other. -/
def after (op : Operation) (history : List Encounter) : Operation :=
  history.foldl (fun op e => (op.meet e).subject) op

/-- The constraint that an add remembers. -/
def remembered? : Operation → Option Constraint
  | .add op => op.constraint?
  | .remove _ => none

/-- The add remembers a constraint that it created from its own descriptor. -/
def Remembers : Operation → Constraint → Prop
  | .add op, c => op.constraint? = some c ∧ c.table = op.table ∧
      c.source = some op.descriptor ∧ op.descriptor.compile = .ok c.predicate
  | .remove _, _ => False

/-- How a call that met a world can leave an operation. -/
inductive Moves (w : World) : Operation → Operation → Prop where
  | stays {op : Operation} : Moves w op op
  | applied {op op' : Operation} {w' : World} (took : op.Applied w op' w') : Moves w op op'
  | reversed {op op' : Operation} {w' : World} (took : op.Reversed w op' w') : Moves w op op'
  | ended {op : RemoveOperation} {removed : Option Constraint}
      (phase : op.phase = .applied removed) (blind : op.descriptor = none) :
      Moves w (.remove op) (.remove { op with phase := .reversalFailed removed })

theorem afterFailure_moves (op : Operation) (w : World) : op.Moves w op.afterFailure := by
  cases op with
  | add op => exact .stays
  | remove op =>
      simp only [afterFailure]
      split
      · rename_i phase blind
        exact .ended phase blind
      · exact .stays

theorem meet_moves (op : Operation) (e : Encounter) : op.Moves e.world (op.meet e).subject := by
  simp only [meet]
  cases e.call with
  | apply =>
      obtain ⟨_, _, subject, _⟩ | ⟨_, _, took⟩ := op.apply_cases e.env e.world
      · simp only [Outcome.map, subject]
        exact .stays
      · exact .applied took
  | reverse =>
      obtain ⟨_, _, subject, _⟩ | ⟨_, _, took⟩ := op.reverse_cases e.env e.world
      · simp only [Outcome.map, subject]
        exact op.afterFailure_moves e.world
      · exact .reversed took
  | inverse => exact .stays

section Moves
variable {op op' : Operation} {w : World} {c : Constraint}

theorem Moves.declaration_eq (h : op.Moves w op') : op'.declaration = op.declaration := by
  cases h with
  | stays => rfl
  | applied took => exact took.declaration_eq
  | reversed took => exact took.declaration_eq
  | ended phase blind => rfl

theorem Moves.next (h : op.Moves w op') (changed : op'.state ≠ op.state) :
    op.state.Next op'.state ∧
      (op'.state = .reversalFailed → op.kind = .remove ∧ op.descriptor? = none) := by
  cases h with
  | stays => exact absurd rfl changed
  | applied took =>
      rw [took.state_eq]
      refine ⟨?_, fun ended => by cases ended⟩
      have pending : op.pending = true := by
        cases took with
        | add pending created => exact pending
        | remove pending compiles dropped => exact pending
      cases state : op.state with
      | declared => exact .applied
      | reversed => exact .appliedAgain
      | applied | reversalFailed => simp [Operation.pending, state] at pending
  | reversed took =>
      rw [took.state_eq]
      refine ⟨?_, fun ended => by cases ended⟩
      have applied : op.state = .applied := by
        cases took with
        | add phase dropped => exact AddOperation.state_eq_applied_iff.mpr ⟨_, phase⟩
        | remove phase described created =>
            exact RemoveOperation.state_eq_applied_iff.mpr ⟨_, phase⟩
      rw [applied]
      exact .reversed
  | @ended op removed phase blind =>
      have applied : (Operation.remove op).state = .applied :=
        RemoveOperation.state_eq_applied_iff.mpr ⟨_, phase⟩
      rw [applied]
      exact ⟨.ended, fun _ => ⟨rfl, blind⟩⟩

/-- What an add remembers it is told to create again, and there is only one such constraint. -/
theorem Moves.remembers (h : op.Moves w op') (remembers : op.Remembers c) : op'.Remembers c := by
  cases h with
  | stays => exact remembers
  | applied took =>
      cases took with
      | @add op d w' pending created =>
          obtain ⟨found, table, source, compiled⟩ := remembers
          have known : op.knownName? = some c.name := by simp [AddOperation.knownName?, found]
          have same : d = c := by
            rw [created.whole compiled, created.named c.name known, ← table, ← source]
          subst same
          exact ⟨rfl, table, source, compiled⟩
      | remove pending compiles dropped => exact remembers.elim
  | reversed took =>
      cases took with
      | @add op d w' phase dropped =>
          obtain ⟨found, made⟩ := remembers
          rw [AddOperation.constraint?, phase] at found
          exact ⟨found, made⟩
      | remove phase described created => exact remembers.elim
  | ended phase blind => exact remembers.elim

end Moves

section Runs
variable {op : Operation} {c : Constraint}

theorem Remembers.remembered?_eq (h : op.Remembers c) : op.remembered? = some c := by
  cases op with
  | add op => exact h.1
  | remove op => exact h.elim

theorem meet_reached (h : op.Reached) (e : Encounter) : (op.meet e).subject.Reached := by
  simp only [meet]
  cases e.call with
  | apply => exact .applied h e.env e.world
  | reverse => exact .reversed h e.env e.world
  | inverse => exact h

theorem after_reached (h : op.Reached) (history : List Encounter) : (op.after history).Reached := by
  induction history generalizing op with
  | nil => exact h
  | cons e history ih => exact ih (meet_reached h e)

theorem after_declaration (op : Operation) (history : List Encounter) :
    (op.after history).declaration = op.declaration := by
  induction history generalizing op with
  | nil => rfl
  | cons e history ih => exact (ih (op.meet e).subject).trans (op.meet_moves e).declaration_eq

/-- What an operation is about stays the same. -/
theorem after_same (op : Operation) (history : List Encounter) :
    (op.after history).kind = op.kind ∧ (op.after history).table = op.table ∧
      (op.after history).name? = op.name? ∧ (op.after history).descriptor? = op.descriptor? := by
  have declared : ∀ op : Operation, op.declaration.kind = op.kind ∧
      op.declaration.table = op.table ∧ op.declaration.name? = op.name? ∧
      op.declaration.descriptor? = op.descriptor? := by
    intro op
    cases op <;> exact ⟨rfl, rfl, rfl, rfl⟩
  obtain ⟨kind, table, name, descriptor⟩ := declared (op.after history)
  rw [← kind, ← table, ← name, ← descriptor, after_declaration]
  exact declared op

theorem after_remembers (remembers : op.Remembers c) (history : List Encounter) :
    (op.after history).Remembers c := by
  induction history generalizing op with
  | nil => exact remembers
  | cons e history ih => exact ih ((op.meet_moves e).remembers remembers)

/-- An add remembers what its application answered with. -/
theorem remembers_of_apply {op : AddOperation} {env : Env} {w : World} {answer : Option Constraint}
    (done : ((Operation.add op).apply env w).result = .ok answer) :
    ∃ c, answer = some c ∧ ((Operation.add op).apply env w).subject.Remembers c := by
  simp only [apply, Outcome.map, add_apply_eq] at done ⊢
  split at done
  · rename_i pending
    rw [if_pos pending]
    obtain ⟨_, failed, _⟩ | ⟨c, made, subject, created⟩ := op.perform_cases env w
    · rw [failed] at done
      cases done
    · rw [made] at done
      cases done
      rw [subject]
      exact ⟨c, rfl, rfl, created.table_eq, created.source_eq, created.compiled⟩
  · cases done

/-- Nothing but an application takes an add out of the state in which it was declared. -/
theorem meet_declared {op : AddOperation} (new : (Operation.add op).state = .declared)
    (e : Encounter) :
    ((Operation.add op).meet e).subject = .add op ∨
    e.call = .apply ∧ ∃ c, ((Operation.add op).meet e).result = .ok (.constraint (some c)) ∧
      ((Operation.add op).meet e).subject.Remembers c := by
  have phase : op.phase = .declared := by
    cases phase : op.phase <;> simp [state, AddOperation.state, phase] at new ⊢
  obtain ⟨call, env, w⟩ := e
  cases call with
  | apply =>
      simp only [meet, Outcome.map]
      obtain ⟨_, _, subject, _⟩ | ⟨answer, done, _⟩ := (Operation.add op).apply_cases env w
      · exact Or.inl subject
      · obtain ⟨c, rfl, remembers⟩ := remembers_of_apply done
        exact Or.inr ⟨trivial, c, by rw [done]; rfl, remembers⟩
  | reverse => exact Or.inl (by simp [meet, reverse, Outcome.map, AddOperation.reverse, phase,
      Outcome.failed])
  | inverse => exact Or.inl rfl

/-- An add that is not in its first state any more was applied with success, and remembers the
answer of the first time. -/
theorem exists_first_application {op : AddOperation} (new : (Operation.add op).state = .declared)
    {history : List Encounter} (moved : ((Operation.add op).after history).state ≠ .declared) :
    ∃ before e rest c, history = before ++ e :: rest ∧
      ((Operation.add op).after before).state = .declared ∧ e.call = .apply ∧
      (((Operation.add op).after before).meet e).result = .ok (.constraint (some c)) ∧
      ((Operation.add op).after history).Remembers c := by
  induction history with
  | nil => exact absurd new moved
  | cons e history ih =>
      obtain same | ⟨applies, c, answer, remembers⟩ := meet_declared new e
      · have first : ∀ later, (Operation.add op).after (e :: later) =
            (Operation.add op).after later := fun later => by
          simp only [after, List.foldl_cons, same]
        rw [first] at moved ⊢
        obtain ⟨before, e', rest, c, rfl, start, found⟩ := ih moved
        exact ⟨e :: before, e', rest, c, rfl, by rw [first]; exact start, by rwa [first]⟩
      · exact ⟨[], e, history, c, rfl, new, applies, answer, after_remembers remembers history⟩

/-- Whatever an add remembers, it remembers from its first application on. -/
theorem remembers_of_remembered? (new : op.state = .declared) {history : List Encounter}
    (found : (op.after history).remembered? = some c) : (op.after history).Remembers c := by
  cases op with
  | add op =>
      have moved : ((Operation.add op).after history).state ≠ .declared := by
        cases shape : (Operation.add op).after history with
        | add now =>
            rw [shape] at found
            cases phase : now.phase <;>
              simp [remembered?, AddOperation.constraint?, state, AddOperation.state, phase]
                at found ⊢
        | remove removal => simp [shape, remembered?] at found
      obtain ⟨_, _, _, d, _, _, _, _, remembers⟩ := exists_first_application new moved
      rw [remembers.remembered?_eq] at found
      exact Option.some.inj found ▸ remembers
  | remove op =>
      have kind := ((Operation.remove op).after_same history).1
      cases shape : (Operation.remove op).after history with
      | add now =>
          rw [shape] at kind
          cases kind
      | remove removal => simp [shape, remembered?] at found

/-- Only a removal without a descriptor is ever over. -/
theorem Reached.blind_of_ended (h : op.Reached) (ended : op.state = .reversalFailed) :
    ∃ removal removed, op = .remove removal ∧ removal.phase = .reversalFailed removed ∧
      removal.descriptor = none := by
  have consistent := h.consistent
  cases op with
  | add op => cases phase : op.phase <;> simp [state, AddOperation.state, phase] at ended
  | remove op =>
      cases phase : op.phase with
      | reversalFailed removed => exact ⟨op, removed, rfl, phase, consistent ended⟩
      | declared | applied removed | reversed removed =>
          simp [state, RemoveOperation.state, phase] at ended

/-- A removal that is over refuses every call and touches nothing. -/
theorem meet_ended {op : RemoveOperation} {removed : Option Constraint}
    (phase : op.phase = .reversalFailed removed) (blind : op.descriptor = none) (e : Encounter) :
    (Operation.remove op).meet e = .failed
      ((IrreversibleRemoval.of op.table op.name (removed.map Constraint.predicate)).answer e.call)
      (.remove op) e.world := by
  obtain ⟨call, env, w⟩ := e
  cases call with
  | apply =>
      simp only [meet, apply, RemoveOperation.apply, RemoveOperation.wrongState,
        RemoveOperation.state, phase]
      rfl
  | reverse =>
      simp only [meet, reverse, RemoveOperation.reverse_failed env phase,
        RemoveOperation.irreversible, RemoveOperation.removed?, phase]
      rfl
  | inverse =>
      simp only [meet, inverse_blind blind, RemoveOperation.irreversible, RemoveOperation.removed?,
        phase]
      rfl

theorem after_ended {op : RemoveOperation} {removed : Option Constraint}
    (phase : op.phase = .reversalFailed removed) (blind : op.descriptor = none)
    (history : List Encounter) : (Operation.remove op).after history = .remove op := by
  induction history with
  | nil => rfl
  | cons e history ih =>
      rw [after, List.foldl_cons, meet_ended phase blind]
      exact ih

/-- What the rollback of an applied add answers is up to the executor alone. -/
theorem meet_reverse_applied {op : AddOperation} {c : Constraint} (phase : op.phase = .applied c)
    (env : Env) (w : World) :
    ((Operation.add op).meet ⟨.reverse, env, w⟩).result =
      match env.executor (w.calls + 1) (.drop op.table c.name) with
      | some fault => .error fault
      | none => .ok (.constraint none) := by
  simp only [meet, reverse, AddOperation.reverse, phase, World.drop, World.emit, Outcome.map]
  cases env.executor (w.calls + 1) (.drop op.table c.name) <;> rfl

/-- Once it is over, an operation refuses each call in one and the same way and stays as it is. -/
theorem refuses_when_ended (new : op.state = .declared) {history : List Encounter}
    (ended : (op.after history).state = .reversalFailed) :
    ∃ refusal : IrreversibleRemoval, refusal.table = op.table ∧ some refusal.name = op.name? ∧
      ∀ later e, ((op.after history).after later).meet e =
        .failed (refusal.answer e.call) (op.after history) e.world := by
  obtain ⟨_, table, name, _⟩ := op.after_same history
  obtain ⟨removal, removed, shape, phase, blind⟩ :=
    (after_reached (.declared new) history).blind_of_ended ended
  rw [shape] at table name ⊢
  refine ⟨.of removal.table removal.name (removed.map Constraint.predicate), table, name, ?_⟩
  intro later e
  rw [after_ended phase blind]
  exact meet_ended phase blind e

/-- What an add remembers is made from its descriptor, is remembered for the rest of its life, and
is what its rollback drops. -/
theorem remembered_for_life (new : op.state = .declared) {history : List Encounter}
    (found : (op.after history).remembered? = some c) :
    c.table = op.table ∧ (∃ d, op.descriptor? = some d ∧ d.compile = .ok c.predicate) ∧
    (∀ later, ((op.after history).after later).remembered? = some c) ∧
    ((op.after history).state = .applied → ∀ env w,
      ((op.after history).meet ⟨.reverse, env, w⟩).result =
        match env.executor (w.calls + 1) (.drop op.table c.name) with
        | some fault => .error fault
        | none => .ok (.constraint none)) := by
  obtain ⟨_, table, _, descriptor⟩ := op.after_same history
  have remembers := remembers_of_remembered? new found
  have kept : ∀ later, ((op.after history).after later).remembered? = some c :=
    fun later => (after_remembers remembers later).remembered?_eq
  cases shape : op.after history with
  | remove removal => simp [shape, remembered?] at found
  | add add =>
      rw [shape] at remembers table descriptor
      obtain ⟨held, placed, _, compiled⟩ := remembers
      refine ⟨placed.trans table, ⟨add.descriptor, descriptor.symm, compiled⟩, shape ▸ kept, ?_⟩
      intro applied env w
      obtain ⟨d, phase⟩ := AddOperation.state_eq_applied_iff.mp applied
      obtain rfl : d = c := by simpa [AddOperation.constraint?, phase] using held
      rw [← table]
      exact meet_reverse_applied phase env w

end Runs

/-- A declared operation is called any number of times. The first part is about the changes of state
and the second about a removal that is over. The last two are about an add: once it is not declared
any more, it remembers what the application that ended this answered with. What it remembers is made
from its descriptor, is what its rollback drops, and is remembered for the rest of its life. -/
theorem life_cycle {op : Operation} (new : op.state = .declared) (history : List Encounter) :
    let now := op.after history
    (∀ e, (now.meet e).subject.state ≠ now.state →
      now.state.Next (now.meet e).subject.state ∧
      ((now.meet e).subject.state = .reversalFailed →
        op.kind = .remove ∧ op.descriptor? = none)) ∧
    (now.state = .reversalFailed → ∃ refusal : IrreversibleRemoval,
      refusal.table = op.table ∧ some refusal.name = op.name? ∧
      ∀ later e, (now.after later).meet e = .failed (refusal.answer e.call) now e.world) ∧
    (op.kind = .add → now.state ≠ .declared → ∃ before e rest c,
      history = before ++ e :: rest ∧ (op.after before).state = .declared ∧ e.call = .apply ∧
      ((op.after before).meet e).result = .ok (.constraint (some c)) ∧
      now.remembered? = some c) ∧
    ∀ c, now.remembered? = some c →
      c.table = op.table ∧ (∃ d, op.descriptor? = some d ∧ d.compile = .ok c.predicate) ∧
      (∀ later, (now.after later).remembered? = some c) ∧
      (now.state = .applied → ∀ env w, (now.meet ⟨.reverse, env, w⟩).result =
        match env.executor (w.calls + 1) (.drop op.table c.name) with
        | some fault => .error fault
        | none => .ok (.constraint none)) := by
  intro now
  obtain ⟨kind, _, _, descriptor⟩ := op.after_same history
  refine ⟨?_, refuses_when_ended new, ?_, fun c => remembered_for_life new⟩
  · intro e changed
    obtain ⟨next, blind⟩ := (now.meet_moves e).next changed
    exact ⟨next, fun ended => ⟨kind ▸ (blind ended).1, descriptor ▸ (blind ended).2⟩⟩
  · intro adds moved
    cases op with
    | add op =>
        obtain ⟨before, e, rest, c, split, start, applies, answer, remembers⟩ :=
          exists_first_application new moved
        exact ⟨before, e, rest, c, split, start, applies, answer, remembers.remembered?_eq⟩
    | remove op => cases adds

/-- An anonymous add is applied, refused a rollback by the executor, rolled back, refused where its
name is taken, and applied once more. A removal without a descriptor is asked to roll back. -/
theorem life_cycle_of_refused_calls :
    let add : Operation := .add { table := "t", descriptor := .raw "a > 0" }
    let made : Constraint := ⟨"t_1000000", "t", "(a > 0)", some (.raw "a > 0")⟩
    let taken : World := { registry := Registry.empty.put made }
    let refusing : Env := { Env.standard with executor := .failingOn [1] .accepting }
    let history : List Encounter := [⟨.apply, .standard, {}⟩, ⟨.reverse, refusing, {}⟩,
      ⟨.reverse, .standard, {}⟩, ⟨.apply, .standard, taken⟩, ⟨.apply, .standard, {}⟩]
    let blind : Operation := .remove { table := "t", name := "ck" }
    let asked : List Encounter := [⟨.apply, .standard, {}⟩, ⟨.reverse, .standard, {}⟩]
    (add.after history).state = .applied ∧
    (∀ later, ((add.after history).after later).remembered? = some made) ∧
    ∃ refusal : IrreversibleRemoval, refusal.table = "t" ∧
      ∀ later e, ((blind.after asked).after later).meet e =
        .failed (refusal.answer e.call) (blind.after asked) e.world := by
  intro add made taken refusing history blind asked
  have applied : (add.after history).state = .applied := by rfl
  have new : add.state = .declared := rfl
  have new_blind : blind.state = .declared := rfl
  have found : (add.after history).remembered? = some made := by rfl
  obtain ⟨_, _, _, remembers⟩ := life_cycle new history
  obtain ⟨_, _, kept, _⟩ := remembers made found
  obtain ⟨_, ended, _, _⟩ := life_cycle new_blind asked
  obtain ⟨refusal, table, _, refused⟩ := ended rfl
  exact ⟨applied, kept, refusal, table, refused⟩

end Operation

end CheckConstraints

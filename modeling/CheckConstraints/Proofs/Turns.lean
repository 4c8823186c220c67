import CheckConstraints.Proofs.Edits
import CheckConstraints.Proofs.Rollback
import Mathlib.Data.List.Forall2

/-!
Operations as turns. An operation whose name is known makes one edit of the registry when it is
applied and the opposite one when it is rolled back, in whatever world this happens and whatever was
live there. Which edits these are depends on its declaration and its name only. So a list of
operations in one state goes to the next state by the edits of their turns, and it gets there when
the edits fit the registry, the names are such that they can be given, and the executor takes the
statements.
-/

namespace CheckConstraints

/-- What the edit adds has a name that can be given. -/
def Edit.Nameable (settings : Settings) : Edit → Prop
  | .add c => c.name ≠ "" ∧ (c.name.length : Int) ≤ settings.maxNameLength
  | .discard _ _ => True

namespace World

/-- One edit was made that fits the registry, and its statement was emitted. -/
structure Edited (w : World) (e : Edit) (w' : World) : Prop where
  fits : e.Fits w.registry
  registry : w'.registry = w.registry.edit e
  emitted : w'.emitted = w.emitted ++ [e.statement]

/-- The edits were made one after the other. -/
structure EditedAll (w : World) (es : List Edit) (w' : World) : Prop where
  fits : Registry.FitsAll es w.registry
  registry : w'.registry = w.registry.edited es
  emitted : w'.emitted = w.emitted ++ es.map Edit.statement

variable {table name : String} {explicit : Option String} {descriptor : Descriptor}
  {w w₁ w' : World} {c : Constraint} {e : Edit} {es : List Edit}

theorem EditedAll.nil (w : World) : w.EditedAll [] w where
  fits := True.intro
  registry := rfl
  emitted := by simp

theorem Edited.cons (first : w.Edited e w₁) (later : w₁.EditedAll es w') :
    w.EditedAll (e :: es) w' where
  fits := ⟨first.fits, first.registry ▸ later.fits⟩
  registry := by rw [later.registry, first.registry]; rfl
  emitted := by simp [later.emitted, first.emitted]

theorem Created.edited (h : Created table explicit descriptor w c w') :
    w.Edited (.add c) w' := by
  have fits : (Edit.add c).Fits w.registry := by
    rw [Registry.fits_add_iff, h.table_eq]
    exact h.free
  refine ⟨fits, ?_, ?_⟩
  · rw [h.registry, Registry.edit_add fits]
  · rw [h.emitted, ← h.table_eq]
    rfl

theorem Dropped.edited (h : Dropped table name w w') : w.Edited (.discard table name) w' where
  fits := True.intro
  registry := h.registry
  emitted := h.emitted

end World

theorem RemoveOperation.restore_short {env : Env} (op : RemoveOperation)
    {removed : Option Constraint} {descriptor : Descriptor} {w : World} {c : Constraint}
    (done : (op.restore env removed descriptor w).result = .ok c) :
    (op.name.length : Int) ≤ env.settings.maxNameLength := by
  simp only [restore] at done
  cases made : w.create env op.table (some op.name) descriptor none with
  | mk answer w₁ =>
      cases answer with
      | error fault => simp [made, Outcome.failed] at done
      | ok c => exact World.create_short (congrArg Prod.fst made)

namespace Operation

/-- The operation, with its name known, makes the turn: one edit by its application, the other by
its rollback. -/
inductive Makes : Operation → Turn → Prop where
  | add {op : AddOperation} {name predicate : String} (named : op.knownName? = some name)
      (compiled : op.descriptor.compile = .ok predicate) :
      Makes (.add op) (.creating ⟨name, op.table, predicate, some op.descriptor⟩)
  | remove {op : RemoveOperation} {descriptor : Descriptor} {predicate : String}
      (described : op.descriptor = some descriptor)
      (compiled : descriptor.compile = .ok predicate) :
      Makes (.remove op) (.clearing ⟨op.name, op.table, predicate, some descriptor⟩)

/-- The name that an add was resolved to. -/
def resolvedName? : Operation → Option String
  | .add op => op.constraint?.map Constraint.name
  | .remove _ => none

section Steps
variable {upSettings downSettings : Settings} {env : Env} {op op' : Operation} {w w' : World}
  {turn : Turn}

theorem Applied.makes (h : op.Applied w op' w') (restorable : op'.Restorable downSettings) :
    ∃ turn, op'.Makes turn := by
  cases h with
  | add pending created => exact ⟨_, .add rfl created.compiled⟩
  | @remove op w' pending compiles dropped =>
      obtain ⟨descriptor, described⟩ : ∃ descriptor, op.descriptor = some descriptor :=
        Option.isSome_iff_exists.mp restorable.1
      obtain ⟨predicate, compiled⟩ :=
        (RemoveOperation.checkDescriptor_eq_ok_iff described).mp compiles
      exact ⟨_, .remove described compiled⟩

/-- An operation that is applied again makes the turn that it made before. -/
theorem Applied.makes_again (h : op.Applied w op' w') (makes : op.Makes turn) :
    op'.Makes turn := by
  cases makes with
  | @add op name predicate named compiled =>
      cases h with
      | add pending created =>
          have kept := created.named name named
          exact .add (by rw [← kept]; rfl) compiled
  | remove described compiled =>
      cases h with
      | remove pending compiles dropped => exact .remove described compiled

theorem Applied.edited (h : op.Applied w op' w') (makes : op'.Makes turn) :
    w.Edited turn.forth w' := by
  cases h with
  | @add op c w' pending created =>
      cases makes with
      | add named compiled =>
          obtain rfl := Option.some.inj named
          have edited := created.edited
          rw [created.whole compiled] at edited
          exact edited
  | remove pending compiles dropped =>
      cases makes with
      | remove described compiled => exact dropped.edited

/-- What an applied operation adds can be added again, if its name is short enough for it. -/
theorem Applied.nameable (h : op.Applied w op' w') (makes : op'.Makes turn)
    (restorable : op'.Restorable downSettings)
    (short : ∀ name ∈ op'.resolvedName?, (name.length : Int) ≤ upSettings.maxNameLength) :
    turn.forth.Nameable upSettings ∧ turn.back.Nameable downSettings := by
  cases h with
  | @add op c w' pending created =>
      cases makes with
      | add named compiled =>
          obtain rfl := Option.some.inj named
          exact ⟨⟨created.nonempty, short c.name rfl⟩, True.intro⟩
  | remove pending compiles dropped =>
      cases makes with
      | remove described compiled => exact ⟨True.intro, restorable.2⟩

theorem Reversed.makes_again (h : op.Reversed w op' w') (makes : op.Makes turn) :
    op'.Makes turn := by
  cases makes with
  | @add op name predicate named compiled =>
      cases h with
      | add phase dropped =>
          refine .add ?_ compiled
          rw [← named, AddOperation.knownName?_of_applied phase]
          rfl
  | remove described compiled =>
      cases h with
      | remove phase described' created => exact .remove described compiled

theorem Reversed.edited (h : op.Reversed w op' w') (makes : op.Makes turn) :
    w.Edited turn.back w' := by
  cases makes with
  | @add op name predicate named compiled =>
      cases h with
      | @add op c w' phase dropped =>
          rw [AddOperation.knownName?_of_applied phase] at named
          obtain rfl := Option.some.inj named
          exact dropped.edited
  | @remove op descriptor predicate described compiled =>
      cases h with
      | @remove op removed descriptor' c w' phase described' created =>
          obtain rfl : descriptor = descriptor' := by
            rw [described] at described'
            exact Option.some.inj described'
          have edited := created.edited
          rw [created.eq compiled] at edited
          exact edited

/-- What was rolled back can be rolled back again. -/
theorem restorable_of_reversed {answer : Option Constraint}
    (done : (op.reverse env w).result = .ok answer) : op.Restorable env.settings := by
  have took := reversed_of_ok done
  cases op with
  | add op => exact True.intro
  | remove op =>
      generalize ((Operation.remove op).reverse env w).subject = op' at took
      cases took with
      | @remove op removed descriptor c w' phase described created =>
          have nonempty := created.nonempty
          rw [created.named op.name rfl] at nonempty
          simp only [reverse, Outcome.map, RemoveOperation.reverse, phase, described] at done
          cases restored : (op.restore env removed descriptor w).result with
          | error fault => simp [restored, Except.map] at done
          | ok c => exact ⟨by simp [described], nonempty, op.restore_short restored⟩

theorem apply_goes (makes : op.Makes turn) (pending : op.pending = true)
    (fits : turn.forth.Fits w.registry) (nameable : turn.forth.Nameable env.settings)
    (accepting : ∀ call s, env.executor call s = none) :
    ∃ answer, (op.apply env w).result = .ok answer := by
  cases makes with
  | @add op name predicate named compiled =>
      have free : name ∉ w.registry.names op.table := Registry.fits_add_iff.mp fits
      obtain ⟨c, created⟩ :=
        World.create_succeeds op.source compiled nameable.1 nameable.2 free accepting
      simp only [apply, Outcome.map, add_apply_eq, pending, if_true, AddOperation.perform, named]
      cases made : w.create env op.table (some name) op.descriptor op.source with
      | mk answer w₁ =>
          rw [made] at created
          obtain rfl : answer = .ok c := created
          exact ⟨_, rfl⟩
  | @remove op descriptor predicate described compiled =>
      have checked : op.checkDescriptor = .ok () :=
        (RemoveOperation.checkDescriptor_eq_ok_iff described).mpr ⟨predicate, compiled⟩
      obtain ⟨done, _⟩ := op.perform_drops checked accepting (w := w)
      simp only [apply, Outcome.map, remove_apply_eq, pending, if_true, done]
      exact ⟨_, rfl⟩

theorem reverse_goes (makes : op.Makes turn) (applied : op.state = .applied)
    (fits : turn.back.Fits w.registry) (nameable : turn.back.Nameable env.settings)
    (accepting : ∀ call s, env.executor call s = none) :
    ∃ answer, (op.reverse env w).result = .ok answer := by
  cases makes with
  | @add op name predicate named compiled =>
      obtain ⟨c, phase⟩ := AddOperation.state_eq_applied_iff.mp applied
      simp only [reverse, Outcome.map, op.reverse_succeeds phase w accepting]
      exact ⟨_, rfl⟩
  | @remove op descriptor predicate described compiled =>
      obtain ⟨removed, phase⟩ := RemoveOperation.state_eq_applied_iff.mp applied
      have free : op.name ∉ w.registry.names op.table := Registry.fits_add_iff.mp fits
      obtain ⟨restored, _⟩ :=
        op.restore_creates removed compiled nameable.1 nameable.2 free accepting
      simp only [reverse, Outcome.map, RemoveOperation.reverse, phase, described, restored]
      exact ⟨_, rfl⟩

/-- The operation is in the given state and makes the turn. -/
def MakesIn (state : State) (op : Operation) (turn : Turn) : Prop :=
  op.state = state ∧ op.Makes turn

end Steps
end Operation

section Run
variable {chosen : Operation → Bool}
  {step : Operation → World → Outcome Operation (Option Constraint)} {w : World}
  {ops : List Operation}

theorem each_succeeds (completes : (runOperations chosen step ops w).result = .ok ()) :
    ∀ op ∈ ops, chosen op = true → ∃ w answer, (step op w).result = .ok answer := by
  induction ops generalizing w with
  | nil => simp
  | cons first ops ih =>
      cases picked : chosen first with
      | false =>
          rw [runOperations_pass _ _ picked, Outcome.map_result] at completes
          intro op member
          cases member with
          | head => simp [picked]
          | tail _ member => exact ih completes op member
      | true =>
          cases taken : (step first w).result with
          | error fault =>
              rw [runOperations_error _ _ picked taken] at completes
              cases completes
          | ok answer =>
              rw [runOperations_ok _ _ picked taken, Outcome.map_result] at completes
              intro op member
              cases member with
              | head => exact fun _ => ⟨w, answer, taken⟩
              | tail _ member => exact ih completes op member

/-- Steps that take operations from one state to another, each by one edit of its turn. -/
structure Turning (env : Env) (chosen : Operation → Bool)
    (step : Operation → World → Outcome Operation (Option Constraint)) (before after : State)
    (edit : Turn → Edit) : Prop where
  picks : ∀ op, op.state = before → chosen op = true
  takes : ∀ op w answer turn, op.Makes turn → (step op w).result = .ok answer →
    (step op w).subject.MakesIn after turn ∧ w.Edited (edit turn) (step op w).world
  goes : ∀ op w turn, op.MakesIn before turn → (edit turn).Fits w.registry →
    (edit turn).Nameable env.settings → (∀ call s, env.executor call s = none) →
    ∃ answer, (step op w).result = .ok answer

namespace Turning

theorem forth (env : Env) :
    Turning env Operation.pending (Operation.apply env) .reversed .applied Turn.forth where
  picks := by
    intro op reversed
    simp [Operation.pending, reversed]
  takes := by
    intro op w answer turn makes done
    have took := Operation.applied_of_ok done
    have again := took.makes_again makes
    exact ⟨⟨took.state_eq, again⟩, took.edited again⟩
  goes := by
    intro op w turn made
    have pending : op.pending = true := by simp [Operation.pending, made.1]
    exact Operation.apply_goes made.2 pending

theorem back (env : Env) :
    Turning env Operation.live (Operation.reverse env) .applied .reversed Turn.back where
  picks := by
    intro op applied
    simp [Operation.live, applied]
  takes := by
    intro op w answer turn makes done
    have took := Operation.reversed_of_ok done
    exact ⟨⟨took.state_eq, took.makes_again makes⟩, took.edited makes⟩
  goes := by
    intro op w turn made
    exact Operation.reverse_goes made.2 made.1

variable {env : Env} {before after : State} {edit : Turn → Edit} {turns : List Turn}

theorem run (turning : Turning env chosen step before after edit)
    (made : List.Forall₂ (Operation.MakesIn before) ops turns)
    (completes : (runOperations chosen step ops w).result = .ok ()) :
    let o := runOperations chosen step ops w
    List.Forall₂ (Operation.MakesIn after) o.subject turns ∧
      w.EditedAll (turns.map edit) o.world := by
  induction made generalizing w with
  | nil => exact ⟨.nil, .nil w⟩
  | @cons op turn ops turns head tail ih =>
      have picked := turning.picks op head.1
      cases taken : (step op w).result with
      | error fault =>
          rw [runOperations_error _ _ picked taken] at completes
          cases completes
      | ok answer =>
          obtain ⟨next, edited⟩ := turning.takes op w answer turn head.2 taken
          rw [runOperations_ok _ _ picked taken] at completes ⊢
          rw [Outcome.map_result] at completes
          obtain ⟨rest, later⟩ := ih completes
          exact ⟨.cons next rest, edited.cons later⟩

theorem completes (turning : Turning env chosen step before after edit)
    (accepting : ∀ call s, env.executor call s = none)
    (made : List.Forall₂ (Operation.MakesIn before) ops turns)
    (fits : Registry.FitsAll (turns.map edit) w.registry)
    (nameable : ∀ turn ∈ turns, (edit turn).Nameable env.settings) :
    (runOperations chosen step ops w).result = .ok () := by
  induction made generalizing w with
  | nil => rfl
  | @cons op turn ops turns head tail ih =>
      obtain ⟨answer, taken⟩ :=
        turning.goes op w turn head fits.1 (nameable turn List.mem_cons_self) accepting
      obtain ⟨_, edited⟩ := turning.takes op w answer turn head.2 taken
      rw [runOperations_ok _ _ (turning.picks op head.1) taken, Outcome.map_result]
      apply ih
      · rw [edited.registry]
        exact fits.2
      · exact fun turn member => nameable turn (List.mem_cons_of_mem _ member)

end Turning

/-- The first time, the names of the adds are found on the way. -/
theorem upgrade_turns {env : Env} {upSettings downSettings : Settings}
    (pending : ∀ op ∈ ops, op.pending = true)
    (completes : (runOperations Operation.pending (Operation.apply env) ops w).result = .ok ())
    (restorable : ∀ op ∈ (runOperations Operation.pending (Operation.apply env) ops w).subject,
      op.Restorable downSettings)
    (short : ∀ op ∈ (runOperations Operation.pending (Operation.apply env) ops w).subject,
      ∀ name ∈ op.resolvedName?, (name.length : Int) ≤ upSettings.maxNameLength) :
    let o := runOperations Operation.pending (Operation.apply env) ops w
    ∃ turns, List.Forall₂ (Operation.MakesIn .applied) o.subject turns ∧
      (∀ turn ∈ turns, turn.forth.Nameable upSettings ∧ turn.back.Nameable downSettings) ∧
      w.EditedAll (turns.map Turn.forth) o.world := by
  induction ops generalizing w with
  | nil => exact ⟨[], .nil, by simp, .nil w⟩
  | cons op ops ih =>
      have head : op.pending = true := pending op List.mem_cons_self
      cases taken : (op.apply env w).result with
      | error fault =>
          rw [runOperations_error _ _ head taken] at completes
          cases completes
      | ok answer =>
          have took := Operation.applied_of_ok taken
          rw [runOperations_ok _ _ head taken] at completes restorable short ⊢
          rw [Outcome.map_result] at completes
          obtain ⟨turn, makes⟩ := took.makes (restorable _ List.mem_cons_self)
          have named := took.nameable makes (restorable _ List.mem_cons_self)
            (short _ List.mem_cons_self)
          obtain ⟨turns, rest, others, later⟩ :=
            ih (fun op member => pending op (List.mem_cons_of_mem _ member)) completes
              (fun op member => restorable op (List.mem_cons_of_mem _ member))
              (fun op member => short op (List.mem_cons_of_mem _ member))
          refine ⟨turn :: turns, .cons ⟨took.state_eq, makes⟩ rest, ?_,
            (took.edited makes).cons later⟩
          simpa using ⟨named, others⟩

end Run

end CheckConstraints

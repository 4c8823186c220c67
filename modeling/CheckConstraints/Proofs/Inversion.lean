import CheckConstraints.Proofs.Stack
import CheckConstraints.ToolContext

/-!
Two ways to undo an operation: to roll it back, or to apply its inverse. Whatever became of the
registry since the operation was applied, both emit the same statement and leave the same registry,
or fail with the same fault. A removal without a descriptor is refused by both with the same
example. The inverse is about the same constraint as the operation, so that the inverse of the
inverse says again what the operation said.
-/

namespace CheckConstraints.Operation

/-- The operations to which there is a way from a declared one, by applications and rollbacks in any
worlds, whether they fail or not. -/
inductive Reached : Operation → Prop where
  | declared {op : Operation} (new : op.state = .declared) : Reached op
  | applied {op : Operation} (before : Reached op) (env : Env) (w : World) :
      Reached (op.apply env w).subject
  | reversed {op : Operation} (before : Reached op) (env : Env) (w : World) :
      Reached (op.reverse env w).subject

/-- An add that created a constraint has a descriptor with its predicate, and only a removal without
a descriptor is over. -/
def Consistent : Operation → Prop
  | .add op => ∀ c, op.constraint? = some c → op.descriptor.compile = .ok c.predicate
  | .remove op => op.state = .reversalFailed → op.descriptor = none

section Steps
variable {op op' : Operation} {w w' : World}

theorem Applied.consistent (h : op.Applied w op' w') : op'.Consistent := by
  cases h with
  | add pending created =>
      intro c found
      obtain rfl := Option.some.inj found
      exact created.compiled
  | remove pending compiles dropped => simp [Consistent, RemoveOperation.state]

theorem Reversed.consistent (h : op.Reversed w op' w') (consistent : op.Consistent) :
    op'.Consistent := by
  cases h with
  | add phase dropped =>
      intro c found
      obtain rfl := Option.some.inj found
      exact consistent _ (by simp [AddOperation.constraint?, phase])
  | remove phase described created => simp [Consistent, RemoveOperation.state]

theorem afterFailure_consistent (consistent : op.Consistent) : op.afterFailure.Consistent := by
  cases op with
  | add op => exact consistent
  | remove op =>
      simp only [afterFailure]
      split
      · rename_i blind
        exact fun _ => blind
      · exact consistent

theorem Reached.consistent (h : op.Reached) : op.Consistent := by
  induction h with
  | @declared op new =>
      cases op with
      | add op =>
          intro c found
          cases phase : op.phase <;> simp [AddOperation.constraint?, phase] at found
          all_goals simp [state, AddOperation.state, phase] at new
      | remove op =>
          have fresh : op.state = .declared := new
          simp [Consistent, fresh]
  | @applied op before env w ih =>
      obtain ⟨_, _, subject, _⟩ | ⟨_, _, took⟩ := op.apply_cases env w
      · rw [subject]
        exact ih
      · exact took.consistent
  | @reversed op before env w ih =>
      obtain ⟨_, _, subject, _⟩ | ⟨_, _, took⟩ := op.reverse_cases env w
      · rw [subject]
        exact afterFailure_consistent ih
      · exact took.consistent ih

theorem applied_of_reversible (consistent : op.Consistent) (live : op.live = true)
    (reversible : op.reversible = true) : op.state = .applied := by
  cases op with
  | add op =>
      cases phase : op.phase <;> simp [Operation.live, state, AddOperation.state, phase] at live
      simp [state, AddOperation.state, phase]
  | remove op =>
      by_cases ended : op.state = .reversalFailed
      · simp [Operation.reversible, RemoveOperation.reversible, consistent ended] at reversible
      · simpa [Operation.live, state, ended] using live

end Steps

/-- Two steps taken in one world that come to the same: both emit the same statement and leave the
same registry, or both fail with the same fault and change nothing. -/
inductive SameStep (w : World) (op op' : Operation)
    (o o' : Outcome Operation (Option Constraint)) : Prop where
  | done {answer answer' : Option Constraint} {s : Statement}
      (result : o.result = .ok answer) (result' : o'.result = .ok answer')
      (registry : o.world.registry = o'.world.registry)
      (emitted : o.world.emitted = w.emitted ++ [s])
      (emitted' : o'.world.emitted = w.emitted ++ [s])
  | failed {fault : Fault}
      (result : o.result = .error fault) (result' : o'.result = .error fault)
      (kept : o.subject = op) (kept' : o'.subject = op')
      (same : w.Untouched o.world) (same' : w.Untouched o'.world)

/-- A step of the operation that is one change of the world: the operation stays as it is where the
change fails, and an event is reported where it succeeds. -/
inductive Carries {α : Type} (env : Env) (op : Operation) :
    Except Fault α × World → Outcome Operation (Option Constraint) → Prop where
  | error {fault : Fault} {w : World} : Carries env op (.error fault, w) (.failed fault op w)
  | ok {a : α} {w : World} {answer : Option Constraint} {op' : Operation} {event : Event} :
      Carries env op (.ok a, w) ⟨.ok answer, op', w.report env event⟩

section Undo
variable {env : Env} {w : World}

/-- Two operations that carry out the same change do the same. -/
theorem Carries.sameStep {α : Type} {op op' : Operation} {change : Except Fault α × World}
    {o o' : Outcome Operation (Option Constraint)}
    (changes : (∃ fault, change.1 = .error fault ∧ w.Untouched change.2) ∨
      ∃ a s, change.1 = .ok a ∧ change.2.emitted = w.emitted ++ [s])
    (h : Carries env op change o) (h' : Carries env op' change o') : SameStep w op op' o o' := by
  cases h with
  | error =>
      cases h'
      obtain ⟨_, _, same⟩ | ⟨_, _, done, _⟩ := changes
      · exact .failed rfl rfl rfl rfl same same
      · cases done
  | ok =>
      cases h'
      obtain ⟨_, failed, _⟩ | ⟨_, _, _, emitted⟩ := changes
      · cases failed
      · exact .done rfl rfl rfl emitted emitted

theorem add_carries {op : AddOperation} (new : op.phase = .declared) :
    Carries env (.add op) (w.create env op.table op.name op.descriptor op.source)
      ((Operation.add op).apply env w) := by
  simp only [apply, AddOperation.apply, AddOperation.perform, AddOperation.knownName?,
    AddOperation.constraint?, new]
  cases w.create env op.table op.name op.descriptor op.source with
  | mk answer w₁ =>
      cases answer with
      | error fault => exact .error
      | ok c => exact .ok

theorem add_reverse_carries {op : AddOperation} {c : Constraint} (phase : op.phase = .applied c) :
    Carries env (.add op) (w.drop env op.table c.name) ((Operation.add op).reverse env w) := by
  simp only [reverse, AddOperation.reverse, phase]
  cases w.drop env op.table c.name with
  | mk answer w₁ =>
      cases answer with
      | error fault => exact .error
      | ok removed => exact .ok

theorem remove_carries {op : RemoveOperation} (new : op.phase = .declared)
    (checked : op.checkDescriptor = .ok ()) :
    Carries env (.remove op) (w.drop env op.table op.name)
      ((Operation.remove op).apply env w) := by
  simp only [apply, RemoveOperation.apply, RemoveOperation.perform, new, checked]
  cases w.drop env op.table op.name with
  | mk answer w₁ =>
      cases answer with
      | error fault => exact .error
      | ok removed => exact .ok

theorem remove_reverse_carries {op : RemoveOperation} {removed : Option Constraint}
    {descriptor : Descriptor} (phase : op.phase = .applied removed)
    (described : op.descriptor = some descriptor) :
    Carries env (.remove op) (w.create env op.table (some op.name) descriptor none)
      ((Operation.remove op).reverse env w) := by
  simp only [reverse, RemoveOperation.reverse, RemoveOperation.restore, phase, described]
  cases w.create env op.table (some op.name) descriptor none with
  | mk answer w₁ =>
      cases answer with
      | error fault => exact .error
      | ok c => exact .ok

end Undo

theorem inverse_add {op : AddOperation} {name : String} (known : op.knownName? = some name) :
    (Operation.add op).inverse =
      .ok (.remove { table := op.table, name, descriptor := some op.descriptor }) := by
  simp [inverse, AddOperation.inverse, known, Except.map]

theorem inverse_remove {op : RemoveOperation} {descriptor : Descriptor}
    (described : op.descriptor = some descriptor) :
    (Operation.remove op).inverse =
      .ok (.add { table := op.table, descriptor, name := some op.name }) := by
  simp [inverse, RemoveOperation.inverse, described, Except.map]

theorem inverse_blind {op : RemoveOperation} (blind : op.descriptor = none) :
    (Operation.remove op).inverse = .error op.irreversible := by
  simp [inverse, RemoveOperation.inverse, blind, Except.map]

/-- What the inverse of an applied operation does, its rollback does as well. -/
theorem inverse_sameStep {op : Operation} (consistent : op.Consistent)
    (applied : op.state = .applied) (reversible : op.reversible = true) :
    ∃ inverse, op.inverse = .ok inverse ∧
      ∀ env w, SameStep w inverse op (inverse.apply env w) (op.reverse env w) := by
  cases op with
  | add op =>
      obtain ⟨c, phase⟩ := AddOperation.state_eq_applied_iff.mp applied
      have compiled := consistent c (by simp [AddOperation.constraint?, phase])
      refine ⟨_, inverse_add (AddOperation.knownName?_of_applied phase), ?_⟩
      intro env w
      refine Carries.sameStep ?_ (remove_carries rfl ?_) (add_reverse_carries phase)
      · obtain ⟨fault, failed, same⟩ | ⟨done, dropped⟩ :=
          World.drop_cases env op.table c.name w
        · exact Or.inl ⟨fault, failed, same⟩
        · exact Or.inr ⟨_, _, done, dropped.emitted⟩
      · exact (RemoveOperation.checkDescriptor_eq_ok_iff rfl).mpr ⟨c.predicate, compiled⟩
  | remove op =>
      obtain ⟨descriptor, described⟩ := Option.isSome_iff_exists.mp reversible
      obtain ⟨removed, phase⟩ := RemoveOperation.state_eq_applied_iff.mp applied
      refine ⟨_, inverse_remove described, ?_⟩
      intro env w
      refine Carries.sameStep ?_ (add_carries rfl) (remove_reverse_carries phase described)
      obtain ⟨fault, failed, same⟩ | ⟨c, done, created⟩ :=
        World.create_cases env op.table (some op.name) descriptor none w
      · exact Or.inl ⟨fault, failed, same⟩
      · exact Or.inr ⟨c, _, done, created.emitted⟩

/-- The inverse has the table and the descriptor of the operation, and its name where that is
known. -/
def Mirrors (inverse op : Operation) : Prop :=
  inverse.table = op.table ∧ inverse.descriptor? = op.descriptor? ∧ inverse.name? = op.knownName?

theorem inverse_mirrors {op inverse : Operation} (inverts : op.inverse = .ok inverse) :
    inverse.Mirrors op ∧
      ∃ back, inverse.inverse = .ok back ∧ back.kind = op.kind ∧ back.Mirrors op := by
  cases op with
  | add op =>
      cases known : op.knownName? with
      | none => simp [Operation.inverse, AddOperation.inverse, known, Except.map] at inverts
      | some name =>
          rw [inverse_add known] at inverts
          obtain rfl := Except.ok.inj inverts
          exact ⟨⟨rfl, rfl, known.symm⟩, _, inverse_remove rfl, rfl, rfl, rfl, known.symm⟩
  | remove op =>
      cases described : op.descriptor with
      | none =>
          rw [inverse_blind described] at inverts
          cases inverts
      | some descriptor =>
          rw [inverse_remove described] at inverts
          obtain rfl := Except.ok.inj inverts
          exact ⟨⟨rfl, described.symm, rfl⟩, _, inverse_add rfl, rfl, rfl, described.symm, rfl⟩

/-- To declare anew what the inverse says gives the inverse. -/
theorem reversal_eq_inverse (op : Operation) : op.reversal = op.inverse := by
  cases op with
  | add op =>
      cases known : op.knownName? with
      | none => simp [reversal, inverse, AddOperation.inverse, known, Except.map, bind, Except.bind]
      | some name =>
          simp only [reversal, inverse_add known]
          rfl
  | remove op =>
      cases described : op.descriptor with
      | none =>
          simp only [reversal, inverse_blind described]
          rfl
      | some descriptor =>
          simp only [reversal, inverse_remove described]
          rfl

/-- The refusal of a rollback that is impossible, which a second attempt gives again. -/
theorem reverse_refused {op : RemoveOperation} (live : (Operation.remove op).live = true)
    (blind : op.descriptor = none) (env : Env) (w : World) :
    ((Operation.remove op).reverse env w).result = .error op.irreversible := by
  cases phase : op.phase with
  | declared | reversed removed =>
      simp [Operation.live, state, RemoveOperation.state, phase] at live
  | applied removed =>
      rw [reverse, RemoveOperation.reverse_blind env phase blind]
      rfl
  | reversalFailed removed =>
      rw [reverse, RemoveOperation.reverse_failed env phase]
      rfl

/-- The first two parts are about a live operation to which there is a way, in whatever worlds it
was applied and rolled back before; the last two are about any operation. -/
theorem inverse_agrees (op : Operation) :
    (op.Reached → op.live = true →
      (op.reversible = true → ∃ inverse, op.inverse = .ok inverse ∧
        ∀ env w, SameStep w inverse op (inverse.apply env w) (op.reverse env w)) ∧
      (op.reversible = false → ∃ refusal, op.inverse = .error (.irreversible refusal) ∧
        ∀ env w, (op.reverse env w).result = .error (.irreversible refusal))) ∧
    (∀ inverse, op.inverse = .ok inverse → inverse.Mirrors op ∧
      ∃ back, inverse.inverse = .ok back ∧ back.kind = op.kind ∧ back.Mirrors op) ∧
    op.reversal = op.inverse := by
  refine ⟨?_, fun _ => inverse_mirrors, op.reversal_eq_inverse⟩
  intro reached live
  have consistent := reached.consistent
  refine ⟨?_, ?_⟩
  · intro reversible
    exact inverse_sameStep consistent (applied_of_reversible consistent live reversible) reversible
  · intro blind
    cases op with
    | add op => cases blind
    | remove op =>
        have blind : op.descriptor = none := by
          simpa [Operation.reversible, RemoveOperation.reversible] using blind
        exact ⟨_, inverse_blind blind, reverse_refused live blind⟩

/-- Since the anonymous add was applied, its name was given to another constraint, which both ways
drop; the rollback of the removal was refused before. -/
theorem inverse_agrees_in_changed_registry :
    let add : Operation := .add { table := "t", descriptor := .raw "a > 0" }
    let added := (add.apply .standard {}).subject
    let blind : Operation := .remove { table := "t", name := "ck" }
    let refused := ((blind.apply .standard {}).subject.reverse .standard {}).subject
    let w : World := { registry := Registry.empty.put ⟨"t_1000000", "t", "(b > 0)", none⟩ }
    (∃ inverse, added.inverse = .ok inverse ∧
      SameStep w inverse added (inverse.apply .standard w) (added.reverse .standard w)) ∧
    ∃ refusal, refused.inverse = .error (.irreversible refusal) ∧
      (refused.reverse .standard w).result = .error (.irreversible refusal) := by
  intro add added blind refused w
  have reached : added.Reached := .applied (.declared rfl) _ _
  have asked : refused.Reached := .reversed (.applied (.declared rfl) _ _) _ _
  refine ⟨?_, ?_⟩
  · obtain ⟨undone, _⟩ := (inverse_agrees added).1 reached (by decide)
    obtain ⟨inverse, inverts, same⟩ := undone rfl
    exact ⟨inverse, inverts, same .standard w⟩
  · obtain ⟨_, irreversible⟩ := (inverse_agrees refused).1 asked (by decide)
    obtain ⟨refusal, none, refuses⟩ := irreversible rfl
    exact ⟨refusal, none, refuses .standard w⟩

end CheckConstraints.Operation

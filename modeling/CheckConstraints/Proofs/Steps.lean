import CheckConstraints.Operation
import CheckConstraints.Proofs.Emission

/-!
The steps of operations as relations: what a step that took effect did to the operation and to the
world. A step that fails touches neither registry nor statements, and only one kind of failure
touches the operation: an applied removal without a descriptor is over once it was asked to roll
back.
-/

namespace CheckConstraints

theorem AddOperation.state_eq_applied_iff {op : AddOperation} :
    op.state = .applied ↔ ∃ c, op.phase = .applied c := by
  cases phase : op.phase <;> simp [state, phase]

theorem AddOperation.knownName?_of_applied {op : AddOperation} {c : Constraint}
    (phase : op.phase = .applied c) : op.knownName? = some c.name := by
  simp [knownName?, constraint?, phase]

theorem RemoveOperation.state_eq_applied_iff {op : RemoveOperation} :
    op.state = .applied ↔ ∃ removed, op.phase = .applied removed := by
  cases phase : op.phase <;> simp [state, phase]

theorem RemoveOperation.checkDescriptor_eq_ok_iff {op : RemoveOperation} {descriptor : Descriptor}
    (described : op.descriptor = some descriptor) :
    op.checkDescriptor = .ok () ↔ ∃ predicate, descriptor.compile = .ok predicate := by
  simp only [checkDescriptor, described]
  cases descriptor.compile <;> simp [Except.map]

theorem RemoveOperation.reverse_blind (env : Env) {op : RemoveOperation}
    {removed : Option Constraint} (phase : op.phase = .applied removed)
    (blind : op.descriptor = none) (w : World) :
    op.reverse env w = .failed op.irreversible { op with phase := .reversalFailed removed }
      (w.report env (.irreversible op.table op.name)) := by
  simp only [reverse, phase, blind]

theorem RemoveOperation.reverse_failed (env : Env) {op : RemoveOperation}
    {removed : Option Constraint} (phase : op.phase = .reversalFailed removed) (w : World) :
    op.reverse env w = .failed op.irreversible op w := by
  simp only [reverse, phase]

theorem AddOperation.perform_cases (env : Env) (op : AddOperation) (w : World) :
    (∃ fault, (op.perform env w).result = .error fault ∧ (op.perform env w).subject = op ∧
      w.Untouched (op.perform env w).world) ∨
    (∃ c, (op.perform env w).result = .ok c ∧
      (op.perform env w).subject = { op with phase := .applied c } ∧
      World.Created op.table op.knownName? op.descriptor w c (op.perform env w).world) := by
  have spec := World.create_cases env op.table op.knownName? op.descriptor op.source w
  simp only [perform]
  cases made : w.create env op.table op.knownName? op.descriptor op.source with
  | mk answer w₁ =>
      rw [made] at spec
      obtain ⟨fault, rfl, same⟩ | ⟨c, rfl, created⟩ := spec
      · exact Or.inl ⟨fault, rfl, rfl, same⟩
      · exact Or.inr ⟨c, rfl, rfl, { created with }⟩

theorem AddOperation.create_of_perform {env : Env} {op : AddOperation} {w : World} {c : Constraint}
    (done : (op.perform env w).result = .ok c) :
    (w.create env op.table op.knownName? op.descriptor op.source).1 = .ok c := by
  simp only [perform] at done
  cases made : w.create env op.table op.knownName? op.descriptor op.source with
  | mk answer w₁ =>
      cases answer with
      | error fault => simp [made, Outcome.failed] at done
      | ok d =>
          rw [made] at done
          exact done

theorem RemoveOperation.perform_cases (env : Env) (op : RemoveOperation) (w : World) :
    (∃ fault, (op.perform env w).result = .error fault ∧ (op.perform env w).subject = op ∧
      w.Untouched (op.perform env w).world) ∨
    ((op.perform env w).result = .ok (w.registry.get? op.table op.name) ∧
      (op.perform env w).subject =
        { op with phase := .applied (w.registry.get? op.table op.name) } ∧
      op.checkDescriptor = .ok () ∧
      World.Dropped op.table op.name w (op.perform env w).world) := by
  have spec := World.drop_cases env op.table op.name w
  simp only [perform]
  cases checked : op.checkDescriptor with
  | error cause => exact Or.inl ⟨.malformed cause, rfl, rfl, rfl, rfl⟩
  | ok _ =>
      dsimp only
      cases made : w.drop env op.table op.name with
      | mk answer w₁ =>
          rw [made] at spec
          obtain ⟨fault, rfl, same⟩ | ⟨rfl, dropped⟩ := spec
          · exact Or.inl ⟨fault, rfl, rfl, same⟩
          · exact Or.inr ⟨rfl, rfl, rfl, dropped.registry, dropped.emitted⟩

theorem RemoveOperation.restore_cases (env : Env) (op : RemoveOperation)
    (removed : Option Constraint) (descriptor : Descriptor) (w : World) :
    (∃ fault, (op.restore env removed descriptor w).result = .error fault ∧
      (op.restore env removed descriptor w).subject = op ∧
      w.Untouched (op.restore env removed descriptor w).world) ∨
    (∃ c, (op.restore env removed descriptor w).result = .ok c ∧
      (op.restore env removed descriptor w).subject =
        { op with phase := .reversed removed, restored := some c } ∧
      World.Created op.table (some op.name) descriptor w c
        (op.restore env removed descriptor w).world) := by
  have spec := World.create_cases env op.table (some op.name) descriptor none w
  simp only [restore]
  cases made : w.create env op.table (some op.name) descriptor none with
  | mk answer w₁ =>
      rw [made] at spec
      obtain ⟨fault, rfl, same⟩ | ⟨c, rfl, created⟩ := spec
      · exact Or.inl ⟨fault, rfl, rfl, same⟩
      · exact Or.inr ⟨c, rfl, rfl, { created with }⟩

namespace Operation

/-- An application that took effect in `w`: before and after, and the world it left. -/
inductive Applied (w : World) : Operation → Operation → World → Prop where
  | add {op : AddOperation} {c : Constraint} {w' : World}
      (pending : (Operation.add op).pending = true)
      (created : World.Created op.table op.knownName? op.descriptor w c w') :
      Applied w (.add op) (.add { op with phase := .applied c }) w'
  | remove {op : RemoveOperation} {w' : World}
      (pending : (Operation.remove op).pending = true)
      (compiles : op.checkDescriptor = .ok ())
      (dropped : World.Dropped op.table op.name w w') :
      Applied w (.remove op)
        (.remove { op with phase := .applied (w.registry.get? op.table op.name) }) w'

/-- A rollback that took effect in `w`: before and after, and the world it left. -/
inductive Reversed (w : World) : Operation → Operation → World → Prop where
  | add {op : AddOperation} {c : Constraint} {w' : World} (phase : op.phase = .applied c)
      (dropped : World.Dropped op.table c.name w w') :
      Reversed w (.add op) (.add { op with phase := .reversed c }) w'
  | remove {op : RemoveOperation} {removed : Option Constraint} {descriptor : Descriptor}
      {c : Constraint} {w' : World} (phase : op.phase = .applied removed)
      (described : op.descriptor = some descriptor)
      (created : World.Created op.table (some op.name) descriptor w c w') :
      Reversed w (.remove op)
        (.remove { op with phase := .reversed removed, restored := some c }) w'

theorem Applied.emits {op op' : Operation} {w w' : World} (h : op.Applied w op' w') :
    ∃ s, w.Emits s w' := by
  cases h with
  | add pending created => exact ⟨_, created.emits⟩
  | remove pending compiles dropped => exact ⟨_, dropped.emits⟩

theorem Reversed.emits {op op' : Operation} {w w' : World} (h : op.Reversed w op' w') :
    ∃ s, w.Emits s w' := by
  cases h with
  | add phase dropped => exact ⟨_, dropped.emits⟩
  | remove phase described created => exact ⟨_, created.emits⟩

/-- The operation after a rollback that failed. -/
def afterFailure : Operation → Operation
  | .add op => .add op
  | .remove op =>
    match op.phase, op.descriptor with
    | .applied removed, none => .remove { op with phase := .reversalFailed removed }
    | _, _ => .remove op

theorem add_apply_eq (env : Env) (op : AddOperation) (w : World) :
    op.apply env w = if (Operation.add op).pending then op.perform env w
      else .failed (op.wrongState [.declared, .reversed]) op w := by
  cases phase : op.phase <;> simp [AddOperation.apply, pending, state, AddOperation.state, phase]

theorem created_of_add_ok {env : Env} {op : AddOperation} {w : World} {c : Constraint}
    (done : (op.apply env w).result = .ok c) :
    World.Created op.table op.knownName? op.descriptor w c (op.apply env w).world := by
  rw [add_apply_eq] at done ⊢
  split at done
  · rename_i pending
    rw [if_pos pending]
    obtain ⟨_, failed, _⟩ | ⟨_, made, _, created⟩ := op.perform_cases env w
    · rw [failed] at done
      cases done
    · rw [made] at done
      cases done
      exact created
  · cases done

theorem remove_apply_eq (env : Env) (op : RemoveOperation) (w : World) :
    op.apply env w = if (Operation.remove op).pending then op.perform env w
      else .failed (op.wrongState [.declared, .reversed]) op w := by
  cases phase : op.phase <;>
    simp [RemoveOperation.apply, pending, state, RemoveOperation.state, phase]

theorem apply_cases (env : Env) (op : Operation) (w : World) :
    (∃ fault, (op.apply env w).result = .error fault ∧ (op.apply env w).subject = op ∧
      w.Untouched (op.apply env w).world) ∨
    (∃ answer, (op.apply env w).result = .ok answer ∧
      op.Applied w (op.apply env w).subject (op.apply env w).world) := by
  cases op with
  | add op =>
      simp only [apply, Outcome.map, add_apply_eq]
      by_cases pending : (Operation.add op).pending = true
      · rw [if_pos pending]
        obtain ⟨fault, result, subject, same⟩ | ⟨c, result, subject, created⟩ :=
          op.perform_cases env w
        · exact Or.inl ⟨fault, by rw [result]; rfl, by rw [subject], same⟩
        · rw [result, subject]
          exact Or.inr ⟨some c, rfl, .add pending created⟩
      · rw [if_neg pending]
        exact Or.inl ⟨_, rfl, rfl, rfl, rfl⟩
  | remove op =>
      simp only [apply, Outcome.map, remove_apply_eq]
      by_cases pending : (Operation.remove op).pending = true
      · rw [if_pos pending]
        obtain ⟨fault, result, subject, same⟩ | ⟨result, subject, compiles, dropped⟩ :=
          op.perform_cases env w
        · exact Or.inl ⟨fault, by rw [result]; rfl, by rw [subject], same⟩
        · rw [result, subject]
          exact Or.inr ⟨_, rfl, .remove pending compiles dropped⟩
      · rw [if_neg pending]
        exact Or.inl ⟨_, rfl, rfl, rfl, rfl⟩

theorem reverse_cases (env : Env) (op : Operation) (w : World) :
    (∃ fault, (op.reverse env w).result = .error fault ∧
      (op.reverse env w).subject = op.afterFailure ∧
      w.Untouched (op.reverse env w).world) ∨
    (∃ answer, (op.reverse env w).result = .ok answer ∧
      op.Reversed w (op.reverse env w).subject (op.reverse env w).world) := by
  cases op with
  | add op =>
      cases phase : op.phase with
      | declared | reversed c =>
          simp only [reverse, Outcome.map, AddOperation.reverse, phase]
          exact Or.inl ⟨_, rfl, rfl, rfl, rfl⟩
      | applied c =>
          have spec := World.drop_cases env op.table c.name w
          simp only [reverse, Outcome.map, AddOperation.reverse, phase]
          cases made : w.drop env op.table c.name with
          | mk answer w₁ =>
              rw [made] at spec
              obtain ⟨fault, rfl, same⟩ | ⟨rfl, dropped⟩ := spec
              · exact Or.inl ⟨fault, rfl, rfl, same⟩
              · exact Or.inr ⟨none, rfl, .add phase ⟨dropped.registry, dropped.emitted⟩⟩
  | remove op =>
      cases phase : op.phase with
      | declared | reversed removed | reversalFailed removed =>
          simp only [reverse, Outcome.map, RemoveOperation.reverse, afterFailure, phase]
          exact Or.inl ⟨_, rfl, rfl, rfl, rfl⟩
      | applied removed =>
          cases described : op.descriptor with
          | none =>
              simp only [reverse, Outcome.map, RemoveOperation.reverse, afterFailure, phase,
                described]
              exact Or.inl ⟨_, rfl, rfl, rfl, rfl⟩
          | some descriptor =>
              simp only [reverse, Outcome.map, RemoveOperation.reverse, afterFailure, phase,
                described]
              obtain ⟨fault, result, subject, same⟩ | ⟨c, result, subject, created⟩ :=
                op.restore_cases env removed descriptor w
              · exact Or.inl ⟨fault, by rw [result]; rfl, by rw [subject], same⟩
              · rw [result, subject]
                exact Or.inr ⟨some c, rfl, .remove phase described created⟩

section Answers
variable {env : Env} {op : Operation} {w : World} {fault : Fault} {answer : Option Constraint}

theorem untouched_of_apply_error (failed : (op.apply env w).result = .error fault) :
    (op.apply env w).subject = op ∧ w.Untouched (op.apply env w).world := by
  obtain ⟨_, _, subject, same⟩ | ⟨_, done, _⟩ := op.apply_cases env w
  · exact ⟨subject, same⟩
  · rw [done] at failed
    cases failed

theorem untouched_of_reverse_error (failed : (op.reverse env w).result = .error fault) :
    (op.reverse env w).subject = op.afterFailure ∧ w.Untouched (op.reverse env w).world := by
  obtain ⟨_, _, subject, same⟩ | ⟨_, done, _⟩ := op.reverse_cases env w
  · exact ⟨subject, same⟩
  · rw [done] at failed
    cases failed

theorem applied_of_ok (done : (op.apply env w).result = .ok answer) :
    op.Applied w (op.apply env w).subject (op.apply env w).world := by
  obtain ⟨_, failed, _⟩ | ⟨_, _, took⟩ := op.apply_cases env w
  · rw [done] at failed
    cases failed
  · exact took

theorem reversed_of_ok (done : (op.reverse env w).result = .ok answer) :
    op.Reversed w (op.reverse env w).subject (op.reverse env w).world := by
  obtain ⟨_, failed, _⟩ | ⟨_, _, took⟩ := op.reverse_cases env w
  · rw [done] at failed
    cases failed
  · exact took

end Answers

end Operation

end CheckConstraints

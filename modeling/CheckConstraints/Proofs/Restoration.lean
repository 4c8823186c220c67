import CheckConstraints.Proofs.Steps

/-!
A removal with a descriptor, applied and rolled back. Whatever was live under its name, the
constraint of the descriptor is live there afterwards, and a drop and a creation were emitted. What
the removal needs for it is a descriptor with a predicate, a fitting name and an executor that takes
the statements.
-/

namespace CheckConstraints

namespace World

/-- What is created under a given name is known in full. -/
theorem Created.eq {table name predicate : String} {descriptor : Descriptor} {w w' : World}
    {c : Constraint} (h : Created table (some name) descriptor w c w')
    (compiled : descriptor.compile = .ok predicate) :
    c = ⟨name, table, predicate, some descriptor⟩ := by
  rw [← h.named name rfl]
  exact h.whole compiled

end World

namespace RemoveOperation

variable {env : Env} {descriptor : Descriptor} {predicate : String} {w : World}

theorem perform_drops (op : RemoveOperation) (checked : op.checkDescriptor = .ok ())
    (accepting : ∀ call s, env.executor call s = none) :
    (op.perform env w).result = .ok (w.registry.get? op.table op.name) ∧
    (op.perform env w).subject =
      { op with phase := .applied (w.registry.get? op.table op.name) } ∧
    World.Dropped op.table op.name w (op.perform env w).world := by
  have dropped := World.drop_succeeds env op.table op.name w accepting
  obtain ⟨_, failed, _⟩ | ⟨done, subject, _, took⟩ := op.perform_cases env w
  · simp only [perform, checked] at failed
    cases made : w.drop env op.table op.name with
    | mk answer w₁ =>
        rw [made] at dropped failed
        obtain rfl : answer = _ := dropped
        cases failed
  · exact ⟨done, subject, took⟩

theorem restore_creates (op : RemoveOperation) (removed : Option Constraint)
    (compiled : descriptor.compile = .ok predicate) (nonempty : op.name ≠ "")
    (short : (op.name.length : Int) ≤ env.settings.maxNameLength)
    (free : op.name ∉ w.registry.names op.table)
    (accepting : ∀ call s, env.executor call s = none) :
    let c : Constraint := ⟨op.name, op.table, predicate, some descriptor⟩
    (op.restore env removed descriptor w).result = .ok c ∧
    World.Created op.table (some op.name) descriptor w c
      (op.restore env removed descriptor w).world := by
  intro c
  obtain ⟨_, created⟩ := World.create_succeeds none compiled nonempty short free accepting
  obtain ⟨_, failed, _⟩ | ⟨_, done, _, took⟩ := op.restore_cases env removed descriptor w
  · simp only [restore] at failed
    cases made : w.create env op.table (some op.name) descriptor none with
    | mk answer w₁ =>
        rw [made] at created failed
        obtain rfl : answer = .ok _ := created
        cases failed
  · obtain rfl := took.eq compiled
    exact ⟨done, took⟩

/-- The outcome of applying a removal and rolling it back right away. -/
def undone (env : Env) (op : RemoveOperation) (w : World) : Outcome RemoveOperation Constraint :=
  (op.apply env w).subject.reverse env (op.apply env w).world

theorem undone_restores (op : RemoveOperation) (pending : (Operation.remove op).pending = true)
    (described : op.descriptor = some descriptor)
    (compiled : descriptor.compile = .ok predicate) (nonempty : op.name ≠ "")
    (short : (op.name.length : Int) ≤ env.settings.maxNameLength)
    (accepting : ∀ call s, env.executor call s = none) (w : World) :
    let c : Constraint := ⟨op.name, op.table, predicate, some descriptor⟩
    (op.apply env w).result = .ok (w.registry.get? op.table op.name) ∧
    (op.undone env w).result = .ok c ∧
    (op.undone env w).world.registry = w.registry.put c ∧
    (op.undone env w).world.emitted =
      w.emitted ++ [.drop op.table op.name, .create op.table op.name predicate] := by
  intro c
  have checked : op.checkDescriptor = .ok () :=
    (checkDescriptor_eq_ok_iff described).mpr ⟨predicate, compiled⟩
  have applies : op.apply env w = op.perform env w := by
    rw [Operation.remove_apply_eq, if_pos pending]
  obtain ⟨done, subject, dropped⟩ := op.perform_drops checked accepting
  -- the drop frees the name, whether or not anything was live under it
  have free : op.name ∉ (op.perform env w).world.registry.names op.table := by
    rw [← Registry.catalog_eq_none_iff, dropped.registry, Registry.catalog_erase]
    exact Catalog.erase_self _ _ _
  let removed := w.registry.get? op.table op.name
  let gone : RemoveOperation := { op with phase := .applied removed }
  obtain ⟨restored, created⟩ :=
    gone.restore_creates removed compiled nonempty short free accepting
  have undoes : op.undone env w = gone.restore env removed descriptor (op.perform env w).world := by
    simp only [undone, applies, subject, reverse, described, gone, removed]
  rw [undoes]
  refine ⟨applies ▸ done, restored, ?_, ?_⟩
  · rw [created.registry, dropped.registry]
    exact Registry.put_erase _ c
  · rw [created.emitted, dropped.emitted, List.append_assoc]
    rfl

end RemoveOperation

end CheckConstraints

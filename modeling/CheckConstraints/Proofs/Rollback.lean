import CheckConstraints.Proofs.Checkpoint
import CheckConstraints.Proofs.Restoration
import CheckConstraints.Proofs.SnapshotCatalog

/-!
A downgrade is the exact inverse of a completed upgrade. The operations stand on top of each other,
so that every rollback comes to the catalog on which its operation was applied. What the downgrade
needs beyond that is what the creation of a constraint needs: a descriptor and a fitting name for
each removal, and an executor that takes the statements.
-/

namespace CheckConstraints

theorem AddOperation.reverse_succeeds {env : Env} (op : AddOperation) {c : Constraint}
    (phase : op.phase = .applied c) (w : World)
    (accepting : ∀ call s, env.executor call s = none) : (op.reverse env w).result = .ok () := by
  have dropped := World.drop_succeeds env op.table c.name w accepting
  simp only [reverse, phase]
  cases made : w.drop env op.table c.name with
  | mk answer w' =>
      rw [made] at dropped
      obtain rfl : answer = _ := dropped
      rfl

namespace Operation

/-- A removal carries a descriptor and has a name under which it can be created again. -/
def Restorable (settings : Settings) : Operation → Prop
  | .add _ => True
  | .remove op => op.descriptor.isSome = true ∧ op.name ≠ "" ∧
      (op.name.length : Int) ≤ settings.maxNameLength

instance (settings : Settings) : (op : Operation) → Decidable (op.Restorable settings)
  | .add _ => isTrue True.intro
  | .remove _ => inferInstanceAs (Decidable (_ ∧ _ ∧ _))

theorem restorable_declaration (settings : Settings) (op : Operation) :
    op.declaration.Restorable settings ↔ op.Restorable settings := by
  cases op <;> rfl

theorem restorable_of_declarations {settings : Settings} {ops ops' : List Operation}
    (same : ops'.map declaration = ops.map declaration)
    (restorable : ∀ op ∈ ops, op.Restorable settings) :
    ∀ op ∈ ops', op.Restorable settings := by
  intro op member
  have listed : op.declaration ∈ ops.map declaration := same ▸ List.mem_map_of_mem member
  obtain ⟨original, member', eq⟩ := List.mem_map.mp listed
  have fits := restorable original member'
  rw [← restorable_declaration, eq, restorable_declaration] at fits
  exact fits

/-- On top of the catalog on which it stands, a restorable operation is rolled back. -/
theorem reverse_succeeds {env : Env} {op : Operation} {s : Statement} {cat : Catalog} {w : World}
    (stands : op.StandsOn cat) (statement : op.statement? = some s)
    (top : w.registry.catalog = s.effect cat) (restorable : op.Restorable env.settings)
    (accepting : ∀ call s, env.executor call s = none) :
    ∃ answer, (op.reverse env w).result = .ok answer := by
  cases op with
  | add op =>
      obtain ⟨c, phase, _, _⟩ := stands
      refine ⟨none, ?_⟩
      simp only [reverse, Outcome.map, op.reverse_succeeds phase w accepting]
      rfl
  | remove op =>
      obtain ⟨described, nonempty, short⟩ := restorable
      obtain ⟨descriptor, carried⟩ := Option.isSome_iff_exists.mp described
      obtain ⟨predicate, compiled, _⟩ := stands.2 descriptor carried
      obtain ⟨removed, phase⟩ : ∃ removed, op.phase = .applied removed := by
        have applied : op.state = .applied := by
          obtain applied | ⟨_, blind⟩ := stands.1
          · exact applied
          · simp [carried] at blind
        exact RemoveOperation.state_eq_applied_iff.mp applied
      have free : op.name ∉ w.registry.names op.table := by
        obtain rfl := Option.some.inj statement
        rw [← Registry.catalog_eq_none_iff, top]
        exact Catalog.erase_self cat op.table op.name
      obtain ⟨restored, _⟩ :=
        op.restore_creates removed compiled nonempty short free accepting
      simp only [reverse, Outcome.map, RemoveOperation.reverse, phase, carried, restored]
      exact ⟨_, rfl⟩

end Operation

theorem downgrade_completes (env : Env) {start cat : Catalog} {ops : List Operation}
    {ss : List Statement} {w : World} (stacked : Stacked start ops ss cat)
    (top : w.registry.catalog = cat) (restorable : ∀ op ∈ ops, op.Restorable env.settings)
    (accepting : ∀ call s, env.executor call s = none) :
    (runOperations Operation.live (Operation.reverse env) ops w).result = .ok () := by
  induction stacked generalizing w with
  | base => rfl
  | @push op s ops ss cat below stands statement ih =>
      obtain ⟨answer, done⟩ := Operation.reverse_succeeds stands statement top
        (restorable op List.mem_cons_self) accepting
      obtain ⟨_, _, _, lower⟩ :=
        (Operation.reversed_of_ok done).emits_undo stands statement top
      have rest := ih lower fun op member => restorable op (List.mem_cons_of_mem _ member)
      rw [runOperations_ok _ _ (Operation.live_of_standsOn stands) done, Outcome.map_result]
      exact rest

namespace Migration

theorem upgrade_stacks (env : Env) {m : Migration} {w : World}
    (declared : ∀ op ∈ m.operations, op.state = .declared)
    (completes : (m.upgrade env w).result = .ok ())
    (finds : ∀ s ∈ m.applications env w, s.1.Finds s.2.registry.catalog) :
    ∃ forward,
      Stacked w.registry.catalog (m.upgrade env w).subject.operations.reverse forward
        (m.upgrade env w).world.registry.catalog ∧
      (m.upgrade env w).world.emitted = w.emitted ++ forward ∧
      (m.upgrade env w).subject.operations.map Operation.declaration =
        m.operations.map Operation.declaration := by
  have pending : ∀ op ∈ m.operations, op.pending = true :=
    fun op member => Operation.pending_of_declared (declared op member)
  obtain ⟨done, rest, forward, raised⟩ :=
    upgrade_raises (m.env env) m.operations .base pending finds
  have result := completes
  simp only [upgrade, Outcome.map_result] at result
  obtain rfl := raised.complete result
  refine ⟨forward, ?_, raised.emitted, raised.declarations⟩
  have applied : (m.upgrade env w).subject.operations = done := by
    simpa [upgrade, Outcome.map] using raised.split
  rw [applied]
  simpa [upgrade, Outcome.map] using raised.stacked

theorem downgrade_unstacks (env : Env) {m : Migration} {w : World} {start : Catalog}
    {ss : List Statement}
    (stacked : Stacked start m.operations.reverse ss w.registry.catalog)
    (restorable : ∀ op ∈ m.operations, op.Restorable env.settings)
    (accepting : ∀ call s, env.executor call s = none) :
    (m.downgrade env w).result = .ok () ∧
    (m.downgrade env w).subject.operations.map Operation.declaration =
      m.operations.map Operation.declaration ∧
    (∀ op ∈ (m.downgrade env w).subject.operations, op.state = .reversed) ∧
    (m.downgrade env w).world.registry.catalog = start ∧
    ∃ backward, (m.downgrade env w).world.emitted = w.emitted ++ backward ∧
      start.rollback? ss = some backward := by
  have fits : ∀ op ∈ m.operations.reverse, op.Restorable env.settings := by
    intro op member
    exact restorable op (List.mem_reverse.mp member)
  have completed := downgrade_completes (m.env env) stacked rfl fits accepting
  obtain ⟨back, kept, left, undone, backward, lowered⟩ :=
    downgrade_lowers (m.env env) stacked rfl
  -- nothing is left of the operations, so that the stack has come down to its base
  obtain rfl := lowered.complete completed
  obtain ⟨rfl, restored⟩ := lowered.stacked.eq_base
  have whole : ss = undone := lowered.statements
  refine ⟨?_, ?_, ?_, restored, backward, lowered.emitted, ?_⟩
  · rw [downgrade, Outcome.map_result]
    exact completed
  · simp [downgrade, Outcome.map, lowered.declarations]
  · intro op member
    apply lowered.reversed op
    simpa [downgrade, Outcome.map, lowered.split] using member
  · rw [whole]
    exact lowered.rollback

/-- The executor and the settings of the downgrade may differ from those of the upgrade, and so may
the statements that its world has seen. -/
theorem downgrade_restores (upEnv downEnv : Env) {m : Migration} {w w' : World}
    (declared : ∀ op ∈ m.operations, op.state = .declared)
    (completes : (m.upgrade upEnv w).result = .ok ())
    (finds : ∀ s ∈ m.applications upEnv w, s.1.Finds s.2.registry.catalog)
    (restorable : ∀ op ∈ m.operations, op.Restorable downEnv.settings)
    (accepting : ∀ call s, downEnv.executor call s = none)
    (same : w'.registry = (m.upgrade upEnv w).world.registry) :
    let up := m.upgrade upEnv w
    let down := up.subject.downgrade downEnv w'
    down.result = .ok () ∧
    down.subject.operations.map Operation.declaration =
      m.operations.map Operation.declaration ∧
    (∀ op ∈ down.subject.operations, op.state = .reversed) ∧
    down.world.registry.catalog = w.registry.catalog ∧
    (∀ indent, Snapshot.render down.world.registry indent = Snapshot.render w.registry indent) ∧
    ∃ forward backward, up.world.emitted = w.emitted ++ forward ∧
      down.world.emitted = w'.emitted ++ backward ∧
      w.registry.catalog.rollback? forward = some backward := by
  intro up down
  obtain ⟨forward, stacked, sent, declarations⟩ := upgrade_stacks upEnv declared completes finds
  rw [← same] at stacked
  have fits : ∀ op ∈ up.subject.operations, op.Restorable downEnv.settings :=
    Operation.restorable_of_declarations declarations restorable
  obtain ⟨result, kept, reversed, restored, backward, returned, rollback⟩ :=
    downgrade_unstacks downEnv stacked fits accepting
  refine ⟨result, kept.trans declarations, reversed, restored, ?_, ?_⟩
  · exact Snapshot.render_eq_of_catalog_eq restored
  · exact ⟨forward, backward, sent, returned, rollback⟩

/-- A name is removed, used again by an add, and removed again, next to an anonymous add. -/
theorem downgrade_restores_reused_name :
    let w : World := { registry := Registry.empty.put ⟨"ck", "t", "(a > 0)", none⟩ }
    let m : Migration := { operations := [
      .remove { table := "t", name := "ck", descriptor := some (.raw "a > 0") },
      .add { table := "t", descriptor := .raw "b > 0", name := some "ck" },
      .add { table := "t", descriptor := .raw "c > 0" },
      .remove { table := "t", name := "ck", descriptor := some (.raw "b > 0") }] }
    let up := m.upgrade .standard w
    let down := up.subject.downgrade .standard up.world
    down.result = .ok () ∧ down.world.registry.catalog = w.registry.catalog := by
  intro w m up down
  obtain ⟨completed, _, _, restored, _⟩ :=
    downgrade_restores .standard .standard (by decide) (rfl : up.result = .ok ()) (by decide)
      (by decide) (fun _ _ => rfl) rfl
  exact ⟨completed, restored⟩

end Migration

end CheckConstraints

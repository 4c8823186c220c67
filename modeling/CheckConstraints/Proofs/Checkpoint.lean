import CheckConstraints.Proofs.Run

/-!
Checkpoints of a migration. However its upgrades and downgrades are interrupted, resumed and mixed,
the live operations of a migration are the first ones, and the registry is what they made of the one
at the start. Nothing is assumed about the executor, the settings or the sources of suffixes, which
may differ from call to call. A removal with a descriptor has to describe what it removes, since its
rollback creates what the descriptor says.
-/

namespace CheckConstraints

namespace Operation

theorem state_of_live {op : Operation} (h : op.live = true) :
    op.state = .applied ∨ op.state = .reversalFailed := by
  simpa [live] using h

theorem state_of_pending {op : Operation} (h : op.pending = true) :
    op.state = .declared ∨ op.state = .reversed := by
  simpa [pending] using h

theorem pending_of_live {op : Operation} (h : op.live = true) : op.pending = false := by
  simpa [live_eq_not_pending] using h

theorem live_of_pending {op : Operation} (h : op.pending = true) : op.live = false := by
  simp [live_eq_not_pending, h]

end Operation

namespace Migration

/-- The applications that an upgrade completes, each with the world before it. -/
def applications (env : Env) (m : Migration) (w : World) : List (Operation × World) :=
  completedSteps Operation.pending (Operation.apply (m.env env)) m.operations w

/-- What calls make of a migration and of a world, one call after the other, whether they fail or
not. Each removal with a descriptor that is applied on the way finds what it describes. -/
inductive Driven (m₀ : Migration) (w₀ : World) : Migration → World → Prop where
  | start : Driven m₀ w₀ m₀ w₀
  | upgrade {m : Migration} {w : World} (env : Env) (before : Driven m₀ w₀ m w)
      (finds : ∀ s ∈ m.applications env w, s.1.Finds s.2.registry.catalog) :
      Driven m₀ w₀ (m.upgrade env w).subject (m.upgrade env w).world
  | downgrade {m : Migration} {w : World} (env : Env) (before : Driven m₀ w₀ m w) :
      Driven m₀ w₀ (m.downgrade env w).subject (m.downgrade env w).world

/-- The first `p` operations are live and the later ones pending, and the catalog is the one at the
start with the statements of the first `p` replayed on it, in their order. -/
structure Checkpoint (start : Catalog) (ops : List Operation) (cat : Catalog) (p : Nat) :
    Prop where
  le : p ≤ ops.length
  live : ∀ op ∈ ops.take p, op.state = .applied ∨ op.state = .reversalFailed
  pending : ∀ op ∈ ops.drop p, op.state = .declared ∨ op.state = .reversed
  replayed : ∃ ss, (ops.take p).map Operation.statement? = ss.map some ∧ cat = start.replay ss

def Standing (start : Catalog) (ops : List Operation) (cat : Catalog) : Prop :=
  ∃ done rest ss, ops = done ++ rest ∧ (∀ op ∈ rest, op.pending = true) ∧
    Stacked start done.reverse ss cat

variable {start cat : Catalog} {ops : List Operation} {m m₀ : Migration} {w w₀ : World}

theorem Standing.checkpoint (h : Standing start ops cat) : ∃ p, Checkpoint start ops cat p := by
  obtain ⟨done, rest, ss, rfl, pending, stacked⟩ := h
  refine ⟨done.length, by simp, ?_, ?_, ss, ?_, stacked.catalog_eq⟩
  · intro op member
    rw [List.take_left] at member
    exact Operation.state_of_live (stacked.live op (List.mem_reverse.mpr member))
  · intro op member
    rw [List.drop_left] at member
    exact Operation.state_of_pending (pending op member)
  · simpa using stacked.statements

theorem standing_upgrade (env : Env) (h : Standing start m.operations w.registry.catalog)
    (finds : ∀ s ∈ m.applications env w, s.1.Finds s.2.registry.catalog) :
    Standing start (m.upgrade env w).subject.operations
        (m.upgrade env w).world.registry.catalog ∧
      (m.upgrade env w).subject.operations.map Operation.declaration =
        m.operations.map Operation.declaration := by
  obtain ⟨done, rest, ss, split, pending, stacked⟩ := h
  have skip : ∀ op ∈ done, op.pending = false := fun op member =>
    Operation.pending_of_live (stacked.live op (List.mem_reverse.mpr member))
  simp only [applications, split, completedSteps_skip _ _ skip] at finds
  obtain ⟨done', rest', forward, raised⟩ := upgrade_raises (m.env env) rest stacked pending finds
  simp only [upgrade, Outcome.map, split, runOperations_skip _ _ skip]
  refine ⟨⟨done ++ done', rest', ss ++ forward, ?_, raised.pending, ?_⟩, ?_⟩
  · simp [raised.split]
  · simpa using raised.stacked
  · simp [raised.declarations]

theorem standing_downgrade (env : Env) (h : Standing start m.operations w.registry.catalog) :
    Standing start (m.downgrade env w).subject.operations
        (m.downgrade env w).world.registry.catalog ∧
      (m.downgrade env w).subject.operations.map Operation.declaration =
        m.operations.map Operation.declaration := by
  obtain ⟨done, rest, ss, split, pending, stacked⟩ := h
  have skip : ∀ op ∈ rest.reverse, op.live = false := fun op member =>
    Operation.live_of_pending (pending op (List.mem_reverse.mp member))
  obtain ⟨back, kept, left, undone, backs, lowered⟩ :=
    downgrade_lowers (m.env env) stacked rfl
  simp only [downgrade, Outcome.map, split, List.reverse_append, runOperations_skip _ _ skip]
  refine ⟨⟨kept.reverse, back.reverse ++ rest, left, ?_, ?_, ?_⟩, ?_⟩
  · simp [lowered.split]
  · intro op member
    cases List.mem_append.mp member with
    | inl off =>
        have state := lowered.reversed op (List.mem_reverse.mp off)
        simp [Operation.pending, state]
    | inr on => exact pending op on
  · simpa using lowered.stacked
  · simp [List.map_reverse, lowered.declarations]

theorem standing_of_driven (h : Driven m₀ w₀ m w)
    (declared : ∀ op ∈ m₀.operations, op.state = .declared) :
    Standing w₀.registry.catalog m.operations w.registry.catalog ∧
      m.operations.map Operation.declaration = m₀.operations.map Operation.declaration := by
  induction h with
  | start =>
      refine ⟨⟨[], m₀.operations, [], rfl, ?_, .base⟩, rfl⟩
      exact fun op member => Operation.pending_of_declared (declared op member)
  | upgrade env before finds ih =>
      obtain ⟨standing, same⟩ := standing_upgrade env ih.1 finds
      exact ⟨standing, same.trans ih.2⟩
  | downgrade env before ih =>
      obtain ⟨standing, same⟩ := standing_downgrade env ih.1
      exact ⟨standing, same.trans ih.2⟩

/-- After any calls a migration of declared operations is at a checkpoint, with the operations that
were declared. -/
theorem checkpoint_of_driven (h : Driven m₀ w₀ m w)
    (declared : ∀ op ∈ m₀.operations, op.state = .declared) :
    (∃ p, Checkpoint w₀.registry.catalog m.operations w.registry.catalog p) ∧
      m.operations.map Operation.declaration = m₀.operations.map Operation.declaration := by
  obtain ⟨standing, same⟩ := standing_of_driven h declared
  exact ⟨standing.checkpoint, same⟩

/-- The executor refuses the third statement, and what was done until then is rolled back and done
again; the last operation ends the second rollback. -/
theorem checkpoint_of_interrupted_calls :
    let w : World := { registry := Registry.empty.put ⟨"ck", "t", "(a > 0)", none⟩ }
    let m : Migration := { operations := [
      .remove { table := "t", name := "ck", descriptor := some (.raw "a > 0") },
      .add { table := "t", descriptor := .raw "b > 0" },
      .remove { table := "t", name := "ck2" }] }
    let first := m.upgrade { Env.standard with executor := .failingOn [3] .accepting } w
    let second := first.subject.downgrade .standard first.world
    let third := second.subject.upgrade .standard second.world
    let fourth := third.subject.downgrade .standard third.world
    (∃ p, Checkpoint w.registry.catalog fourth.subject.operations
      fourth.world.registry.catalog p) ∧
    fourth.subject.operations.map Operation.declaration =
      m.operations.map Operation.declaration := by
  intro w m first second third fourth
  have interrupted : Driven m w first.subject first.world := .upgrade _ .start (by decide)
  have resumed : Driven m w third.subject third.world :=
    .upgrade .standard (.downgrade .standard interrupted) (by decide)
  refine checkpoint_of_driven (.downgrade .standard resumed) ?_
  decide

end Migration

end CheckConstraints

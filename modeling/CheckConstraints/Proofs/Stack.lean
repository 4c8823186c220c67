import CheckConstraints.Migration
import CheckConstraints.Proofs.Steps

/-!
Live operations as a stack. Every live operation stands on the catalog that it was applied to, with
what it takes to come back to that catalog: the name of an add was free there, and a removal with a
descriptor found its own predicate. An application puts an operation on top, and a rollback takes
the top off and leads back to the catalog below.
-/

namespace CheckConstraints

namespace Operation

def declaration : Operation → Operation
  | .add op => .add { op with phase := .declared }
  | .remove op => .remove { op with phase := .declared, restored := none }

/-- The statement by which an applied operation took effect. An add creates its resolved name with
the predicate of its descriptor, and a removal drops its name. -/
def statement? : Operation → Option Statement
  | .add op =>
    match op.constraint?, op.descriptor.compile with
    | some c, .ok predicate => some (.create op.table c.name predicate)
    | _, _ => none
  | .remove op => some (.drop op.table op.name)

/-- A removal with a descriptor finds its target live, with the predicate of that descriptor. -/
def Finds : Operation → Catalog → Prop
  | .add _, _ => True
  | .remove op, cat => ∀ descriptor, op.descriptor = some descriptor →
      ∃ predicate, descriptor.compile = .ok predicate ∧ cat op.table op.name = some predicate

instance (op : RemoveOperation) (cat : Catalog) : Decidable ((Operation.remove op).Finds cat) :=
  decidable_of_iff (op.descriptor.all (fun descriptor =>
      match descriptor.compile with
      | .ok predicate => cat op.table op.name == some predicate
      | .error _ => false) = true) <| by
    cases described : op.descriptor with
    | none => simp [Finds, described]
    | some descriptor =>
        cases compiled : descriptor.compile <;> simp [Finds, described, compiled]

instance : (op : Operation) → (cat : Catalog) → Decidable (op.Finds cat)
  | .add _, _ => isTrue True.intro
  | .remove _, _ => inferInstance

/-- A live operation that was applied to the catalog and can lead back to it, unless it is a removal
without a descriptor. -/
def StandsOn : Operation → Catalog → Prop
  | .add op, cat => ∃ c, op.phase = .applied c ∧ op.descriptor.compile = .ok c.predicate ∧
      cat op.table c.name = none
  | .remove op, cat =>
      (op.state = .applied ∨ op.state = .reversalFailed ∧ op.descriptor = none) ∧
        (Operation.remove op).Finds cat

theorem pending_of_declared {op : Operation} (h : op.state = .declared) : op.pending = true := by
  simp [pending, h]

theorem live_of_standsOn {op : Operation} {cat : Catalog} (h : op.StandsOn cat) :
    op.live = true := by
  cases op with
  | add op =>
      obtain ⟨c, phase, _⟩ := h
      simp [live, state, AddOperation.state, phase]
  | remove op =>
      obtain ⟨applied | ⟨asked, _⟩, _⟩ := h
      · simp [live, state, applied]
      · simp [live, state, asked]

section Steps
variable {op op' : Operation} {w w' : World} {cat : Catalog}

theorem Applied.declaration_eq (h : op.Applied w op' w') : op'.declaration = op.declaration := by
  cases h <;> rfl

theorem Applied.state_eq (h : op.Applied w op' w') : op'.state = .applied := by
  cases h <;> rfl

theorem Applied.emits_statement (h : op.Applied w op' w') :
    ∃ s, op'.statement? = some s ∧ w.Emits s w' := by
  cases h with
  | add pending created =>
      exact ⟨_, by simp [statement?, AddOperation.constraint?, created.compiled], created.emits⟩
  | remove pending compiles dropped => exact ⟨_, rfl, dropped.emits⟩

theorem Applied.standsOn (h : op.Applied w op' w') (finds : op.Finds w.registry.catalog) :
    op'.StandsOn w.registry.catalog := by
  cases h with
  | add pending created =>
      exact ⟨_, rfl, created.compiled, created.emits.fits⟩
  | remove pending compiles dropped => exact ⟨Or.inl rfl, finds⟩

theorem Reversed.declaration_eq (h : op.Reversed w op' w') :
    op'.declaration = op.declaration := by
  cases h <;> rfl

theorem Reversed.state_eq (h : op.Reversed w op' w') : op'.state = .reversed := by
  cases h <;> rfl

/-- A rollback takes effect by the statement that undoes the operation's own, and leads back to the
catalog below. -/
theorem Reversed.emits_undo {s : Statement} (h : op.Reversed w op' w') (stands : op.StandsOn cat)
    (statement : op.statement? = some s) (top : w.registry.catalog = s.effect cat) :
    ∃ back, s.undo? cat = some back ∧ w.Emits back w' ∧ w'.registry.catalog = cat := by
  have undone : ∃ back, s.undo? cat = some back ∧ w.Emits back w' := by
    cases h with
    | @add add c w' phase dropped =>
        obtain ⟨c', applied, compiled, free⟩ := stands
        obtain rfl : c = c' := by
          rw [phase] at applied
          exact AddPhase.applied.inj applied
        simp only [statement?, AddOperation.constraint?, phase, compiled, Option.some.injEq]
          at statement
        subst statement
        exact ⟨.drop add.table c.name, by simp [Statement.undo?, free], dropped.emits⟩
    | @remove remove removed descriptor c w' phase described created =>
        obtain ⟨predicate, compiled, found⟩ := stands.2 descriptor described
        have text : predicate = c.predicate := by
          rw [created.compiled] at compiled
          exact (Except.ok.inj compiled).symm
        have name : c.name = remove.name := created.named remove.name rfl
        obtain rfl := Option.some.inj statement
        refine ⟨.create remove.table remove.name predicate, by simp [Statement.undo?, found], ?_⟩
        rw [text, ← name]
        exact created.emits
  obtain ⟨back, undoes, emits⟩ := undone
  refine ⟨back, undoes, emits, ?_⟩
  rw [emits.catalog, top]
  exact Statement.effect_undo? undoes

theorem afterFailure_declaration (op : Operation) :
    op.afterFailure.declaration = op.declaration := by
  cases op with
  | add op => rfl
  | remove op =>
      simp only [afterFailure]
      split <;> rfl

theorem afterFailure_statement? (op : Operation) : op.afterFailure.statement? = op.statement? := by
  cases op with
  | add op => rfl
  | remove op =>
      simp only [afterFailure]
      split <;> rfl

theorem afterFailure_standsOn (h : op.StandsOn cat) : op.afterFailure.StandsOn cat := by
  cases op with
  | add op => exact h
  | remove op =>
      simp only [afterFailure]
      split
      · rename_i described
        exact ⟨Or.inr ⟨rfl, described⟩, h.2⟩
      · exact h

end Steps

end Operation

/-- Live operations, newest first, with their statements, oldest first, and the catalog on top. -/
inductive Stacked (start : Catalog) : List Operation → List Statement → Catalog → Prop where
  | base : Stacked start [] [] start
  | push {op : Operation} {s : Statement} {ops : List Operation} {ss : List Statement}
      {cat : Catalog} (below : Stacked start ops ss cat) (stands : op.StandsOn cat)
      (statement : op.statement? = some s) : Stacked start (op :: ops) (ss ++ [s]) (s.effect cat)

namespace Stacked

variable {start cat : Catalog} {ops : List Operation} {ss : List Statement}

theorem live (h : Stacked start ops ss cat) : ∀ op ∈ ops, op.live = true := by
  induction h with
  | base => simp
  | push below stands statement ih =>
      intro op member
      cases member with
      | head => exact Operation.live_of_standsOn stands
      | tail _ member => exact ih op member

theorem eq_base (h : Stacked start [] ss cat) : ss = [] ∧ cat = start := by
  cases h
  exact ⟨rfl, rfl⟩

theorem catalog_eq (h : Stacked start ops ss cat) : cat = start.replay ss := by
  induction h with
  | base => rfl
  | push below stands statement ih =>
      rw [Catalog.replay_append, ← ih]
      rfl

theorem statements (h : Stacked start ops ss cat) :
    ops.reverse.map Operation.statement? = ss.map some := by
  induction h with
  | base => rfl
  | push below stands statement ih => simp [ih, statement]

end Stacked

end CheckConstraints

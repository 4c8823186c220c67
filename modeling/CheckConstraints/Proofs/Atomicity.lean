import CheckConstraints.Proofs.Steps

/-!
Steps are atomic. A step that fails leaves the registry, the emitted statements and the operation as
they were, but for a removal that a rollback brings to its end. A step that emitted its statement
does not fail any more: the registry accepts what was announced to it.
-/

namespace CheckConstraints

namespace Operation

/-- The last three parts are about what comes after an emission: the step has an answer, and the
registry takes the constraint. -/
theorem failed_step_atomic (env : Env) (op : Operation) (w : World) :
    (∀ fault, (op.apply env w).result = .error fault →
      (op.apply env w).subject = op ∧ w.Untouched (op.apply env w).world) ∧
    (∀ fault, (op.reverse env w).result = .error fault →
      (op.reverse env w).subject = op.afterFailure ∧ w.Untouched (op.reverse env w).world) ∧
    ((op.apply env w).world.emitted ≠ w.emitted →
      ∃ answer, (op.apply env w).result = .ok answer) ∧
    ((op.reverse env w).world.emitted ≠ w.emitted →
      ∃ answer, (op.reverse env w).result = .ok answer) ∧
    (∀ table explicit descriptor source predicate name w₁ w₂,
      w.resolve env table explicit (w.registry.names table) source = (.ok name, w₁) →
      w₁.emit env (.create table name predicate) = (.ok (), w₂) →
      ∃ registry, w₂.registry.add ⟨name, table, predicate, descriptor⟩ = .ok registry) := by
  refine ⟨?_, ?_, ?_, ?_, ?_⟩
  · intro fault failed
    exact untouched_of_apply_error failed
  · intro fault failed
    exact untouched_of_reverse_error failed
  · intro sent
    obtain ⟨_, _, _, same⟩ | ⟨answer, done, _⟩ := op.apply_cases env w
    · exact absurd same.emitted sent
    · exact ⟨answer, done⟩
  · intro sent
    obtain ⟨_, _, _, same⟩ | ⟨answer, done, _⟩ := op.reverse_cases env w
    · exact absurd same.emitted sent
    · exact ⟨answer, done⟩
  · intro table explicit descriptor source predicate name w₁ w₂ resolved sent
    exact ⟨_, World.add_after_emission resolved sent ⟨rfl, rfl⟩⟩

/-- On a table with one constraint: an add under its name fails, so does the rollback of a removal
without a descriptor, and an add under another name goes through. -/
theorem failed_step_atomic_on_one_constraint :
    let w : World := { registry := Registry.empty.put ⟨"ck", "t", "(a > 0)", none⟩ }
    let taken : Operation := .add { table := "t", descriptor := .raw "b > 0", name := some "ck" }
    let blind : RemoveOperation := { table := "t", name := "old", phase := .applied none }
    let free : Operation := .add { table := "t", descriptor := .raw "b > 0", name := some "ck2" }
    let onceFree : Operation :=
      .add { table := "t", descriptor := .raw "b > 0", phase := .applied ⟨"ck", "t", "", none⟩ }
    let named := (w.resolve .standard "t" (some "ck2") (w.registry.names "t") none).2
    let sent := (named.emit .standard (.create "t" "ck2" "(b > 0)")).2
    (taken.apply .standard w).subject = taken ∧
    ((Operation.remove blind).reverse .standard w).subject =
      .remove { blind with phase := .reversalFailed none } ∧
    (∃ answer, (free.apply .standard w).result = .ok answer) ∧
    (∃ answer, (onceFree.reverse .standard w).result = .ok answer) ∧
    ∃ registry, sent.registry.add ⟨"ck2", "t", "(b > 0)", none⟩ = .ok registry := by
  intro w taken blind free onceFree named sent
  refine ⟨?_, ?_, ?_, ?_, ?_⟩
  · exact ((failed_step_atomic .standard taken w).1 (.duplicateName "t" "ck" .alreadyExists)
      rfl).1
  · exact ((failed_step_atomic .standard (.remove blind) w).2.1
      (.irreversible (.of "t" "old" none)) rfl).1
  · exact (failed_step_atomic .standard free w).2.2.1 (by decide)
  · exact (failed_step_atomic .standard onceFree w).2.2.2.1 (by decide)
  · exact (failed_step_atomic .standard free w).2.2.2.2 "t" (some "ck2") none none "(b > 0)" "ck2"
      named sent rfl rfl

end Operation

end CheckConstraints

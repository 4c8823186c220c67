import CheckConstraints.Proofs.Compilation
import CheckConstraints.Proofs.Refusal
import CheckConstraints.Proofs.Restoration

/-!
The advice that goes with a refusal: the same removal once more, with the predicate that was taken
out as its raw descriptor. The removal is reversible then, but what it restores is not the predicate
that was there. A compiled predicate is in parentheses already, and its compilation as a raw text
puts it into another pair.
-/

namespace CheckConstraints

/-- The removal that the advice of a refusal proposes. -/
def IrreversibleRemoval.proposed (r : IrreversibleRemoval) : RemoveOperation where
  table := r.table
  name := r.name
  descriptor := some (.raw r.expression)

namespace Descriptor

variable {d : Descriptor} {predicate : String}

/-- A compiled predicate can be compiled again as a raw text. -/
theorem compile_raw_compiled (h : d.compile = .ok predicate) :
    (Descriptor.raw predicate).compile = .ok ("(" ++ predicate ++ ")") := by
  obtain ⟨tail, starts⟩ := compile_starts h
  have solid : Text.allBlank predicate = false := by
    simp [Text.allBlank, starts, show Text.isBlank '(' = false by decide]
  simp [compile, solid, rawPredicate]

end Descriptor

theorem parenthesized_ne (text : String) : "(" ++ text ++ ")" ≠ text := by
  intro same
  have lengths := congrArg String.length same
  simp only [String.length_append] at lengths
  have opening : "(".length = 1 := rfl
  omega

namespace IrreversibleRemoval

/-- A constraint that an add created is removed without a descriptor, and the rollback is refused.
The removal that the refusal proposes, made in its place, is rolled back, but with a predicate in
one more pair of parentheses than the constraint had. -/
theorem proposed_adds_parentheses {addEnv env : Env} {add : AddOperation} {w₀ w : World}
    {c : Constraint} (created : (add.apply addEnv w₀).result = .ok c)
    (live : w.registry.get? c.table c.name = some c)
    (short : (c.name.length : Int) ≤ env.settings.maxNameLength)
    (accepting : ∀ call s, env.executor call s = none) :
    let blind : RemoveOperation := { table := c.table, name := c.name }
    let refusal : IrreversibleRemoval := ⟨c.table, c.name, c.predicate⟩
    let restored : Constraint :=
      ⟨c.name, c.table, "(" ++ c.predicate ++ ")", some (.raw c.predicate)⟩
    (blind.apply env w).result = .ok (some c) ∧
    (blind.undone env w).result = .error (.irreversible refusal) ∧
    RemoveOperation.ofShorthand refusal.table refusal.name (some (.text refusal.expression)) =
      .ok refusal.proposed ∧
    (refusal.proposed.apply env w).result = .ok (some c) ∧
    (refusal.proposed.undone env w).result = .ok restored ∧
    (refusal.proposed.undone env w).world.registry = w.registry.put restored ∧
    restored.predicate ≠ c.predicate := by
  intro blind refusal restored
  have made := Operation.created_of_add_ok created
  obtain ⟨done, subject, _⟩ := blind.perform_drops (w := w) rfl accepting
  rw [live] at done subject
  have refused : (blind.undone env w).result = .error (.irreversible refusal) := by
    have applies : blind.apply env w = blind.perform env w := rfl
    have nonempty := Descriptor.ne_empty_of_compile made.compiled
    rw [RemoveOperation.undone, applies, subject, RemoveOperation.reverse_blind env rfl rfl]
    simp [Outcome.failed, RemoveOperation.irreversible, RemoveOperation.removed?,
      IrreversibleRemoval.of, nonempty, blind, refusal]
  obtain ⟨again, back, registry, _⟩ := refusal.proposed.undone_restores rfl rfl
    (Descriptor.compile_raw_compiled made.compiled) made.nonempty short accepting w
  exact ⟨done, refused, rfl, live ▸ again, back, registry, parenthesized_ne c.predicate⟩

theorem proposed_adds_parentheses_to_price :
    let add : AddOperation :=
      { table := "prices", descriptor := .raw "price > 999", name := some "ck" }
    let refusal : IrreversibleRemoval := ⟨"prices", "ck", "(price > 999)"⟩
    (refusal.proposed.undone .standard (add.apply .standard {}).world).result =
      .ok ⟨"ck", "prices", "((price > 999))", some (.raw "(price > 999)")⟩ := by
  intro add refusal
  let c : Constraint := ⟨"ck", "prices", "(price > 999)", some (.raw "price > 999")⟩
  have created : (add.apply .standard {}).result = .ok c := rfl
  have live : (add.apply .standard {}).world.registry.get? c.table c.name = some c := rfl
  have accepting : ∀ call s, Env.standard.executor call s = none := fun _ _ => rfl
  obtain ⟨_, _, _, _, restored, _⟩ :=
    proposed_adds_parentheses created live (by decide) accepting
  exact restored

/-- The rollback of the proposed removal does not put back the predicate that the add created. -/
theorem proposed_misses_predicate :
    let add : AddOperation :=
      { table := "prices", descriptor := .raw "price > 999", name := some "ck" }
    let w := (add.apply .standard {}).world
    let blind : RemoveOperation := { table := "prices", name := "ck" }
    let refusal : IrreversibleRemoval := ⟨"prices", "ck", "(price > 999)"⟩
    w.registry.catalog "prices" "ck" = some "(price > 999)" ∧
    (blind.undone .standard w).result = .error (.irreversible refusal) ∧
    (refusal.proposed.undone .standard w).world.registry.catalog "prices" "ck" ≠
      w.registry.catalog "prices" "ck" := by
  intro add w blind refusal
  have before : w.registry.catalog "prices" "ck" = some "(price > 999)" := rfl
  have after : (refusal.proposed.undone .standard w).world.registry.catalog "prices" "ck" =
      some "((price > 999))" := by decide
  refine ⟨before, rfl, ?_⟩
  rw [before, after]
  decide

end IrreversibleRemoval

end CheckConstraints

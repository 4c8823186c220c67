import CheckConstraints.Proofs.Invariant
import CheckConstraints.Proofs.Restoration
import CheckConstraints.Proofs.Serialization
import CheckConstraints.Reflection
import CheckConstraints.TableDefinition

/-!
Where live constraints come from. However a registry was filled, from what a database reported, by
operations and migrations that were applied and rolled back, and by the definitions of tables, a
constraint that carries a descriptor carries the one that its predicate was compiled from. This is
what it takes to remove the constraint and to put it back as it was.
-/

namespace CheckConstraints

/-- A descriptor that a constraint carries has the constraint's predicate, and it can be created
under the constraint's name. -/
def Constraint.Sourced (c : Constraint) : Prop :=
  ∀ d, c.source = some d → d.compile = .ok c.predicate ∧ c.name ≠ ""

def Registry.Sourced (r : Registry) : Prop := ∀ c ∈ r.entries, c.Sourced

theorem Checked.eq_ok_of_both {α β γ : Type} {f : α → β → γ} {a : Checked α} {b : Checked β}
    {c : γ} (h : Checked.both f a b = .ok c) : ∃ x y, a = .ok x ∧ b = .ok y ∧ c = f x y := by
  cases a <;> cases b <;> simp [Checked.both] at h
  exact ⟨_, _, rfl, rfl, h.symm⟩

theorem Constraint.source_of_checkAll {name table predicate : Checked String}
    {source : Option Descriptor} {c : Constraint}
    (checked : checkAll name table predicate (.ok source) = .ok c) : c.source = source := by
  simp only [checkAll] at checked
  cases fields : Checked.both (fun t s => (⟨t.1, t.2.1, t.2.2, s⟩ : Constraint))
      (Checked.both Prod.mk name (Checked.both Prod.mk table predicate)) (.ok source) with
  | error count =>
      rw [fields] at checked
      cases checked
  | ok d =>
      rw [fields] at checked
      cases checked
      obtain ⟨_, _, _, given, rfl⟩ := Checked.eq_ok_of_both fields
      cases given
      rfl

namespace Registry

variable {r r' : Registry} {c : Constraint} {table : String}

theorem sourced_empty : empty.Sourced := by
  intro c member
  cases member

theorem Sourced.put (h : r.Sourced) (hc : c.Sourced) : (r.put c).Sourced := by
  intro d member
  obtain rfl | ⟨member, _⟩ := mem_put.mp member
  · exact hc
  · exact h d member

theorem Sourced.erase (h : r.Sourced) (table name : String) : (r.erase table name).Sourced :=
  fun c member => h c (mem_erase.mp member).1

theorem Sourced.add (h : r.Sourced) (hc : c.Sourced) (added : r.add c = .ok r') :
    r'.Sourced := by
  simp only [Registry.add] at added
  split at added
  · cases added
  · cases added
    exact h.put hc

theorem source_of_constraint? {row : ReportRow}
    (read : row.constraint? table = .ok (some c)) : c.source = none := by
  simp only [ReportRow.constraint?] at read
  split at read
  · cases read
  · split at read
    · cases read
    · split at read
      · cases read
      · rename_i predicate _
        cases checked : Constraint.checkAll _ (.ok table) (Descriptor.checkText predicate)
            (.ok none) with
        | error fault =>
            rw [checked] at read
            cases read
        | ok d =>
            rw [checked] at read
            cases read
            exact Constraint.source_of_checkAll checked

theorem Sourced.reflectRows {rows : List ReportRow} (h : r.Sourced)
    (read : reflectRows table rows r = .ok r') : r'.Sourced := by
  induction rows generalizing r with
  | nil =>
      cases read
      exact h
  | cons row rows ih =>
      simp only [Registry.reflectRows] at read
      cases found : row.constraint? table with
      | error fault =>
          rw [found] at read
          cases read
      | ok answer =>
          rw [found] at read
          cases answer with
          | none => exact ih h read
          | some c =>
              have unsourced : c.Sourced := by
                intro d carried
                rw [source_of_constraint? found] at carried
                cases carried
              cases added : r.add c with
              | error fault =>
                  simp only [bind, Except.bind, added] at read
                  cases read
              | ok between =>
                  simp only [bind, Except.bind, added] at read
                  exact ih (h.add unsourced added) read

theorem Sourced.reflectTables {report : Report} {tables : List String} (h : r.Sourced)
    (read : reflectTables report tables r = .ok r') : r'.Sourced := by
  induction tables generalizing r with
  | nil =>
      cases read
      exact h
  | cons table tables ih =>
      simp only [Registry.reflectTables] at read
      cases rows : Registry.reflectRows table (report.rows table) r with
      | error fault =>
          rw [rows] at read
          cases read
      | ok between =>
          rw [rows] at read
          exact ih (h.reflectRows rows) read

theorem sourced_of_reflect {report : Report} {tables : Option (List String)}
    (read : reflect report tables = .ok r) : r.Sourced :=
  sourced_empty.reflectTables read

end Registry

namespace World

variable {env : Env} {table : String} {explicit : Option String} {w : World}

theorem Created.sourced {descriptor : Descriptor} {w' : World} {c : Constraint}
    (h : Created table explicit descriptor w c w') : c.Sourced := by
  intro d carried
  rw [h.source_eq] at carried
  cases carried
  exact ⟨h.compiled, h.nonempty⟩

theorem define_sourced (value : Script.Value) (recorded : Bool) (source : Option SuffixSource)
    (h : w.registry.Sourced) :
    (w.define env table value explicit recorded source).2.registry.Sourced := by
  simp only [define]
  cases shorthand : Descriptor.ofShorthand value with
  | error cause => exact h
  | ok descriptor =>
      dsimp only
      cases compiled : descriptor.compile with
      | error cause => exact h
      | ok predicate =>
          dsimp only
          cases resolved : w.resolve env table explicit
              (if recorded then w.registry.names table else []) source with
          | mk answer w₁ =>
              have quiet := resolve_untouched resolved
              have kept : w₁.registry.Sourced := quiet.registry ▸ h
              cases answer with
              | error fault => exact kept
              | ok name =>
                  have made : (⟨name, table, predicate, some descriptor⟩ : Constraint).Sourced := by
                    rintro d carried
                    cases carried
                    exact ⟨compiled, resolve_nonempty resolved⟩
                  dsimp only
                  split
                  · split
                    · exact kept
                    · rename_i added
                      exact kept.add made added
                  · exact kept

end World

namespace Operation

variable {op op' : Operation} {w w' : World}

theorem Applied.sourced (took : op.Applied w op' w') (h : w.registry.Sourced) :
    w'.registry.Sourced := by
  cases took with
  | add pending created =>
      rw [created.registry]
      exact h.put created.sourced
  | remove pending compiles dropped =>
      rw [dropped.registry]
      exact h.erase _ _

theorem Reversed.sourced (took : op.Reversed w op' w') (h : w.registry.Sourced) :
    w'.registry.Sourced := by
  cases took with
  | add phase dropped =>
      rw [dropped.registry]
      exact h.erase _ _
  | remove phase described created =>
      rw [created.registry]
      exact h.put created.sourced

theorem apply_sourced (env : Env) (op : Operation) (w : World) (h : w.registry.Sourced) :
    (op.apply env w).world.registry.Sourced := by
  obtain ⟨_, _, _, same⟩ | ⟨_, _, took⟩ := op.apply_cases env w
  · rw [same.registry]
    exact h
  · exact took.sourced h

theorem reverse_sourced (env : Env) (op : Operation) (w : World) (h : w.registry.Sourced) :
    (op.reverse env w).world.registry.Sourced := by
  obtain ⟨_, _, _, same⟩ | ⟨_, _, took⟩ := op.reverse_cases env w
  · rw [same.registry]
    exact h
  · exact took.sourced h

end Operation

namespace Workspace

/-- The workspaces to which there is a way: from an empty registry or from one that a database
reported, by commands and by definitions of tables. -/
inductive Reached : Workspace → Prop where
  | started {ws : Workspace} (empty : ws.world.registry = .empty) : Reached ws
  | reflected {ws : Workspace} (report : Report) (tables : Option (List String))
      (read : Registry.reflect report tables = .ok ws.world.registry) : Reached ws
  | executed {ws : Workspace} (before : Reached ws) (env : Env) (command : Command) :
      Reached (ws.execute env command)
  | defined {ws : Workspace} (before : Reached ws) (env : Env) (table : String)
      (value : Script.Value) (explicit : Option String) (recorded : Bool)
      (source : Option SuffixSource) :
      Reached { ws with
        world := (ws.world.define env table value explicit recorded source).2 }

theorem Reached.sourced {ws : Workspace} (h : ws.Reached) : ws.world.registry.Sourced := by
  induction h with
  | started empty => exact empty ▸ Registry.sourced_empty
  | reflected report tables read => exact Registry.sourced_of_reflect read
  | @executed ws before env command ih =>
      exact execute_preserves (P := fun w => w.registry.Sourced) Operation.apply_sourced
        Operation.reverse_sourced env ws command ih
  | defined before env table value explicit recorded source ih =>
      exact World.define_sourced value recorded source ih

theorem removal_restores {ws : Workspace} (reached : ws.Reached) {table name : String}
    {c : Constraint} (live : ws.world.registry.get? table name = some c) :
    c.IsAt table name ∧ ∀ d, c.source = some d →
      d.compile = .ok c.predicate ∧
      (Descriptor.parse d.dump).bind Descriptor.compile = .ok c.predicate ∧
      ∀ env : Env, (c.name.length : Int) ≤ env.settings.maxNameLength →
        (∀ call s, env.executor call s = none) →
        let removal : RemoveOperation :=
          { table := c.table, name := c.name, descriptor := some d }
        RemoveOperation.ofShorthand c.table c.name (some (.descriptor d)) = .ok removal ∧
        (removal.apply env ws.world).result = .ok (some c) ∧
        (removal.undone env ws.world).result = .ok c ∧
        (removal.undone env ws.world).world.registry = ws.world.registry ∧
        (removal.undone env ws.world).world.emitted = ws.world.emitted ++
          [.drop c.table c.name, .create c.table c.name c.predicate] := by
  have at_place := Registry.isAt_of_get? live
  refine ⟨at_place, ?_⟩
  intro d carried
  obtain ⟨compiled, nonempty⟩ := reached.sourced c (Registry.mem_of_get? live) d carried
  refine ⟨compiled, ?_, ?_⟩
  · rw [Descriptor.parse_dump]
    exact compiled
  intro env short accepting removal
  have here : ws.world.registry.get? c.table c.name = some c := by
    rw [at_place.1, at_place.2]
    exact live
  have whole : (⟨c.name, c.table, c.predicate, some d⟩ : Constraint) = c := by
    rw [← carried]
  obtain ⟨done, restored, registry, emitted⟩ :=
    removal.undone_restores rfl rfl compiled nonempty short accepting ws.world
  rw [whole] at restored registry
  exact ⟨rfl, here ▸ done, restored, registry.trans (Registry.put_of_get? here), emitted⟩

/-- A constraint from the definition of a table, next to a reported one and an added one. -/
theorem removal_restores_defined_constraint :
    let report : Report :=
      [("prices", [⟨some (.text "legacy"), some (.text "(cost > 0)")⟩])]
    let seeded : Workspace :=
      { world := { registry := Registry.empty.put ⟨"legacy", "prices", "(cost > 0)", none⟩ } }
    let added := (seeded.execute .standard (.declare (.add
      { table := "prices", descriptor := .raw "price > 0", name := some "lower" }))).execute
        .standard (.apply (.alone 0))
    let ws : Workspace := { added with
      world := (added.world.define .standard "prices"
        (.list [.text "price < 9", .mapping [(.text "sold", .bool true)]]) (some "ck") true none).2 }
    let removal : RemoveOperation :=
      { table := "prices", name := "ck",
        descriptor := some (.all [.raw "price < 9", .inSet "sold" [.bool true]]) }
    Registry.reflect report none = .ok seeded.world.registry ∧
    (removal.undone .standard ws.world).world.registry = ws.world.registry := by
  intro report seeded added ws removal
  have read : Registry.reflect report none = .ok seeded.world.registry := by rfl
  let c : Constraint :=
    ⟨"ck", "prices", "((price < 9) AND (sold = ANY (ARRAY[true])))", removal.descriptor⟩
  have reached : ws.Reached :=
    .defined (.executed (.executed (.reflected report none read) _ _) _ _) _ _ _ _ _ _
  have live : ws.world.registry.get? "prices" "ck" = some c := by rfl
  obtain ⟨_, sourced⟩ := removal_restores reached live
  obtain ⟨_, _, restores⟩ := sourced _ rfl
  obtain ⟨_, _, _, registry, _⟩ := restores .standard (by decide) (fun _ _ => rfl)
  exact ⟨read, registry⟩

end Workspace

end CheckConstraints

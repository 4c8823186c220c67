import CheckConstraints.Proofs.Compilation
import CheckConstraints.Proofs.Restoration
import CheckConstraints.Proofs.SnapshotReading
import CheckConstraints.Proofs.Template

/-!
Dry runs: the emitted statements are not executed but collected as texts. An add records its
predicate in the registry and in the snapshot, and the statement demands that same predicate, but
for the percent signs: each of them is written twice, as for a driver that gives a single one a
meaning. Nothing else in a predicate is touched, and nothing in it is taken for a parameter.
-/

namespace CheckConstraints

open Sql (Dialect doubled)

namespace Sql

theorem length_doubled (p : Char → Bool) (cs : List Char) :
    (doubled p cs).length = cs.length + cs.countP p := by
  induction cs with
  | nil => rfl
  | cons c cs ih =>
      have step : doubled p (c :: cs) = (if p c then [c, c] else [c]) ++ doubled p cs := by
        simp [doubled]
      cases found : p c <;> simp [step, ih, found] <;> omega

/-- Only a text without the characters is left as it is. -/
theorem doubled_eq_self_iff {p : Char → Bool} {cs : List Char} :
    doubled p cs = cs ↔ ∀ c ∈ cs, ¬ p c = true := by
  rw [← List.countP_eq_zero]
  constructor
  · intro same
    have lengths := length_doubled p cs
    rw [same] at lengths
    omega
  · intro absent
    induction cs with
    | nil => rfl
    | cons c cs ih =>
        obtain ⟨later, head⟩ := Nat.add_eq_zero_iff.mp (List.countP_cons .. ▸ absent)
        have other : p c = false := by simpa using head
        have rest : doubled p cs = cs := ih later
        simpa [doubled, other] using rest

/-- What a statement that creates a constraint demands of the rows of its table. -/
def writtenClause (predicate : String) : String :=
  "CHECK (" ++ String.ofList (doubled (· == '%') predicate.toList) ++ ")"

theorem writtenClause_eq_iff {predicate : String} :
    writtenClause predicate = "CHECK (" ++ predicate ++ ")" ↔ '%' ∉ predicate.toList := by
  have inner : writtenClause predicate = "CHECK (" ++ predicate ++ ")" ↔
      doubled (· == '%') predicate.toList = predicate.toList := by
    rw [writtenClause, String.append_left_inj, String.append_right_inj, ← String.toList_inj,
      String.toList_ofList]
  rw [inner, doubled_eq_self_iff]
  constructor
  · intro absent percent
    exact absent '%' percent rfl
  · rintro absent c member percent
    obtain rfl : c = '%' := by simpa using percent
    exact absent member

theorem toList_writtenClause (predicate : String) :
    (writtenClause predicate).toList = checkClause .postgresql predicate := by
  unfold checkClause writtenClause
  simp only [condition_eq, String.toList_append, String.toList_ofList]
  rfl

/-- The statement that adds a constraint with the given clause. -/
def additionText (table name clause : String) : String :=
  "ALTER TABLE " ++ String.ofList (Dialect.postgresql.identifier table) ++ " ADD CONSTRAINT "
    ++ String.ofList (Dialect.postgresql.identifier name) ++ " " ++ clause

theorem statementText_create (table name : String) {predicate : String}
    (nonempty : predicate ≠ "") :
    statementText .postgresql (.create table name predicate) =
      additionText table name (writtenClause predicate) := by
  apply String.toList_injective
  unfold statementText additionText
  simp only [String.toList_append, String.toList_ofList, toList_writtenClause, nonempty, if_false]
  -- the texts around them do not depend on how identifiers and clause are written
  generalize Dialect.postgresql.identifier table = t
  generalize Dialect.postgresql.identifier name = n
  generalize checkClause .postgresql predicate = clause
  simp only [List.append_assoc]
  rfl

end Sql

/-- The texts that a dry run has collected. -/
def World.script (w : World) : List String := w.emitted.map (Sql.statementText .postgresql)

theorem AddOperation.perform_creates {env : Env} {op : AddOperation} {w : World} {name : String}
    {predicate : String} (named : op.knownName? = some name)
    (compiled : op.descriptor.compile = .ok predicate)
    (creates : ∃ c, (w.create env op.table (some name) op.descriptor op.source).1 = .ok c) :
    let c : Constraint := ⟨name, op.table, predicate, some op.descriptor⟩
    (op.perform env w).result = .ok c ∧
    World.Created op.table (some name) op.descriptor w c (op.perform env w).world := by
  intro c
  obtain ⟨_, created⟩ := creates
  obtain ⟨_, failed, _⟩ | ⟨_, done, _, took⟩ := op.perform_cases env w
  · simp only [perform, named] at failed
    cases made : w.create env op.table (some name) op.descriptor op.source with
    | mk answer w₁ =>
        rw [made] at created failed
        obtain rfl : answer = .ok _ := created
        cases failed
  · rw [named] at took
    obtain rfl := took.eq compiled
    exact ⟨done, took⟩

/-- In a dry run an add with a fitting name goes through, and one predicate is recorded in the
registry and in the snapshot. The template of the collected statement has no parameter, and the
clause of the statement is that predicate exactly if no percent sign is in it. -/
theorem AddOperation.dryRun_clause (env : Env) (dry : env.executor = .database)
    (op : AddOperation) (pending : (Operation.add op).pending = true) {name predicate : String}
    (named : op.knownName? = some name) (compiled : op.descriptor.compile = .ok predicate)
    (nonempty : name ≠ "") (short : (name.length : Int) ≤ env.settings.maxNameLength)
    (whole : name.length ≤ Executor.identifierLimit) (w : World)
    (free : name ∉ w.registry.names op.table) (indent : Int) :
    let c : Constraint := ⟨name, op.table, predicate, some op.descriptor⟩
    let o := op.apply env w
    let clause := Sql.writtenClause predicate
    o.result = .ok c ∧
    o.world.script = w.script ++ [Sql.additionText op.table name clause] ∧
    o.world.registry.get? op.table name = some c ∧
    (c.line (Snapshot.padding indent)).toList <:+:
      (Snapshot.render o.world.registry indent).toList ∧
    Sql.Template.parameters none
      (Dialect.postgresql.percents (Sql.template predicate).toList) = [] ∧
    (clause = "CHECK (" ++ predicate ++ ")" ↔ '%' ∉ predicate.toList) := by
  intro c o clause
  have accepted : ∀ call, env.executor call (.create op.table name predicate) = none := by
    intro call
    rw [dry]
    simp only [Executor.database, Statement.name, Nat.not_lt.mpr whole, if_false]
  have applies : o = op.perform env w := by
    simp only [o, Operation.add_apply_eq, pending, if_true]
  obtain ⟨done, created⟩ := perform_creates named compiled
    (World.create_accepted op.source compiled nonempty short free accepted)
  rw [applies]
  refine ⟨done, ?_, ?_, ?_, ?_, Sql.writtenClause_eq_iff⟩
  · have filled : predicate ≠ "" := Descriptor.ne_empty_of_compile compiled
    simp only [World.script, created.emitted, List.map_append, List.map_cons, List.map_nil]
    rw [Sql.statementText_create _ _ filled]
  · rw [created.registry]
    exact Registry.get?_put_self w.registry c
  · refine Snapshot.line_infix_render ?_ indent
    rw [created.registry]
    exact Registry.mem_put.mpr (Or.inl rfl)
  · rw [Sql.template, String.toList_ofList, Sql.percents_escape]
    exact Sql.Template.parameters_escape none _

/-- Colons, a backslash, quotes and a line break come through; the percent signs do not. -/
theorem AddOperation.dryRun_clause_of_pattern :
    let env : Env := { Env.standard with executor := .database }
    let op : AddOperation :=
      { table := "Events", name := some "ck",
        descriptor := .raw "kind::text LIKE E'a\\:b%'\n OR \"n\" % 2 = 0" }
    (op.apply env {}).world.script =
      ["ALTER TABLE \"Events\" ADD CONSTRAINT ck CHECK "
        ++ "((kind::text LIKE E'a\\:b%%'\n OR \"n\" %% 2 = 0))"] ∧
    (op.apply env {}).world.registry.get? "Events" "ck" =
      some ⟨"ck", "Events", "(kind::text LIKE E'a\\:b%'\n OR \"n\" % 2 = 0)",
        some op.descriptor⟩ := by
  intro env op
  obtain ⟨_, script, live, _⟩ := AddOperation.dryRun_clause env rfl op rfl rfl rfl (by decide)
    (by decide) (by decide) {} (by decide) 2
  refine ⟨script.trans ?_, live⟩
  decide +kernel

/-- The text that a dry run collects for a predicate with a remainder in it demands another one. -/
theorem AddOperation.dryRun_misses_predicate :
    let env : Env := { Env.standard with executor := .database }
    let op : AddOperation :=
      { table := "prices", name := some "ck", descriptor := .raw "price % 5 = 0" }
    (op.apply env {}).world.registry.catalog "prices" "ck" = some "(price % 5 = 0)" ∧
    (op.apply env {}).world.script =
      ["ALTER TABLE prices ADD CONSTRAINT ck CHECK ((price %% 5 = 0))"] ∧
    (op.apply env {}).world.script ≠
      ["ALTER TABLE prices ADD CONSTRAINT ck CHECK ((price % 5 = 0))"] := by
  decide +kernel

end CheckConstraints

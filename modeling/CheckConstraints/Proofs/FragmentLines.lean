import CheckConstraints.Proofs.LineBreaks
import CheckConstraints.Proofs.SnapshotChange
import CheckConstraints.Proofs.Steps

/-!
How many lines the constraints of a table take. Every live constraint was made by one of the adds
that filled the registry, so that the line breaks in its name and in its predicate are those of the
texts that this add was given. The lines of a table are those of its constraints, in order of names:
one for each of them, and one more for each break in the texts of its add. That a constraint is one
line is therefore as much as to say that no text of its add has a line break.
-/

namespace CheckConstraints

open Text (lines)

namespace World

/-- The world after adds were applied one after the other, each in its environment. -/
def filled (w : World) : List (Env × AddOperation) → World
  | [] => w
  | (env, op) :: adds => (op.apply env w).world.filled adds

end World

namespace AddOperation

/-- The line breaks in the texts of an add. Where it has no name yet, the name will begin with its
table. -/
def breaks (op : AddOperation) : Nat :=
  Text.breaks (op.knownName?.getD op.table) + op.descriptor.breaks

/-- The add says what the constraint is, but for the suffix of an anonymous name. -/
structure Describes (op : AddOperation) (c : Constraint) : Prop where
  table : c.table = op.table
  source : c.source = some op.descriptor
  compiled : op.descriptor.compile = .ok c.predicate
  named : ∀ name, op.knownName? = some name → c.name = name
  anonymous : op.knownName? = none → ∃ suffix, c.name = Naming.anonymous op.table suffix

variable {op : AddOperation} {c : Constraint}

theorem Describes.breaks_name (told : op.Describes c) :
    Text.breaks c.name = Text.breaks (op.knownName?.getD op.table) := by
  cases known : op.knownName? with
  | some name =>
      rw [told.named name known]
      rfl
  | none =>
      obtain ⟨suffix, named⟩ := told.anonymous known
      have underscore : Text.breaks "_" = 0 := rfl
      rw [named, Naming.anonymous, Text.breaks_append, Text.breaks_append, underscore,
        Number.breaks_toString_int]
      rfl

theorem Describes.breaks_line (told : op.Describes c) :
    Text.breaks (c.name ++ ": " ++ c.predicate) = op.breaks := by
  have separator : Text.breaks ": " = 0 := rfl
  rw [Text.breaks_append, Text.breaks_append, separator, told.breaks_name,
    Descriptor.breaks_of_compile _ told.compiled]
  rfl

theorem perform_anonymous {env : Env} {w : World} (unnamed : op.knownName? = none)
    (done : (op.perform env w).result = .ok c) :
    ∃ suffix, c.name = Naming.anonymous op.table suffix := by
  have made := create_of_perform done
  rw [unnamed] at made
  exact World.create_anonymous made

/-- An add that takes effect puts a constraint of its own into the registry. -/
theorem apply_describes (env : Env) (op : AddOperation) (w : World) :
    (op.apply env w).world.registry = w.registry ∨
    ∃ c, op.Describes c ∧ (op.apply env w).world.registry = w.registry.put c := by
  rw [Operation.add_apply_eq]
  split
  · obtain ⟨_, _, _, same⟩ | ⟨c, done, _, created⟩ := perform_cases env op w
    · exact Or.inl same.registry
    · refine Or.inr ⟨c, ?_, created.registry⟩
      exact {
        table := created.table_eq
        source := created.source_eq
        compiled := created.compiled
        named := created.named
        anonymous := fun unnamed => perform_anonymous unnamed done }
  · exact Or.inl rfl

end AddOperation

/-- Every constraint that adds have put into a registry is described by one of them. -/
theorem World.mem_filled {adds : List (Env × AddOperation)} {w : World} {c : Constraint}
    (live : c ∈ (w.filled adds).registry.entries) :
    c ∈ w.registry.entries ∨ ∃ add ∈ adds, add.2.Describes c := by
  induction adds generalizing w with
  | nil => exact Or.inl live
  | cons add adds ih =>
      obtain ⟨env, op⟩ := add
      rcases ih live with earlier | ⟨later, listed, told⟩
      · obtain same | ⟨d, told, put⟩ := op.apply_describes env w
        · exact Or.inl (same ▸ earlier)
        · rw [put, Registry.mem_put] at earlier
          rcases earlier with rfl | ⟨old, _⟩
          · exact Or.inr ⟨_, List.mem_cons_self, told⟩
          · exact Or.inl old
      · exact Or.inr ⟨later, List.mem_cons_of_mem _ listed, told⟩

/-- In a registry that was empty at first, the constraints of a table are those of its adds. -/
theorem World.exists_add_of_live {adds : List (Env × AddOperation)} {w : World} {table : String}
    {c : Constraint} (empty : w.registry = .empty)
    (live : c ∈ (w.filled adds).registry.constraints table) :
    ∃ add ∈ adds, add.2.table = table ∧ add.2.Describes c := by
  obtain ⟨member, here⟩ := Registry.mem_constraints_iff.mp live
  rcases mem_filled member with old | ⟨add, listed, told⟩
  · rw [empty] at old
    cases old
  · exact ⟨add, listed, told.table.symm.trans here, told⟩

namespace Snapshot

section Fragment
variable {r : Registry} {table text : String}

/-- The constraints of a table are in order, so that each is written where it stands. -/
theorem fragment_of_cons {c : Constraint} {cs : List Constraint}
    (filled : r.constraints table = c :: cs) :
    fragment table (r.constraints table) "" =
      some ("\n".intercalate ((c :: cs).map fun d => d.name ++ ": " ++ d.predicate)) := by
  have own : (r.constraints table).filter (·.table == table) = r.constraints table := by
    simp [Registry.constraints]
  have line : Constraint.line "" = fun d => d.name ++ ": " ++ d.predicate := by
    funext d
    simp [Constraint.line]
  rw [fragment, own, Constraint.sortByName_of_increasing (r.constraints_sorted table), filled, line]

theorem fragment_eq_none_iff :
    fragment table (r.constraints table) "" = none ↔ r.constraints table = [] := by
  cases filled : r.constraints table with
  | nil => simp [fragment, Constraint.sortByName]
  | cons c cs =>
      rw [← filled, fragment_of_cons filled, filled]
      simp

theorem eq_of_fragment_eq_some (found : fragment table (r.constraints table) "" = some text) :
    r.constraints table ≠ [] ∧
    text = "\n".intercalate ((r.constraints table).map fun c => c.name ++ ": " ++ c.predicate) := by
  have filled : r.constraints table ≠ [] := by
    intro none_live
    rw [fragment_eq_none_iff.mpr none_live] at found
    cases found
  obtain ⟨c, cs, split⟩ := List.exists_cons_of_ne_nil filled
  rw [fragment_of_cons split, ← split] at found
  exact ⟨filled, (Option.some.inj found).symm⟩

end Fragment

/-- There is one line for each constraint of a table, and one more for each line break in the texts
of its add; the lines are the constraints exactly where there are no such breaks. A table without
constraints has no lines. -/
theorem lines_of_filled (w : World) (adds : List (Env × AddOperation)) (table : String)
    (empty : w.registry = .empty) :
    let cs := (w.filled adds).registry.constraints table
    let written := cs.map fun c => c.name ++ ": " ++ c.predicate
    cs.Pairwise (·.name < ·.name) ∧
    (fragment table cs "" = none ↔ cs = []) ∧
    (∀ c ∈ cs, ∃ add ∈ adds, add.2.Describes c ∧
      Text.breaks (c.name ++ ": " ++ c.predicate) = add.2.breaks) ∧
    ∀ text, fragment table cs "" = some text →
      lines text = written.flatMap lines ∧
      (lines text).length = cs.length + (written.map Text.breaks).sum ∧
      (lines text = written ↔ ∀ line ∈ written, Text.breaks line = 0) ∧
      ((∀ add ∈ adds, add.2.table = table → add.2.breaks = 0) → lines text = written) := by
  intro cs written
  have made : ∀ c ∈ cs, ∃ add ∈ adds, add.2.Describes c ∧
      Text.breaks (c.name ++ ": " ++ c.predicate) = add.2.breaks := by
    intro c live
    obtain ⟨add, listed, _, told⟩ := World.exists_add_of_live empty live
    exact ⟨add, listed, told, told.breaks_line⟩
  have oneLine : (∀ add ∈ adds, add.2.table = table → add.2.breaks = 0) →
      ∀ line ∈ written, Text.breaks line = 0 := by
    intro plain line member
    obtain ⟨c, live, rfl⟩ := List.mem_map.mp member
    obtain ⟨add, listed, here, told⟩ := World.exists_add_of_live empty live
    rw [told.breaks_line]
    exact plain add listed here
  refine ⟨Registry.constraints_sorted _ table, fragment_eq_none_iff, made, ?_⟩
  intro text found
  obtain ⟨filled, rfl⟩ := eq_of_fragment_eq_some found
  have written_filled : written ≠ [] := mt List.map_eq_nil_iff.mp filled
  have exactly := Text.lines_intercalate_eq_iff written_filled
  refine ⟨Text.lines_intercalate written_filled, ?_, exactly, fun plain => ?_⟩
  · rw [Text.length_lines_intercalate written_filled, List.length_map]
  · exact exactly.mpr (oneLine plain)

/-- Two constraints, one with a break in its raw text, and the same two with a space there. -/
theorem lines_of_filled_with_prices :
    let set : AddOperation :=
      { table := "prices", descriptor := .inSet "grade" [.text "new", .int 1] }
    let adds (text : String) : List (Env × AddOperation) := [(.standard, set),
      (.standard, { table := "prices", descriptor := .raw text, name := some "ck" })]
    let cs (text : String) := (World.filled {} (adds text)).registry.constraints "prices"
    (∃ text, fragment "prices" (cs "price > 0\nAND price < 9") "" = some text ∧
      (lines text).length = (cs "price > 0\nAND price < 9").length + 1) ∧
    ∃ text, fragment "prices" (cs "price > 0 AND price < 9") "" = some text ∧
      lines text = ["ck: (price > 0 AND price < 9)",
        "prices_1000000: (grade = ANY (ARRAY['new', 1]))"] := by
  intro set adds cs
  have some_text : ∀ text, cs text ≠ [] →
      ∃ written, fragment "prices" (cs text) "" = some written := by
    intro text filled
    obtain ⟨_, nothing, _⟩ := lines_of_filled {} (adds text) "prices" rfl
    exact Option.ne_none_iff_exists'.mp (mt nothing.mp filled)
  constructor
  · obtain ⟨text, found⟩ := some_text "price > 0\nAND price < 9" (by decide +kernel)
    obtain ⟨_, _, _, shown⟩ := lines_of_filled {} (adds "price > 0\nAND price < 9") "prices" rfl
    obtain ⟨_, count, _⟩ := shown text found
    refine ⟨text, found, count.trans ?_⟩
    decide +kernel
  · obtain ⟨text, found⟩ := some_text "price > 0 AND price < 9" (by decide +kernel)
    obtain ⟨_, _, _, shown⟩ := lines_of_filled {} (adds "price > 0 AND price < 9") "prices" rfl
    obtain ⟨_, _, _, plain⟩ := shown text found
    refine ⟨text, found, (plain ?_).trans ?_⟩
    · decide +kernel
    · decide +kernel

/-- A raw text of two lines is accepted, and its only constraint takes two lines. -/
theorem two_lines_of_one_constraint :
    let add : AddOperation :=
      { table := "prices", descriptor := .raw "price > 0\nAND price < 9", name := some "ck" }
    let cs := (World.filled {} [(.standard, add)]).registry.constraints "prices"
    cs.map Constraint.predicate = ["(price > 0\nAND price < 9)"] ∧
    (fragment "prices" cs "").map lines = some ["ck: (price > 0", "AND price < 9)"] := by
  decide +kernel

end Snapshot

end CheckConstraints

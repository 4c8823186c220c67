import CheckConstraints.Proofs.Listings

/-!
What a new constraint changes in a snapshot. The text is made of entries that each end their line,
under the lines of their tables, with an empty line between two tables. A constraint goes to one
place in the order of tables and names, so that the snapshot grows by one piece of text there, and
all that was before it and after it stays as it was. The piece is an entry, or the block of a table
that had none, with the empty line that sets it apart.
-/

namespace CheckConstraints

/-- A list in order that has one more member than another has it at one place between the others. -/
theorem exists_insertion {α : Type} (key : α → String) {l l' : List α} {a : α}
    (increasing : l.Pairwise (key · < key ·)) (increasing' : l'.Pairwise (key · < key ·))
    (new : a ∉ l) (members : ∀ b, b ∈ l' ↔ b = a ∨ b ∈ l) :
    ∃ front back, l = front ++ back ∧ l' = front ++ a :: back := by
  obtain ⟨front, back, rfl⟩ := List.append_of_mem ((members a).mpr (Or.inl rfl))
  refine ⟨front, back, ?_, rfl⟩
  have distinct : (front ++ a :: back).Nodup :=
    (ne_of_increasing key increasing').imp fun apart same => apart (congrArg key same)
  have absent : a ∉ front ++ back := (List.nodup_cons.mp (List.nodup_middle.mp distinct)).1
  have rest : (front ++ back).Sublist (front ++ a :: back) :=
    (List.sublist_cons_self a back).append_left front
  refine eq_of_increasing key increasing (increasing'.sublist rest) fun b => ?_
  have listed : b ∈ front ++ a :: back ↔ b = a ∨ b ∈ front ++ back := by
    simp only [List.mem_append, List.mem_cons]
    grind
  constructor
  · intro member
    refine (listed.mp ((members b).mpr (Or.inr member))).resolve_left ?_
    rintro rfl
    exact new member
  · intro member
    refine ((members b).mp (listed.mpr (Or.inr member))).resolve_left ?_
    rintro rfl
    exact absent member

/-- A joined text around one of its parts. -/
theorem exists_around (separator : String) (ls ms : List String) :
    ∃ before after, ∀ x, separator.intercalate (ls ++ x :: ms) = before ++ x ++ after := by
  obtain ⟨after, later⟩ : ∃ after, ∀ x, separator.intercalate (x :: ms) = x ++ after := by
    cases ms with
    | nil => exact ⟨"", by simp⟩
    | cons m ms =>
        refine ⟨separator ++ separator.intercalate (m :: ms), fun x => ?_⟩
        rw [String.intercalate_cons_cons, String.append_assoc]
  cases ls with
  | nil => exact ⟨"", after, by simpa using later⟩
  | cons l ls =>
      refine ⟨separator.intercalate (l :: ls) ++ separator, after, fun x => ?_⟩
      rw [String.intercalate_append_of_ne_nil (by simp) (by simp), later]
      simp only [String.append_assoc]

/-- A new part comes with a separator, unless it is the only one. -/
theorem intercalate_insert (separator : String) (ls ms : List String) (x : String) :
    ∃ before after, separator.intercalate (ls ++ ms) = before ++ after ∧
      separator.intercalate (ls ++ x :: ms) = before ++
        (if ls = [] ∧ ms = [] then x else if ms = [] then separator ++ x else x ++ separator) ++
        after := by
  cases ms with
  | nil =>
      cases ls with
      | nil => exact ⟨"", "", by simp, by simp⟩
      | cons l ls =>
          refine ⟨separator.intercalate (l :: ls), "", by simp, ?_⟩
          rw [String.intercalate_append_of_ne_nil (by simp) (by simp)]
          simp [String.append_assoc]
  | cons m ms =>
      cases ls with
      | nil => exact ⟨"", separator.intercalate (m :: ms), by simp, by simp [String.append_assoc]⟩
      | cons l ls =>
          refine ⟨separator.intercalate (l :: ls) ++ separator, separator.intercalate (m :: ms),
            ?_, ?_⟩
          · rw [String.intercalate_append_of_ne_nil (by simp) (by simp)]
          · rw [String.intercalate_append_of_ne_nil (by simp) (by simp)]
            simp [String.append_assoc]

namespace Constraint

/-- Constraints in strictly increasing order of names are sorted. -/
theorem sortByName_of_increasing {cs : List Constraint} (h : cs.Pairwise (·.name < ·.name)) :
    sortByName cs = cs := by
  induction cs with
  | nil => rfl
  | cons c cs ih =>
      obtain ⟨first, rest⟩ := List.pairwise_cons.mp h
      rw [sortByName, ih rest]
      cases cs with
      | nil => rfl
      | cons d ds => exact if_neg (String.lt_asymm (first d List.mem_cons_self))

end Constraint

namespace Registry

variable {r : Registry} {c : Constraint}

theorem constraints_put_of_ne {table : String} (free : r.get? c.table c.name = none)
    (other : table ≠ c.table) : (r.put c).constraints table = r.constraints table := by
  refine eq_of_increasing Constraint.name (constraints_sorted _ table)
    (constraints_sorted _ table) fun d => ?_
  rw [mem_constraints_iff, mem_constraints_iff, mem_put_of_free free]
  grind

theorem exists_constraints_put (free : r.get? c.table c.name = none) :
    ∃ front back, r.constraints c.table = front ++ back ∧
      (r.put c).constraints c.table = front ++ c :: back := by
  refine exists_insertion Constraint.name (constraints_sorted _ _) (constraints_sorted _ _) ?_
    fun d => ?_
  · intro member
    exact get?_eq_none_iff.mp free c (mem_constraints_iff.mp member).1 ⟨rfl, rfl⟩
  · rw [mem_constraints_iff, mem_constraints_iff, mem_put_of_free free]
    grind

theorem tables_sorted (r : Registry) : r.tables.Pairwise (· < ·) := pairwise_tablesOf r.sorted

theorem mem_tables_put (free : r.get? c.table c.name = none) {table : String} :
    table ∈ (r.put c).tables ↔ table = c.table ∨ table ∈ r.tables := by
  rw [mem_tables, mem_tables]
  simp only [mem_put_of_free free]
  grind

theorem tables_put_of_used (free : r.get? c.table c.name = none) (used : c.table ∈ r.tables) :
    (r.put c).tables = r.tables := by
  refine eq_of_increasing id (tables_sorted _) (tables_sorted _) fun table => ?_
  rw [mem_tables_put free]
  exact or_iff_right_of_imp fun same => same ▸ used

theorem exists_tables_put (free : r.get? c.table c.name = none) (unused : c.table ∉ r.tables) :
    ∃ front back, r.tables = front ++ back ∧ (r.put c).tables = front ++ c.table :: back :=
  exists_insertion id (tables_sorted _) (tables_sorted _) unused fun _ => mem_tables_put free

theorem constraints_eq_nil (unused : c.table ∉ r.tables) : r.constraints c.table = [] := by
  refine List.filter_eq_nil_iff.mpr fun d live here => unused ?_
  exact mem_tables.mpr ⟨d, live, beq_iff_eq.mp here⟩

end Registry

namespace Snapshot

/-- The entry of a constraint: its line, with the line break. -/
def entry (pad : String) (c : Constraint) : String := c.line pad ++ "\n"

/-- The text of a table: the line of its name and its entries. -/
def written (r : Registry) (pad table : String) : String :=
  header table ++ String.join ((r.constraints table).map (entry pad))

/-- Lines that each end in a line break. -/
theorem intercalate_append_break {line : String} (lines : List String) :
    "\n".intercalate (line :: lines) ++ "\n" = String.join ((line :: lines).map (· ++ "\n")) := by
  induction lines generalizing line with
  | nil => simp
  | cons next lines ih =>
      rw [String.intercalate_cons_cons, String.append_assoc, ih]
      simp [String.append_assoc]

theorem intercalate_blocks {block : String} (blocks : List String) :
    "\n\n".intercalate (block :: blocks) ++ "\n" =
      "\n".intercalate ((block :: blocks).map (· ++ "\n")) := by
  induction blocks generalizing block with
  | nil => simp
  | cons next blocks ih =>
      rw [String.intercalate_cons_cons, String.append_assoc, ih]
      simp only [List.map_cons, String.intercalate_cons_cons, String.append_assoc]
      congr 1

theorem paragraph_append_break (r : Registry) (pad table : String) :
    "\n".intercalate (paragraph r pad table) ++ "\n" = written r pad table := by
  have sorted := Constraint.sortByName_of_increasing (r.constraints_sorted table)
  have heading : headline table ++ "\n" = header table := by
    rw [headline, String.append_assoc]
    rfl
  rw [paragraph, sorted, intercalate_append_break, List.map_cons, String.join_cons, heading,
    List.map_map]
  rfl

/-- A snapshot is the texts of its tables with an empty line between them. -/
theorem render_eq_written (r : Registry) (indent : Int) :
    render r indent = "\n".intercalate (r.tables.map (written r (padding indent))) := by
  have texts : (blocks r (padding indent)).map (· ++ "\n") =
      r.tables.map (written r (padding indent)) := by
    rw [blocks_eq, paragraphs, List.map_map, List.map_map]
    exact List.map_congr_left fun table _ => paragraph_append_break r _ table
  rw [← texts, render]
  cases blocks r (padding indent) with
  | nil => rfl
  | cons block blocks => exact intercalate_blocks blocks

section Addition
variable {r : Registry} {c : Constraint}

theorem written_put_of_ne (pad : String) {table : String} (free : r.get? c.table c.name = none)
    (other : table ≠ c.table) : written (r.put c) pad table = written r pad table := by
  rw [written, Registry.constraints_put_of_ne free other, written]

theorem map_written_put (pad : String) (free : r.get? c.table c.name = none) {tables : List String}
    (others : c.table ∉ tables) :
    tables.map (written (r.put c) pad) = tables.map (written r pad) := by
  refine List.map_congr_left fun table member => written_put_of_ne pad free ?_
  rintro rfl
  exact others member

/-- On a table that has constraints the entry goes between those of the constraints around it. -/
theorem render_put_of_used (indent : Int) (free : r.get? c.table c.name = none)
    (used : c.table ∈ r.tables) :
    ∃ before after, render r indent = before ++ after ∧
      render (r.put c) indent = before ++ entry (padding indent) c ++ after := by
  obtain ⟨front, back, split⟩ := List.append_of_mem used
  have distinct : (front ++ c.table :: back).Nodup := split ▸ ne_of_increasing id r.tables_sorted
  have others := (List.nodup_cons.mp (List.nodup_middle.mp distinct)).1
  rw [List.mem_append, not_or] at others
  obtain ⟨before, after, around⟩ := exists_around "\n" (front.map (written r (padding indent)))
    (back.map (written r (padding indent)))
  obtain ⟨first, last, old, new⟩ := Registry.exists_constraints_put free
  refine ⟨before ++ (header c.table ++ String.join (first.map (entry (padding indent)))),
    String.join (last.map (entry (padding indent))) ++ after, ?_, ?_⟩
  · rw [render_eq_written, split, List.map_append, List.map_cons, around]
    simp [written, old, String.append_assoc]
  · rw [render_eq_written, Registry.tables_put_of_used free used, split, List.map_append,
      List.map_cons, map_written_put _ free others.1, map_written_put _ free others.2, around]
    simp [written, new, String.append_assoc]

/-- On a table without constraints the entry comes with the line of the table, and with an empty
line unless it is the first in the snapshot. -/
theorem render_put_of_unused (indent : Int) (free : r.get? c.table c.name = none)
    (unused : c.table ∉ r.tables) :
    ∃ before after, render r indent = before ++ after ∧
      render (r.put c) indent = before ++
        (if r.tables = [] then header c.table ++ entry (padding indent) c
        else if ∃ table ∈ r.tables, c.table < table then
          header c.table ++ entry (padding indent) c ++ "\n"
        else "\n" ++ (header c.table ++ entry (padding indent) c)) ++ after := by
  obtain ⟨front, back, old, new⟩ := Registry.exists_tables_put free unused
  obtain ⟨first, last, none_live, one⟩ := Registry.exists_constraints_put free
  rw [Registry.constraints_eq_nil unused, eq_comm, List.append_eq_nil_iff] at none_live
  have block : written (r.put c) (padding indent) c.table =
      header c.table ++ entry (padding indent) c := by
    simp [written, one, none_live]
  have others : c.table ∉ front ∧ c.table ∉ back := by
    rw [old, List.mem_append, not_or] at unused
    exact unused
  have later : (∃ table ∈ front ++ back, c.table < table) ↔ back ≠ [] := by
    have sorted := (r.put c).tables_sorted
    rw [new, List.pairwise_append, List.pairwise_cons] at sorted
    obtain ⟨_, ⟨greater, _⟩, smaller⟩ := sorted
    constructor
    · rintro ⟨table, member, greater_table⟩ rfl
      rw [List.append_nil] at member
      exact String.lt_asymm greater_table (smaller table member c.table List.mem_cons_self)
    · intro filled
      obtain ⟨table, tables, rfl⟩ := List.exists_cons_of_ne_nil filled
      exact ⟨table, List.mem_append_right _ List.mem_cons_self, greater table List.mem_cons_self⟩
  obtain ⟨before, after, without, within⟩ := intercalate_insert "\n"
    (front.map (written r (padding indent))) (back.map (written r (padding indent)))
    (header c.table ++ entry (padding indent) c)
  refine ⟨before, after, ?_, ?_⟩
  · rw [render_eq_written, old, List.map_append, without]
  · rw [render_eq_written, new, List.map_append, List.map_cons, block,
      map_written_put _ free others.1, map_written_put _ free others.2, within]
    simp only [old, later, List.map_eq_nil_iff, List.append_eq_nil_iff, ite_not]

end Addition

/-- Where the name is free on its table, a constraint that is added puts one piece of text into the
snapshot and changes nothing else: its entry, or the block of its table, if the table is new, with
an empty line after it, before it if it is the last one, and without one if it is the only one. To
discard the constraint is to come back to the registry. -/
theorem render_add (r : Registry) (c : Constraint) (indent : Int)
    (free : r.get? c.table c.name = none) :
    ∃ s, r.add c = .ok s ∧ s.discard c.table c.name = (some c, r) ∧
      ∃ before added after, render r indent = before ++ after ∧
        render s indent = before ++ added ++ after ∧
        added =
          if c.table ∈ r.tables then entry (padding indent) c
          else if render r indent = "" then header c.table ++ entry (padding indent) c
          else if ∃ table ∈ r.tables, c.table < table then
            header c.table ++ entry (padding indent) c ++ "\n"
          else "\n" ++ (header c.table ++ entry (padding indent) c) := by
  refine ⟨r.put c, Registry.add_eq_ok (Registry.fits_add_iff.mp free), ?_, ?_⟩
  · rw [Registry.discard, Registry.get?_put_self, Registry.erase_put free]
  by_cases used : c.table ∈ r.tables
  · obtain ⟨before, after, old, new⟩ := render_put_of_used indent free used
    exact ⟨before, _, after, old, new, by rw [if_pos used]⟩
  · obtain ⟨before, after, old, new⟩ := render_put_of_unused indent free used
    exact ⟨before, _, after, old, new, by simp only [if_neg used, render_eq_empty_iff]⟩

/-- The first constraint of a table between two others, and one of two lines on a table in use. -/
theorem render_add_between_tables :
    let r := (Registry.empty.put ⟨"low", "prices", "(p > 0)", none⟩).put
      ⟨"low", "rates", "(r > 0)", none⟩
    let first : Constraint := ⟨"low", "quotes", "(q > 0)", none⟩
    let second : Constraint := ⟨"high", "prices", "(p < 9\nOR old)", none⟩
    (∃ s before after, r.add first = .ok s ∧ render r 2 = before ++ after ∧
      render s 2 = before ++ "table \"quotes\"\n  low: (q > 0)\n\n" ++ after) ∧
    ∃ s before after, r.add second = .ok s ∧ render r 2 = before ++ after ∧
      render s 2 = before ++ "  high: (p < 9\nOR old)\n" ++ after := by
  intro r first second
  constructor
  · obtain ⟨s, added, _, before, piece, after, old, new, text⟩ :=
      render_add r first 2 (by decide +kernel)
    have block : piece = "table \"quotes\"\n  low: (q > 0)\n\n" := by
      rw [text]
      decide +kernel
    exact ⟨s, before, after, added, old, block ▸ new⟩
  · obtain ⟨s, added, _, before, piece, after, old, new, text⟩ :=
      render_add r second 2 (by decide +kernel)
    have line : piece = "  high: (p < 9\nOR old)\n" := by
      rw [text]
      decide +kernel
    exact ⟨s, before, after, added, old, line ▸ new⟩

end Snapshot

end CheckConstraints

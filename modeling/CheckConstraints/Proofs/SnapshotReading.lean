import CheckConstraints.Proofs.Edits
import CheckConstraints.Proofs.SnapshotCatalog
import Mathlib.Data.List.Infix

/-!
A snapshot identifies the state of a schema. Its lines are read back by splitting it at the line
breaks, and its blocks by splitting the lines at the empty ones. A block starts with the line of its
table, so that a constraint whose line looks like that of a table is not taken for one. In every
other line the name ends where the first colon with a space begins.
-/

namespace CheckConstraints

/-- Lists without the separator are read back from what the separator joins them to. -/
theorem intercalate_injective {α : Type} [DecidableEq α] {x : α} {ls ms : List (List α)}
    (hls : ∀ l ∈ ls, x ∉ l) (hms : ∀ m ∈ ms, x ∉ m) (ls_ne : ls ≠ []) (ms_ne : ms ≠ [])
    (h : [x].intercalate ls = [x].intercalate ms) : ls = ms := by
  rw [← List.splitOn_intercalate x hls ls_ne, h, List.splitOn_intercalate x hms ms_ne]

theorem mem_intercalate {α : Type} {x a : α} {ls : List (List α)} (h : a ∈ [x].intercalate ls) :
    a = x ∨ ∃ l ∈ ls, a ∈ l := by
  induction ls with
  | nil => simp at h
  | cons l ls ih =>
      cases ls with
      | nil => exact Or.inr ⟨l, List.mem_cons_self, by simpa using h⟩
      | cons m ls =>
          rw [List.intercalate_cons_cons, List.append_assoc, List.mem_append] at h
          rcases h with inside | later
          · exact Or.inr ⟨l, List.mem_cons_self, inside⟩
          · rcases List.mem_cons.mp later with separator | later
            · exact Or.inl separator
            · exact (ih later).imp id fun ⟨m, listed, inside⟩ =>
                ⟨m, List.mem_cons_of_mem _ listed, inside⟩

theorem infix_intercalate {α : Type} {separator l : List α} {ls : List (List α)} (h : l ∈ ls) :
    l <:+: separator.intercalate ls := by
  induction ls with
  | nil => simp at h
  | cons m ls ih =>
      cases ls with
      | nil => simp [List.mem_singleton.mp h]
      | cons n ls =>
          rw [List.intercalate_cons_cons]
          rcases List.mem_cons.mp h with rfl | later
          · rw [List.append_assoc]
            exact (List.prefix_append l _).isInfix
          · exact (ih later).trans (List.suffix_append _ _).isInfix

/-- Texts of one line each are read back from the text that they are the lines of. -/
theorem lines_injective {ls ms : List String} (hls : ∀ l ∈ ls, '\n' ∉ l.toList)
    (hms : ∀ m ∈ ms, '\n' ∉ m.toList) (ls_ne : ls ≠ []) (ms_ne : ms ≠ [])
    (h : "\n".intercalate ls = "\n".intercalate ms) : ls = ms := by
  have characters := congrArg String.toList h
  have lineBreak : "\n".toList = ['\n'] := rfl
  rw [String.toList_intercalate, String.toList_intercalate, lineBreak] at characters
  refine List.map_injective_iff.mpr (fun _ _ => String.toList_injective) ?_
  exact intercalate_injective (by simpa using hls) (by simpa using hms) (by simpa using ls_ne)
    (by simpa using ms_ne) characters

namespace Constraint

def triple (c : Constraint) : String × String × String := (c.table, c.name, c.predicate)

/-- What the constraint is made of keeps to one line, and its name ends before the first separator
of its line. -/
structure Legible (c : Constraint) : Prop where
  table : '\n' ∉ c.table.toList
  name : '\n' ∉ c.name.toList
  predicate : '\n' ∉ c.predicate.toList
  separated : ¬ [':', ' '] <:+: c.name.toList

instance (c : Constraint) : Decidable c.Legible :=
  decidable_of_iff ('\n' ∉ c.table.toList ∧ '\n' ∉ c.name.toList ∧ '\n' ∉ c.predicate.toList ∧
      ¬ [':', ' '] <:+: c.name.toList)
    ⟨fun ⟨table, name, predicate, separated⟩ => ⟨table, name, predicate, separated⟩,
      fun ⟨table, name, predicate, separated⟩ => ⟨table, name, predicate, separated⟩⟩

theorem nil_or_separator {ts ps qs : List Char} (h : ':' :: ' ' :: ps = ts ++ ':' :: ' ' :: qs) :
    ts = [] ∨ [':', ' '] <:+: ts := by
  match ts with
  | [] => exact Or.inl rfl
  | [t] => simp at h
  | t :: t' :: ts =>
      simp only [List.cons_append, List.cons.injEq] at h
      obtain ⟨rfl, rfl, _⟩ := h
      exact Or.inr ⟨[], ts, rfl⟩

/-- The first colon with a space tells where the text before it ends. -/
theorem eq_of_separated {ns ms ps qs : List Char} (hns : ¬ [':', ' '] <:+: ns)
    (hms : ¬ [':', ' '] <:+: ms) (h : ns ++ ':' :: ' ' :: ps = ms ++ ':' :: ' ' :: qs) :
    ns = ms ∧ ps = qs := by
  rcases List.append_eq_append_iff.mp h with ⟨ts, rfl, rest⟩ | ⟨ts, rfl, rest⟩
  · rcases nil_or_separator rest with rfl | inside
    · simpa using rest
    · exact absurd (inside.trans (List.suffix_append ns ts).isInfix) hms
  · rcases nil_or_separator rest with rfl | inside
    · simpa using rest.symm
    · exact absurd (inside.trans (List.suffix_append ms ts).isInfix) hns

theorem line_injective {pad : String} {c d : Constraint} (hc : c.Legible) (hd : d.Legible)
    (h : c.line pad = d.line pad) : c.name = d.name ∧ c.predicate = d.predicate := by
  have characters := congrArg String.toList h
  simp only [line, String.toList_append, List.append_assoc, List.append_cancel_left_eq]
    at characters
  obtain ⟨name, predicate⟩ := eq_of_separated hc.separated hd.separated characters
  exact ⟨String.toList_injective name, String.toList_injective predicate⟩

theorem line_legible {pad : String} {c : Constraint} (padding : '\n' ∉ pad.toList) (h : c.Legible) :
    '\n' ∉ (c.line pad).toList := by
  simp [line, padding, h.name, h.predicate]

theorem mem_insertByName {c d : Constraint} {cs : List Constraint} :
    d ∈ insertByName c cs ↔ d = c ∨ d ∈ cs := by
  induction cs with
  | nil => simp [insertByName]
  | cons e cs ih =>
      simp only [insertByName]
      split <;> simp [ih, or_left_comm]

theorem mem_sortByName {d : Constraint} {cs : List Constraint} : d ∈ sortByName cs ↔ d ∈ cs := by
  induction cs with
  | nil => rfl
  | cons c cs ih => simp [sortByName, mem_insertByName, ih]

end Constraint

namespace Registry

def triples (r : Registry) : List (String × String × String) := r.entries.map Constraint.triple

theorem mem_tablesOf_cons {table : String} {c : Constraint} {cs : List Constraint} :
    table ∈ tablesOf (c :: cs) ↔ table = c.table ∨ table ∈ tablesOf cs := by
  simp only [tablesOf]
  split
  · rename_i none_later
    simp [none_later]
  · rename_i later
    split
    · rename_i same
      simp [later, same]
    · simp [later]

theorem mem_tablesOf {table : String} {cs : List Constraint} :
    table ∈ tablesOf cs ↔ ∃ c ∈ cs, c.table = table := by
  induction cs with
  | nil => simp [tablesOf]
  | cons c cs ih => simp [mem_tablesOf_cons, ih, eq_comm]

theorem mem_tables {r : Registry} {table : String} :
    table ∈ r.tables ↔ ∃ c ∈ r.entries, c.table = table :=
  mem_tablesOf

theorem catalog_eq_some_iff {r : Registry} {table name predicate : String} :
    r.catalog table name = some predicate ↔ (table, name, predicate) ∈ r.triples := by
  simp only [catalog, triples, Constraint.triple, Option.map_eq_some_iff, get?_eq_some_iff,
    List.mem_map, Prod.mk.injEq]
  constructor
  · rintro ⟨c, ⟨member, rfl, rfl⟩, rfl⟩
    exact ⟨c, member, rfl, rfl, rfl⟩
  · rintro ⟨c, member, rfl, rfl, rfl⟩
    exact ⟨c, ⟨member, rfl, rfl⟩, rfl⟩

theorem catalog_eq_of_triples {r s : Registry}
    (h : ∀ triple, triple ∈ r.triples ↔ triple ∈ s.triples) : r.catalog = s.catalog := by
  funext table name
  apply Option.ext
  intro predicate
  rw [catalog_eq_some_iff, catalog_eq_some_iff]
  exact h (table, name, predicate)

end Registry

namespace Snapshot

def headline (table : String) : String := "table \"" ++ table ++ "\""

/-- The lines of the block of a table. -/
def paragraph (r : Registry) (pad table : String) : List String :=
  headline table :: (Constraint.sortByName (r.constraints table)).map (Constraint.line pad)

def paragraphs (r : Registry) (pad : String) : List (List String) :=
  r.tables.map (paragraph r pad)

theorem headline_injective {table table' : String} (h : headline table = headline table') :
    table = table' := by
  have characters := congrArg String.toList h
  simp only [headline, String.toList_append, List.append_assoc, List.append_cancel_left_eq,
    List.append_cancel_right_eq] at characters
  exact String.toList_injective characters

theorem block_eq {r : Registry} {table : String} (pad : String) (used : table ∈ r.tables) :
    block r pad table = some ("\n".intercalate (paragraph r pad table)) := by
  obtain ⟨c, member, rfl⟩ := Registry.mem_tables.mp used
  have own : (r.constraints c.table).filter (·.table == c.table) = r.constraints c.table := by
    simp [Registry.constraints]
  have listed : c ∈ Constraint.sortByName (r.constraints c.table) := by
    simp [Constraint.mem_sortByName, Registry.constraints, member]
  cases sorted : Constraint.sortByName (r.constraints c.table) with
  | nil => simp [sorted] at listed
  | cons d ds =>
      simp [block, fragment, own, paragraph, sorted, header, headline, String.intercalate_cons_cons,
        String.append_assoc]

theorem blocks_eq (r : Registry) (pad : String) :
    blocks r pad = (paragraphs r pad).map "\n".intercalate := by
  rw [blocks, paragraphs, List.map_map, List.filterMap_eq_map_iff_forall_eq_some]
  exact fun table used => block_eq pad used

/-- Blocks with an empty line between them are lines, and the last line break begins another one. -/
theorem join_paragraphs {p : List String} {ps : List (List String)}
    (filled : ∀ q ∈ p :: ps, q ≠ []) :
    "\n\n".intercalate ((p :: ps).map "\n".intercalate) ++ "\n" =
      "\n".intercalate ([""].intercalate (p :: ps) ++ [""]) := by
  induction ps generalizing p with
  | nil =>
      have p_filled : p ≠ [] := filled p List.mem_cons_self
      rw [List.intercalate_singleton, String.intercalate_append_of_ne_nil p_filled (by simp)]
      simp
  | cons q ps ih =>
      have p_filled : p ≠ [] := filled p List.mem_cons_self
      have rest := ih fun q member => filled q (List.mem_cons_of_mem _ member)
      rw [List.intercalate_cons_cons, List.append_assoc, List.append_assoc,
        String.intercalate_append_of_ne_nil p_filled (by simp),
        String.intercalate_append_of_ne_nil (by simp) (by simp), ← rest, List.map_cons,
        List.map_cons, String.intercalate_cons_cons]
      simp only [String.intercalate_singleton, String.empty_append, String.append_assoc]
      exact congrArg _ (@String.append_assoc "\n" "\n" _)

theorem render_eq_lines {r : Registry} (indent : Int) (filled : r.tables ≠ []) :
    render r indent =
      "\n".intercalate ([""].intercalate (paragraphs r (padding indent)) ++ [""]) := by
  obtain ⟨table, tables, used⟩ := List.exists_cons_of_ne_nil filled
  simp only [render, blocks_eq]
  simp only [paragraphs, used, List.map_cons]
  refine join_paragraphs ?_
  simp [paragraph]

/-- Every live constraint has its line in the snapshot. -/
theorem line_infix_render {r : Registry} {c : Constraint} (live : c ∈ r.entries)
    (indent : Int) :
    (c.line (padding indent)).toList <:+: (render r indent).toList := by
  have used : c.table ∈ r.tables := Registry.mem_tables.mpr ⟨c, live, rfl⟩
  have line : c.line (padding indent) ∈ paragraph r (padding indent) c.table := by
    refine List.mem_cons_of_mem _ (List.mem_map_of_mem (Constraint.mem_sortByName.mpr ?_))
    simp [Registry.constraints, live]
  have block : paragraph r (padding indent) c.table ∈ paragraphs r (padding indent) :=
    List.mem_map_of_mem used
  rw [render_eq_lines indent (List.ne_nil_of_mem used), String.toList_intercalate]
  refine infix_intercalate (List.mem_map_of_mem (List.mem_append_left _ ?_))
  exact (infix_intercalate block).subset line

section Reading
variable {r s : Registry} {pad : String}

theorem mem_paragraph {table line : String} (member : line ∈ paragraph r pad table) :
    line = headline table ∨ ∃ c ∈ r.entries, c.table = table ∧ line = c.line pad := by
  rcases List.mem_cons.mp member with rfl | member
  · exact Or.inl rfl
  · obtain ⟨c, listed, rfl⟩ := List.mem_map.mp member
    rw [Constraint.mem_sortByName, Registry.constraints, List.mem_filter, beq_iff_eq] at listed
    exact Or.inr ⟨c, listed.1, listed.2, rfl⟩

theorem not_mem_padding (indent : Int) : '\n' ∉ (padding indent).toList := by
  simp [padding]

/-- No line of a snapshot is empty, and each of a legible one is one line. -/
theorem line_legible {indent : Int} (legible : ∀ c ∈ r.entries, c.Legible) {table line : String}
    (used : table ∈ r.tables) (member : line ∈ paragraph r (padding indent) table) :
    '\n' ∉ line.toList ∧ line ≠ "" := by
  obtain rfl | ⟨c, listed, -, rfl⟩ := mem_paragraph member
  · obtain ⟨c, listed, rfl⟩ := Registry.mem_tables.mp used
    constructor
    · simp [headline, (legible c listed).table]
    · simp [headline]
  · constructor
    · exact Constraint.line_legible (not_mem_padding indent) (legible c listed)
    · simp [Constraint.line]

/-- The blocks are read back from their lines, none of which is empty. -/
theorem paragraphs_injective {ps qs : List (List String)} (ps_ne : ps ≠ []) (qs_ne : qs ≠ [])
    (hps : ∀ p ∈ ps, ∀ line ∈ p, '\n' ∉ line.toList ∧ line ≠ "")
    (hqs : ∀ q ∈ qs, ∀ line ∈ q, '\n' ∉ line.toList ∧ line ≠ "")
    (h : "\n".intercalate ([""].intercalate ps ++ [""]) =
      "\n".intercalate ([""].intercalate qs ++ [""])) : ps = qs := by
  have oneLine : ∀ {ps : List (List String)},
      (∀ p ∈ ps, ∀ line ∈ p, '\n' ∉ line.toList ∧ line ≠ "") →
      ∀ line ∈ [""].intercalate ps ++ [""], '\n' ∉ line.toList := by
    intro ps hps line member
    rcases List.mem_append.mp member with member | last
    · rcases mem_intercalate member with rfl | ⟨p, listed, inside⟩
      · simp
      · exact (hps p listed line inside).1
    · simp [List.mem_singleton.mp last]
  have lines := lines_injective (oneLine hps) (oneLine hqs) (by simp) (by simp) h
  have filled : ∀ {ps : List (List String)},
      (∀ p ∈ ps, ∀ line ∈ p, '\n' ∉ line.toList ∧ line ≠ "") → ∀ p ∈ ps, "" ∉ p :=
    fun hps p listed empty => (hps p listed "" empty).2 rfl
  exact intercalate_injective (filled hps) (filled hqs) ps_ne qs_ne (List.append_cancel_right lines)

theorem render_eq_empty_iff (r : Registry) (indent : Int) :
    render r indent = "" ↔ r.tables = [] := by
  simp only [render, blocks_eq, paragraphs]
  cases r.tables <;> simp

theorem paragraphs_eq_of_render_eq {indent : Int} (hr : ∀ c ∈ r.entries, c.Legible)
    (hs : ∀ c ∈ s.entries, c.Legible) (h : render r indent = render s indent) :
    paragraphs r (padding indent) = paragraphs s (padding indent) := by
  have both : r.tables = [] ↔ s.tables = [] := by
    rw [← render_eq_empty_iff r indent, h, render_eq_empty_iff]
  by_cases none_used : r.tables = []
  · simp [paragraphs, none_used, both.mp none_used]
  · rw [render_eq_lines indent none_used, render_eq_lines indent (mt both.mpr none_used)] at h
    refine paragraphs_injective (by simp [paragraphs, none_used])
      (by simp [paragraphs, mt both.mpr none_used]) ?_ ?_ h
    · intro p listed
      obtain ⟨table, used, rfl⟩ := List.mem_map.mp listed
      exact fun line => line_legible hr used
    · intro p listed
      obtain ⟨table, used, rfl⟩ := List.mem_map.mp listed
      exact fun line => line_legible hs used

theorem triples_subset {r s : Registry} (hr : ∀ c ∈ r.entries, c.Legible)
    (hs : ∀ c ∈ s.entries, c.Legible) (same : paragraphs r pad = paragraphs s pad) :
    r.triples ⊆ s.triples := by
  intro triple member
  obtain ⟨c, listed, rfl⟩ := List.mem_map.mp member
  have shown : paragraph r pad c.table ∈ paragraphs s pad := by
    rw [← same]
    exact List.mem_map_of_mem (Registry.mem_tables.mpr ⟨c, listed, rfl⟩)
  obtain ⟨table, -, block⟩ := List.mem_map.mp shown
  obtain ⟨headlines, lines⟩ := List.cons.inj block
  obtain rfl := headline_injective headlines
  have line : c.line pad ∈ (Constraint.sortByName (s.constraints c.table)).map
      (Constraint.line pad) := by
    rw [lines]
    refine List.mem_map_of_mem (Constraint.mem_sortByName.mpr ?_)
    simp [Registry.constraints, listed]
  obtain ⟨d, found, same_line⟩ := List.mem_map.mp line
  rw [Constraint.mem_sortByName, Registry.constraints, List.mem_filter, beq_iff_eq] at found
  obtain ⟨name, predicate⟩ :=
    Constraint.line_injective (hr c listed) (hs d found.1) same_line.symm
  refine List.mem_map.mpr ⟨d, found.1, ?_⟩
  simp [Constraint.triple, found.2, name, predicate]

end Reading

/-- Whatever was added and discarded on the way, two registries have one snapshot exactly when they
hold the same predicates under the same names on the same tables. -/
theorem render_eq_iff_same_triples (indent : Int) (history history' : List Edit)
    (legible : ∀ c ∈ (Registry.empty.edited history).entries, c.Legible)
    (legible' : ∀ c ∈ (Registry.empty.edited history').entries, c.Legible) :
    let r := Registry.empty.edited history
    let s := Registry.empty.edited history'
    render r indent = render s indent ↔ ∀ triple, triple ∈ r.triples ↔ triple ∈ s.triples := by
  intro r s
  constructor
  · intro same triple
    have blocks := paragraphs_eq_of_render_eq legible legible' same
    constructor
    · exact fun member => triples_subset legible legible' blocks member
    · exact fun member => triples_subset legible' legible blocks.symm member
  · intro same
    exact render_eq_of_catalog_eq (Registry.catalog_eq_of_triples same) indent

/-- Without padding the line of the constraint on `a` is the line of the table `x: y`. The second
history adds in another order, discards, is refused once and knows a descriptor; the third one ends
with another predicate. -/
theorem render_eq_iff_same_triples_of_header_line :
    let first : List Edit :=
      [.add ⟨"table \"x", "a", "y\"", none⟩, .add ⟨"ck", "x: y", "(p)", none⟩]
    let second : List Edit := [.add ⟨"ck", "x: y", "(p)", some (.raw "p")⟩,
      .add ⟨"old", "x: y", "(q)", none⟩, .add ⟨"table \"x", "a", "y\"", none⟩,
      .add ⟨"ck", "x: y", "(q)", none⟩, .discard "x: y" "old"]
    let third : List Edit :=
      [.add ⟨"table \"x", "a", "y\"", none⟩, .add ⟨"ck", "x: y", "(q)", none⟩]
    render (Registry.empty.edited first) 0 = render (Registry.empty.edited second) 0 ∧
    render (Registry.empty.edited first) 0 ≠ render (Registry.empty.edited third) 0 := by
  intro first second third
  have legible : ∀ history ∈ [first, second, third],
      ∀ c ∈ (Registry.empty.edited history).entries, c.Legible := by decide +kernel
  have firstLegible := legible first (by simp)
  constructor
  · have secondLegible := legible second (by simp)
    refine (render_eq_iff_same_triples 0 first second firstLegible secondLegible).mpr ?_
    have same : (Registry.empty.edited first).triples = (Registry.empty.edited second).triples := by
      decide +kernel
    exact fun triple => by rw [same]
  · intro same
    have states :=
      (render_eq_iff_same_triples 0 first third firstLegible (legible third (by simp))).mp same
    have before : ("x: y", "ck", "(p)") ∈ (Registry.empty.edited first).triples := by
      decide +kernel
    have gone : ("x: y", "ck", "(p)") ∉ (Registry.empty.edited third).triples := by decide +kernel
    exact gone ((states ("x: y", "ck", "(p)")).mp before)

end Snapshot

end CheckConstraints

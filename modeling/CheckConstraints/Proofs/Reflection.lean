import CheckConstraints.Proofs.Listings
import CheckConstraints.Reflection

/-!
Reflection of a schema that is known. A report of the live constraints may list the tables and the
rows of a table in any order, and may have unnamed rows anywhere. What is read back from it is the
registry of these constraints without their descriptors. The rows are added one by one, and none is
refused: its place is free because it is reported once, and only tables with a named row are
touched.
-/

namespace CheckConstraints

namespace ReportRow

/-- A row whose name is missing or counts as not given is about an unnamed constraint. -/
def isNamed (row : ReportRow) : Bool := row.name.any (·.isTruthy)

/-- The row that reports a constraint. -/
def ofConstraint (c : Constraint) : ReportRow := ⟨some (.text c.name), some (.text c.predicate)⟩

theorem constraint?_of_unnamed {row : ReportRow} (table : String) (unnamed : row.isNamed = false) :
    row.constraint? table = .ok none := by
  cases name : row.name with
  | none => simp [constraint?, name]
  | some value =>
      simp only [isNamed, name, Option.any_some] at unnamed
      simp [constraint?, name, unnamed]

theorem constraint?_ofConstraint {c : Constraint} (named : c.name ≠ "") :
    (ofConstraint c).constraint? c.table = .ok (some c.bare) := by
  have truthy : (Script.Value.text c.name).isTruthy = true := by
    simp [Script.Value.isTruthy, named]
  simp only [constraint?, ofConstraint, truthy, Bool.not_true]
  rfl

end ReportRow

/-- The report is about the live constraints of a registry. It lists every table once, and those
with constraints are among them; the named rows of a table report its constraints, in any order. -/
structure Report.Shows (report : Report) (r : Registry) : Prop where
  once : report.tables.Nodup
  listed : ∀ c ∈ r.entries, c.table ∈ report.tables
  rows : ∀ table, ((report.rows table).filter ReportRow.isNamed).Perm
    ((r.constraints table).map ReportRow.ofConstraint)

namespace Registry

variable {r s : Registry} {table : String}

/-- Rows that report constraints at places which are free and all different are added one by one,
whatever unnamed rows stand between them. -/
theorem reflectRows_adds {rows : List ReportRow} {cs : List Constraint}
    (shown : (rows.filter ReportRow.isNamed).Perm (cs.map ReportRow.ofConstraint))
    (here : ∀ c ∈ cs, c.table = table) (named : ∀ c ∈ cs, c.name ≠ "")
    (apart : cs.Pairwise (·.name ≠ ·.name))
    (free : ∀ c ∈ cs, s.get? c.table c.name = none) :
    ∃ s', reflectRows table rows s = .ok s' ∧
      ∀ d, d ∈ s'.entries ↔ d ∈ s.entries ∨ d ∈ cs.map Constraint.bare := by
  induction rows generalizing cs s with
  | nil =>
      obtain rfl : cs = [] := by simpa using shown
      exact ⟨s, rfl, by simp⟩
  | cons row rows ih =>
      simp only [reflectRows]
      cases about : row.isNamed with
      | false =>
          rw [ReportRow.constraint?_of_unnamed table about]
          rw [List.filter_cons_of_neg (by simp [about])] at shown
          exact ih shown here named apart free
      | true =>
          rw [List.filter_cons_of_pos about] at shown
          -- The row reports one of the constraints; the later rows report the others.
          obtain ⟨c, member, rfl⟩ := List.mem_map.mp (shown.subset List.mem_cons_self)
          have split : cs.Perm (c :: cs.erase c) := List.perm_cons_erase member
          have later := (shown.trans (split.map ReportRow.ofConstraint)).cons_inv
          obtain ⟨other, apart⟩ := List.pairwise_cons.mp ((split.pairwise_iff Ne.symm).mp apart)
          have still : ∀ d ∈ cs.erase c, d ∈ cs := fun d => List.mem_of_mem_erase
          have free_c : s.get? c.bare.table c.bare.name = none := free c member
          obtain ⟨s', read, members⟩ := ih (s := s.put c.bare) later
            (fun d left => here d (still d left)) (fun d left => named d (still d left)) apart
            (fun d left => by
              have away : ¬ c.bare.IsAt d.table d.name := fun same => other d left same.2
              rw [get?_put_of_ne away]
              exact free d (still d left))
          refine ⟨s', ?_, ?_⟩
          · rw [← here c member, ReportRow.constraint?_ofConstraint (named c member)]
            have added : s.add c.bare = .ok (s.put c.bare) := add_eq_ok (fits_add_iff.mp free_c)
            simpa [bind, Except.bind, added, here c member] using read
          · intro d
            rw [members, mem_put_of_free free_c, (split.map Constraint.bare).mem_iff,
              List.map_cons, List.mem_cons]
            grind

/-- The registry of the constraints on the given tables. -/
def within (r : Registry) (tables : List String) : Registry :=
  ⟨r.entries.filter fun c => decide (c.table ∈ tables), r.sorted.filter _⟩

theorem mem_bare_constraints {d : Constraint} :
    d ∈ (r.constraints table).map Constraint.bare ↔ d ∈ r.bare.entries ∧ d.table = table := by
  simp only [constraints, bare, List.mem_map, List.mem_filter, beq_iff_eq]
  constructor
  · rintro ⟨c, ⟨live, here⟩, rfl⟩
    exact ⟨⟨c, live, rfl⟩, here⟩
  · rintro ⟨⟨c, live, rfl⟩, here⟩
    exact ⟨c, ⟨live, here⟩, rfl⟩

theorem mem_bare_within {tables : List String} {d : Constraint} :
    d ∈ (r.within tables).bare.entries ↔ d ∈ r.bare.entries ∧ d.table ∈ tables := by
  simp only [within, bare, List.mem_map, List.mem_filter, decide_eq_true_eq]
  constructor
  · rintro ⟨c, ⟨live, listed⟩, rfl⟩
    exact ⟨⟨c, live, rfl⟩, listed⟩
  · rintro ⟨⟨c, live, rfl⟩, listed⟩
    exact ⟨c, ⟨live, listed⟩, rfl⟩

theorem catalog_bare (r : Registry) : r.bare.catalog = r.catalog := by
  funext table name
  simp only [catalog, get?_bare, Option.map_map]
  rfl

theorem source_of_mem_bare {d : Constraint} (live : d ∈ r.bare.entries) : d.source = none := by
  obtain ⟨c, _, rfl⟩ := List.mem_map.mp live
  rfl

section Reading
variable {report : Report} (named : ∀ c ∈ r.entries, c.name ≠ "")
  (rows : ∀ table, ((report.rows table).filter ReportRow.isNamed).Perm
    ((r.constraints table).map ReportRow.ofConstraint))
include named rows

/-- Tables are read one after the other; none of them was touched before. -/
theorem reflectTables_adds {tables : List String} (once : tables.Nodup)
    (untouched : ∀ d ∈ s.entries, d.table ∉ tables) :
    ∃ s', reflectTables report tables s = .ok s' ∧
      ∀ d, d ∈ s'.entries ↔ d ∈ s.entries ∨ d ∈ r.bare.entries ∧ d.table ∈ tables := by
  induction tables generalizing s with
  | nil => exact ⟨s, rfl, by simp⟩
  | cons table tables ih =>
      obtain ⟨first, once⟩ := List.nodup_cons.mp once
      have live : ∀ c ∈ r.constraints table, c ∈ r.entries ∧ c.table = table :=
        fun _ => mem_constraints_iff.mp
      have free : ∀ c ∈ r.constraints table, s.get? c.table c.name = none := by
        intro c member
        refine get?_eq_none_iff.mpr fun d touched here => untouched d touched ?_
        rw [here.1, (live c member).2]
        exact List.mem_cons_self
      have apart := ne_of_increasing Constraint.name (r.constraints_sorted table)
      obtain ⟨s₁, read, members⟩ := reflectRows_adds (rows table)
        (fun c member => (live c member).2) (fun c member => named c (live c member).1) apart free
      have untouched₁ : ∀ d ∈ s₁.entries, d.table ∉ tables := by
        intro d member later
        rcases (members d).mp member with before | added
        · exact untouched d before (List.mem_cons_of_mem _ later)
        · exact first ((mem_bare_constraints.mp added).2 ▸ later)
      obtain ⟨s', done, members'⟩ := ih once untouched₁
      refine ⟨s', ?_, ?_⟩
      · simpa [reflectTables, bind, Except.bind, read] using done
      · intro d
        rw [members', members, mem_bare_constraints, List.mem_cons]
        grind

theorem reflectTables_eq {tables : List String} (once : tables.Nodup) :
    reflectTables report tables empty = .ok (r.within tables).bare := by
  obtain ⟨s, read, members⟩ := reflectTables_adds named rows once (s := empty)
    (fun d member => absurd member List.not_mem_nil)
  rw [read]
  congr 1
  apply ext
  refine eq_of_mem_iff s.sorted (r.within tables).bare.sorted fun d => ?_
  rw [members, mem_bare_within]
  exact or_iff_right List.not_mem_nil

end Reading

/-- What is read back from a report of the live constraints has their catalog and no descriptor, and
so their snapshot. What is read of some of the tables, each taken once, is the part of the registry
that is on them. -/
theorem reflect_shown {report : Report} (named : ∀ c ∈ r.entries, c.name ≠ "")
    (shows : report.Shows r) :
    (∃ s, reflect report none = .ok s ∧ s.catalog = r.catalog ∧
      (∀ c ∈ s.entries, c.source = none) ∧
      ∀ indent, Snapshot.render s indent = Snapshot.render r indent) ∧
    ∀ tables : List String, tables.Nodup → ∃ s, reflect report (some tables) = .ok s ∧
      s.catalog = (r.within tables).catalog ∧ (∀ c ∈ s.entries, c.source = none) ∧
      ∀ indent, Snapshot.render s indent = Snapshot.render (r.within tables) indent := by
  have whole : r.within report.tables = r := by
    apply ext
    exact List.filter_eq_self.mpr fun c live => decide_eq_true (shows.listed c live)
  have read : ∀ tables : List String, tables.Nodup →
      reflectTables report tables empty = .ok (r.within tables).bare :=
    fun tables once => reflectTables_eq named shows.rows once
  refine ⟨⟨r.bare, ?_, catalog_bare r, fun c => source_of_mem_bare, Snapshot.render_bare r⟩, ?_⟩
  · have all := read report.tables shows.once
    rwa [whole] at all
  · intro tables once
    exact ⟨(r.within tables).bare, read tables once, catalog_bare _, fun c => source_of_mem_bare,
      Snapshot.render_bare _⟩

/-- Two tables with constraints, the later one listed first, and one with unnamed rows only. -/
theorem reflect_shown_among_unnamed_rows :
    let high : Constraint := ⟨"high", "prices", "(p < 9)", some (.raw "p < 9")⟩
    let low : Constraint := ⟨"low", "prices", "(p > 0)", none⟩
    let rate : Constraint := ⟨"low", "rates", "(r > 0)", none⟩
    let r := ((empty.put high).put rate).put low
    let report : Report := [("rates", [.ofConstraint rate]),
      ("notes", [⟨none, none⟩, ⟨some (.text ""), some (.text "(n)")⟩]),
      ("prices", [.ofConstraint low, ⟨some .null, none⟩, .ofConstraint high])]
    (∃ s, reflect report none = .ok s ∧ s.catalog = r.catalog ∧
      Snapshot.render s 2 = Snapshot.render r 2) ∧
    ∃ s, reflect report (some ["rates", "unknown"]) = .ok s ∧
      s.catalog = (empty.put rate).catalog := by
  intro high low rate r report
  have named : ∀ c ∈ r.entries, c.name ≠ "" := by decide +kernel
  have shows : report.Shows r := by
    refine ⟨by decide, by decide +kernel, fun table => ?_⟩
    by_cases prices : table = "prices"
    · subst prices
      have live : r.constraints "prices" = [high, low] := by decide +kernel
      have reported : (report.rows "prices").filter ReportRow.isNamed =
          [.ofConstraint low, .ofConstraint high] := by rfl
      rw [live, reported]
      exact .swap ..
    by_cases rates : table = "rates"
    · subst rates
      have live : r.constraints "rates" = [rate] := by decide +kernel
      rw [live]
      exact .refl _
    have none_live : r.constraints table = [] := by
      have used : ∀ c ∈ r.entries, c.table = "prices" ∨ c.table = "rates" := by decide +kernel
      refine List.filter_eq_nil_iff.mpr fun c live here => ?_
      rcases used c live with other | other
      · exact prices ((beq_iff_eq.mp here).symm.trans other)
      · exact rates ((beq_iff_eq.mp here).symm.trans other)
    rw [none_live]
    by_cases notes : table = "notes"
    · subst notes
      exact .refl _
    · have unknown : report.rows table = [] := by
        simp [Report.rows, report, Ne.symm prices, Ne.symm rates, Ne.symm notes]
      rw [unknown]
      exact .nil
  obtain ⟨⟨s, read, whole, _, snapshot⟩, part⟩ := reflect_shown named shows
  refine ⟨⟨s, read, whole, snapshot 2⟩, ?_⟩
  obtain ⟨s', read', limited, _⟩ := part ["rates", "unknown"] (by decide)
  have on_rates : r.within ["rates", "unknown"] = empty.put rate := by decide +kernel
  exact ⟨s', read', on_rates ▸ limited⟩

end Registry

end CheckConstraints

import CheckConstraints.Proofs.Edits
import CheckConstraints.Proofs.SnapshotReading
import CheckConstraints.Registry.Directory
import Mathlib.Data.Finset.Card
import Mathlib.Data.List.Sort

/-!
Registries as finite partial maps. Adds and discards, refused adds among them, answer as they do on a
map from tables and names to constraints, and what can be read off a registry afterwards is the map:
its values, its size, and its keys and values listed in order. A directory that was edited in the
same way shows the same. Edits at different places can be made in either order.
-/

namespace CheckConstraints

/-- The answer of an edit: what a discard took out, or the refusal of an add. -/
abbrev Answer := Except Fault (Option Constraint)

/-- The state after the edits, made one after the other, with their answers. A refused edit does
not keep the others from being made. -/
def Edit.run {σ : Type} (step : Edit → σ → Answer × σ) : List Edit → σ → List Answer × σ
  | [], s => ([], s)
  | e :: es, s =>
    let (answers, last) := run step es (step e s).2
    ((step e s).1 :: answers, last)

namespace Edit

theorem run_append {σ : Type} (step : Edit → σ → Answer × σ) (es later : List Edit) (s : σ) :
    run step (es ++ later) s =
      ((run step es s).1 ++ (run step later (run step es s).2).1,
        (run step later (run step es s).2).2) := by
  induction es generalizing s with
  | nil => rfl
  | cons e es ih => simp only [List.cons_append, run, ih]

/-- States that answer each edit alike and stay related answer all edits alike. -/
theorem run_simulates {σ τ : Type} {step : Edit → σ → Answer × σ} {step' : Edit → τ → Answer × τ}
    {R : σ → τ → Prop}
    (simulates : ∀ e s t, R s t →
      (step e s).1 = (step' e t).1 ∧ R (step e s).2 (step' e t).2)
    (es : List Edit) {s : σ} {t : τ} (related : R s t) :
    (run step es s).1 = (run step' es t).1 ∧ R (run step es s).2 (run step' es t).2 := by
  induction es generalizing s t with
  | nil => exact ⟨rfl, related⟩
  | cons e es ih =>
      obtain ⟨answer, next⟩ := simulates e s t related
      obtain ⟨answers, last⟩ := ih next
      simp only [run]
      exact ⟨by rw [answer, answers], last⟩

end Edit

/-- What an edit answers and leaves at its place, given what is there: an add is refused unless the
place is free, and a discard frees it. -/
def Edit.outcome : Edit → Option Constraint → Answer × Option Constraint
  | .add c, some d => (.error (.duplicateName c.table c.name .alreadyExists), some d)
  | .add c, none => (.ok none, some c)
  | .discard _ _, held => (.ok held, none)

/-- The table and the name that an edit is about. -/
def Edit.place : Edit → String × String
  | .add c => (c.table, c.name)
  | .discard table name => (table, name)

/-- A partial map from tables and names to constraints. -/
abbrev Contents := String → String → Option Constraint

namespace Contents

def empty : Contents := fun _ _ => none

def set (m : Contents) (table name : String) (value : Option Constraint) : Contents :=
  fun t n => if t = table ∧ n = name then value else m t n

def step (e : Edit) (m : Contents) : Answer × Contents :=
  let (answer, left) := e.outcome (m e.place.1 e.place.2)
  (answer, m.set e.place.1 e.place.2 left)

variable {m : Contents}

theorem set_of_eq {table name : String} {value : Option Constraint}
    (same : m table name = value) : m.set table name value = m := by
  funext t n
  simp only [set]
  split
  · rename_i here
    rw [here.1, here.2, same]
  · rfl

theorem step_add (c : Constraint) (m : Contents) :
    step (.add c) m = ((Edit.outcome (.add c) (m c.table c.name)).1,
      m.set c.table c.name (Edit.outcome (.add c) (m c.table c.name)).2) := rfl

theorem step_discard (table name : String) (m : Contents) :
    step (.discard table name) m = (.ok (m table name), m.set table name none) := rfl

/-- Of two edits at different places neither sees the other. -/
theorem step_comm {e e' : Edit} (apart : e.place ≠ e'.place) (m : Contents) :
    (step e' (step e m).2).1 = (step e' m).1 ∧
    (step e' (step e m).2).2 = (step e (step e' m).2).2 := by
  have unseen : ∀ e e' : Edit, e.place ≠ e'.place →
      (step e m).2 e'.place.1 e'.place.2 = m e'.place.1 e'.place.2 := by
    intro e e' apart
    refine if_neg fun here => apart ?_
    exact (Prod.ext here.1 here.2).symm
  have left : (step e m).2 e'.place.1 e'.place.2 = m e'.place.1 e'.place.2 := unseen e e' apart
  have right : (step e' m).2 e.place.1 e.place.2 = m e.place.1 e.place.2 := unseen e' e apart.symm
  refine ⟨congrArg (fun held => (e'.outcome held).1) left, ?_⟩
  funext t n
  have one : (step e' (step e m).2).2 t n = if t = e'.place.1 ∧ n = e'.place.2 then
      (e'.outcome (m e'.place.1 e'.place.2)).2 else (step e m).2 t n := by
    rw [← left]
    rfl
  have other : (step e (step e' m).2).2 t n = if t = e.place.1 ∧ n = e.place.2 then
      (e.outcome (m e.place.1 e.place.2)).2 else (step e' m).2 t n := by
    rw [← right]
    rfl
  rw [one, other]
  by_cases here : t = e.place.1 ∧ n = e.place.2
  · have away : ¬ (t = e'.place.1 ∧ n = e'.place.2) := fun there =>
      apart (Prod.ext (here.1.symm.trans there.1) (here.2.symm.trans there.2))
    simp only [step, set, if_neg away, if_pos here]
  · simp only [step, set, if_neg here]

/-- Two edits at different places in the midst of others: their answers change places with them, and
nothing else changes. -/
theorem run_comm {e e' : Edit} (apart : e.place ≠ e'.place) (es later : List Edit) (m : Contents) :
    (Edit.run step (es ++ e :: e' :: later) m).2 = (Edit.run step (es ++ e' :: e :: later) m).2 ∧
    ∃ a a' answers,
      (Edit.run step (es ++ e :: e' :: later) m).1 =
        (Edit.run step es m).1 ++ a :: a' :: answers ∧
      (Edit.run step (es ++ e' :: e :: later) m).1 =
        (Edit.run step es m).1 ++ a' :: a :: answers := by
  obtain ⟨second, last⟩ := step_comm apart (Edit.run step es m).2
  obtain ⟨first, _⟩ := step_comm apart.symm (Edit.run step es m).2
  simp only [Edit.run_append, Edit.run, first, second, last]
  exact ⟨trivial, _, _, _, rfl, rfl⟩

end Contents

def Registry.step : Edit → Registry → Answer × Registry
  | .add c, r =>
    match r.add c with
    | .error fault => (.error fault, r)
    | .ok r' => (.ok none, r')
  | .discard table name, r => (.ok (r.discard table name).1, (r.discard table name).2)

def Directory.step : Edit → Directory → Answer × Directory
  | .add c, d => ((d.add c).1.map fun _ => none, (d.add c).2)
  | .discard table name, d => (.ok (d.discard table name).1, (d.discard table name).2)

/-- All that can be read off a registry. -/
structure Readings where
  get? : String → String → Option Constraint
  contains : String → String → Bool
  names : String → Finset String
  constraints : String → List Constraint
  tables : List String
  size : Nat

def Registry.readings (r : Registry) : Readings where
  get? := r.get?
  contains := r.contains
  names table := (r.names table).toFinset
  constraints := r.constraints
  tables := r.tables
  size := r.size

def Directory.readings (d : Directory) : Readings where
  get? := d.get?
  contains := d.contains
  names := d.names
  constraints := d.constraints
  tables := d.tables
  size := d.size

/-- The readings are those of a map. Tables without a value are not listed. -/
structure Readings.Describe (o : Readings) (m : Contents) : Prop where
  get : ∀ table name, o.get? table name = m table name
  contains : ∀ table name, o.contains table name = true ↔ m table name ≠ none
  names : ∀ table name, name ∈ o.names table ↔ m table name ≠ none
  constraints_sorted : ∀ table, (o.constraints table).Pairwise (·.name < ·.name)
  constraints : ∀ table c, c ∈ o.constraints table ↔ ∃ name, m table name = some c
  tables_sorted : o.tables.Pairwise (· < ·)
  tables : ∀ table, table ∈ o.tables ↔ ∃ name, m table name ≠ none
  size : ∃ keys : Finset (String × String),
    (∀ table name, (table, name) ∈ keys ↔ m table name ≠ none) ∧ o.size = keys.card

theorem eq_of_increasing {α : Type} (key : α → String) {l l' : List α}
    (h : l.Pairwise (key · < key ·)) (h' : l'.Pairwise (key · < key ·))
    (same : ∀ a, a ∈ l ↔ a ∈ l') : l = l' := by
  have irrefl : Std.Irrefl fun a b => key a < key b := ⟨fun a => String.lt_irrefl (key a)⟩
  have antisymm : Std.Antisymm fun a b => key a < key b :=
    ⟨fun a b hab hba => absurd (String.lt_trans hab hba) (String.lt_irrefl (key a))⟩
  exact h.eq_of_mem_iff h' same

theorem ne_of_increasing {α : Type} (key : α → String) {l : List α}
    (h : l.Pairwise (key · < key ·)) : l.Pairwise (key · ≠ key ·) := by
  refine h.imp fun smaller same => ?_
  exact String.lt_irrefl _ (same ▸ smaller)

/-- Sorting by keys that are all different makes them increase strictly. -/
theorem pairwise_mergeSort {α : Type} (key : α → String) {l : List α}
    (distinct : l.Pairwise (key · ≠ key ·)) :
    (l.mergeSort fun a b => decide (key a ≤ key b)).Pairwise (key · < key ·) := by
  let le (a b : α) : Bool := decide (key a ≤ key b)
  have trans : ∀ a b c, le a b = true → le b c = true → le a c = true := fun a b c hab hbc =>
    decide_eq_true (String.le_trans (of_decide_eq_true hab) (of_decide_eq_true hbc))
  have total : ∀ a b, (le a b || le b a) = true := by
    intro a b
    simpa [le] using String.le_total (key a) (key b)
  have sorted := List.pairwise_mergeSort trans total l
  have still := distinct.perm (List.mergeSort_perm l le).symm Ne.symm
  refine (sorted.and still).imp ?_
  rintro a b ⟨smaller, other⟩
  refine Decidable.byContradiction fun not_less => other ?_
  exact String.le_antisymm (of_decide_eq_true smaller) (String.not_lt.mp not_less)

/-- A map leaves no choice to its readings. -/
theorem Readings.Describe.unique {o o' : Readings} {m : Contents} (h : o.Describe m)
    (h' : o'.Describe m) : o = o' := by
  have get : o.get? = o'.get? := by
    funext table name
    rw [h.get, h'.get]
  have contains : o.contains = o'.contains := by
    funext table name
    rw [Bool.eq_iff_iff, h.contains, h'.contains]
  have names : o.names = o'.names := by
    funext table
    ext name
    rw [h.names, h'.names]
  have constraints : o.constraints = o'.constraints := by
    funext table
    refine eq_of_increasing Constraint.name (h.constraints_sorted table)
      (h'.constraints_sorted table) fun c => ?_
    rw [h.constraints, h'.constraints]
  have tables : o.tables = o'.tables := by
    refine eq_of_increasing id h.tables_sorted h'.tables_sorted fun table => ?_
    rw [h.tables, h'.tables]
  have size : o.size = o'.size := by
    obtain ⟨keys, key, size⟩ := h.size
    obtain ⟨keys', key', size'⟩ := h'.size
    have same : keys = keys' := by
      ext ⟨table, name⟩
      rw [key, key']
    rw [size, size', same]
  cases o
  cases o'
  simp_all

namespace Registry

variable {r : Registry} {table name : String}

theorem constraints_sorted (r : Registry) (table : String) :
    (r.constraints table).Pairwise (·.name < ·.name) := by
  refine (r.sorted.filter _).imp_of_mem ?_
  intro c d hc hd before
  have same : c.table = d.table := by
    rw [List.mem_filter, beq_iff_eq] at hc hd
    rw [hc.2, hd.2]
  rcases before with other | ⟨_, name⟩
  · exact absurd (same ▸ other) (String.lt_irrefl _)
  · exact name

theorem mem_constraints {c : Constraint} :
    c ∈ r.constraints table ↔ ∃ name, r.get? table name = some c := by
  simp only [constraints, List.mem_filter, beq_iff_eq, get?_eq_some_iff]
  constructor
  · rintro ⟨member, rfl⟩
    exact ⟨c.name, member, rfl, rfl⟩
  · rintro ⟨name, member, here⟩
    exact ⟨member, here.1⟩

theorem pairwise_tablesOf {cs : List Constraint} (sorted : cs.Pairwise Constraint.Before) :
    (tablesOf cs).Pairwise (· < ·) := by
  induction cs with
  | nil => exact .nil
  | cons c cs ih =>
      obtain ⟨first, rest⟩ := List.pairwise_cons.mp sorted
      have increasing := ih rest
      simp only [tablesOf]
      cases later : tablesOf cs with
      | nil => exact List.pairwise_singleton ..
      | cons t ts =>
          rw [later] at increasing
          dsimp only
          split
          · exact increasing
          · rename_i other
            obtain ⟨d, member, rfl⟩ : ∃ d ∈ cs, d.table = t :=
              mem_tablesOf.mp (later ▸ List.mem_cons_self)
            have next : c.table < d.table := (first d member).resolve_right fun h => other h.1
            refine List.pairwise_cons.mpr ⟨fun table listed => ?_, increasing⟩
            rcases List.mem_cons.mp listed with rfl | listed
            · exact next
            · exact String.lt_trans next ((List.pairwise_cons.mp increasing).1 table listed)

theorem get?_ne_none_iff : r.get? table name ≠ none ↔ ∃ c ∈ r.entries, c.IsAt table name := by
  simp [get?_eq_none_iff]

/-- Any registry shows the map that its look-ups are. -/
theorem readings_describe (r : Registry) : r.readings.Describe r.get? where
  get _ _ := rfl
  contains table name := by
    rw [Option.ne_none_iff_exists']
    exact contains_iff
  names table name := by
    rw [Option.ne_none_iff_exists']
    exact List.mem_toFinset.trans mem_names
  constraints_sorted := r.constraints_sorted
  constraints _ _ := mem_constraints
  tables_sorted := pairwise_tablesOf r.sorted
  tables table := by
    simp only [get?_ne_none_iff]
    refine mem_tables.trans ⟨?_, ?_⟩
    · rintro ⟨c, member, rfl⟩
      exact ⟨c.name, c, member, rfl, rfl⟩
    · rintro ⟨name, c, member, here⟩
      exact ⟨c, member, here.1⟩
  size := by
    refine ⟨(r.entries.map fun c => (c.table, c.name)).toFinset, fun table name => ?_, ?_⟩
    · simp only [get?_ne_none_iff, List.mem_toFinset, List.mem_map, Prod.mk.injEq]
      rfl
    · have distinct : (r.entries.map fun c => (c.table, c.name)).Nodup := by
        refine List.pairwise_map.mpr (r.sorted.imp ?_)
        intro c d before same
        obtain ⟨table, name⟩ := Prod.mk.inj same
        exact Constraint.not_before_of_isAt ⟨table.symm, name.symm⟩ before
      rw [List.toFinset_card_of_nodup distinct, List.length_map]
      rfl

/-- An edit does to the look-ups what it does to a map. -/
theorem step_eq (e : Edit) (r : Registry) :
    (step e r).1 = (Contents.step e r.get?).1 ∧ (step e r).2.get? = (Contents.step e r.get?).2 := by
  cases e with
  | add c =>
      cases taken : r.get? c.table c.name with
      | none =>
          have added : r.add c = .ok (r.put c) := add_eq_ok (fits_add_iff.mp taken)
          simp only [step, added, Contents.step_add, taken, Edit.outcome, true_and]
          funext table name
          simp only [Contents.set]
          split
          · rename_i here
            rw [here.1, here.2, get?_put_self]
          · rename_i away
            exact get?_put_of_ne fun here => away ⟨here.1.symm, here.2.symm⟩
      | some d =>
          have refused : r.contains c.table c.name = true := contains_iff.mpr ⟨d, taken⟩
          simp only [step, add, refused, if_true, Contents.step_add, taken, Edit.outcome, true_and]
          exact (Contents.set_of_eq taken).symm
  | discard table name =>
      refine ⟨rfl, ?_⟩
      funext t n
      simp only [step, discard, Contents.step_discard, Contents.set]
      split
      · rename_i here
        rw [here.1, here.2, get?_erase_self]
      · rename_i away
        exact get?_erase_of_ne fun here => away ⟨here.1.symm, here.2.symm⟩

theorem run_eq (es : List Edit) :
    (Edit.run step es empty).1 = (Edit.run Contents.step es .empty).1 ∧
    (Edit.run step es empty).2.get? = (Edit.run Contents.step es .empty).2 := by
  refine Edit.run_simulates (R := fun (r : Registry) (m : Contents) => r.get? = m) ?_ es rfl
  rintro e r m rfl
  exact step_eq e r

end Registry

end CheckConstraints

import CheckConstraints.Constraint
import CheckConstraints.Fault

/-!
Registries: the live check constraints of a schema. A registry holds at most one constraint per
table and name and lists them in the order of `Constraint.Before`, so that two registries with the
same constraints are equal, whatever was added and discarded on the way.
-/

namespace CheckConstraints

/-- The live constraints, in strictly increasing order. -/
structure Registry where
  entries : List Constraint
  sorted : entries.Pairwise Constraint.Before

namespace Registry

theorem ext {r s : Registry} (h : r.entries = s.entries) : r = s := by
  cases r
  cases s
  simp_all

instance : DecidableEq Registry := fun r s =>
  if h : r.entries = s.entries then isTrue (ext h) else isFalse fun hrs => h (hrs ▸ rfl)

def empty : Registry := ⟨[], .nil⟩

instance : Inhabited Registry := ⟨empty⟩

def get? (r : Registry) (table name : String) : Option Constraint :=
  r.entries.find? fun c => decide (c.IsAt table name)

def contains (r : Registry) (table name : String) : Bool := (r.get? table name).isSome

def constraints (r : Registry) (table : String) : List Constraint :=
  r.entries.filter (·.table == table)

/-- The names in use on a table, in order. -/
def names (r : Registry) (table : String) : List String := (r.constraints table).map Constraint.name

/-- The tables of a list of constraints; neighbours on one table count once. -/
def tablesOf : List Constraint → List String
  | [] => []
  | c :: cs =>
    match tablesOf cs with
    | [] => [c.table]
    | t :: ts => if c.table = t then t :: ts else c.table :: t :: ts

def tables (r : Registry) : List String := tablesOf r.entries

def size (r : Registry) : Nat := r.entries.length

/-- Puts a constraint in its place; one of the same name on the same table gives way. -/
def putEntry (c : Constraint) : List Constraint → List Constraint
  | [] => [c]
  | d :: ds =>
    if c.Before d then c :: d :: ds
    else if d.Before c then d :: putEntry c ds
    else c :: ds

theorem mem_putEntry {c d : Constraint} {ds : List Constraint} (h : d ∈ putEntry c ds) :
    d = c ∨ d ∈ ds := by
  induction ds with
  | nil => simpa [putEntry] using h
  | cons e es ih =>
    simp only [putEntry] at h
    split at h
    · simpa using h
    · split at h
      · rcases List.mem_cons.1 h with rfl | h
        · exact Or.inr (List.mem_cons_self ..)
        · exact (ih h).imp id (List.mem_cons_of_mem _)
      · exact (List.mem_cons.1 h).imp id (List.mem_cons_of_mem _)

theorem pairwise_putEntry (c : Constraint) {ds : List Constraint}
    (h : ds.Pairwise Constraint.Before) : (putEntry c ds).Pairwise Constraint.Before := by
  induction ds with
  | nil => simp [putEntry]
  | cons e es ih =>
    obtain ⟨he, hes⟩ := List.pairwise_cons.1 h
    simp only [putEntry]
    split
    · rename_i hce
      refine List.pairwise_cons.2 ⟨?_, h⟩
      intro d hd
      rcases List.mem_cons.1 hd with rfl | hd
      · exact hce
      · exact hce.trans (he d hd)
    · rename_i hce
      split
      · rename_i hec
        refine List.pairwise_cons.2 ⟨?_, ih hes⟩
        intro d hd
        rcases mem_putEntry hd with rfl | hd
        · exact hec
        · exact he d hd
      · rename_i hec
        obtain ⟨ht, hn⟩ := Constraint.isAt_of_not_before hce hec
        refine List.pairwise_cons.2 ⟨?_, hes⟩
        intro d hd
        have := he d hd
        simp only [Constraint.Before] at this ⊢
        rwa [ht, hn] at this

def put (r : Registry) (c : Constraint) : Registry :=
  ⟨putEntry c r.entries, pairwise_putEntry c r.sorted⟩

/-- Adds a constraint; a name that is in use on its table is refused. -/
def add (r : Registry) (c : Constraint) : Except Fault Registry :=
  if r.contains c.table c.name then .error (.duplicateName c.table c.name .alreadyExists)
  else .ok (r.put c)

def erase (r : Registry) (table name : String) : Registry :=
  ⟨r.entries.filter fun c => !decide (c.IsAt table name), r.sorted.filter _⟩

/-- Takes a constraint out, if it is there. -/
def discard (r : Registry) (table name : String) : Option Constraint × Registry :=
  (r.get? table name, r.erase table name)

end Registry

end CheckConstraints

import CheckConstraints.Registry.Lemmas
import CheckConstraints.Statement

/-!
Catalogs: a schema as a map from tables and names to predicates. A registry has a catalog, which
forgets where its constraints come from, and a statement changes a catalog. A list of statements is
replayed on the catalog that it started from, and it is rolled back by the statements that undo its
own, newest first, each read off the catalog on which the undone statement ran.
-/

namespace CheckConstraints

/-- The predicate of the constraint of a name on a table, where there is one. -/
abbrev Catalog := String → String → Option String

namespace Catalog

def insert (cat : Catalog) (table name predicate : String) : Catalog :=
  fun t n => if t = table ∧ n = name then some predicate else cat t n

def erase (cat : Catalog) (table name : String) : Catalog :=
  fun t n => if t = table ∧ n = name then none else cat t n

theorem erase_insert (cat : Catalog) (table name predicate : String)
    (free : cat table name = none) : (cat.insert table name predicate).erase table name = cat := by
  funext t n
  by_cases h : t = table ∧ n = name
  · simp [erase, h, free]
  · simp [erase, insert, h]

theorem insert_erase (cat : Catalog) (table name predicate : String)
    (live : cat table name = some predicate) :
    (cat.erase table name).insert table name predicate = cat := by
  funext t n
  by_cases h : t = table ∧ n = name
  · simp [insert, h, live]
  · simp [erase, insert, h]

theorem erase_self (cat : Catalog) (table name : String) :
    cat.erase table name table name = none := by
  simp [erase]

end Catalog

namespace Registry

def catalog (r : Registry) : Catalog := fun table name => (r.get? table name).map (·.predicate)

theorem catalog_put (r : Registry) (c : Constraint) :
    (r.put c).catalog = r.catalog.insert c.table c.name c.predicate := by
  funext t n
  by_cases h : t = c.table ∧ n = c.name
  · obtain ⟨rfl, rfl⟩ := h
    simp [catalog, Catalog.insert, get?_put_self]
  · have away : ¬ c.IsAt t n := fun hat => h ⟨hat.1.symm, hat.2.symm⟩
    simp [catalog, Catalog.insert, get?_put_of_ne away, h]

theorem catalog_erase (r : Registry) (table name : String) :
    (r.erase table name).catalog = r.catalog.erase table name := by
  funext t n
  by_cases h : t = table ∧ n = name
  · obtain ⟨rfl, rfl⟩ := h
    simp [catalog, Catalog.erase, get?_erase_self]
  · have away : ¬ (table = t ∧ name = n) := fun heq => h ⟨heq.1.symm, heq.2.symm⟩
    simp [catalog, Catalog.erase, get?_erase_of_ne away, h]

theorem catalog_eq_none_iff (r : Registry) (table name : String) :
    r.catalog table name = none ↔ name ∉ r.names table := by
  rw [mem_names]
  cases h : r.get? table name <;> simp [catalog, h]

end Registry

namespace Statement

def effect : Statement → Catalog → Catalog
  | .create table name predicate, cat => cat.insert table name predicate
  | .drop table name, cat => cat.erase table name

/-- A constraint can be created where its name is free; a drop is never refused. -/
def Fits : Statement → Catalog → Prop
  | .create table name _, cat => cat table name = none
  | .drop _ _, _ => True

/-- The statement that undoes another one, given the catalog on which that one runs. A created
constraint is dropped, and a dropped one is created again with the predicate that it had. -/
def undo? : Statement → Catalog → Option Statement
  | .create table name _, cat => if cat table name = none then some (.drop table name) else none
  | .drop table name, cat => (cat table name).map (.create table name)

theorem effect_undo? {s back : Statement} {cat : Catalog} (h : s.undo? cat = some back) :
    back.effect (s.effect cat) = cat := by
  cases s with
  | create table name predicate =>
      by_cases free : cat table name = none
      · simp only [undo?, free, ite_true, Option.some.injEq] at h
        subst h
        exact cat.erase_insert table name predicate free
      · simp [undo?, free] at h
  | drop table name =>
      obtain ⟨predicate, live, rfl⟩ := Option.map_eq_some_iff.mp h
      exact cat.insert_erase table name predicate live

end Statement

namespace Catalog

def replay (cat : Catalog) (ss : List Statement) : Catalog :=
  ss.foldl (fun current s => s.effect current) cat

theorem replay_append (cat : Catalog) (ss rest : List Statement) :
    cat.replay (ss ++ rest) = (cat.replay ss).replay rest :=
  List.foldl_append

/-- Every statement fits the catalog on which the replay comes to it. -/
def Admits (cat : Catalog) : List Statement → Prop
  | [] => True
  | s :: ss => s.Fits cat ∧ Admits (s.effect cat) ss

theorem admits_append (cat : Catalog) (ss rest : List Statement) :
    cat.Admits (ss ++ rest) ↔ cat.Admits ss ∧ (cat.replay ss).Admits rest := by
  induction ss generalizing cat with
  | nil => simp [Admits, replay]
  | cons s ss ih => simp [Admits, ih, replay, and_assoc]

/-- The statements that roll a list of statements back, where each of them can be undone. -/
def rollback? (cat : Catalog) : List Statement → Option (List Statement)
  | [] => some []
  | s :: ss => do
    let rest ← rollback? (s.effect cat) ss
    let back ← s.undo? cat
    return rest ++ [back]

theorem rollback?_concat (cat : Catalog) {ss backs : List Statement} {s back : Statement}
    (hs : s.undo? (cat.replay ss) = some back) (hss : cat.rollback? ss = some backs) :
    cat.rollback? (ss ++ [s]) = some (back :: backs) := by
  induction ss generalizing cat backs with
  | nil =>
      cases hss
      have undone : s.undo? cat = some back := hs
      simp [rollback?, undone]
  | cons first ss ih =>
      simp only [rollback?, Option.bind_eq_bind, Option.bind_eq_some_iff] at hss
      obtain ⟨rest, hrest, firstBack, hfirst, hbacks⟩ := hss
      cases hbacks
      have later := ih (first.effect cat) hs hrest
      simp [rollback?, later, hfirst]

end Catalog

end CheckConstraints

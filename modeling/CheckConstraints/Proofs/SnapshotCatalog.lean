import CheckConstraints.Proofs.Catalog
import CheckConstraints.Snapshot

/-!
A snapshot is a text of the catalog: registries with one catalog have one snapshot, whatever their
constraints were made from. The proof leaves the descriptors out of both registries, which makes
them equal.
-/

namespace CheckConstraints

namespace Constraint

/-- The constraint without what it was made from. -/
def bare (c : Constraint) : Constraint := { c with source := none }

theorem insertByName_bare (c : Constraint) (cs : List Constraint) :
    insertByName c.bare (cs.map bare) = (insertByName c cs).map bare := by
  induction cs with
  | nil => rfl
  | cons d cs ih =>
      by_cases h : d.name < c.name
      · simp only [List.map_cons, insertByName, bare, h, ite_true]
        exact congrArg _ ih
      · simp [insertByName, bare, h]

theorem sortByName_bare (cs : List Constraint) :
    sortByName (cs.map bare) = (sortByName cs).map bare := by
  induction cs with
  | nil => rfl
  | cons c cs ih => simp only [List.map_cons, sortByName, ih, insertByName_bare]

end Constraint

namespace Registry

def bare (r : Registry) : Registry :=
  ⟨r.entries.map Constraint.bare, List.pairwise_map.mpr r.sorted⟩

theorem get?_bare (r : Registry) (table name : String) :
    r.bare.get? table name = (r.get? table name).map Constraint.bare := by
  simp only [get?, bare, List.find?_map]
  rfl

theorem bare_eq_of_catalog_eq {r s : Registry} (h : r.catalog = s.catalog) : r.bare = s.bare := by
  apply eq_of_get?
  intro table name
  have same : (r.get? table name).map (·.predicate) = (s.get? table name).map (·.predicate) :=
    congrFun (congrFun h table) name
  rw [get?_bare, get?_bare]
  cases hr : r.get? table name with
  | none =>
      cases hs : s.get? table name with
      | none => rfl
      | some d => simp [hr, hs] at same
  | some c =>
      cases hs : s.get? table name with
      | none => simp [hr, hs] at same
      | some d =>
          obtain ⟨table_c, name_c⟩ := isAt_of_get? hr
          obtain ⟨table_d, name_d⟩ := isAt_of_get? hs
          simp only [hr, hs, Option.map_some, Option.some.injEq] at same
          simp [Constraint.bare, table_c, name_c, table_d, name_d, same]

theorem tablesOf_bare (cs : List Constraint) :
    tablesOf (cs.map Constraint.bare) = tablesOf cs := by
  induction cs with
  | nil => rfl
  | cons c cs ih => simp only [List.map_cons, tablesOf, ih, Constraint.bare]

theorem constraints_bare (r : Registry) (table : String) :
    r.bare.constraints table = (r.constraints table).map Constraint.bare := by
  simp only [constraints, bare, List.filter_map]
  rfl

end Registry

namespace Snapshot

theorem fragment_bare (table pad : String) (cs : List Constraint) :
    fragment table (cs.map Constraint.bare) pad = fragment table cs pad := by
  have filtered : (cs.map Constraint.bare).filter (·.table == table) =
      (cs.filter (·.table == table)).map Constraint.bare := by
    rw [List.filter_map]
    rfl
  simp only [fragment, filtered, Constraint.sortByName_bare]
  cases Constraint.sortByName (cs.filter (·.table == table)) with
  | nil => rfl
  | cons c cs =>
      have lines : ((c :: cs).map Constraint.bare).map (Constraint.line pad) =
          (c :: cs).map (Constraint.line pad) := by
        rw [List.map_map]
        rfl
      exact congrArg (fun lines => some ("\n".intercalate lines)) lines

theorem render_bare (r : Registry) (indent : Int) : render r.bare indent = render r indent := by
  have same : blocks r.bare (padding indent) = blocks r (padding indent) := by
    simp only [blocks, Registry.tables, Registry.bare, Registry.tablesOf_bare]
    congr 1
    funext table
    simp only [block]
    rw [← Registry.bare, Registry.constraints_bare, fragment_bare]
  simp only [render, same]

theorem render_eq_of_catalog_eq {r s : Registry} (h : r.catalog = s.catalog) (indent : Int) :
    render r indent = render s indent := by
  rw [← render_bare r, ← render_bare s, Registry.bare_eq_of_catalog_eq h]

end Snapshot

end CheckConstraints

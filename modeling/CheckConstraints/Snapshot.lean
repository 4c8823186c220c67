import CheckConstraints.Registry

/-!
Schema snapshots: the constraints of a schema as a text to be compared between runs. Every table with
constraints has a block with a line for each of them, and tables and constraints are in order, so
that equal schemas have equal snapshots.
-/

namespace CheckConstraints

namespace Constraint

def line (pad : String) (c : Constraint) : String := pad ++ c.name ++ ": " ++ c.predicate

/-- Puts a constraint in front of the first one whose name does not come before its own. -/
def insertByName (c : Constraint) : List Constraint → List Constraint
  | [] => [c]
  | d :: ds => if d.name < c.name then d :: insertByName c ds else c :: d :: ds

/-- Sorts constraints by name; those of one name keep their order. -/
def sortByName : List Constraint → List Constraint
  | [] => []
  | c :: cs => insertByName c (sortByName cs)

end Constraint

namespace Snapshot

/-- The lines of the constraints that are on a table, if there are any. -/
def fragment (table : String) (constraints : List Constraint) (pad : String) : Option String :=
  match Constraint.sortByName (constraints.filter (·.table == table)) with
  | [] => none
  | c :: cs => some ("\n".intercalate ((c :: cs).map (Constraint.line pad)))

def header (table : String) : String := "table \"" ++ table ++ "\"\n"

/-- The block of a table, if it has constraints. -/
def block (r : Registry) (pad table : String) : Option String :=
  (fragment table (r.constraints table) pad).map (header table ++ ·)

/-- The spaces before each constraint; a negative number of them means none. -/
def padding (indent : Int) : String := String.ofList (List.replicate indent.toNat ' ')

def blocks (r : Registry) (pad : String) : List String := r.tables.filterMap (block r pad)

/-- The snapshot of a registry: its blocks with an empty line between them. -/
def render (r : Registry) (indent : Int) : String :=
  match blocks r (padding indent) with
  | [] => ""
  | b :: bs => "\n\n".intercalate (b :: bs) ++ "\n"

end Snapshot

end CheckConstraints

import CheckConstraints.Registry
import Mathlib.Data.Finset.Dedup
import Mathlib.Data.List.AList

/-!
Directories: live constraints held by table and then by name. A table gets its entry when a
constraint is about to be added to it, before the name is looked up there, and loses it with its
last constraint. Nothing in a directory is in order; listings are sorted when they are asked for.
-/

namespace CheckConstraints

/-- A mapping from texts, with at most one value for each. -/
abbrev Dictionary (α : Type) : Type := AList fun _ : String => α

structure Directory where
  byTable : Dictionary (Dictionary Constraint)

namespace Directory

def empty : Directory := ⟨∅⟩

/-- The constraints on a table by their names; a table without an entry has none. -/
def onTable (d : Directory) (table : String) : Dictionary Constraint :=
  (d.byTable.lookup table).getD ∅

def get? (d : Directory) (table name : String) : Option Constraint :=
  (d.onTable table).lookup name

def contains (d : Directory) (table name : String) : Bool := decide (name ∈ d.onTable table)

def names (d : Directory) (table : String) : Finset String := (d.onTable table).keys.toFinset

/-- Gives a table its entry, if it has none. -/
def opened (d : Directory) (table : String) : Directory :=
  if table ∈ d.byTable then d else ⟨d.byTable.insert table ∅⟩

/-- Adds a constraint; a name that is in use on its table is refused. The table has its entry by
then. -/
def add (d : Directory) (c : Constraint) : Except Fault Unit × Directory :=
  let d := d.opened c.table
  let byName := d.onTable c.table
  if c.name ∈ byName then (.error (.duplicateName c.table c.name .alreadyExists), d)
  else (.ok (), ⟨d.byTable.insert c.table (byName.insert c.name c)⟩)

/-- Takes a constraint out, if it is there. A table that is left without constraints loses its
entry. -/
def discard (d : Directory) (table name : String) : Option Constraint × Directory :=
  match d.byTable.lookup table with
  | none => (none, d)
  | some byName =>
    if byName.entries.isEmpty then (none, d)
    else
      let (removed, rest) := byName.extract name
      (removed, if rest.entries.isEmpty then ⟨d.byTable.erase table⟩
        else ⟨d.byTable.insert table rest⟩)

/-- The constraints on a table, sorted by name. -/
def constraints (d : Directory) (table : String) : List Constraint :=
  ((d.onTable table).entries.map Sigma.snd).mergeSort fun c e => decide (c.name ≤ e.name)

/-- The tables that have an entry, sorted. -/
def tables (d : Directory) : List String :=
  d.byTable.keys.mergeSort fun s t => decide (s ≤ t)

def size (d : Directory) : Nat :=
  d.byTable.entries.foldr (fun entry rest => entry.2.entries.length + rest) 0

end Directory

end CheckConstraints

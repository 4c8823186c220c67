import CheckConstraints.Descriptor.Serialized
import CheckConstraints.Registry

/-!
Reflection: reading the live constraints back from a database. The database reports rows for each
table; a row without a name is an unnamed constraint and is skipped. What is read back has no
descriptor.
-/

namespace CheckConstraints

open Script (Value)

/-- A reported constraint; a field may be missing. -/
structure ReportRow where
  name : Option Value
  predicate : Option Value

/-- What a database reports: its tables, each with its rows. -/
abbrev Report := List (String × List ReportRow)

namespace Report

/-- The rows of a table; a table that is not known has none. -/
def rows (report : Report) (table : String) : List ReportRow :=
  ((report.find? fun entry => entry.1 == table).map Prod.snd).getD []

def tables (report : Report) : List String := report.map Prod.fst

end Report

namespace Constraint

/-- A constraint whose three texts are checked together with its descriptor. -/
def checkAll (name table predicate : Checked String) (source : Checked (Option Descriptor)) :
    Except Fault Constraint :=
  let texts := Checked.both Prod.mk name (Checked.both Prod.mk table predicate)
  (Checked.both (fun t s => (⟨t.1, t.2.1, t.2.2, s⟩ : Constraint)) texts source).mapError
    .invalidRecord

/-- A constraint from a record of a data file: three texts, and a descriptor or nothing. -/
def ofRecord (name table predicate source : Value) : Except Fault Constraint :=
  let source : Checked (Option Descriptor) := match source with
    | .null => .ok none
    | v => (Descriptor.check v).map some
  checkAll (Descriptor.checkText name) (Descriptor.checkText table)
    (Descriptor.checkText predicate) source

end Constraint

namespace ReportRow

/-- The constraint that a row reports, or nothing for an unnamed one. -/
def constraint? (table : String) (row : ReportRow) : Except Fault (Option Constraint) :=
  match row.name with
  | none => .ok none
  | some name =>
    if !name.isTruthy then .ok none
    else match row.predicate with
      | none => .error .missingPredicate
      | some predicate =>
        (Constraint.checkAll (Descriptor.checkText name) (.ok table)
          (Descriptor.checkText predicate) (.ok none)).map some

end ReportRow

namespace Registry

def reflectRows (table : String) : List ReportRow → Registry → Except Fault Registry
  | [], r => .ok r
  | row :: rows, r => do
    match ← row.constraint? table with
    | none => reflectRows table rows r
    | some c => reflectRows table rows (← r.add c)

def reflectTables (report : Report) : List String → Registry → Except Fault Registry
  | [], r => .ok r
  | table :: tables, r => do
    reflectTables report tables (← reflectRows table (report.rows table) r)

/-- The live constraints of a database, of the given tables or of all. -/
def reflect (report : Report) (tables : Option (List String)) : Except Fault Registry :=
  reflectTables report (tables.getD report.tables) empty

end Registry

end CheckConstraints

import CheckConstraints.Sql.Dialect
import CheckConstraints.Sql.Template
import CheckConstraints.World

/-!
Statements written in a dialect. A predicate goes through a text template, where its colons are
escaped; an empty one stands for the predicate that always holds.
-/

namespace CheckConstraints.Sql

def template (predicate : String) : String := String.ofList (Template.escape predicate.toList)

/-- A predicate as it is written in a statement. -/
def condition (d : Dialect) (predicate : String) : List Char :=
  Template.expand (d.percents (template predicate).toList)

def checkClause (d : Dialect) (predicate : String) : List Char :=
  "CHECK (".toList ++ condition d predicate ++ [')']

def statementText (d : Dialect) : Statement → String
  | .create table name predicate => String.ofList <|
    "ALTER TABLE ".toList ++ d.identifier table ++ " ADD CONSTRAINT ".toList ++ d.identifier name
      ++ ' ' :: checkClause d (if predicate = "" then "true" else predicate)
  | .drop table name => String.ofList <|
    "ALTER TABLE ".toList ++ d.identifier table ++ " DROP ".toList ++ d.dropKeyword.toList
      ++ ' ' :: d.identifier name

def render (d : Dialect) (statement : Statement) : Except Fault String :=
  match Executor.database 1 statement with
  | some fault => .error fault
  | none => .ok (statementText d statement)

/-- The definition of a table that has nothing but one check constraint. -/
def tableText (d : Dialect) (c : Constraint) : String :=
  String.ofList <| "\nCREATE TABLE ".toList ++ d.identifier c.table ++ " (\n\tCONSTRAINT ".toList
    ++ d.identifier c.name ++ ' ' :: checkClause d c.predicate ++ "\n)\n\n".toList

def renderTable (d : Dialect) (c : Constraint) : Except Fault String :=
  match Executor.database 1 (.create c.table c.name c.predicate) with
  | some fault => .error fault
  | none => .ok (tableText d c)

/-- A statement in a script: tabs become four spaces and a semicolon ends it. -/
def scriptText (d : Dialect) (statement : Statement) : String :=
  String.ofList ((statementText d statement).toList.flatMap fun c =>
    if c = '\t' then [' ', ' ', ' ', ' '] else [c]) ++ ";\n\n"

end CheckConstraints.Sql

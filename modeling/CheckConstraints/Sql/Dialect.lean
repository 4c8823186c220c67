import CheckConstraints.Fault

/-!
Dialects of SQL, as far as the statements on check constraints differ between them, and the
spelling of identifiers in a dialect.
-/

namespace CheckConstraints.Sql

structure Dialect where
  name : String
  /-- The character around an identifier that cannot stand alone. -/
  quote : Char
  /-- Whether a percent sign is written twice, because the driver of the database gives a single
  one a meaning. -/
  doublesPercent : Bool
  dropKeyword : String
deriving DecidableEq, Repr

namespace Dialect

def postgresql : Dialect := ⟨"postgresql", '"', true, "CONSTRAINT"⟩

def sqlite : Dialect := ⟨"sqlite", '"', false, "CONSTRAINT"⟩

def mysql : Dialect := ⟨"mysql", '`', true, "CHECK"⟩

def ofName (name : String) : Except Fault Dialect :=
  match [postgresql, sqlite, mysql].find? (·.name == name) with
  | some d => .ok d
  | none => .error (.unknownDialect name)

end Dialect

/-- Words that are never read as an identifier. -/
def reservedWords : List String :=
  ["all", "analyse", "analyze", "and", "any", "array", "as", "asc", "asymmetric", "authorization",
    "between", "binary", "both", "case", "cast", "check", "collate", "column", "constraint",
    "create", "cross", "current_catalog", "current_date", "current_role", "current_schema",
    "current_time", "current_timestamp", "current_user", "default", "deferrable", "desc",
    "distinct", "do", "else", "end", "except", "false", "fetch", "for", "foreign", "freeze",
    "from", "full", "grant", "group", "having", "ilike", "in", "initially", "inner", "intersect",
    "into", "is", "isnull", "join", "leading", "left", "like", "limit", "localtime",
    "localtimestamp", "natural", "new", "not", "notnull", "null", "of", "off", "offset", "old",
    "on", "only", "or", "order", "outer", "over", "overlaps", "placing", "primary", "references",
    "returning", "right", "select", "session_user", "similar", "some", "symmetric", "table",
    "then", "to", "trailing", "true", "union", "unique", "user", "using", "variadic", "verbose",
    "when", "where", "window", "with"]

/-- Characters that stand in an identifier without quotes: lower-case letters, digits, the
underscore and the dollar sign. -/
def isPlain (c : Char) : Bool := c.isLower || c.isDigit || c == '_' || c == '$'

/-- Whether an identifier has to be quoted. It has if it is empty, starts with a digit or a dollar
sign, holds a character that is not plain, or is a reserved word. -/
def needsQuotes (identifier : String) : Bool :=
  match identifier.toList with
  | [] => true
  | c :: cs =>
    c.isDigit || c == '$' || !(c :: cs).all isPlain || reservedWords.contains identifier

def doubled (condition : Char → Bool) (cs : List Char) : List Char :=
  cs.flatMap fun c => if condition c then [c, c] else [c]

/-- Percent signs as the driver of the database expects them. -/
def Dialect.percents (d : Dialect) (cs : List Char) : List Char :=
  if d.doublesPercent then doubled (· == '%') cs else cs

def Dialect.identifier (d : Dialect) (name : String) : List Char :=
  if needsQuotes name then
    d.quote :: (d.percents (doubled (· == d.quote) name.toList) ++ [d.quote])
  else name.toList

end CheckConstraints.Sql

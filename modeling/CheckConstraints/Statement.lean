/-!
The two statements that operations emit, before they are written in a dialect.
-/

namespace CheckConstraints

inductive Statement where
  | create (table name predicate : String)
  | drop (table name : String)
deriving DecidableEq, Repr

namespace Statement

def name : Statement → String
  | .create _ name _ | .drop _ name => name

end Statement

end CheckConstraints

/-!
The life of an operation. It is declared, applied, and reversed by a rollback, after which it can be
applied again. A rollback that is impossible ends it.
-/

namespace CheckConstraints

inductive State where
  | declared
  | applied
  | reversed
  | reversalFailed
deriving DecidableEq, Repr

def State.text : State → String
  | .declared => "declared"
  | .applied => "applied"
  | .reversed => "reversed"
  | .reversalFailed => "reversal_failed"

inductive OperationKind where
  | add
  | remove
deriving DecidableEq, Repr

def OperationKind.text : OperationKind → String
  | .add => "AddCheckConstraint"
  | .remove => "RemoveCheckConstraint"

end CheckConstraints

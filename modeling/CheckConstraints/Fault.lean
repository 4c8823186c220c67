import CheckConstraints.Lifecycle
import CheckConstraints.Text.Quoted

/-!
What can go wrong, by cause. Each cause has its message; causes of one kind are told apart from
those of the others by `Fault.kind`, and kinds form a small hierarchy.
-/

namespace CheckConstraints

open Text (quoted)

/-- Why a value is no constraint, or a descriptor has no predicate. -/
inductive Malformed where
  | emptyText
  | emptyValueSet (column : String)
  | emptyConjunction
  | unsupportedShape (typeName : String)
  /-- A number without a literal, as it is shown. -/
  | nonFinite (shown : String)
  /-- A value without a literal, as it is shown. -/
  | unsupportedLiteral (shown : String)
  | emptyMapping
  | columnNotText (typeName : String)
  | unordered (column : String)
  /-- A set with an element that no column can be compared with. -/
  | unsupportedValue (column : String)
  | invalidSerialized (errors : Nat)
deriving DecidableEq, Repr

def Malformed.message : Malformed → String
  | .emptyText => "raw predicate text is empty"
  | .emptyValueSet column => "value set for column " ++ quoted column ++ " is empty"
  | .emptyConjunction => "conjunction needs at least one part"
  | .unsupportedShape typeName => "unsupported constraint descriptor: " ++ typeName
  | .nonFinite shown => "non-finite number in value set: " ++ shown
  | .unsupportedLiteral shown => "unsupported value in set: " ++ shown
  | .emptyMapping => "column mapping must name at least one column"
  | .columnNotText typeName => "column name must be a string, got " ++ typeName
  | .unordered column => "value set for column " ++ quoted column ++ " cannot be ordered"
  | .unsupportedValue column => "unsupported value in set for column " ++ quoted column
  | .invalidSerialized errors =>
    "invalid serialized descriptor: " ++ toString errors ++ " error(s)"

inductive NameReason where
  | alreadyExists
  /-- Every anonymous name that was tried is taken. -/
  | exhausted (attempts : Int)
  | empty
  | tooLong (limit : Int)
  /-- A reason in a caller's own words. -/
  | stated (words : String)
deriving DecidableEq, Repr

def NameReason.text : NameReason → String
  | .alreadyExists => "already exists"
  | .exhausted attempts => "no free anonymous name after " ++ toString attempts ++ " attempts"
  | .empty => "name must not be empty"
  | .tooLong limit => "name longer than " ++ toString limit ++ " characters"
  | .stated words => words

/-- The refusal to restore a constraint that was removed without its expression. It carries the
call that would have made the removal reversible. -/
structure IrreversibleRemoval where
  table : String
  name : String
  expression : String
deriving DecidableEq, Repr

namespace IrreversibleRemoval

/-- Stands in the call for an expression that is not known. -/
def placeholder : String := "<check expression>"

/-- The refusal for a constraint whose predicate is known, or not; an empty one is not. -/
def of (table name : String) (predicate : Option String) : IrreversibleRemoval :=
  ⟨table, name, match predicate with
    | none => placeholder
    | some p => if p = "" then placeholder else p⟩

/-- The call that removes the constraint and can be rolled back. -/
def call (r : IrreversibleRemoval) : String :=
  "remove_check_constraint(" ++ quoted r.table ++ ", " ++ quoted r.name ++ ", "
    ++ quoted r.expression ++ ")"

def message (r : IrreversibleRemoval) : String :=
  "To make this migration reversible, pass the constraint to remove_check_constraint, i.e. `"
    ++ r.call ++ "`"

end IrreversibleRemoval

inductive Fault where
  | malformed (cause : Malformed)
  | duplicateName (table name : String) (reason : NameReason)
  | invalidName (table name : String) (reason : NameReason)
  /-- An operation that is not in a state from which the step is allowed. -/
  | wrongState (kind : OperationKind) (table : String) (state : State) (expected : List State)
  /-- The inverse of an anonymous add that was never applied. -/
  | unnamedAdd
  | irreversible (removal : IrreversibleRemoval)
  /-- A name that the database would cut off. -/
  | identifierTooLong (name : String) (limit : Nat)
  /-- The statement with this number was refused by the database. -/
  | refused (call : Nat)
  /-- A range of suffixes without an element. -/
  | emptyRange
  /-- A reported constraint without a predicate. -/
  | missingPredicate
  /-- A record with the given number of fields that do not fit. -/
  | invalidRecord (errors : Nat)
  | notAnInteger (text : String)
  | unreadableAddress
  | unknownDialect (name : String)
deriving DecidableEq, Repr

namespace Fault

def message? : Fault → Option String
  | .malformed cause => some cause.message
  | .duplicateName table name reason | .invalidName table name reason =>
    some ("check constraint " ++ quoted name ++ " on table " ++ quoted table ++ ": " ++ reason.text)
  | .wrongState kind table state expected =>
    some (kind.text ++ " on " ++ quoted table ++ " is " ++ state.text ++ ", expected "
      ++ " or ".intercalate (expected.map State.text))
  | .unnamedAdd => some "anonymous constraint has no name until the add is applied"
  | .irreversible removal => some removal.message
  | .identifierTooLong name limit =>
    some ("Identifier '" ++ name ++ "' exceeds maximum length of " ++ toString limit
      ++ " characters")
  | .refused call => some ("ddl call " ++ toString call)
  | .emptyRange => some "Upper bound must be positive."
  | .missingPredicate => some "'sqltext'"
  | .invalidRecord _ => none
  | .notAnInteger text => some ("invalid literal for int() with base 10: " ++ quoted text)
  | .unreadableAddress => some "Could not parse SQLAlchemy URL from given URL string"
  | .unknownDialect name => some ("Can't load plugin: sqlalchemy.dialects:" ++ name)

inductive Kind where
  | checkConstraint
  | malformedDescriptor
  | duplicateName
  | invalidName
  | invalidState
  | irreversibleMigration
  | identifier
  | refusal
  | value
  | missingKey
  | validation
  | argument
  | missingModule
deriving DecidableEq, Repr

def Kind.parent? : Kind → Option Kind
  | .malformedDescriptor | .duplicateName | .invalidState | .irreversibleMigration =>
    some .checkConstraint
  | .invalidName => some .duplicateName
  | _ => none

/-- A kind and all that it is a special case of, the most special first. -/
def Kind.lineage : Kind → List Kind
  | .invalidName => [.invalidName, .duplicateName, .checkConstraint]
  | k => k :: k.parent?.toList

theorem Kind.lineage_eq (k : Kind) :
    k.lineage = k :: (k.parent?.map Kind.lineage).getD [] := by
  cases k <;> rfl

def kind : Fault → Kind
  | .malformed _ => .malformedDescriptor
  | .duplicateName _ _ _ => .duplicateName
  | .invalidName _ _ _ => .invalidName
  | .wrongState _ _ _ _ | .unnamedAdd => .invalidState
  | .irreversible _ => .irreversibleMigration
  | .identifierTooLong _ _ => .identifier
  | .refused _ => .refusal
  | .emptyRange | .notAnInteger _ => .value
  | .missingPredicate => .missingKey
  | .invalidRecord _ => .validation
  | .unreadableAddress => .argument
  | .unknownDialect _ => .missingModule

end Fault

end CheckConstraints

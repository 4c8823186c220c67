import CheckConstraints.Address
import CheckConstraints.Constraint
import CheckConstraints.Descriptor
import CheckConstraints.Descriptor.Coercion
import CheckConstraints.Descriptor.Conversion
import CheckConstraints.Descriptor.Grammar
import CheckConstraints.Descriptor.Predicate
import CheckConstraints.Descriptor.Serialized
import CheckConstraints.Descriptor.Shorthand
import CheckConstraints.Event
import CheckConstraints.Fault
import CheckConstraints.Lifecycle
import CheckConstraints.Logging
import CheckConstraints.Migration
import CheckConstraints.Naming
import CheckConstraints.Number.Binary64
import CheckConstraints.Number.Decimal
import CheckConstraints.Number.Exact
import CheckConstraints.Number.Numeral
import CheckConstraints.Number.Shortest
import CheckConstraints.Operation
import CheckConstraints.Operation.Add
import CheckConstraints.Operation.Outcome
import CheckConstraints.Operation.Remove
import CheckConstraints.Proofs.Catalog
import CheckConstraints.Proofs.Checkpoint
import CheckConstraints.Proofs.Emission
import CheckConstraints.Proofs.Naming
import CheckConstraints.Proofs.Run
import CheckConstraints.Proofs.Stack
import CheckConstraints.Proofs.Steps
import CheckConstraints.Reflection
import CheckConstraints.Registry
import CheckConstraints.Registry.Lemmas
import CheckConstraints.Script.Display
import CheckConstraints.Script.Equality
import CheckConstraints.Script.Order
import CheckConstraints.Script.Value
import CheckConstraints.Settings
import CheckConstraints.Snapshot
import CheckConstraints.Sql.Dialect
import CheckConstraints.Sql.Rendering
import CheckConstraints.Sql.Template
import CheckConstraints.Statement
import CheckConstraints.TableDefinition
import CheckConstraints.Text.Blank
import CheckConstraints.Text.Digit
import CheckConstraints.Text.Printable
import CheckConstraints.Text.Quoted
import CheckConstraints.Text.Ranges
import CheckConstraints.Text.Scan
import CheckConstraints.Text.Word
import CheckConstraints.ToolContext
import CheckConstraints.Workspace
import CheckConstraints.World
import CheckConstraints.Proofs.Atomicity
import CheckConstraints.Proofs.Replay
import CheckConstraints.Proofs.SnapshotCatalog
import CheckConstraints.Proofs.Rollback
import CheckConstraints.Proofs.PredicateReader
import CheckConstraints.Proofs.Readability
import CheckConstraints.Proofs.Refusal
import CheckConstraints.Proofs.Restoration
import CheckConstraints.Proofs.Advice
import CheckConstraints.Proofs.Serialization
import CheckConstraints.Proofs.Provenance
import CheckConstraints.Proofs.Edits
import CheckConstraints.Proofs.SnapshotReading
import CheckConstraints.Proofs.NameLength
import CheckConstraints.Proofs.Turns
import CheckConstraints.Proofs.Repetition
import CheckConstraints.Proofs.Inversion
import CheckConstraints.Proofs.Template
import CheckConstraints.Proofs.DryRun
import CheckConstraints.Registry.Directory
import CheckConstraints.Proofs.Listings
import CheckConstraints.Proofs.Directory
import CheckConstraints.Proofs.SetOrder
import CheckConstraints.Proofs.Conversion
import CheckConstraints.Proofs.Shorthand
import CheckConstraints.Event.Reading
import CheckConstraints.Proofs.Trail
import CheckConstraints.Proofs.Independence
import CheckConstraints.Proofs.TableDefinition
import CheckConstraints.Proofs.SetValues
import CheckConstraints.Proofs.Reflection
import CheckConstraints.Proofs.Lifetime
import CheckConstraints.Proofs.SnapshotChange
import CheckConstraints.Text.Line
import CheckConstraints.Text.Literal
import CheckConstraints.Proofs.LineBreaks
import CheckConstraints.Proofs.FragmentLines
import CheckConstraints.Proofs.SetListing
import CheckConstraints.Proofs.SetCanonical
import CheckConstraints.Proofs.NameSearch
import CheckConstraints.Proofs.AnonymousNames
import CheckConstraints.Proofs.LiteralTemplate
import CheckConstraints.Proofs.QuotedLiteral
import CheckConstraints.Proofs.AdviceCall
import CheckConstraints.Proofs.NumericLiteral
import CheckConstraints.Proofs.ExactNumbers

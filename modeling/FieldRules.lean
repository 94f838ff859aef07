import FieldRules.Fixture
import FieldRules.Main
import FieldRules.Proofs.Constraint.Arguments
import FieldRules.Proofs.Constraint.Grammar
import FieldRules.Proofs.Constraint.Groups
import FieldRules.Proofs.Constraint.Names
import FieldRules.Proofs.Constraint.Reading
import FieldRules.Proofs.Constraint.Writing
import FieldRules.Proofs.Dict
import FieldRules.Proofs.Error
import FieldRules.Proofs.Directive.Aliases
import FieldRules.Proofs.Directive.Splitting
import FieldRules.Proofs.Directive.Writing
import FieldRules.Proofs.Directive.Plan
import FieldRules.Proofs.Directive.Meanings
import FieldRules.Proofs.Directive.Selection
import FieldRules.Proofs.Constraint.Tag
import FieldRules.Proofs.Tool.Validate
import FieldRules.Proofs.Tool.Telling
import FieldRules.Proofs.FieldTable
import FieldRules.Proofs.FieldTable.Walk
import FieldRules.Proofs.FieldTable.Ownership
import FieldRules.Proofs.FieldTable.Failures
import FieldRules.Proofs.FieldTable.Identity
import FieldRules.Proofs.FieldType
import FieldRules.Proofs.FieldType.RoundTrip
import FieldRules.Proofs.Tool.Default
import FieldRules.Proofs.Value.Equality
import FieldRules.Proofs.Record.Path
import FieldRules.Proofs.Record.Leaves
import FieldRules.Proofs.Record.Lens
import FieldRules.Proofs.Record.Regular
import FieldRules.Proofs.Access.Registration
import FieldRules.Proofs.Access.Mask
import FieldRules.Proofs.Access.Tag
import FieldRules.Proofs.Access.ReadPaths
import FieldRules.Proofs.Access.Withholding
import FieldRules.Proofs.Access.Confidentiality
import FieldRules.Proofs.Catalog.Pass
import FieldRules.Proofs.Catalog.Run
import FieldRules.Proofs.Catalog.Built
import FieldRules.Proofs.Catalog.Copying
import FieldRules.Proofs.Catalog.Validation
import FieldRules.Proofs.Number.Binary64
import FieldRules.Proofs.Number.Rounding
import FieldRules.Proofs.Number.Extended
import FieldRules.Proofs.Value.Exactness
import FieldRules.Proofs.Directive.Enumeration
import FieldRules.Proofs.Directive.Reading
import FieldRules.Proofs.Directive.Calls
import FieldRules.Proofs.Directive.Composition
import FieldRules.Proofs.Directive.Nesting
import FieldRules.Proofs.Directive.Operators
import FieldRules.Proofs.Constraint.Comparison
import FieldRules.Proofs.FieldType.Converted
import FieldRules.Proofs.Json.StringLiteral
import FieldRules.Proofs.Value.Unquoting
import FieldRules.Proofs.Tool.Guarded
import FieldRules.Proofs.Error.Collecting
import FieldRules.Proofs.FieldTable.Bypass
import FieldRules.Proofs.Record.Chains
import FieldRules.Proofs.FieldTable.Resolution
import FieldRules.Proofs.Record.Snapshot
import FieldRules.Proofs.Error.Flatness
import FieldRules.Proofs.Value.Document
import FieldRules.Proofs.Number.Literal
import FieldRules.Proofs.Value.Spelling
import FieldRules.Proofs.Fixture.Access
import FieldRules.Proofs.Access.Grants
import FieldRules.Proofs.Context.Path
import FieldRules.Proofs.Context.Independence

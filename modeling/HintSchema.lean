import HintSchema.Main
import HintSchema.Connector.Service
import HintSchema.Proofs.Returns
import HintSchema.Proofs.Derivation.Step
import HintSchema.Proofs.Derivation.Turns
import HintSchema.Proofs.Derivation.Frame
import HintSchema.Proofs.Derivation.Closure
import HintSchema.Proofs.Hints.Record
import HintSchema.Proofs.Hints.Formation
import HintSchema.Proofs.Derivation.Image
import HintSchema.Proofs.Derivation.Nested
import HintSchema.Proofs.Derivation.Kept
import HintSchema.Proofs.Connector.References
import HintSchema.Proofs.Derivation.Identified
import HintSchema.Proofs.Modules.Bound
import HintSchema.Proofs.Hints.Genuine
import HintSchema.Proofs.Hints.Kin
import HintSchema.Proofs.Hints.Agreement
import HintSchema.Proofs.Hints.Quoting
import HintSchema.Proofs.Hints.Resolution
import HintSchema.Proofs.Hints.Properties
import HintSchema.Proofs.Hints.Inquiry
import HintSchema.Proofs.Derivation.Context
import HintSchema.Proofs.Derivation.Supported
import HintSchema.Proofs.Syntax.Tally
import HintSchema.Proofs.Syntax.Spending
import HintSchema.Proofs.Syntax.StringLengths
import HintSchema.Proofs.Syntax.ExpressionSpending
import HintSchema.Proofs.Syntax.StatementSpending
import HintSchema.Proofs.Syntax.TokenPlaces
import HintSchema.Proofs.Modules.Parsed
import HintSchema.Proofs.Syntax.TokenLetters
import HintSchema.Proofs.Modules.Opening
import HintSchema.Proofs.Modules.Whole
import HintSchema.Proofs.Hints.Shown
import HintSchema.Proofs.Hints.Gate
import HintSchema.Proofs.Hints.Unresolved
import HintSchema.Proofs.Derivation.Loaded
import HintSchema.Proofs.Hints.Inheritance
import HintSchema.Proofs.Hints.Answers
import HintSchema.Proofs.Derivation.Explored
import HintSchema.Proofs.Derivation.Typed
import HintSchema.Proofs.Derivation.Runs
import HintSchema.Proofs.Derivation.Limits
import HintSchema.Proofs.Derivation.Order
import HintSchema.Proofs.Modules.Calls
import HintSchema.Proofs.Derivation.Naming
import HintSchema.Proofs.Derivation.Native
import HintSchema.Proofs.Hints.Inherited
import HintSchema.Proofs.Schema.Document
import HintSchema.Proofs.Derivation.Omission
import HintSchema.Proofs.Hints.Leaks
import HintSchema.Proofs.Hints.Reached
import HintSchema.Proofs.Hints.Substitution
import HintSchema.Proofs.Hints.Applied
import HintSchema.Proofs.Modules.Spellings
import HintSchema.Proofs.Modules.Execution
import HintSchema.Proofs.Derivation.Identifiers
import HintSchema.Proofs.Derivation.Duplicates
import HintSchema.Proofs.Syntax.Unplaced
import HintSchema.Proofs.Lockstep
import HintSchema.Proofs.Hints.Equations
import HintSchema.Proofs.Hints.Unplaced
import HintSchema.Proofs.Hints.Unquoted
import HintSchema.Proofs.Hints.Realm
import HintSchema.Proofs.Hints.Memory
import HintSchema.Proofs.Hints.Faithful
import HintSchema.Proofs.Hints.Culprits
import HintSchema.Proofs.Syntax.Reading
import HintSchema.Proofs.Hints.Parameters
import HintSchema.Proofs.Modules.Defined
import HintSchema.Proofs.Modules.Captured
import HintSchema.Proofs.Hints.Signs
import HintSchema.Proofs.Hints.Lasting
import HintSchema.Proofs.Hierarchy
import HintSchema.Proofs.Hints.Linearised
import HintSchema.Proofs.Modules.Submodules
import HintSchema.Proofs.Settings.Reading
import HintSchema.Proofs.Settings.Faults
import HintSchema.Proofs.Hints.Qualifiers
import HintSchema.Proofs.Hints.Present
import HintSchema.Proofs.Hints.Declarations
import HintSchema.Proofs.Hints.Omittable
import HintSchema.Proofs.Hints.Admission
import HintSchema.Proofs.Hints.Admitted
import HintSchema.Proofs.Modules.Defaults
import HintSchema.Proofs.Derivation.Optionality
import HintSchema.Proofs.Derivation.Ceiling
import HintSchema.Proofs.Derivation.Repetition
import HintSchema.Proofs.Hints.Termination
import HintSchema.Proofs.Hints.Transparency
import HintSchema.Proofs.Hints.Rounds
import HintSchema.Proofs.Hints.Exported
import HintSchema.Proofs.Hints.Normal
import HintSchema.Proofs.Hints.Ascent
import HintSchema.Proofs.Derivation.Internal
import HintSchema.Proofs.Docs.Sections

import CallByName.Description
import CallByName.Expr.Equality
import CallByName.Main
import CallByName.Proofs.Likeness
import CallByName.Proofs.Operators
import CallByName.Proofs.Arithmetic
import CallByName.Proofs.Equality
import CallByName.Proofs.Scope
import CallByName.Proofs.Substitution
import CallByName.Proofs.Simulation
import CallByName.Proofs.Outcome
import CallByName.Proofs.Nesting
import CallByName.Proofs.DepthLimit
import CallByName.Proofs.Correspondence
import CallByName.Proofs.Lockstep
import CallByName.Proofs.Unused
import CallByName.Proofs.BindingForms
import CallByName.Proofs.BindingOrder
import CallByName.Proofs.Literals
import CallByName.Proofs.ScopeSoundness
import CallByName.Proofs.Beta
import CallByName.Proofs.Grammar
import CallByName.Proofs.Continuation
import CallByName.Proofs.Recognition
import CallByName.Proofs.ScanState
import CallByName.Proofs.Delivery
import CallByName.Proofs.Lines
import CallByName.Proofs.Completion
import CallByName.Proofs.Locality
import CallByName.Proofs.Layout
import CallByName.Proofs.Comments
import CallByName.Proofs.Loading
import CallByName.Proofs.Conversion
import CallByName.Proofs.SingleDatum
import CallByName.Proofs.WellFormed
import CallByName.Proofs.FirstDatum
import CallByName.Proofs.Writing
import CallByName.Proofs.DepthCap
import CallByName.Proofs.RoundTrip
import CallByName.Proofs.QuotedData
import CallByName.Proofs.Provenance
import CallByName.Proofs.Renumbering
import CallByName.Proofs.Frames
import CallByName.Proofs.Sequencing
import CallByName.Proofs.Placement
import CallByName.Proofs.Rollback
import CallByName.Proofs.Reevaluation
import CallByName.Proofs.Steps
import CallByName.Proofs.Definitions
import CallByName.Proofs.OperandCounts
import CallByName.Proofs.Comparisons
import CallByName.Proofs.Positions
import CallByName.Proofs.Excerpts

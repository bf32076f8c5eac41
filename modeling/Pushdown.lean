import Pushdown.Coding.Conditions
import Pushdown.Coding.Plans
import Pushdown.Settings.Document
import Pushdown.Description.Plans
import Pushdown.Description
import Pushdown.Text.Quoted
import Pushdown.Text.Printable
import Pushdown.Binary64.Layout
import Pushdown.Field
import Pushdown.Json.Reader
import Pushdown.Json.Writer
import Pushdown.Predicate.Evaluation
import Pushdown.Predicate.Lowering
import Pushdown.Value.Conversion
import Pushdown.Value.Order
import Pushdown.Runner
import Pushdown.Table
import Pushdown.Window
import Pushdown.Proofs.Flow.Notes
import Pushdown.Proofs.Pipeline.Lifecycle
import Pushdown.Proofs.Pipeline.Laziness
import Pushdown.Proofs.Stream.Closing
import Pushdown.Proofs.Predicate.Negation
import Pushdown.Proofs.Predicate.Filling
import Pushdown.Proofs.Plan.Course
import Pushdown.Proofs.Plan.SortedRows
import Pushdown.Proofs.Plan.Refusals
import Pushdown.Proofs.Plan.DefaultRules
import Pushdown.Proofs.Value.Agreement
import Pushdown.Proofs.Value.Dyadic
import Pushdown.Proofs.Coding.ReadingBack
import Pushdown.Proofs.Plan.Slicing
import Pushdown.Proofs.Predicate.Postorder
import Pushdown.Proofs.Plan.Translation
import Pushdown.Proofs.Pipeline.NormalForm
import Pushdown.Proofs.Plan.Counting
import Pushdown.Proofs.Stream.Batches
import Pushdown.Proofs.Predicate.Duality
import Pushdown.Proofs.Predicate.Expansion
import Pushdown.Proofs.Plan.SuccessiveSorts
import Pushdown.Proofs.Sorting.Reversal
import Pushdown.Proofs.Plan.Settled
import Pushdown.Proofs.Pipeline.NumericSeal
import Pushdown.Proofs.Stream.Extremes

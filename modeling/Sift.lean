import Sift.Main
import Sift.Proofs.Filter.ByteCursor
import Sift.Proofs.Filter.Composition
import Sift.Proofs.Filter.ErrorPosition
import Sift.Proofs.Filter.Fields
import Sift.Proofs.Filter.Integers
import Sift.Proofs.Filter.Literal
import Sift.Proofs.Filter.Progress
import Sift.Proofs.Json.Printable
import Sift.Proofs.Pattern.Wildcard
import Sift.Proofs.Query.Narrowing
import Sift.Proofs.Query.PageSummary
import Sift.Proofs.Query.Paging
import Sift.Proofs.Record.Concatenation
import Sift.Proofs.Record.Ranges
import Sift.Proofs.Stage.CallOrder
import Sift.Proofs.Stage.Replies
import Sift.Proofs.Time.Bounds
import Sift.Proofs.Time.Duration
import Sift.Proofs.Time.Parts

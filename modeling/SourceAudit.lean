import SourceAudit.Main
import SourceAudit.Proofs.Comments
import SourceAudit.Proofs.ExitStatus
import SourceAudit.Proofs.Filtering
import SourceAudit.Proofs.FixedValues
import SourceAudit.Proofs.FragmentOrder
import SourceAudit.Proofs.Nesting
import SourceAudit.Proofs.Prefilter
import SourceAudit.Proofs.Reach
import SourceAudit.Proofs.ReportOrder
import SourceAudit.Proofs.Threshold
import SourceAudit.Proofs.Tiling
import SourceAudit.Proofs.Isolation
import SourceAudit.Scan.Crew
import SourceAudit.Proofs.Cancellation
import SourceAudit.Expr.Cursor
import SourceAudit.Proofs.Joining
import SourceAudit.Proofs.Cursor
import SourceAudit.Proofs.Progress
import SourceAudit.Proofs.Brackets
import SourceAudit.Proofs.Locality
import SourceAudit.Proofs.Declarations
import SourceAudit.Proofs.LineBreaks
import SourceAudit.Proofs.SharedSpans
import SourceAudit.Proofs.Extent
import SourceAudit.Proofs.Finds
import SourceAudit.Proofs.PlainLiterals
import SourceAudit.Proofs.RequestGuards
import SourceAudit.Proofs.LineColumn
import SourceAudit.Proofs.Quotation
import SourceAudit.Proofs.Steps
import SourceAudit.Proofs.LiteralCoverage
import SourceAudit.Proofs.BracketStack
import SourceAudit.Proofs.Chains
import SourceAudit.Proofs.LineEndings
import SourceAudit.Proofs.Separators
import SourceAudit.Proofs.Aggregation
import SourceAudit.Proofs.RuleIndices
import SourceAudit.Proofs.Admission
import SourceAudit.Proofs.Scoring
import SourceAudit.Proofs.Fingerprints
import SourceAudit.Proofs.IndexedWindows
import SourceAudit.Proofs.ArgumentSpans
import SourceAudit.Proofs.Grouping
import SourceAudit.Proofs.Callees
import SourceAudit.Proofs.Captures
import SourceAudit.Proofs.NameWords
import SourceAudit.Proofs.Slicing

import Copybook.Main
import Copybook.Proofs.Alignment
import Copybook.Proofs.Arithmetic
import Copybook.Proofs.Builder
import Copybook.Proofs.Classification
import Copybook.Proofs.Coherence
import Copybook.Proofs.Columns
import Copybook.Proofs.Compaction
import Copybook.Proofs.Containment
import Copybook.Proofs.Continuation
import Copybook.Proofs.Delivery
import Copybook.Proofs.Directory
import Copybook.Proofs.Essence
import Copybook.Proofs.Folding
import Copybook.Proofs.Formats
import Copybook.Proofs.Interchange
import Copybook.Proofs.Journal
import Copybook.Proofs.Layering
import Copybook.Proofs.Layout
import Copybook.Proofs.Letters
import Copybook.Proofs.Lifecycle
import Copybook.Proofs.Members
import Copybook.Proofs.Ownership
import Copybook.Proofs.Parameters
import Copybook.Proofs.Placeholder
import Copybook.Proofs.Positions
import Copybook.Proofs.Precedence
import Copybook.Proofs.Quotation
import Copybook.Proofs.RuleFile
import Copybook.Proofs.Settings
import Copybook.Proofs.Sizing
import Copybook.Proofs.Sources
import Copybook.Proofs.Template
import Copybook.Proofs.Transcript
import Copybook.Proofs.TypeMode
import Copybook.Proofs.TypeRows
import Copybook.Proofs.Usage
import Copybook.Proofs.Validation
import Copybook.Proofs.Value
import Copybook.Reader.Operation
import Copybook.Record.Json
import Copybook.Run.Single
import Copybook.Untyped.Entry
import Copybook.Untyped.Record
import Copybook.Untyped.Rule

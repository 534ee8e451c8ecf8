import Schemata.Generation.LooseReport
import Schemata.Lint.Remark
import Schemata.Main
import Schemata.Proofs.Agreement
import Schemata.Proofs.Closure
import Schemata.Proofs.Completeness
import Schemata.Proofs.Decoding
import Schemata.Proofs.Linting
import Schemata.Proofs.Pool
import Schemata.Proofs.Recovery
import Schemata.Proofs.Renderings
import Schemata.Proofs.Traversal
import Schemata.Unchecked
import Schemata.Proofs.Dangling
import Schemata.Proofs.Exports
import Schemata.Proofs.ExitCodes
import Schemata.Proofs.OnDisk
import Schemata.Proofs.Dialect
import Schemata.Proofs.Distinct
import Schemata.Proofs.Draft
import Schemata.Proofs.Validity
import Schemata.Proofs.KeyColumns
import Schemata.Proofs.Repeats
import Schemata.Proofs.Assignments
import Schemata.Proofs.Modes
import Schemata.Proofs.Retrying
import Schemata.Proofs.Respelling
import Schemata.Proofs.Projections
import Schemata.Proofs.Examples
import Schemata.Proofs.Applicability
import Schemata.Proofs.Snippets
import Schemata.Proofs.Timestamps
import Schemata.Proofs.LinkLines
import Schemata.Proofs.SharedChoices

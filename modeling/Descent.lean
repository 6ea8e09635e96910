import Descent.Excerpt
import Descent.Sample.Arithmetic
import Descent.Sample.LengthPrefixed
import Descent.Sample.Nesting
import Descent.Sample.Settings
import Descent.Script.Labelled
import Descent.Script.Session
import Descent.Proofs.Comparison
import Descent.Proofs.View
import Descent.Proofs.Agreement
import Descent.Proofs.Similar
import Descent.Proofs.Outcomes
import Descent.Proofs.CheckedReading
import Descent.Proofs.Bounds
import Descent.Proofs.Translation
import Descent.Proofs.Erasure
import Descent.Proofs.Abort
import Descent.Proofs.Observation
import Descent.Proofs.Wrappers
import Descent.Proofs.Wording
import Descent.Proofs.Transparency
import Descent.Proofs.Onward
import Descent.Proofs.TerminalReply
import Descent.Proofs.Bracketing
import Descent.Proofs.Tracing
import Descent.Proofs.Reports
import Descent.Proofs.Headway
import Descent.Proofs.Guarded
import Descent.Proofs.Termination
import Descent.Proofs.Reading
import Descent.Proofs.Numeral
import Descent.Proofs.Evaluation
import Descent.Proofs.Loops
import Descent.Proofs.Chronology
import Descent.Proofs.Sequencing
import Descent.Proofs.Alternation
import Descent.Proofs.Deterministic
import Descent.Proofs.Repetition
import Descent.Proofs.LongestRow
import Descent.Proofs.WholeText
import Descent.Proofs.NumberLiteral
import Descent.Proofs.ReadingLists
import Descent.Proofs.SettingsFile
import Descent.Proofs.SignedLiteral
import Descent.Proofs.FirstAndRow
import Descent.Proofs.Occurrence
import Descent.Proofs.Chains
import Descent.Proofs.SeparatedLists
import Descent.Proofs.Scanning
import Descent.Proofs.Counting
import Descent.Proofs.TrailingBlanks
import Descent.Proofs.Tiling
import Descent.Proofs.Locating
import Descent.Proofs.Rendering
import Descent.Proofs.LengthPrefix
import Descent.Proofs.NestedBrackets
import Descent.Proofs.Lookahead
import Descent.Proofs.LocationOrder
import Descent.Proofs.StoredCursor

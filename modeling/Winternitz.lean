import Winternitz.Workbench
import Winternitz.Main
import Winternitz.Proofs.Blocks
import Winternitz.Proofs.Views
import Winternitz.Proofs.Construction
import Winternitz.Proofs.Representations
import Winternitz.Proofs.Acceptance
import Winternitz.Proofs.Conversion
import Winternitz.Proofs.Json.Numerals
import Winternitz.Proofs.Json.Spelling
import Winternitz.Proofs.Json.Grammar
import Winternitz.Proofs.Json.Taking
import Winternitz.Proofs.Json.Skipping
import Winternitz.Proofs.Json.Members
import Winternitz.Proofs.Json.Forms
import Winternitz.Proofs.Json.Writing
import Winternitz.Proofs.RoundTrip
import Winternitz.Proofs.Renderings
import Winternitz.Proofs.HexText
import Winternitz.Proofs.HexCase
import Winternitz.Proofs.Json.Measure
import Winternitz.Proofs.Letters
import Winternitz.Proofs.Canonical
import Winternitz.Proofs.Exporting
import Winternitz.Proofs.Logs
import Winternitz.Proofs.Reachable
import Winternitz.Proofs.Attempts
import Winternitz.Proofs.Shape
import Winternitz.Proofs.Json.Layouts
import Winternitz.Proofs.Json.Nesting
import Winternitz.Proofs.Json.Deriving
import Winternitz.Proofs.Json.Brackets
import Winternitz.Proofs.Recognition
import Winternitz.Proofs.Truncation
import Winternitz.Proofs.Json.Unambiguous
import Winternitz.Proofs.Json.Naming
import Winternitz.Proofs.Ambiguity
import Winternitz.Proofs.Descriptions
import Winternitz.Proofs.Identity
import Winternitz.Proofs.Sizes
import Winternitz.Proofs.Dimensions
import Winternitz.Proofs.Inspection
import Winternitz.Proofs.DigitBytes
import Winternitz.Proofs.Windows
import Winternitz.Proofs.ChainTexts
import Winternitz.Proofs.Trimming
import Winternitz.Proofs.SetNames

import Proctor.Main
import Proctor.Proofs.Cli.Loading
import Proctor.Proofs.Json.Normal
import Proctor.Proofs.Json.Superset
import Proctor.Proofs.Literal.Beyond
import Proctor.Proofs.Literal.Codes
import Proctor.Proofs.Literal.Endless
import Proctor.Proofs.Literal.Faults
import Proctor.Proofs.Literal.Integers
import Proctor.Proofs.Literal.Parsing
import Proctor.Proofs.Literal.Raw
import Proctor.Proofs.Literal.RoundTrip
import Proctor.Proofs.Literal.Spacing
import Proctor.Proofs.Literal.Surrogates
import Proctor.Proofs.Literal.Tiling
import Proctor.Proofs.Report.RoundTrip
import Proctor.Proofs.Run.Answers
import Proctor.Proofs.Run.Capture
import Proctor.Proofs.Run.Closing
import Proctor.Proofs.Run.Diagnostics
import Proctor.Proofs.Run.Dialogue
import Proctor.Proofs.Run.Lifecycle
import Proctor.Proofs.Run.Output
import Proctor.Proofs.Run.Protocol
import Proctor.Proofs.Run.Reading
import Proctor.Proofs.Run.Received
import Proctor.Proofs.Run.Safety
import Proctor.Proofs.Spec.Cases
import Proctor.Proofs.Spec.Editing
import Proctor.Proofs.Spec.Targets

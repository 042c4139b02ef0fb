import Proctor.Run.Capture
import Proctor.Run.Event
import Proctor.Text.Blank
import Proctor.Verdict

/-! The detector and the interpreter: the sentences for their failures, and the verdict on the
output of a detector. -/
namespace Proctor

def scanFailure : CaptureError → String
  | .spawn program reason => s!"Failed to start detector process: {program}: {reason}"
  | .read reason => s!"Failed to read detector output: {reason}"
  | .timedOut limit => s!"Detector timed out after {limit.shortText}"

inductive ExecError where
  | start (reason : String)
  | read (reason : String)
  | timedOut (limit : Nanoseconds)
deriving DecidableEq, Repr

def ExecError.ofCapture : CaptureError → ExecError
  | .spawn program reason => .start s!"{program}: {reason}"
  | .read reason => .read reason
  | .timedOut limit => .timedOut limit

def ExecError.message : ExecError → String
  | .start reason => s!"Failed to start interpreter process: {reason}"
  | .read reason => s!"Failed to read interpreter output: {reason}"
  | .timedOut limit => s!"Interpreter process timed out after {limit.shortText}"

def Verdict.ofOutput (output marker : String) : Verdict :=
  if marker ≠ "" && Text.occursIn marker.toList output.toList then
    .suspicious (String.ofList (Text.trimEnd output.toList))
  else .clean

def errorLines (kind : NoticeKind) (target : String) (lines : List String) : List Notice :=
  lines.map (⟨kind, target, ·⟩)

end Proctor

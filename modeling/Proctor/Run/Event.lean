import Proctor.Duration
import Proctor.Report
import Proctor.Spec.Basic
import Proctor.Verdict

/-! What happens during a run, as it is told to whoever watches. -/
namespace Proctor

inductive NoticeKind where
  | scriptStderr
  | detectorStderr
  | scanFailed
  | editorFailed
  | cleanupFailed
deriving DecidableEq, Repr

def NoticeKind.label : NoticeKind → String
  | .scriptStderr => "stderr"
  | .detectorStderr => "detector stderr"
  | .scanFailed => "scan failed"
  | .editorFailed => "editor"
  | .cleanupFailed => "cleanup"

/-- What programs write on their error streams is expected; all else deserves attention. -/
def NoticeKind.isWarning (kind : NoticeKind) : Bool :=
  kind != .scriptStderr && kind != .detectorStderr

/-- A message that changes no outcome. Its target is empty if it concerns the whole run. -/
structure Notice where
  kind : NoticeKind
  target : String
  message : String
deriving DecidableEq, Repr

def Notice.describe (notice : Notice) : String :=
  if notice.target = "" then s!"[{notice.kind.label}] {notice.message}"
  else s!"[{notice.kind.label}] {notice.target}: {notice.message}"

inductive Event where
  | runStart (spec : Specification)
  | targetStart (name path : String)
  | scanned (name : String) (verdict : Verdict)
  | skipped (name : String)
  | noticed (notice : Notice)
  | completed (name : String) (outcome : Outcome)
  | runComplete (report : Report) (elapsed : Nanoseconds)
deriving DecidableEq, Repr

end Proctor

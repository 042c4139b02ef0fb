import Proctor.Run.Event
import Proctor.Text.Blank
import Proctor.Text.Segments

/-! What a console shows of a run. -/
namespace Proctor

/-- How a console shows events, and how many targets were skipped since the run began. -/
structure Console where
  verbose : Bool
  color : Bool
  skipped : Nat
deriving DecidableEq, Repr

inductive Color where
  | bold
  | red
  | green
  | yellow
deriving DecidableEq, Repr

def Color.code : Color → String
  | .bold => "1"
  | .red => "31"
  | .green => "32"
  | .yellow => "33"

namespace Console

def new (verbose color : Bool) : Console := ⟨verbose, color, 0⟩

def paint (console : Console) (color : Color) (text : String) : String :=
  if console.color then "\x1b[" ++ color.code ++ "m" ++ text ++ "\x1b[0m" else text

def line (text : String) : String := text ++ "\n"

def banner : String := "=================== scriptest session starts ==================="

def reasonLines (reasons : String) : List String :=
  ((Text.lines reasons.toList).filter fun l => Text.trim l != []).map String.ofList

def marks (console : Console) (records : List Record) : String :=
  String.join (records.map fun record =>
    if record.passed then console.paint .green "." else console.paint .red "F")

def recordLine (console : Console) (record : Record) : String :=
  let status :=
    if record.passed then console.paint .green "PASSED" else console.paint .red "FAILED"
  let received := record.received?.getD ""
  line s!"    {status} {record.test}  (received {received})"

def failureLine (console : Console) (record : Record) : String :=
  let test := console.paint .red record.test
  let error := record.error?.getD ""
  line s!"    {test}: {error}"

def resultLines (console : Console) (name : String) (records : List Record) : String :=
  let heading :=
    if console.verbose then line name ++ String.join (records.map console.recordLine)
    else line (name ++ " " ++ console.marks records)
  heading ++ String.join ((records.filter (!·.passed)).map console.failureLine)

def closingParts (console : Console) (report : Report) : List String :=
  let totals := report.totals
  let errors := report.countP fun (_, outcome) => outcome.error?.isSome
  let part (count : Nat) (color : Color) (what : String) : List String :=
    if count = 0 then [] else [console.paint color s!"{count} {what}"]
  part totals.passed .green "passed" ++ part totals.failed .red "failed" ++
    part errors .red "error(s)" ++ part console.skipped .yellow "skipped"

def closingLine (console : Console) (report : Report) (elapsed : Nanoseconds) : String :=
  let parts :=
    match console.closingParts report with
    | [] => "no tests ran"
    | parts => ", ".intercalate parts
  line s!"====== {parts} in {elapsed.clockText} ======"

def render (console : Console) : Event → String
  | .runStart spec =>
    line (console.paint .bold banner) ++
      line s!"function {spec.function}: {spec.cases.length} case(s) x {spec.targets.length} target(s)" ++
      line ""
  | .targetStart name path => if console.verbose then line s!"{name} ({path})" else ""
  | .scanned name (.suspicious reasons) =>
    line (name ++ ": " ++ console.paint .yellow "flagged by safety scan") ++
      if console.verbose then
        String.join ((reasonLines reasons).map fun reason => line ("    " ++ reason))
      else ""
  | .scanned _ _ => ""
  | .skipped name => line (name ++ " " ++ console.paint .yellow "SKIPPED")
  | .noticed notice =>
    if notice.kind.isWarning then
      line (console.paint .yellow "warning" ++ ": " ++ notice.describe)
    else if console.verbose then line ("    " ++ notice.describe)
    else ""
  | .completed name (.failed error) =>
    line (name ++ " " ++ console.paint .red "ERROR" ++ ": " ++ error)
  | .completed name (.completed result) => console.resultLines name result.records
  | .runComplete report elapsed => line "" ++ console.closingLine report elapsed

def after (console : Console) : Event → Console
  | .runStart _ => { console with skipped := 0 }
  | .skipped _ => { console with skipped := console.skipped + 1 }
  | _ => console

def showAll (console : Console) : List Event → List String
  | [] => []
  | event :: others => console.render event :: (console.after event).showAll others

end Console
end Proctor

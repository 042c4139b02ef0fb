import Proctor.Duration
import Proctor.Text.Segments
import Proctor.Text.Utf8

/-! Collecting what a child program writes: its output as one text, its error stream line by line,
both in pieces of any size. -/
namespace Proctor

inductive Arrival where
  | output (bytes : List UInt8)
  | error (bytes : List UInt8)
  | outputEnd
  | errorEnd
deriving DecidableEq, Repr

/-- What has been collected: the output, the complete lines of the error stream, the start of a
line that is not complete, and which streams are still open. -/
structure Capture where
  output : List UInt8
  lines : List String
  partialLine : List UInt8
  outputOpen : Bool
  errorOpen : Bool
deriving DecidableEq, Repr

namespace Capture

def start : Capture := ⟨[], [], [], true, true⟩

def lineText (bytes : List UInt8) : String :=
  String.ofList (Text.Utf8.decodeLossy (Text.dropFinal 0x0d bytes))

def cutLines (bytes : List UInt8) : List (List UInt8) × List UInt8 :=
  let segments := Text.segments 0x0a bytes
  ((segments.filter (·.2)).map (·.1), ((segments.find? (!·.2)).map (·.1)).getD [])

def take (capture : Capture) : Arrival → Capture
  | .output bytes =>
    if capture.outputOpen then { capture with output := capture.output ++ bytes } else capture
  | .error bytes =>
    if capture.errorOpen then
      let (complete, rest) := cutLines (capture.partialLine ++ bytes)
      { capture with lines := capture.lines ++ complete.map lineText, partialLine := rest }
    else capture
  | .outputEnd => { capture with outputOpen := false }
  | .errorEnd =>
    if capture.errorOpen then
      -- The last line may lack its end.
      let last := if capture.partialLine = [] then [] else [lineText capture.partialLine]
      { capture with lines := capture.lines ++ last, partialLine := [], errorOpen := false }
    else capture

def finished (capture : Capture) : Bool := !capture.outputOpen && !capture.errorOpen

def collect (capture : Capture) : List Arrival → Capture × List Arrival
  | [] => (capture, [])
  | arrival :: others =>
    if capture.finished then (capture, arrival :: others) else (capture.take arrival).collect others

def text (capture : Capture) : String := String.ofList (Text.Utf8.decodeLossy capture.output)

end Capture

/-- What the child program left behind: its output, and its exit code unless a signal ended it. -/
structure Finished where
  text : String
  exitCode? : Option Nat
deriving DecidableEq, Repr

inductive CaptureError where
  | spawn (program reason : String)
  | read (reason : String)
  | timedOut (limit : Nanoseconds)
deriving DecidableEq, Repr

/-- What a child program does: when its pieces arrive, when it ends if it ever does, and with which
code unless a signal ends it. -/
structure Child where
  arrivals : List (Nanoseconds × Arrival)
  ended? : Option Nanoseconds
  exitCode? : Option Nat
deriving DecidableEq, Repr

def Capture.ofArrivals (arrivals : List (Nanoseconds × Arrival)) : Capture :=
  (start.collect (arrivals.map (·.2))).1

namespace Child

def endsWithin (child : Child) (limit? : Option Nanoseconds) : Bool :=
  match child.ended?, limit? with
  | none, _ => false
  | some _, none => true
  | some ended, some limit => ended ≤ limit

/-- Follows a child program to its end, or up to the time limit: the lines of its error stream that
were complete by then, and the outcome. Without a limit there is none for a program that never
ends. -/
def follow (child : Child) (limit? : Option Nanoseconds) :
    Option (List String × Except CaptureError Finished) :=
  if child.endsWithin limit? then
    let capture := Capture.ofArrivals child.arrivals
    some (capture.lines, .ok ⟨capture.text, child.exitCode?⟩)
  else
    limit?.map fun limit =>
      ((Capture.ofArrivals (child.arrivals.filter (·.1 < limit))).lines, .error (.timedOut limit))

end Child
end Proctor

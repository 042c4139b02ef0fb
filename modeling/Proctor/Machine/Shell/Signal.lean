import Proctor.Machine.Shell.State

/-! Signals: their names and numbers, and what they do to a process. -/
namespace Proctor.Machine.Shell

def signalNames : List String :=
  ["HUP", "INT", "QUIT", "ILL", "TRAP", "ABRT", "BUS", "FPE", "KILL", "USR1", "SEGV", "USR2", "PIPE",
    "ALRM", "TERM", "16", "CHLD", "CONT", "STOP", "TSTP", "TTIN", "TTOU", "URG", "XCPU", "XFSZ",
    "VTALRM", "PROF", "WINCH", "IO", "PWR", "SYS", "32", "33", "RTMIN", "RTMIN+1", "RTMIN+2",
    "RTMIN+3", "RTMIN+4", "RTMIN+5", "RTMIN+6", "RTMIN+7", "RTMIN+8", "RTMIN+9", "RTMIN+10",
    "RTMIN+11", "RTMIN+12", "RTMIN+13", "RTMIN+14", "RTMIN+15", "RTMAX-14", "RTMAX-13", "RTMAX-12",
    "RTMAX-11", "RTMAX-10", "RTMAX-9", "RTMAX-8", "RTMAX-7", "RTMAX-6", "RTMAX-5", "RTMAX-4",
    "RTMAX-3", "RTMAX-2", "RTMAX-1", "RTMAX"]

/-- The name of a signal; number zero stands for the end of the shell. -/
def signalName (number : Nat) : String :=
  if number = 0 then "EXIT" else signalNames.getD (number - 1) (toString number)

def signal? (text : List Char) : Option Nat :=
  if text ≠ [] && text.all isDecimalDigit then
    let n := ofDigits 10 text
    if n ≤ 64 then some n else none
  else
    let name := String.ofList (text.map Char.toUpper)
    if name = "EXIT" then some 0 else (signalNames.idxOf? name).map (· + 1)

def obituary? : Nat → Option String
  | 1 => some "Hangup"
  | 3 => some "Quit"
  | 4 => some "Illegal instruction"
  | 5 => some "Trace/breakpoint trap"
  | 6 => some "Aborted"
  | 7 => some "Bus error"
  | 8 => some "Floating point exception"
  | 9 => some "Killed"
  | 10 => some "User defined signal 1"
  | 11 => some "Segmentation fault"
  | 12 => some "User defined signal 2"
  | 14 => some "Alarm clock"
  | 15 => some "Terminated"
  | 16 => some "Stack fault"
  | 24 => some "CPU time limit exceeded"
  | 25 => some "File size limit exceeded"
  | 26 => some "Virtual timer expired"
  | 27 => some "Profiling timer expired"
  | 29 => some "I/O possible"
  | 30 => some "Power failure"
  | 31 => some "Bad system call"
  | n => if 34 ≤ n then some s!"Real-time signal {n - 34}" else none

/-- Whether a signal does nothing to a process that has not asked for it. -/
def isHarmless (number : Nat) : Bool := [0, 17, 18, 23, 28].contains number

def stops (number : Nat) : Bool := [19, 20, 21, 22].contains number

def isCertain (number : Nat) : Bool := number = 9 || number = 19

/-- What happens when a signal comes: nothing is done for an empty text, and without a text the process
may end. -/
def State.trap? (state : State) (number : Nat) : Option (List Char) :=
  if isCertain number then none
  else if state.ignored.contains number then some []
  else OrderedMap.get? number state.traps

def State.ignoredSignals (state : State) : List Nat :=
  (state.traps.filter fun (_, action) => action = []).map (·.1) ++ state.ignored

namespace Action

/-- Receives a signal: an action for it runs later, and without one the process may end. -/
def receive (number : Nat) : Action Unit := do
  let state ← get
  match state.trap? number with
  | some [] => return
  | some _ =>
    if !state.caught.contains number then set { state with caught := state.caught ++ [number] }
  | none =>
    if isHarmless number then return
    else if stops number then throw .endless
    else throw (.signal number)

def isMine (state : State) (sent : Sent) : Bool :=
  sent.process = state.process ||
    (sent.spread && state.ancestors.contains sent.process && state.started ≤ sent.time)

/-- The signals that were sent to the process and that it has not noticed, in the order of time. -/
def unnoticed (state : State) : List Sent :=
  if state.sent.isEmpty then []
  else
    let fresh := state.sent.filter fun sent => isMine state sent && !state.noticed.contains sent
    fresh.mergeSort fun a b => a.time ≤ b.time

/-- Receives the signals that were sent to the process by now. One that ends it does so at the time at
which it was sent. -/
def receiveSent : Action Unit := do
  let state ← get
  (unnoticed state).forM fun sent => do
    let state ← get
    if sent.time ≤ state.clock then
      set { state with noticed := sent :: state.noticed }
      try receive sent.signal
      catch flow =>
        modify fun state => { state with clock := max state.started sent.time }
        throw flow

/-! ### Writing -/

/-- Writes octets to a stream, or fails. If nobody reads them any more, a signal says so to the process;
one that wrote more than there is room for has waited until then. -/
def write (stream : Nat) (octets : List Char) : Action (Option Failure) := do
  let state ← get
  match state.write stream octets with
  | .ok state =>
    set state
    return none
  | .error failure =>
    if failure = .brokenPipe then
      let clock := max state.clock ((state.readerEnd? stream).getD 0)
      set { state with clock }
      receive 13
    return some failure

/-- Writes octets to the output of the running command of the shell; a status of one if that is not
possible. -/
def print (octets : List Char) : Action Nat := do
  match ← write 1 octets with
  | none => return 0
  | some _ =>
    complain s!"{String.ofList ((← get).command?.getD [])}: I/O error"
    return 1

end Action
end Proctor.Machine.Shell

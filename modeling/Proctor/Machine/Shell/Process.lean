import Proctor.Machine.Shell.Expansion
import Proctor.Machine.Shell.Signal

/-! Processes that a shell starts: copies of itself, how they end, and what they print. Also the running
of scripts that are given as texts. -/
namespace Proctor.Machine.Shell

/-! ### Scripts -/

def readLine (source : Source) (state : State) :
    Except SyntaxFault (Option Command × Source × Bool) :=
  match Reader.nextLine.run { source with aliases := state.aliases } with
  | .error fault => .error fault
  | .ok (command?, source) => .ok (command?, source, source.held? matches some .finish)

/-- Runs the lines of a script one after another. The status is that of the last one that holds a
command, and zero if there is none. -/
def runLines (again : Runner) (mode : Mode) : Nat → Nat → Source → Action Unit
  | 0, last, _ => Action.setStatus last
  | bound + 1, last, source => do
    match readLine source (← get) with
    | .error fault =>
      modify fun state => { state with line := fault.line }
      Action.refuse fault.message
    | .ok (none, _, _) => Action.setStatus last
    | .ok (some command, source, atEnd) =>
      modify fun state => { state with
        documents := source.texts ++ state.documents, numbered := source.numbered,
        linesRead := source.line }
      let source := { source with texts := [] }
      match command with
      | .nothing => runLines again mode bound last source
      | command =>
        again { mode with final := mode.final && atEnd } command
        let last := (← get).status
        runLines again mode bound last source

def runText (again : Runner) (mode : Mode) (text : List Char) : Action Unit := do
  let state ← get
  let source : Source := ⟨text, 1, none, [], [], state.numbered, state.aliases, []⟩
  Action.keeping (fun before after => { after with linesRead := before.linesRead }) do
    runLines again mode (text.length + 2) 0 source

/-! ### Signals -/

/-- Runs the actions of the signals that were received, in the order of their numbers. The status stays
unless an action leaves a function. -/
def runCaught (again : Runner) : Nat → Action Unit
  | 0 => return
  | bound + 1 => do
    let state ← get
    match state.caught.min? with
    | none => return
    | some number =>
      let status := state.saved?.getD state.status
      set { state with caught := state.caught.filter (· ≠ number), saved? := some status }
      let action := (OrderedMap.get? number state.traps).getD []
      let (result, after) := (runText again ⟨false, false⟩ action).run (← get)
      set { after with saved? := state.saved? }
      match result with
      | .ok () =>
        Action.setStatus status
        runCaught again bound
      | .error flow => throw flow

def settleSignals (again : Runner) : Action Unit := do
  Action.receiveSent
  if (← get).caught ≠ [] then runCaught again 100

/-! ### Processes -/

namespace State

def fork (state : State) : State :=
  { state with
    process := state.lastProcess + 1
    lastProcess := state.lastProcess + 1
    ancestors := state.process :: state.ancestors
    started := state.clock
    linesRead := 1
    traps := state.traps.filter fun (number, action) => number ≠ 0 && action = []
    caught := []
    jobs := []
    waits := [] }

/-- The state after another process has run, of which nothing is taken over but what all share. -/
def after (state inner : State) : State :=
  { state with
    toSystem := { inner.toSystem with files := { inner.files with current := state.files.current } } }

end State

/-- What is left to do when a process ends in some way: a shell runs its last action. -/
def finish (again : Runner) (flow : Except Flow Unit) (state : State) : Ending × State :=
  match flow with
  | .error (.signal number) => (.signal number, state)
  | .error .endless => (.never, state)
  | _ =>
    match OrderedMap.get? 0 state.traps with
    | none => (.status (state.status % 256), state)
    | some action =>
      let status := state.status
      let traps := OrderedMap.erase 0 state.traps
      match (runText again ⟨false, false⟩ action).run { state with traps, saved? := some status } with
      | (.error (.signal number), state) => (.signal number, state)
      | (.error .endless, state) => (.never, state)
      | (.error .exit, state) => (.status (state.status % 256), state)
      | (.error .abort, state) => (.status (state.status % 256), state)
      | (_, state) => (.status (status % 256), state)

def runProcess (again : Runner) (action : Action Unit) (state : State) : Ending × State :=
  let (flow, after) := action.run state
  finish again flow after

namespace Ending

/-- When a process ends that ended at a time, if it does. -/
def time? (ending : Ending) (time : Nanoseconds) : Option Nanoseconds :=
  match ending with
  | .never => none
  | _ => some time

def statusOf : Ending → Nat
  | .status n => n
  | .signal number => 128 + number
  | .never => 0

end Ending

/-- Takes over the status of a process that was waited for, and says if a signal ended it. -/
def Action.await (ending : Ending) : Action Unit := do
  match ending with
  | .status status => Action.setStatus status
  | .signal number =>
    match obituary? number with
    | some text => modify fun state => state.tell 2 (text ++ "\n")
    | none => pure ()
    Action.setStatus (128 + number)
  | .never => throw .endless

/-- Runs an action in a copy of the shell, and waits for it. A signal may end the shell before the copy
ends. -/
def runCopy (again : Runner) (action : Action Unit) : Action Unit := do
  let state ← get
  let (ending, inner) := runProcess again action state.fork
  let held := state.pipesHeld
  let waits :=
    if state.clock < inner.clock then (state.clock, inner.clock) :: state.waits else state.waits
  let process := state.lastProcess + 1
  let after := { (state.after inner).forget state.nextNumber with waits }
  match (Action.unnoticed after).filter fun sent => sent.time < after.clock with
  | [] => set after
  | _ => set (after.release held process (ending.time? inner.clock))
  Action.receiveSent
  Action.await ending
  settleSignals again

/-- Runs a command in a copy of the shell, and gives what it prints without zero characters and
without the newlines at its end. -/
def takeOutput (again : Runner) : Taker := fun command => do
  let state ← get
  let (pipe, opened) := state.addPipe .empty
  let (description, opened) := opened.addDescription ⟨.pipe pipe, false, true⟩
  let child := (opened.fork).connect 1 (some description)
  let (ending, inner) := runProcess again (again ⟨false, true⟩ command) child
  let inner := inner.release [pipe] inner.process (ending.time? inner.clock)
  let taken := (inner.pipes.lookup pipe).getD .empty
  let clock := max inner.clock (taken.ended?.getD 0)
  set { (state.after inner).forget state.nextNumber with clock }
  if taken.ended? = none then throw .endless
  Action.await ending
  modify fun after => { after with takenStatus := after.status, status := state.status }
  let octets := (taken.left.flatMap (·.octets)).filter (· ≠ '\x00')
  return (octets.reverse.dropWhile (· == '\n')).reverse

end Proctor.Machine.Shell

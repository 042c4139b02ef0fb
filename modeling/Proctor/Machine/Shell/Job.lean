import Proctor.Machine.Shell.Process
import Proctor.Machine.Shell.Variable

/-! The commands of a shell that deal with signals and with the processes beside it. -/
namespace Proctor.Machine.Shell

/-! ### Traps -/

def trapLines (state : State) : List Char :=
  let traps := state.traps.mergeSort fun a b => a.1 ≤ b.1
  traps.flatMap fun (number, action) =>
    "trap -- ".toList ++ quotedText action ++ ' ' :: (signalName number).toList ++ ['\n']

def setTrap (action? : Option (List Char)) (number : Nat) (state : State) : State :=
  { state with traps := match action? with
      | some action => OrderedMap.put number action state.traps
      | none => OrderedMap.erase number state.traps }

/-- Sets traps one after another, up to a signal that does not exist. -/
def setTraps (action? : Option (List Char)) : List (List Char) → Action Unit
  | [] => Action.setStatus 0
  | text :: others => do
    match signal? text with
    | some number =>
      modify (setTrap action? number)
      setTraps action? others
    | none =>
      modify fun state =>
        { state.tell 2 s!"trap: {String.ofList text}: bad trap\n" with status := 1 }

def runTrap (args : List (List Char)) : Action Unit := do
  let (_, rest) ← optionsOf "" "" args
  match rest with
  | [] => Action.setStatus (← Action.print (trapLines (← get)))
  | [text] => setTraps none [text]
  | first :: others =>
    if first.all isDecimalDigit && (signal? first).isSome && first ≠ [] then
      setTraps none (first :: others)
    else setTraps (if first = ['-'] then none else some first) others

/-! ### Sending signals -/

def Job.waitAt? (job : Job) (time : Nanoseconds) : Option Nanoseconds :=
  (job.waits.find? fun (from', to') => from' ≤ time && time < to').map (·.2)

/-- Ends a process beside the shell by a signal. What it would have written later is taken back; a program
that it waits for goes on. -/
def State.endJob (state : State) (job : Job) (signal : Nat) : State :=
  let time := state.clock
  let outlived := (job.waitAt? time).getD time
  let cut := state.cutAfter job.process job.last outlived
  let shorten (writer : Nat × Option Nanoseconds) : Nat × Option Nanoseconds :=
    if job.process ≤ writer.1 && writer.1 ≤ job.last then
      (writer.1, some (min outlived (writer.2.getD outlived)))
    else writer
  { cut with
    running := cut.running.map fun other =>
      if other.process = job.process then { other with ending := .signal signal, ended := time }
      else other
    pipes := cut.pipes.map fun (number, pipe) =>
      (number, { pipe with writers := pipe.writers.map shorten }) }

/-- Sends a signal to a process: whether there is such a process. -/
def sendTo (signal : Nat) (process : Nat) : Action Bool := do
  let state ← get
  if process = state.process then
    Action.receive signal
    return true
  else if state.ancestors.contains process then
    if signal ≠ 0 then
      let sent : Sent := ⟨process, signal, state.clock, false⟩
      set { state with sent := state.sent ++ [sent] }
    return true
  else
    match state.running.find? fun job => job.process = process with
    | none => return false
    | some job =>
      let alive := job.ending = .never || state.clock < job.ended ||
        (state.clock = job.ended && state.jobs.contains process)
      if !alive then return false
      let ends := signal ≠ 0 && !isHarmless signal && !stops signal &&
        (isCertain signal || !job.ignored.contains signal)
      if ends && (job.ending = .never || state.clock < job.ended) then
        set (state.endJob job signal)
      return true

def killUsage : String :=
  "Usage: kill [-s sigspec | -signum | -sigspec] [pid | job]... or\nkill -l [exitstatus]"

def noJob {α : Type} (text : List Char) : Action α :=
  Action.refuse s!"No such job: {String.ofList text}"

def jobOf (text : List Char) : Action Job := do
  let state ← get
  let own : List Job := state.jobs.filterMap fun process =>
    state.running.find? fun job => job.process = process
  let name := text.drop 1
  let found? :=
    if name = [] || name = ['%'] || name = ['+'] then own.head?
    else if name = ['-'] then own[1]?
    else own.find? fun job => digitsOf 10 job.number = name
  match found? with
  | some job => return job
  | none => if name = [] then Action.refuse "No current job" else noJob text

/-- Sends a signal to the process that an argument means: zero, or one after a complaint. -/
def signalTo (signal : Nat) (arg : List Char) : Action Nat := do
  let found ← match arg with
    | '%' :: _ => do
      let _ ← jobOf arg
      pure false
    | '-' :: digits => do
      let _ ← numberIn digits
      pure false
    | digits => sendTo signal (← numberIn digits)
  if found then return 0
  else
    Action.complain "No such process\n"
    return 1

def listSignals (args : List (List Char)) : Action Unit := do
  match args with
  | [] => Action.setStatus (← Action.print (Octets.ofLines (("0" :: signalNames).map String.toList)))
  | text :: _ =>
    let number ← numberIn text
    let number := if 128 < number then number - 128 else number
    if 0 < number && number ≤ 64 then
      Action.setStatus (← Action.print ((signalName number).toList ++ ['\n']))
    else Action.refuse s!"invalid signal number or exit status: {String.ofList text}"

/-- The signal that a text names; the end of the shell is none. -/
def sendable? (text : List Char) : Option Nat :=
  (signal? text).filter fun n => n ≠ 0 || text.all isDecimalDigit

def runKill (args : List (List Char)) : Action Unit := do
  let (signal?, listing, rest) ← match args with
    | ('-' :: text) :: rest =>
      match sendable? text with
      | some signal => pure (some signal, false, rest)
      | none =>
        let (options, rest) ← optionsOf "l" "s" args
        match (options.filter (·.1 == 's')).getLast? with
        | none => pure (none, options ≠ [], rest)
        | some (_, name) =>
          match sendable? name with
          | some signal => pure (some signal, options.any (·.1 == 'l'), rest)
          | none =>
            Action.refuse s!"invalid signal number or name: {String.ofList name}"
    | rest => pure (none, false, rest)
  if listing then
    if signal?.isSome then Action.refuse killUsage
    listSignals rest
  else if rest = [] then Action.refuse killUsage
  else
    let results ← rest.mapM (signalTo (signal?.getD 15))
    Action.setStatus (if results.any (· ≠ 0) then 1 else 0)

/-! ### Waiting -/

/-- The first signal with an action that comes before a time, if waiting ends by one. -/
def interruption? (state : State) (ended? : Option Nanoseconds) : Option Sent :=
  (Action.unnoticed state).find? fun sent =>
    (match ended? with
      | some ended => sent.time < ended
      | none => true) &&
    match state.trap? sent.signal with
    | some action => action ≠ []
    | none => isCertain sent.signal || !isHarmless sent.signal

/-- Waits until a time, or up to a signal: its status then. -/
def waitUntil (ended? : Option Nanoseconds) : Action (Option Nat) := do
  let state ← get
  match interruption? state ended?, ended? with
  | some sent, _ =>
    set { state with clock := max state.clock sent.time }
    Action.receiveSent
    return some (128 + sent.signal)
  | none, some ended =>
    set { state with clock := max state.clock ended }
    return none
  | none, none => throw .endless

/-- Waits for processes one after another: the status of the last one. -/
def waitFor : Nat → List (List Char) → Action Nat
  | last, [] => return last
  | _, arg :: others => do
    let state ← get
    let job? ← match arg with
      | '%' :: _ => do
        let job ← jobOf arg
        pure (some job)
      | digits => do
        let process ← numberIn digits
        pure (if state.jobs.contains process then
          state.running.find? fun job => job.process = process else none)
    match job? with
    | none => waitFor 127 others
    | some job =>
      match ← waitUntil (job.ending.time? job.ended) with
      | some status => return status
      | none =>
        match job.ending with
        | .signal number =>
          match obituary? number with
          | some text => modify fun state => state.tell 2 (text ++ "\n")
          | none => pure ()
        | _ => pure ()
        waitFor job.ending.statusOf others

def runWait (args : List (List Char)) : Action Unit := do
  let (_, rest) ← optionsOf "" "" args
  if rest = [] then
    let state ← get
    let own := state.running.filter fun job => state.jobs.contains job.process
    let ended? := own.foldl (fun latest? job =>
      match latest?, job.ending.time? job.ended with
      | some latest, some ended => some (max latest ended)
      | _, _ => none) (some state.clock)
    Action.setStatus ((← waitUntil ended?).getD 0)
  else Action.setStatus (← waitFor 127 rest)

/-! ### Lists of jobs -/

def Job.standing (job : Job) (time : Nanoseconds) : String :=
  if job.ending = .never || time < job.ended then "Running"
  else
    match job.ending with
    | .signal number => (obituary? number).getD s!"Signal {number}"
    | .status 0 => "Done"
    | .status status => s!"Done({status})"
    | .never => "Running"

/-- Lists the processes beside the shell; those that have ended are listed once. -/
def runJobs (args : List (List Char)) : Action Unit := do
  let (options, _) ← optionsOf "lp" "" args
  let state ← get
  let own : List Job := state.jobs.filterMap fun process =>
    state.running.find? fun job => job.process = process
  let lines := own.zipIdx.map fun (job, i) =>
    let sign := if i = 0 then '+' else if i = 1 then '-' else ' '
    let process := digitsOf 10 job.process
    if options.any (·.1 == 'p') then process
    else
      let shown := if options ≠ [] then process ++ [' '] else []
      let line := '[' :: digitsOf 10 job.number ++ ']' :: ' ' :: sign :: ' ' :: shown ++
        (job.standing state.clock).toList
      line ++ List.replicate (33 - line.length) ' '
  let left : List Job := own.filter fun job => job.ending = .never || state.clock < job.ended
  modify fun state => { state with jobs := left.map Job.process }
  Action.setStatus (← Action.print (Octets.ofLines lines))

/-- Refuses to bring a job to the front or to the back, which no script can. -/
def runForeground (args : List (List Char)) : Action Unit := do
  let _ ← jobOf (args.headD ['%'])
  let name := match args with
    | [] => "(null)"
    | name :: _ => String.ofList name
  Action.refuse s!"job {name} not created under job control"

end Proctor.Machine.Shell

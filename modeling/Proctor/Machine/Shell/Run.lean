import Proctor.Machine.Shell.Builtin

/-! Running commands. Each function gets the way to run the commands inside its own, `again`; only
`run` itself counts how deep that goes. -/
namespace Proctor.Machine.Shell

/-! ### The words of a command -/

/-- What the first word of a command stands for. -/
inductive Meaning where
  | nothing
  | function (body : Command)
  | own (kind : OwnKind)
  | program

structure Resolved where
  meaning : Meaning
  /-- All words, and those from the one on that names the command. -/
  all : List (List Char)
  words : List (List Char)
  fatal : Bool
  lasting : Bool
  /-- The directories in which the program is looked for, if other ones than usual. -/
  searched? : Option (List Char)

/-- Words that are expanded, and words that are still to be. -/
abbrev Expanding := List (List Char) × List Word

def expandFirst (taker : Taker) : List Word → Action Expanding
  | [] => return ([], [])
  | word :: others => do
    match ← expandAll taker [word] with
    | [] => expandFirst taker others
    | found => return (found, others)

def meaningOf (functions : Bool) (name : List Char) : Action Meaning := do
  let state ← get
  match if functions then OrderedMap.get? name state.functions else none with
  | some (_, body) => return .function body
  | none =>
    match ownKind? name with
    | some kind => return .own kind
    | none => return .program

/-- What follows `command` and its options: the words that were passed over, whether the usual
directories are searched, and the words that are left, of which the first is a command to run unless
`described` holds. -/
structure AfterCommand where
  passed : List (List Char)
  standard : Bool
  described : Bool
  rest : Expanding

def afterCommand (taker : Taker) : Nat → AfterCommand → Action AfterCommand
  | 0, after => return { after with described := true }
  | bound + 1, after => do
    match after.rest with
    | ([], pending) =>
      match ← expandFirst taker pending with
      | ([], pending) => return { after with described := true, rest := ([], pending) }
      | rest => afterCommand taker bound { after with rest }
    | (word :: others, pending) =>
      let passed := { after with passed := after.passed ++ [word], rest := (others, pending) }
      match word with
      | ['-'] => return after
      | ['-', '-'] =>
        let rest ← if others = [] then expandFirst taker pending else pure (others, pending)
        if rest.1 = [] then return { after with described := true }
        else return { passed with rest }
      | '-' :: letters =>
        if letters.all (· == 'p') then afterCommand taker bound { passed with standard := true }
        else return { after with described := true }
      | _ => return after

def isAssignment (word : Word) : Bool :=
  match word with
  | .text octets false :: _ =>
    match Text.cutFirst? '=' octets with
    | some (name, _) => isName name
    | none => false
  | _ => false

def assigningCommands : List String := ["alias", "export", "local", "readonly"]

def expandRest (taker : Taker) (name : List Char) (pending : List Word) : Action (List (List Char)) := do
  let assigning := assigningCommands.contains (String.ofList name)
  let found ← pending.mapM fun word => do
    if assigning && isAssignment word then return [← expandValue taker word]
    else expandAll taker [word]
  return found.flatten

/-- Finds out what the words of a command stand for. The number bounds how often `command` stands
before a command. -/
def resolve (taker : Taker) (functions : Bool) (special? : Option Bool) (searched? : Option (List Char)) :
    Nat → Expanding → Action Resolved
  | 0, _ => return ⟨.nothing, [], [], false, true, none⟩
  | bound + 1, expanding => do
    match expanding with
    | ([], _) => return ⟨.nothing, [], [], false, true, none⟩
    | (name :: others, pending) =>
      let meaning ← meaningOf functions name
      let special? := match special?, meaning with
        | none, .own kind => some (kind = .special)
        | special?, _ => special?
      let complete (words : List (List Char)) (pending : List Word) : Action Resolved := do
        let rest ← expandRest taker name pending
        let words := words ++ rest
        return ⟨meaning, words, words, special?.getD false, special?.getD false, searched?⟩
      match meaning with
      | .own .regular =>
        if name = "command".toList then
          let after ← afterCommand taker 1000 ⟨[], false, false, (others, pending)⟩
          if after.described then complete (name :: after.passed ++ after.rest.1) after.rest.2
          else
            let searched? := if after.standard then some standardPath else searched?
            let found ← resolve taker false special? searched? bound after.rest
            return { found with all := name :: after.passed ++ found.all }
        else complete (name :: others) pending
      | _ => complete (name :: others) pending

/-! ### Tracing -/

def expandText (taker : Taker) (text : List Char) : Action (List Char) := do
  let source : Source := ⟨text, 1, none, [], [], 0, [], []⟩
  match Reader.document.run source with
  | .ok (word, _) => expandOne taker word
  | .error _ => return text

def trace (taker : Taker) (before : State) (assignments : List (List Char × List Char))
    (words : List (List Char)) : Action Unit := do
  let state ← get
  if state.isOn "xtrace" && !state.tracing then
    set { state with tracing := true }
    let start ← expandText taker (state.valueOf "PS4".toList)
    let shown := assignments.map (fun (name, value) => name ++ '=' :: value) ++ words
    let line := start ++ Tool.spaced shown ++ ['\n']
    modify fun after =>
      let streams := after.streams
      let written := ((after.connect 2 (before.streams.lookup 2)).write 2 line).toOption.getD after
      { written with streams, tracing := state.tracing }

/-! ### Simple commands -/

def runFunction (again : Runner) (mode : Mode) (body : Command) (args : List (List Char)) :
    Action Unit := do
  let before ← get
  set { before with
    parameters := args
    loops := 0
    calls := before.calls + 1
    optionIndex := 1
    optionOffset? := none }
  Action.keeping (fun _ after => { after with
      parameters := before.parameters
      loops := before.loops
      calls := before.calls
      optionIndex := before.optionIndex
      optionOffset? := before.optionOffset? }) do
    try again { mode with final := false } body
    catch
      | .leaveFunction => return
      | flow => throw flow

def State.hasTraps (state : State) : Bool := state.traps.any fun (_, action) => action ≠ []

def runExec (again : Runner) (words : List (List Char)) : Action Unit := do
  let state ← get
  let command := words.headD []
  match state.image (state.valueOf "PATH".toList) command words.tail with
  | .ok image => execute again image
  | .error (status, message) =>
    let command? := some "exec".toList
    set { ({ state with command? }).complain message with status, command? := state.command? }
    throw .exit

def runExternal (again : Runner) (mode : Mode) (resolved : Resolved) : Action Unit := do
  let state ← get
  let command := resolved.words.headD []
  let searched := resolved.searched?.getD (state.valueOf "PATH".toList)
  match state.image searched command resolved.words.tail with
  | .error (status, message) => set { state.complain message with status }
  | .ok image =>
    if !command.contains '/' then
      set { state with tracked := State.withName command state.tracked }
    if mode.final && !state.hasTraps then execute again image
    else runCopy again (execute again image)

def runMeaning (again : Runner) (mode : Mode) (resolved : Resolved) : Action Unit := do
  match resolved.meaning, resolved.words with
  | .function body, words => runFunction again mode body words.tail
  | .own _, name :: args =>
    if name = "exec".toList && args ≠ [] then runExec again args
    else runNamed again mode resolved.fatal name args
  | .program, _ => runExternal again mode resolved
  | _, _ => modify fun state => { state with status := state.takenStatus }

def runAssigned (again : Runner) (mode : Mode) (before : State) (simple : Simple Word)
    (resolved : Resolved) : Action Unit := do
  let taker := takeOutput again
  let exporting := resolved.words.head? = some "exec".toList && 1 < resolved.words.length
  if !resolved.lasting then modify fun state => { state with hidden := [] :: state.hidden }
  Action.keeping (fun _ after => if resolved.lasting then after else unhideAll after) do
    let assigned ← simple.assignments.mapM fun (name, word) => do
      let value ← expandValue taker word
      if !resolved.lasting then modify fun state => hide state name
      Action.assign name value
      if !resolved.lasting || exporting then
        modify fun state => { state with exported := State.withName name state.exported }
      return (name, value)
    trace taker before assigned resolved.all
    runMeaning again mode resolved

def runSimple (again : Runner) (mode : Mode) (simple : Simple Word) : Action Unit := do
  let taker := takeOutput again
  modify fun state => { state with line := simple.line, takenStatus := 0 }
  let expanding ← expandFirst taker simple.words
  let resolved ← resolve taker true none none (simple.words.length + 1) expanding
  let connections ← simple.redirections.mapM (expandRedirection taker)
  let keeps := resolved.words.head? = some "exec".toList
  let before ← get
  if !(← connecting taker connections keeps (runAssigned again mode before simple resolved)) then
    if resolved.fatal then throw .abort

/-! ### Pipelines -/

/-- What has become of the processes of a pipeline: their endings with their times and numbers, in the
order of the commands. -/
structure Piped where
  ending : Ending
  ended : Nanoseconds
  first : Nat
  last : Nat
  /-- The pipe to which the process writes, if another one reads it. -/
  output? : Option Nat
  written : Nat
  flowing : Bool

def pipeSize : Nat := 65536

/-- How many octets a process writes at first that goes on without end, and at most. -/
def leastFlood : Nat := 262144

def mostFlood : Nat := 16777216

/-- Runs the commands of a pipeline one after another, each from the same time on. For each command it
may be known when the reader of its output ends. -/
def runPiped (again : Runner) (mode : Mode) (start : State) :
    Option Nat → List (Option Closing) → List Command → State → List Piped × State
  | _, _, [], state => ([], state)
  | input?, closings, command :: others, state =>
    let (output?, opened) := if others.isEmpty then (none, state)
      else
        let (pipe, opened) := state.addPipe { Pipe.empty with closing? := closings.head?.join }
        (some pipe, opened)
    let child := { opened with clock := start.clock }.fork
    let connect (stream : Nat) (readable : Bool) (pipe? : Option Nat) (state : State) : State :=
      match pipe? with
      | none => state
      | some pipe =>
        let (number, state) := state.addDescription ⟨.pipe pipe, readable, !readable⟩
        state.connect stream (some number)
    let child := connect 1 false output? (connect 0 true input? child)
    let (ending, inner) := runProcess again (again { mode with final := true } command) child
    let inner := inner.release output?.toList child.process (ending.time? inner.clock)
    let written := output?.elim 0 fun number =>
      ((inner.pipes.lookup number).getD .empty).left.foldl (fun sum chunk =>
        if child.process ≤ chunk.process then sum + chunk.octets.length else sum) 0
    let flowing := ending = .never && pipeSize < written
    let piped : Piped :=
      ⟨ending, inner.clock, child.process, inner.lastProcess, output?, written, flowing⟩
    let (later, state) := runPiped again mode start output? closings.tail others (opened.after inner)
    (piped :: later, state)

/-- Whether a command is a tool, of which nothing more is seen once nobody reads what it writes. -/
def isTool (state : State) : Command → Bool
  | .simple ⟨_, _, [.text name false] :: _, _⟩ =>
    (OrderedMap.get? name state.functions).isNone && (ownKind? name).isNone &&
      (Tool.find? (String.ofList name)).isSome
  | _ => false

/-- When the reader ends of what a process writes, if the process then writes more. -/
def closingOf? (state : State) (tool : Bool) (piped reader : Piped) : Option Closing := do
  let chunks := ((state.pipes.lookup (← piped.output?)).getD .empty).left
  let left := chunks.foldl (fun sum (chunk : Chunk) => sum + chunk.octets.length) 0
  let room := piped.written - left + pipeSize
  if reader.ending = .never then none
  else if chunks.any (fun chunk => reader.ended < chunk.time) || (!tool && room < piped.written) then
    some ⟨reader.ended, room⟩
  else none

/-- The times after which nobody reads what the commands of a pipeline write, with one more of them that
has come to be known, if there is one. -/
def moreClosings? (start after : State) :
    List Command → List Piped → List (Option Closing) → Option (List (Option Closing))
  | command :: commands, piped :: reader :: later, closings =>
    match moreClosings? start after commands (reader :: later) closings.tail with
    | some others => some (closings.head?.join :: others)
    | none =>
      if closings.head?.join.isSome then none
      else (closingOf? after (isTool start command) piped reader).map fun closing =>
        some closing :: closings.tail
  | _, _, _ => none

/-- Runs the commands of a pipeline, again with all that comes to be known about what nobody reads and
about how much is read of what has no end. -/
def runKnowing (again : Runner) (mode : Mode) (commands : List Command) :
    Nat → List (Option Closing) → State → List Piped × State
  | 0, closings, start => runPiped again mode start none closings commands start
  | bound + 1, closings, start =>
    let (piped, after) :=
      runPiped again mode start none closings commands { start with starved := false }
    if after.starved && start.flood < mostFlood && piped.any (·.flowing) then
      runKnowing again mode commands bound closings { start with flood := 8 * start.flood }
    else
      match moreClosings? start after commands piped closings with
      | some closings => runKnowing again mode commands bound closings start
      | none => (piped, after)

/-- Ends processes that never end by themselves if nobody reads what they write. -/
def settlePiped (state : State) : List Piped → List Piped
  | [] => []
  | piped :: later =>
    let later := settlePiped state later
    match later.head?, piped.output? with
    | some reader, some pipe =>
      let chunks := ((state.pipes.lookup pipe).getD .empty).left
      let unread := piped.flowing ||
        chunks.any fun chunk => piped.first ≤ chunk.process && chunk.process ≤ piped.last
      if piped.ending = .never && reader.ending ≠ .never && unread then
        { piped with ending := .signal 13, ended := reader.ended } :: later
      else piped :: later
    | _, _ => piped :: later

/-- Notes the program that a command of a pipeline names, before it runs in a copy of the shell. -/
def State.noteProgram (state : State) : Command → State
  | .simple ⟨_, _, [.text name false] :: _, _⟩ =>
    let known := (OrderedMap.get? name state.functions).isSome || (ownKind? name).isSome
    if isName name && !known && (state.image (state.valueOf "PATH".toList) name []).isOk then
      { state with tracked := State.withName name state.tracked }
    else state
  | _ => state

def runPipe (again : Runner) (mode : Mode) (commands : List Command) : Action Unit := do
  modify fun state => commands.foldl State.noteProgram state
  let start ← get
  let (piped, after) := runKnowing again mode commands (commands.length + 3) [] start
  let piped := settlePiped after piped
  let after := { after with flood := start.flood, starved := start.starved || after.starved }
  let ended := piped.foldl (fun latest one => max latest one.ended) start.clock
  let waits := if start.clock < ended then (start.clock, ended) :: start.waits else start.waits
  set { (start.after after).forget start.nextNumber with clock := ended, waits }
  if piped.any fun one => one.ending = .never then
    Action.receiveSent
    throw .endless
  Action.receiveSent
  piped.forM fun one => Action.await one.ending
  settleSignals again

/-! ### Commands beside the shell -/

def voidPlace : Place := ["dev".toList, "null".toList]

/-- Runs a command beside the shell. It starts at once; the clock of the shell stands still. -/
def runBackground (again : Runner) (command : Command) : Action Unit := do
  let state ← get
  let (description, opened) := state.addDescription ⟨.file voidPlace 0 false, true, false⟩
  let child := opened.fork
  let child := { child.connect 0 (some description) with
    ignored := 2 :: 3 :: child.ignored }
  let held := child.pipesHeld
  let (ending, inner) := runProcess again (again ⟨false, true⟩ command) child
  let own : List Job := state.jobs.filterMap fun process =>
    inner.running.find? fun job => job.process = process
  let number := ((List.range (own.length + 1)).find? fun n =>
    !own.any fun job => job.number = n + 1).getD own.length + 1
  let job : Job :=
    ⟨number, child.process, inner.lastProcess, ending, inner.clock, inner.waits, inner.ignoredSignals⟩
  let after := (state.after inner).release held child.process (ending.time? inner.clock)
  set { after.forget state.nextNumber with
    clock := state.clock
    running := job :: after.running
    jobs := child.process :: state.jobs
    background? := some child.process
    status := 0 }

/-! ### Loops -/

/-- The most rounds of a loop; one that goes on longer is taken to run for ever. -/
def maxRounds : Nat := 100000

/-- What the end of a round means for its loop: whether another round follows, or how the loop ends. -/
def afterRound : Except Flow Unit → Except (Except Flow Unit) Unit
  | .ok () => .ok ()
  | .error (.nextRound loops) =>
    if loops ≤ 1 then .ok () else .error (.error (.nextRound (loops - 1)))
  | .error (.leaveLoop loops) =>
    .error (if loops ≤ 1 then .ok () else .error (.leaveLoop (loops - 1)))
  | .error flow => .error (.error flow)

/-- Runs rounds as long as the condition succeeds, or fails if `negated` holds; `last` is the status of
the round before. -/
def runRounds (condition body : Action Unit) (negated : Bool) :
    Nat → Nat → State → Except Flow Unit × State
  | 0, _, state => (.error .endless, state)
  | rounds + 1, last, state =>
    let (tested, state) := condition.run state
    match afterRound tested with
    | .error result =>
      (result, if result.isOk then { state with status := last } else state)
    | .ok () =>
      if !tested.isOk then runRounds condition body negated rounds last state
      else if (state.status = 0) = (negated = true) then (.ok (), { state with status := last })
      else
        let (done, state) := body.run state
        match afterRound done with
        | .error result => (result, state)
        | .ok () => runRounds condition body negated rounds state.status state

def runEach (name : List Char) (body : Action Unit) :
    List (List Char) → State → Except Flow Unit × State
  | [], state => (.ok (), state)
  | value :: others, state =>
    match (Action.assign name value).run state with
    | (.error flow, state) => (.error flow, state)
    | (.ok (), state) =>
      let (done, state) := body.run state
      match afterRound done with
      | .error result => (result, state)
      | .ok () => runEach name body others state

def inLoop (action : Action Unit) : Action Unit := do
  let loops := (← get).loops
  modify fun state => { state with loops := loops + 1 }
  Action.keeping (fun _ after => { after with loops }) action

/-! ### Compound commands -/

def runCases (again : Runner) (mode : Mode) (subject : List Char) :
    List (List Word × Command) → Action Unit
  | [] => Action.setStatus 0
  | (patterns, command) :: others => do
    let fits ← patterns.foldlM (fun fits word => do
      if fits then return true
      else return Wildcard.fits (← expandPattern (takeOutput again) word) subject) false
    if fits then
      match command with
      | .nothing => Action.setStatus 0
      | command => again mode command
    else runCases again mode subject others

def setLine (line : Nat) : Action Unit := modify fun state => { state with line }

def runKind (again : Runner) (mode : Mode) : Command → Action Unit
  | .nothing => return
  | .simple simple => runSimple again mode simple
  | .sequence first second => do
    again { mode with final := false } first
    again mode second
  | .both first second => do
    again ⟨true, false⟩ first
    if (← get).status = 0 then again mode second
  | .either first second => do
    again ⟨true, false⟩ first
    if (← get).status ≠ 0 then again mode second
  | .negated command => do
    again ⟨true, false⟩ command
    modify fun state => { state with status := if state.status = 0 then 1 else 0 }
  | .pipe commands => runPipe again mode commands
  | .background command => runBackground again command
  | .inner line command => do
    setLine line
    if mode.final && !(← get).hasTraps then again { mode with final := true } command
    else runCopy again (again { mode with final := true } command)
  | .redirected line command redirections => do
    setLine line
    let taker := takeOutput again
    let connections ← redirections.mapM (expandRedirection taker)
    let _ ← connecting taker connections false (again { mode with final := false } command)
  | .choice condition yes no => do
    again ⟨true, false⟩ condition
    if (← get).status = 0 then again mode yes
    else
      match no with
      | .nothing => Action.setStatus 0
      | no => again mode no
  | .loop negated condition body =>
    inLoop (runRounds (again ⟨true, false⟩ condition) (again { mode with final := false } body) negated
      maxRounds 0)
  | .each line name words body => do
    setLine line
    let values ← expandAll (takeOutput again) words
    if values = [] then Action.setStatus 0
    inLoop (runEach name (again { mode with final := false } body) values)
  | .select line word cases => do
    setLine line
    runCases again mode (← expandOne (takeOutput again) word) cases
  | .define line name body =>
    modify fun state =>
      { state with functions := OrderedMap.put name (line, body) state.functions, status := 0 }

def isChecked : Command → Bool
  | .simple _ => true
  | .pipe _ => true
  | .background _ => true
  | .inner _ _ => true
  | _ => false

/-- Runs a command. The number bounds how deep commands are nested; a process that goes deeper has no
memory left for that. -/
def run : Nat → Runner
  | 0, _, _ => throw (.signal 11)
  | depth + 1, mode, command => do
    let again := run depth
    if (← get).isOn "noexec" then
      if mode.final then throw .exit
      return
    settleSignals again
    runKind again mode command
    settleSignals again
    let state ← get
    if state.isOn "errexit" && !mode.tested && state.status ≠ 0 && isChecked command then
      throw .exit
    if mode.final then throw .exit

def maxDepth : Nat := 5000

end Proctor.Machine.Shell

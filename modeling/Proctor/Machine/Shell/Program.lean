import Proctor.Machine.Awk.Launch
import Proctor.Machine.Query.Walk
import Proctor.Machine.Shell.Option
import Proctor.Machine.Shell.Stream
import Proctor.Machine.Tool

/-! Programs: finding them, and running them in the place of a process. A program is a tool, a shell, or a
tool that starts other programs. -/
namespace Proctor.Machine.Shell

/-! ### Finding programs -/

/-- A program that is to run: what it is, the name by which it is called, and its arguments. -/
structure Image where
  program : String
  name : List Char
  args : List (List Char)

def interpreterOf? (octets : List Char) : Option (List Char × List (List Char)) :=
  match octets with
  | '#' :: '!' :: rest =>
    let line := rest.takeWhile (· ≠ '\n')
    let line := ((line.dropWhile isSpace).reverse.dropWhile isSpace).reverse
    let program := line.takeWhile fun c => !isSpace c
    let argument := (line.drop program.length).dropWhile isSpace
    some (program, if argument = [] then [] else [argument])
  | _ => none

/-- The program that a path leads to. The number bounds how many scripts name each other. -/
def imageAt (files : Files) : Nat → (path name : List Char) → List (List Char) → Except Failure Image
  | 0, _, _, _ => .error .tooManyLinks
  | bound + 1, path, name, args => do
    let node ← files.find path
    match node.content with
    | .program program => return ⟨program, name, args⟩
    | .file octets =>
      if node.mode &&& 0o111 = 0 then throw .denied
      match interpreterOf? octets with
      | some (program, arguments) => imageAt files bound program program (arguments ++ path :: args)
      | none => throw .noProgram
    | _ => throw .denied

def shellPath : List Char := "/bin/sh".toList

/-- The program that a path leads to; a file that is no program is a script of the shell, unless its
first line holds a zero. -/
def imageOrScript (files : Files) (path name : List Char) (args : List (List Char)) :
    Except Failure Image :=
  match imageAt files 5 path name args with
  | .error .noProgram =>
    let octets := (files.read path).toOption.getD []
    if (octets.takeWhile (· ≠ '\n')).contains '\x00' then .error .noProgram
    else .ok ⟨"sh", shellPath, path :: args⟩
  | found => found

def isExecutable (node : Node) : Bool :=
  match node.content with
  | .program _ => true
  | .file _ => node.mode &&& 0o111 ≠ 0
  | _ => false

def findIn (files : Files) (name : List Char) :
    Failure → List (List Char) → Except Failure (List Char)
  | failure, [] => .error failure
  | failure, directory :: others =>
    let path := if directory = [] then name else directory ++ '/' :: name
    match files.find path with
    | .ok node => if isExecutable node then .ok path else findIn files name .denied others
    | .error .missing => findIn files name failure others
    | .error .notDirectory => findIn files name failure others
    | .error other => findIn files name other others

def findProgram (files : Files) (searched name : List Char) : Except Failure (List Char) :=
  if name.contains '/' then .ok name
  else findIn files name .missing (Text.fields ':' searched)

/-- Why a program does not run, in the words of a shell. -/
def notRunnable (failure : Failure) : String :=
  if failure = .missing || failure = .notDirectory then "not found" else failure.reason

/-- The program that a command of a shell stands for; a status and a complaint if there is none. -/
def State.image (state : State) (searched command : List Char) (args : List (List Char)) :
    Except (Nat × String) Image :=
  let complaint (failure : Failure) : String := s!"{String.ofList command}: {notRunnable failure}"
  match findProgram state.files searched command with
  | .error failure => .error (127, complaint failure)
  | .ok path =>
    match imageOrScript state.files path command args with
    | .ok image => .ok image
    | .error failure =>
      let absent := [.missing, .notDirectory, .nameTooLong, .tooManyLinks].contains failure
      .error (if absent then 127 else 126, complaint failure)

/-! ### Variables -/

def tablePart (parts : Nat) (name : List Char) : Nat :=
  name.foldl (fun sum c => sum + c.toNat) ((name.head?.map fun c => c.toNat * 16).getD 0) % parts

def variableOrder : List Char → Nat := tablePart 39

def programOrder : List Char → Nat := tablePart 31

def State.programVariables (state : State) : List (List Char × List Char) :=
  state.environment.mergeSort fun a b => variableOrder a.1 ≤ variableOrder b.1

def State.renewed (state : State) (name : List Char)
    (environment : List (List Char × List Char)) : State :=
  { state with
    name
    line := 0
    linesRead := 0
    command? := none
    root := state.process
    parameters := []
    bindings := environment
    exported := environment.map (·.1)
    readOnly := []
    hidden := []
    functions := []
    aliases := []
    traps := []
    ignored := state.ignoredSignals
    saved? := none
    caught := []
    options := []
    status := 0
    takenStatus := 0
    background? := none
    jobs := []
    loops := 0
    calls := 0
    optionIndex := 1
    optionOffset? := none
    directory := Files.pathOf state.files.current
    tracked := []
    documents := []
    numbered := 0
    tracing := false }

/-! ### Tools -/

def State.nodeOf? (state : State) (stream : Nat) : Option Node :=
  (state.description? stream).map fun (_, description) =>
    match description.opened with
    | .pipe _ => ⟨.pipe, 0o600, 0⟩
    | .file place _ _ => (state.files.node? place).getD ⟨.file [], Files.fileMode, 0⟩

def State.callOf (state : State) (image : Image) : Call where
  label := s!"{String.ofList image.name}: "
  name := String.ofList image.name
  args := image.args
  input? stream :=
    match state.left stream with
    | .ok (chunks, _) => some (.ok (chunks.flatMap (·.octets)))
    | .error .notOpen => none
    | .error failure => some (.error failure)
  stream? := state.nodeOf?
  files := state.files
  environment := state.environment
  mask := state.mask
  flood := state.flood

def outputBlock : Nat := 4096

def outputRefused (image : Image) (size : Nat) (failure : Failure) : String × Nat :=
  let label := s!"{String.ofList image.name}: "
  let reason := failure.reason
  let usual := s!"{label}write error: {reason}\n"
  let closed := failure = .notOpen
  let bare := if closed then usual else s!"{label}write error\n"
  let large := outputBlock < size
  match image.program with
  | "cat" => (if closed then s!"{label}standard output: {reason}\n" else usual, 1)
  | "yes" => (s!"{label}standard output: {reason}\n", 1)
  | "tee" => (s!"{label}'standard output': {reason}\n", 1)
  | "head" => (if large then s!"{label}error writing 'standard output': {reason}\n" else usual, 1)
  | "tail" => (if large then s!"{label}error writing 'standard output': {reason}\n" else usual, 1)
  | "sort" =>
    let act := if large then "write" else "fflush"
    (s!"{label}{act} failed: 'standard output': {reason}\n" ++
      (if large then bare else s!"{label}write error\n"), 2)
  | "find" => (s!"{label}'standard output': {reason}\n" ++ bare, 1)
  | "sed" =>
    let act := if closed then "close" else "flush"
    (s!"{label}couldn't {act} stdout: {reason}\n", 4)
  | "diff" => (s!"{label}standard output: {reason}\n", 2)
  | "wc" => (bare, 1)
  | "md5sum" => (bare, 1)
  | "sha1sum" => (bare, 1)
  | "sha256sum" => (bare, 1)
  | "cksum" => (bare, 1)
  | "env" => (usual, 125)
  | "nice" => (usual, 125)
  | "expr" => (usual, 3)
  | "printenv" => (usual, 2)
  | "grep" => (usual, 2)
  | "egrep" => (usual, 2)
  | "fgrep" => (usual, 2)
  | "ls" => (usual, 2)
  | _ => (usual, 1)

/-- Writes what a tool has written to streams: whether the output could not be written. Then, `refused`,
no more of it is. -/
def writeAll (image : Image) (size : Nat) (refused : Bool) : List (Nat × List Char) → Action Bool
  | [] => return refused
  | (stream, octets) :: others => do
    if refused && stream = 1 then writeAll image size refused others
    else
      match ← Action.write stream octets with
      | none => writeAll image size refused others
      | some failure =>
        if stream = 1 then
          let (message, status) := outputRefused image size failure
          modify fun state => { state.tell 2 message with status }
        writeAll image size (refused || stream = 1) others

/-- The written octets in the pieces in which they were read, with the times of those, if a tool has only
copied them to its output. -/
def copiedPieces? (chunks : List Chunk) (written : List (Nat × List Char)) : Option (List Chunk) :=
  match written with
  | [(1, octets)] =>
    if 1 < chunks.length && chunks.flatMap (·.octets) = octets then some chunks else none
  | _ => none

def writePieces (image : Image) (pieces : List Chunk) : Action Unit := do
  let state ← get
  pieces.forM fun piece => do
    modify fun state => { state with clock := max state.clock piece.time }
    let _ ← writeAll image piece.octets.length false [(1, piece.octets)]
  modify fun after => { after with clock := state.clock }

def gathers (image : Image) : Bool :=
  ["cksum", "md5sum", "sha1sum", "sha256sum", "sort", "tac", "wc"].contains image.program ||
    image.program = "tail" && !image.args.any fun word => word.contains '+'

/-- Runs a tool in the place of the process, and gives what it has found out unless it stopped. -/
def runTool {α : Type} (image : Image) (tool : Tool α) : Action (Option α) := do
  let state ← get
  let work : Work := ⟨state.callOf image, [], 0, state.files, 0, .nothing, false, false⟩
  let (result, work) := tool.run.run work
  let all := work.taken = .all
  let input : List Chunk × Option Nanoseconds :=
    if all then (state.left 0).toOption.getD ([], some 0) else ([], some 0)
  let after : State := { state with files := work.files, status := work.status }
  let after := match work.taken with
    | .nothing => after
    | .some count block => if count = 0 then after else after.take 0 count block
    | .all => after.take 0 (input.1.foldl (fun sum (chunk : Chunk) => sum + chunk.octets.length) 0) 0
  let ended? := input.2
  let clock := max after.clock (ended?.getD 0) + work.time
  let endless := work.endless || ended?.isNone
  let after := { after with clock, starved := after.starved || (work.starved && input.2.isNone) }
  let fatal? := (Action.unnoticed after).find? fun sent =>
    (endless || sent.time < clock) && !isHarmless sent.signal &&
      state.trap? sent.signal ≠ some []
  match fatal? with
  | some sent =>
    set { state with clock := max state.clock sent.time }
    throw (.signal sent.signal)
  | none =>
    set after
    let written := work.written.reverse
    let written :=
      if endless && gathers image then written.filter (·.1 ≠ 1) else written
    match copiedPieces? input.1 written with
    | some pieces =>
      modify fun after => { after with clock := state.clock }
      writePieces image pieces
      modify fun after => { after with clock }
      if endless then throw .endless
    | none =>
      let size := written.foldl (fun sum (stream, octets) =>
        if stream = 1 then sum + octets.length else sum) 0
      let refused ← writeAll image size false written
      if endless && !refused then throw .endless
    return result.toOption

/-! ### Shells -/

def shellNames : List String := ["sh", "dash", "bash"]

/-- The path of the current directory for a new shell: the one that it is told, if that is right. -/
def startDirectory (state : State) : List Char :=
  let current := Files.pathOf state.files.current
  match OrderedMap.get? "PWD".toList state.environment with
  | some path =>
    if path.head? = some '/' && (state.files.resolve path).toOption = some state.files.current then
      path
    else current
  | none => current

def startVariables (state : State) : List (List Char × List Char) :=
  let given := state.environment.filter fun (name, _) => isName name
  let always := [("PS4", "+ "), ("PS2", "> "), ("PS1", "# "), ("OPTIND", "1"),
      ("PATH", "/usr/local/sbin:/usr/local/bin:/usr/sbin:/usr/bin:/sbin:/bin"),
      ("IFS", " \t\n")].map fun (name, value) => (name.toList, value.toList)
  let parent := state.ancestors.headD 1
  let fixed := [("IFS".toList, " \t\n".toList), ("OPTIND".toList, ['1']),
    ("PPID".toList, digitsOf 10 parent), ("PWD".toList, startDirectory state)]
  OrderedMap.ofPairs (always ++ given ++ fixed)

def runInput (again : Runner) : Action Unit := do
  let state ← get
  match state.left 0 with
  | .error _ => return
  | .ok (chunks, ended?) =>
    let octets := chunks.flatMap (·.octets)
    let after := state.take 0 octets.length 0
    set { after with clock := max after.clock (ended?.getD 0) }
    runText again ⟨false, false⟩ (octets.filter (· ≠ '\x00'))

def runScript (again : Runner) (path : List Char) : Action Unit := do
  let state ← get
  match state.files.read path with
  | .ok octets =>
    modify fun state => { state with name := path }
    runText again ⟨false, false⟩ (octets.filter (· ≠ '\x00'))
  | .error .isDirectory => modify fun state => { state with name := path }
  | .error failure => Action.refuse (cannotOpen path failure)

def runShell (again : Runner) (args : List (List Char)) : Action Unit := do
  modify fun state =>
    let bindings := startVariables state
    let exported := (state.exported.filter isName) ++ ["PWD".toList]
    { state with bindings, exported, directory := startDirectory state }
  let found ← setOptions true (args.length + 1) args
  let state ← get
  match found.commands, found.rest with
  | true, [] => Action.refuse "-c requires an argument"
  | true, text :: rest =>
    let (name, parameters) := match rest with
      | [] => (state.name, [])
      | name :: parameters => (name, parameters)
    set { state with name, parameters }
    runText again ⟨false, !state.isOn "stdin"⟩ text
    if state.isOn "stdin" then runInput again
  | false, [] =>
    set (state.withOption "stdin" true)
    runInput again
  | false, first :: rest =>
    if state.isOn "stdin" then
      set { state with parameters := first :: rest }
      runInput again
    else
      set { state with parameters := rest }
      runScript again first

/-! ### Programs that start others -/

def searchedIn (environment : List (List Char × List Char)) : List Char :=
  (environment.lookup "PATH".toList).getD "/bin:/usr/bin".toList

def launchImage (files : Files) (launch : Launch) : Except Failure Image := do
  let files := match launch.directory? with
    | some place => { files with current := place }
    | none => files
  let command := launch.words.headD []
  let path ← findProgram files (searchedIn launch.environment) command
  imageOrScript files path command launch.words.tail

def State.launched (state : State) (launch : Launch) (image : Image) : State :=
  let files := match launch.directory? with
    | some place => { state.files with current := place }
    | none => state.files
  { state with files }.renewed image.name launch.environment

def unableStatus (failure : Failure) : Nat :=
  if failure = .missing || failure = .notDirectory then 127 else 126

def runLimited (again : Runner) (limit : Limit) (name : List Char) (action : Action Unit) :
    Action Unit := do
  let state ← get
  let deadline := state.clock + limit.time
  let process := state.lastProcess + 1
  let (ending, inner) := runProcess again action state.fork
  if ending ≠ .never && inner.clock ≤ deadline then
    set ((state.after inner).forget state.nextNumber)
    match ending with
    | .signal number => throw (.signal number)
    | ending => Action.setStatus ending.statusOf
  else
    let signals := ⟨process, limit.signal, deadline, true⟩ ::
      (limit.killed?.map fun more => ⟨process, 9, deadline + more, true⟩).toList
    let (ending, inner) :=
      runProcess again action ({ state with sent := state.sent ++ signals }).fork
    let after := (state.after inner).forget state.nextNumber
    let after := { after with sent := state.sent }
    let after := match ending with
      | .signal _ => { after.cutAfter process inner.lastProcess inner.clock with clock := inner.clock }
      | _ => after
    let after := if limit.announced then
        after.tell 2 (s!"timeout: sending signal {signalName limit.signal} to command " ++
          Quoting.text name ++ "\n")
      else after
    set after
    if ending = .never then throw .endless
    if ending = .signal 9 then throw (.signal 9)
    Action.setStatus (if limit.preserved then ending.statusOf else 124)

def launches : List (String × Tool (Option Launch)) :=
  [("env", Tool.env), ("nice", Tool.nice), ("nohup", Tool.nohup), ("setsid", Tool.setsid),
    ("stdbuf", Tool.stdbuf), ("timeout", Tool.timeout signal?)]

def batches : List (String × Tool (Option Batch)) := [("xargs", Tool.xargs)]

/-- Runs the programs of a batch one after another, as long as none asks for an end. -/
def runBatch (run : List (List Char) → Action Unit) (shown : Bool) :
    List (List (List Char)) → Action Unit
  | [] => return
  | words :: others => do
    if shown then modify fun state => state.tell 2 (String.ofList (Tool.spaced words) ++ "\n")
    let before := (← get).status
    run words
    let status := (← get).status
    if 123 < status then return
    Action.setStatus (if status = 0 then before else 123)
    runBatch run shown others

/-- Runs one program of a batch: its status is 124 after a program that asks for an end, 125 after one
that a signal ended, and 126 or 127 if it cannot be run. -/
def runOneOf (again : Runner) (run : Image → Action Unit) (words : List (List Char)) :
    Action Unit := do
  let state ← get
  let launch : Launch := ⟨words, state.environment, none, none, fun failure =>
    s!"{String.ofList (words.headD [])}: {failure.reason}"⟩
  match launchImage state.files launch with
  | .error failure =>
    set { state.tell 2 s!"xargs: {launch.complaint failure}\n" with status := unableStatus failure }
  | .ok image =>
    let child := state.fork.connect 0 none
    let (description, child) := child.addDescription ⟨.file ["dev".toList, "null".toList] 0 false, true, false⟩
    let child := child.connect 0 (some description)
    let (ending, inner) := runProcess again (do
      modify fun state => state.launched launch image
      run image) child
    let after := (state.after inner).forget state.nextNumber
    let name := String.ofList (words.headD [])
    match ending with
    | .status 255 =>
      set { after.tell 2 s!"xargs: {name}: exited with status 255; aborting\n" with status := 124 }
    | .status status => set { after with status := min status 123 }
    | .signal number =>
      set { after.tell 2 s!"xargs: {name}: terminated by signal {number}\n" with status := 125 }
    | .never =>
      set after
      throw .endless

def askerName : String := "find"

def askerMeans (again : Runner) (run : Image → Action Unit) (image : Image) : Query.Means where
  print octets := do
    let _ ← writeAll image octets.length false [(1, octets)]
  run words directory? := do
    let state : State ← get
    let before := state.status
    let launch : Launch := ⟨words, state.environment, directory?, none, fun failure =>
      s!"{Quoting.text (words.headD [])}: {failure.reason}"⟩
    match launchImage state.files launch with
    | .error failure =>
      set (state.tell 2 s!"find: {launch.complaint failure}\n")
      return false
    | .ok next =>
      let (ending, inner) := runProcess again (do
        modify fun state => state.launched launch next
        run next) state.fork
      let current := state.files.current
      let after := (state.after inner).forget state.nextNumber
      set { after with status := before, files := { after.files with current } }
      Action.receiveSent
      match ending with
      | .status status => return status = 0
      | .signal number =>
        let name := Quoting.text (words.headD [])
        modify fun state => state.tell 2 s!"find: {name} terminated by signal {number}\n"
        return false
      | .never => throw .endless

def scannerNames : List String := ["awk", "mawk"]

/-- Runs a command of a new shell with a name as a process of its own, and forgets the streams of it. -/
def runCommandText (again : Runner) (name command : List Char) (child before : State) :
    Action (Ending × State) := do
  let (ending, inner) := runProcess again (do
    modify fun state => state.renewed name state.programVariables
    runShell again ["-c".toList, command]) child
  set ((before.after inner).forget before.nextNumber)
  Action.receiveSent
  return (ending, inner)

def commandStatus (ending : Ending) : Action Nat :=
  match ending with
  | .status status => return status
  | .signal number => return 256 + number
  | .never => throw .endless

def scannerCommands (again : Runner) : Awk.Commands where
  run command := do
    let state : State ← get
    let (ending, _) ← runCommandText again "sh".toList command state.fork state
    commandStatus ending
  feed command octets := do
    let state : State ← get
    let (pipe, opened) := state.addPipe (.holding ⟨state.clock, state.process, octets⟩)
    let (description, opened) := opened.addDescription ⟨.pipe pipe, true, false⟩
    let child := opened.fork.connect 0 (some description)
    let (ending, _) ← runCommandText again shellPath command child state
    commandStatus ending
  output command := do
    let state : State ← get
    let (pipe, opened) := state.addPipe .empty
    let (description, opened) := opened.addDescription ⟨.pipe pipe, false, true⟩
    let child := opened.fork.connect 1 (some description)
    let (ending, inner) ← runCommandText again shellPath command child state
    let inner := inner.release [pipe] inner.process (ending.time? inner.clock)
    let taken := (inner.pipes.lookup pipe).getD .empty
    let clock := max inner.clock (taken.ended?.getD 0)
    modify fun state => { state with clock }
    let status ← match ending with
      | .never => pure 0
      | ending => commandStatus ending
    return (taken.left.flatMap (·.octets), status, taken.ended?.isSome)

/-- Runs a program in the place of the process, whose variables are set already. The number bounds how
many programs start one another. -/
def runImage (again : Runner) : Nat → Image → Action Unit
  | 0, _ => throw .endless
  | bound + 1, image => do
    if shellNames.contains image.program then runShell again image.args
    else if scannerNames.contains image.program then
      Awk.launch (scannerCommands again) image.name image.args
    else if let some tool := launches.lookup image.program then
      let some (some launch) ← runTool image tool | return
      let state ← get
      match launchImage state.files launch with
      | .error failure =>
        let message := s!"{String.ofList image.name}: {launch.complaint failure}\n"
        set { state.tell 2 message with status := unableStatus failure }
      | .ok next =>
        let start : Action Unit := do
          modify fun state => state.launched launch next
          runImage again bound next
        match launch.limit? with
        | none => start
        | some limit => runLimited again limit (launch.words.headD []) start
    else if image.program = askerName then
      let some (paths, plan, query) ← runTool image Query.request | return
      Action.setStatus 0
      Query.answer (askerMeans again (runImage again bound) image) paths plan query
    else if let some tool := batches.lookup image.program then
      let some (some batch) ← runTool image tool | return
      Action.setStatus 0
      runBatch (runOneOf again (runImage again bound)) batch.shown batch.lists
    else if let some tool := Tool.find? image.program then
      let _ ← runTool image tool
    else Action.setStatus 127

def maxLaunches : Nat := 100

def execute (again : Runner) (image : Image) : Action Unit := fun state =>
  let start := state.renewed image.name state.programVariables
  let (ending, after) := runProcess again (runImage again maxLaunches image) start
  let after := { after with traps := [] }
  match ending with
  | .status status => (.error .exit, { after with status })
  | .signal number => (.error (.signal number), after)
  | .never => (.error .endless, after)

end Proctor.Machine.Shell

import Proctor.Machine.Shell.Job
import Proctor.Machine.Shell.Program
import Proctor.Machine.Tool.Condition

/-! The commands that are part of a shell. -/
namespace Proctor.Machine.Shell

/-! ### Control -/

def runExit (args : List (List Char)) : Action Unit := do
  match args with
  | [] => modify fun state => { state with status := state.saved?.getD state.status }
  | text :: _ => Action.setStatus (← numberIn text)
  throw .exit

def runReturn (args : List (List Char)) : Action Unit := do
  match args with
  | [] => pure ()
  | text :: _ => Action.setStatus (← numberIn text)
  throw .leaveFunction

def runLeaving (flow : Nat → Flow) (args : List (List Char)) : Action Unit := do
  let count ← match args with
    | [] => pure 1
    | text :: _ => do
      let count ← numberIn text
      if count = 0 then Action.refuse s!"Illegal number: {String.ofList text}"
      pure count
  Action.setStatus 0
  let loops := min count (← get).loops
  if loops ≠ 0 then throw (flow loops)

/-! ### Directories -/

/-- The parts of a path one after another, without those that dots take back. -/
def pathParts (parts : List (List Char)) : List (List Char) :=
  (parts.foldl (fun found part =>
    if part = [] || part = ['.'] then found
    else if part = ['.', '.'] then found.tail
    else part :: found) []).reverse

def pathFrom (directory path : List Char) : List Char :=
  let whole := if path.head? = some '/' then path else directory ++ '/' :: path
  let double := match whole with
    | '/' :: '/' :: '/' :: _ => false
    | '/' :: '/' :: _ => path.head? = some '/' || directory.head? = some '/' && directory.length ≠ 1
    | _ => false
  let start : List Char := if double then ['/', '/'] else ['/']
  start ++ ['/'].intercalate (pathParts (Text.fields '/' whole))

/-- Makes a directory the current one, by its text or, if `physical` holds, by its place: whether that is
possible. -/
def enter (physical : Bool) (path : List Char) : Action Bool := do
  let state ← get
  let wanted := if physical then path else pathFrom state.directory path
  match state.files.resolve wanted with
  | .error _ => return false
  | .ok place =>
    match state.files.content? place with
    | some .directory =>
      let directory := if physical then Files.pathOf place else wanted
      let old := state.directory
      set { state with
        files := { state.files with current := place }, directory
        exported := State.withName "OLDPWD".toList (State.withName "PWD".toList state.exported) }
      Action.assign "OLDPWD".toList old
      Action.assign "PWD".toList directory
      return true
    | _ => return false

/-- Whether the place of a directory counts, not the text of its path. -/
def isPhysical (options : List (Char × List Char)) : Bool :=
  (options.getLast?).any (·.1 == 'P')

def isAnchored (path : List Char) : Bool :=
  match Text.fields '/' path with
  | [] :: _ :: _ => true
  | ['.'] :: _ => true
  | ['.', '.'] :: _ => true
  | _ => false

def runCd (args : List (List Char)) : Action Unit := do
  let (options, rest) ← optionsOf "LP" "" args
  let state ← get
  let physical := isPhysical options
  let back := rest.head? = some ['-']
  let wanted := match rest.head? with
    | none => state.valueOf "HOME".toList
    | some path => if back then state.valueOf "OLDPWD".toList else path
  let searched := match state.value? "CDPATH".toList with
    | some directories =>
      if isAnchored wanted then [] else (Text.fields ':' directories).filter fun directory =>
        let path := if directory = [] then wanted else directory ++ '/' :: wanted
        state.files.isDirectory path
    | none => []
  let wanted := if wanted = [] then ['.'] else wanted
  let (path, shown) : List Char × Bool := match searched with
    | [] => (wanted, back)
    | [] :: _ => (wanted, back)
    | directory :: _ => (directory ++ '/' :: wanted, true)
  if ← enter physical path then
    Action.setStatus 0
    if shown then Action.setStatus (← Action.print ((← get).directory ++ ['\n']))
  else
    let given := if wanted = ['.'] then rest.headD ['.'] else wanted
    Action.refuse s!"can't cd to {String.ofList given}"

def runPwd (args : List (List Char)) : Action Unit := do
  let (options, _) ← optionsOf "LP" "" args
  let state ← get
  let path := if isPhysical options then Files.pathOf state.files.current else state.directory
  Action.setStatus (← Action.print (path ++ ['\n']))

/-! ### Permissions -/

def permissionLetters (bits : Nat) : List Char :=
  (if bits &&& 4 ≠ 0 then ['r'] else []) ++ (if bits &&& 2 ≠ 0 then ['w'] else []) ++
    if bits &&& 1 ≠ 0 then ['x'] else []

def permissionBits? (mode : Nat) (letters : List Char) : Option Nat :=
  letters.foldlM (fun bits letter =>
    match letter with
    | 'r' => some (bits ||| 0o444)
    | 'w' => some (bits ||| 0o222)
    | 'x' => some (bits ||| 0o111)
    | 'X' => some (if mode &&& 0o111 ≠ 0 then bits ||| 0o111 else bits)
    | 'u' => some (bits ||| (mode / 64 % 8) * 0o111)
    | 'g' => some (bits ||| (mode / 8 % 8) * 0o111)
    | 'o' => some (bits ||| (mode % 8) * 0o111)
    | _ => none) 0

/-- Changes permissions as text such as `u+rw` tells; the number bounds its signs. -/
def changePermissions? (whose : Nat) : Nat → Nat → List Char → Option Nat
  | 0, _, _ => none
  | _, mode, [] => some mode
  | bound + 1, mode, sign :: rest => do
    let letters := rest.takeWhile fun c => !"+-=".toList.contains c
    let bits := (← permissionBits? mode letters) &&& whose
    let mode ← match sign with
      | '+' => some (mode ||| bits)
      | '-' => some (mode &&& (0o777 ^^^ bits))
      | '=' => some ((mode &&& (0o777 ^^^ whose)) ||| bits)
      | _ => none
    changePermissions? whose bound mode (rest.drop letters.length)

def permissions? (mode : Nat) (text : List Char) : Option Nat :=
  (Text.fields ',' text).foldlM (fun mode clause =>
    let who := clause.takeWhile fun c => "ugoa".toList.contains c
    let whose := who.foldl (fun bits c =>
      match c with
      | 'u' => bits ||| 0o700
      | 'g' => bits ||| 0o070
      | 'o' => bits ||| 0o007
      | _ => 0o777) 0
    let rest := clause.drop who.length
    if rest = [] then none
    else changePermissions? (if who = [] then 0o777 else whose) (rest.length + 1) mode rest) mode

/-- Sets the permissions that new files do not have, or shows them. -/
def runUmask (args : List (List Char)) : Action Unit := do
  let (options, rest) ← optionsOf "S" "" args
  let mask := (← get).mask
  match rest with
  | [] =>
    let allowed := 0o777 ^^^ mask
    let text := if options = [] then padded 4 (digitsOf 8 mask)
      else 'u' :: '=' :: permissionLetters (allowed / 64) ++
        ',' :: 'g' :: '=' :: permissionLetters (allowed / 8) ++
        ',' :: 'o' :: '=' :: permissionLetters allowed
    Action.setStatus (← Action.print (text ++ ['\n']))
  | text :: _ =>
    if text.head?.any isDecimalDigit then
      if text.all fun c => '0' ≤ c && c ≤ '7' then
        modify fun state => { state with mask := ofDigits 8 text % 512, status := 0 }
      else Action.refuse s!"Illegal number: {String.ofList text}"
    else
      match permissions? (0o777 ^^^ mask) text with
      | some allowed => modify fun state => { state with mask := 0o777 ^^^ allowed, status := 0 }
      | none => Action.refuse s!"Illegal mode: {String.ofList text}"

def runUlimit (args : List (List Char)) : Action Unit := do
  let (options, rest) ← optionsOf "HSatfdscmlpnvwr" "" args
  let kind := ((options.map (·.1)).filter fun c => c ≠ 'H' && c ≠ 'S').getLast?
  match rest with
  | text :: _ =>
    if text = "unlimited".toList || (text ≠ [] && text.all isDecimalDigit) then Action.setStatus 0
    else Action.refuse "bad number"
  | [] =>
    let shown := match kind with
      | some 'n' => "20000"
      | some 'c' => "0"
      | some 's' => "8192"
      | _ => "unlimited"
    Action.setStatus (← Action.print (shown.toList ++ ['\n']))

/-! ### Aliases -/

def runAlias (args : List (List Char)) : Action Unit := do
  let line (entry : List Char × List Char) : List Char :=
    entry.1 ++ '=' :: quotedText entry.2 ++ ['\n']
  match args with
  | [] =>
    let sorted := (← get).aliases.mergeSort fun a b => variableOrder a.1 ≤ variableOrder b.1
    Action.setStatus (← Action.print (sorted.flatMap line))
  | args =>
    Action.setStatus 0
    args.forM fun arg => do
      match assignmentOf arg with
      | (name, some value) =>
        modify fun state => { state with aliases := OrderedMap.put name value state.aliases }
      | (name, none) =>
        match OrderedMap.get? name (← get).aliases with
        | some value => let _ ← Action.print (line (name, value))
        | none =>
          modify fun state =>
            { state.tell 2 s!"alias: {String.ofList name} not found\n" with status := 1 }

def runUnalias (args : List (List Char)) : Action Unit := do
  let (options, names) ← optionsOf "a" "" args
  Action.setStatus 0
  if options ≠ [] then modify fun state => { state with aliases := [] }
  else
    names.forM fun name => do
      let state ← get
      if (OrderedMap.get? name state.aliases).isSome then
        set { state with aliases := OrderedMap.erase name state.aliases }
      else set { state.tell 2 s!"unalias: {String.ofList name} not found\n" with status := 1 }

/-! ### Tools within the shell -/

def runWithin (tool : Tool Unit) (args : List (List Char)) : Action Unit := do
  let state ← get
  let name := String.ofList (state.command?.getD [])
  let call : Call := ⟨state.label, name, args, fun _ => none, state.nodeOf?,
    state.files, [], state.mask, state.flood⟩
  let (_, work) := tool.run.run ⟨call, [], 0, state.files, 0, .nothing, false, false⟩
  let failures ← work.written.reverse.mapM fun (stream, octets) => do
    if stream = 1 then Action.print octets
    else
      modify fun state => state.tell stream (String.ofList octets)
      return 0
  Action.setStatus (if failures.any (· ≠ 0) then max 1 work.status else work.status)

def runTest (args : List (List Char)) : Action Unit := do
  let state ← get
  let bracket := state.command? = some ['[']
  if bracket && args.getLast? ≠ some [']'] then Action.refuse "missing ]"
  let words := if bracket then args.dropLast else args
  let call := state.callOf ⟨"test", [], []⟩
  let reading : Tool.Condition.Reading := {
    look := fun follow path => (Tool.nodeAt call state.files follow path).toOption
    integer := fun text =>
      match integer? true text with
      | some n => .ok n
      | none => .error s!"Illegal number: {String.ofList text}"
    operators := "<" :: ">" :: Tool.Condition.operators }
  match Tool.Condition.Shell.holds reading words with
  | .ok true => Action.setStatus 0
  | .ok false => Action.setStatus 1
  | .error message => Action.refuse message

/-! ### Scripts -/

def runEval (again : Runner) (mode : Mode) (args : List (List Char)) : Action Unit := do
  match args with
  | [] => Action.setStatus 0
  | args => runText again { mode with final := false } (Tool.spaced args)

def findScript (state : State) (name : List Char) : Option (List Char) :=
  if name.contains '/' then some name
  else
    (Text.fields ':' (state.valueOf "PATH".toList)).findSome? fun directory =>
      let path := if directory = [] then name else directory ++ '/' :: name
      if state.files.isFile path then some path else none

def runDot (again : Runner) (args : List (List Char)) : Action Unit := do
  let (_, rest) ← optionsOf "" "" args
  match rest with
  | [] => Action.setStatus 0
  | name :: _ =>
    let state ← get
    match findScript state name with
    | none => Action.refuse s!"{String.ofList name}: not found"
    | some path =>
      match state.files.read path with
      | .error .isDirectory => Action.setStatus 0
      | .error failure => Action.refuse (cannotOpen path failure)
      | .ok octets =>
        set { state with command? := some path }
        try runText again ⟨false, false⟩ (octets.filter (· ≠ '\x00'))
        catch
          | .leaveFunction => return
          | flow => throw flow

/-! ### Descriptions of commands -/

/-- What kind of command of the shell a name stands for. -/
inductive OwnKind where
  | special
  | regular
deriving DecidableEq, Repr

def regularCommands : List String :=
  ["[", "alias", "bg", "cd", "chdir", "command", "echo", "false", "fg", "getopts", "hash", "jobs",
    "kill", "printf", "pwd", "read", "test", "true", "type", "ulimit", "umask", "unalias", "wait"]

def ownKind? (name : List Char) : Option OwnKind :=
  let name := String.ofList name
  if specialCommands.contains name then some .special
  else if regularCommands.contains name then some .regular
  else none

def programPath? (searched name : List Char) : Action (Option (List Char × Bool)) := do
  let state ← get
  if name.contains '/' then
    return if state.files.exists? name then some (name, false) else none
  else
    match findProgram state.files searched name with
    | .error _ => return none
    | .ok path =>
      let known := state.tracked.contains name
      set { state with tracked := State.withName name state.tracked }
      return some (path, known)

/-- Tells what a name stands for as a command: at length, or just enough to run it. -/
def describe (long : Bool) (searched name : List Char) : Action Nat := do
  let state ← get
  let say (text : String) : Action Nat :=
    Action.print ((if long then name ++ text.toList else name) ++ ['\n'])
  if reservedWords.contains (String.ofList name) then say " is a shell keyword"
  else if let some value := OrderedMap.get? name state.aliases then
    if long then say s!" is an alias for {String.ofList value}"
    else Action.print ("alias ".toList ++ name ++ '=' :: quotedText value ++ ['\n'])
  else if (OrderedMap.get? name state.functions).isSome then say " is a shell function"
  else
    match ownKind? name with
    | some .special => say " is a special shell builtin"
    | some .regular => say " is a shell builtin"
    | none =>
      match ← programPath? searched name with
      | some (path, known) =>
        let how := if known then " a tracked alias for" else ""
        if long then say s!" is{how} {String.ofList path}"
        else Action.print (path ++ ['\n'])
      | none =>
        if long then
          let _ ← Action.print (name ++ ": not found\n".toList)
        return 127

def runType (args : List (List Char)) : Action Unit := do
  let searched := (← get).valueOf "PATH".toList
  let results ← args.mapM (describe true searched)
  Action.setStatus (results.foldl (· ||| ·) 0)

/-- The directories in which programs are looked for unless others are set. -/
def standardPath : List Char := "/usr/local/sbin:/usr/local/bin:/usr/sbin:/usr/bin:/sbin:/bin".toList

/-- Tells what a name stands for, if an option asks for that. -/
def runCommandWord (args : List (List Char)) : Action Unit := do
  let (options, rest) ← optionsOf "pvV" "" args
  let letters := options.map (·.1)
  let state ← get
  let searched := if letters.contains 'p' then standardPath else state.valueOf "PATH".toList
  match rest with
  | name :: _ =>
    if letters.contains 'V' then Action.setStatus (← describe true searched name)
    else if letters.contains 'v' then Action.setStatus (← describe false searched name)
    else Action.setStatus 0
  | [] => Action.setStatus 0

def runHash (args : List (List Char)) : Action Unit := do
  let (options, names) ← optionsOf "r" "" args
  let searched := (← get).valueOf "PATH".toList
  Action.setStatus 0
  if options.any (·.1 == 'r') then modify fun state => { state with tracked := [] }
  else if names = [] then
    let state ← get
    let sorted := state.tracked.mergeSort fun a b => programOrder a ≤ programOrder b
    let paths := sorted.filterMap fun name =>
      (findProgram state.files searched name).toOption
    Action.setStatus (← Action.print (Octets.ofLines paths))
  else
    names.forM fun name => do
      if (ownKind? name).isNone && (← programPath? searched name).isNone then
        Action.complain s!"{String.ofList name}: not found"
        Action.setStatus 1

/-! ### The table -/

def runOwn (again : Runner) (mode : Mode) (name : String) (args : List (List Char)) : Action Unit :=
  match name with
  | ":" => Action.setStatus 0
  | "true" => Action.setStatus 0
  | "false" => Action.setStatus 1
  | "." => runDot again args
  | "eval" => runEval again mode args
  | "exec" => Action.setStatus 0
  | "exit" => runExit args
  | "return" => runReturn args
  | "break" => runLeaving .leaveLoop args
  | "continue" => runLeaving .nextRound args
  | "export" => runExport args
  | "readonly" => runReadonly args
  | "local" => runLocal args
  | "unset" => runUnset args
  | "set" => runSet args
  | "shift" => runShift args
  | "read" => runRead args
  | "getopts" => runGetopts args
  | "trap" => runTrap args
  | "kill" => runKill args
  | "wait" => runWait args
  | "jobs" => runJobs args
  | "fg" => runForeground args
  | "bg" => runForeground args
  | "cd" => runCd args
  | "chdir" => runCd args
  | "pwd" => runPwd args
  | "umask" => runUmask args
  | "ulimit" => runUlimit args
  | "alias" => runAlias args
  | "unalias" => runUnalias args
  | "type" => runType args
  | "command" => runCommandWord args
  | "hash" => runHash args
  | "times" => do
    Action.setStatus (← Action.print "0m0.000000s 0m0.000000s\n0m0.000000s 0m0.000000s\n".toList)
  | "echo" => runWithin Tool.echoInShell args
  | "printf" => runWithin Tool.printfInShell args
  | "test" => runTest args
  | "[" => runTest args
  | _ => Action.setStatus 127

/-- Runs a command of the shell by its name. A fault ends the shell only in a special command. -/
def runNamed (again : Runner) (mode : Mode) (special : Bool) (name : List Char)
    (args : List (List Char)) : Action Unit := do
  let before := (← get).command?
  modify fun state => { state with command? := some name }
  let run := runOwn again mode (String.ofList name) args
  Action.keeping (fun _ after => { after with command? := before }) do
    try run
    catch
      | .abort => if special then throw .abort
      | flow => throw flow

end Proctor.Machine.Shell

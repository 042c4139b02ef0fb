import Proctor.Cli.Seconds
import Proctor.Spec.Param

/-! The arguments of the program: its commands, and their operands and options. -/
namespace Proctor.Cli

structure RunnerOptions where
  program? : Option String
  scriptsDir? : Option String
  timeout? : Option Nanoseconds
deriving DecidableEq, Repr

structure RunOptions where
  /-- Targets beside those of the specification. -/
  scripts : List String
  function? : Option String
  json : Bool
  yes : Bool
  skipSuspicious : Bool
  noScan : Bool
deriving DecidableEq, Repr

inductive Command where
  | run (spec : String) (options : RunOptions) (runner : RunnerOptions)
  | scan (script : String) (runner : RunnerOptions)
  | normalize (file? : Option String)
  | key (params : Params)
deriving DecidableEq, Repr

structure Arguments where
  verbose : Bool
  command : Command
deriving DecidableEq, Repr

/-- Why arguments are not followed; some ask for help or for the version. -/
inductive UsageFault where
  | help
  | version
  | nothingGiven
  | noCommand
  | unknownCommand
  | unknownArgument
  | conflict
  | missingOperand
  | invalidValue
  | surplusValue
  | refusedValue (message : String)
deriving DecidableEq, Repr

def UsageFault.exitCode : UsageFault → Nat
  | .help => 0
  | .version => 0
  | _ => 2

/-! ### Options -/

inductive Topic where
  | help
  | version
  | verbose
  | script
  | function
  | json
  | yes
  | skipSuspicious
  | noScan
  | program
  | scriptsDir
  | timeout
  | path
  | param
deriving DecidableEq, Repr

structure Switch where
  topic : Topic
  long : String
  short? : Option Char
  valued : Bool
deriving DecidableEq, Repr

inductive Operands where
  | none
  | one (topic : Topic) (required : Bool)
  | many (topic : Topic)
deriving DecidableEq, Repr

structure Level where
  switches : List Switch
  operands : Operands
deriving DecidableEq, Repr

def helpSwitch : Switch := ⟨.help, "help", some 'h', false⟩

def verboseSwitch : Switch := ⟨.verbose, "verbose", some 'v', false⟩

def runnerSwitches : List Switch :=
  [⟨.program, "python", none, true⟩, ⟨.scriptsDir, "scripts-dir", none, true⟩,
    ⟨.timeout, "timeout", none, true⟩]

namespace Level

def top : Level := ⟨[verboseSwitch, helpSwitch, ⟨.version, "version", some 'V', false⟩], .none⟩

def ofRun : Level where
  switches :=
    [⟨.script, "script", some 's', true⟩, ⟨.function, "function", some 'f', true⟩,
      ⟨.json, "json", none, false⟩, ⟨.yes, "yes", some 'y', false⟩,
      ⟨.skipSuspicious, "skip-suspicious", none, false⟩, ⟨.noScan, "no-scan", none, false⟩] ++
    runnerSwitches ++ [verboseSwitch, helpSwitch]
  operands := .one .path true

def ofScan : Level := ⟨runnerSwitches ++ [verboseSwitch, helpSwitch], .one .path true⟩

def ofNormalize : Level := ⟨[verboseSwitch, helpSwitch], .one .path false⟩

def ofKey : Level := ⟨[verboseSwitch, helpSwitch], .many .param⟩

end Level

/-! ### Values -/

structure Draft where
  verbose : Bool
  path? : Option String
  params : Params
  run : RunOptions
  runner : RunnerOptions
deriving DecidableEq, Repr

def Draft.empty : Draft :=
  ⟨false, none, [], ⟨[], none, false, false, false, false⟩, ⟨none, none, none⟩⟩

def pathOf (text : String) : Except UsageFault String :=
  if text.isEmpty then .error .invalidValue else .ok text

def Draft.store (draft : Draft) (topic : Topic) (value : String) : Except UsageFault Draft := do
  let { run, runner, .. } := draft
  match topic with
  | .help => throw .help
  | .version => throw .version
  | .verbose => return { draft with verbose := true }
  | .script => return { draft with run := { run with scripts := run.scripts ++ [← pathOf value] } }
  | .function => return { draft with run := { run with function? := some value } }
  | .json => return { draft with run := { run with json := true } }
  | .yes => return { draft with run := { run with yes := true } }
  | .skipSuspicious => return { draft with run := { run with skipSuspicious := true } }
  | .noScan => return { draft with run := { run with noScan := true } }
  | .program => return { draft with runner := { runner with program? := some (← pathOf value) } }
  | .scriptsDir =>
    return { draft with runner := { runner with scriptsDir? := some (← pathOf value) } }
  | .timeout =>
    match secondsOf value with
    | .ok limit => return { draft with runner := { runner with timeout? := some limit } }
    | .error fault => throw (.refusedValue fault.message)
  | .path => return { draft with path? := some (← pathOf value) }
  | .param =>
    match TypedValue.ofText value with
    | .ok param => return { draft with params := draft.params ++ [param] }
    | .error error => throw (.refusedValue error.message)

def Topic.repeats (topic : Topic) : Bool := topic == .script || topic == .param

/-! ### Reading arguments -/

structure Pending where
  topic : Topic
  values : List String
  /-- Whether they belong to an option that takes one more value. -/
  wanting : Bool
deriving DecidableEq, Repr

structure Progress where
  draft : Draft
  given : List Topic
  pending? : Option Pending
  operandsOnly : Bool
deriving DecidableEq, Repr

def Progress.start : Progress := ⟨.empty, [], none, false⟩

namespace Progress

def give (progress : Progress) (topic : Topic) (values : List String) :
    Except UsageFault Progress := do
  if !topic.repeats && progress.given.contains topic then throw .conflict
  let draft ← values.foldlM (fun draft value => draft.store topic value) progress.draft
  return { progress with draft, given := topic :: progress.given }

def settle (progress : Progress) : Except UsageFault Progress :=
  match progress.pending? with
  | none => .ok progress
  | some pending =>
    if pending.values = [] then .error .invalidValue
    else { progress with pending? := none }.give pending.topic pending.values

def giveNow (progress : Progress) (topic : Topic) (value : String) : Except UsageFault Progress := do
  (← progress.settle).give topic [value]

def await (progress : Progress) (topic : Topic) : Except UsageFault Progress := do
  return { ← progress.settle with pending? := some ⟨topic, [], true⟩ }

def operand (level : Level) (progress : Progress) (value : String) : Except UsageFault Progress :=
  match progress.pending? with
  | some ⟨topic, values, true⟩ =>
    if progress.operandsOnly then surplusOr progress
    else .ok { progress with pending? := some ⟨topic, values ++ [value], false⟩ }
  | _ => surplusOr progress
where
  surplusOr (progress : Progress) : Except UsageFault Progress := do
    match level.operands with
    | .none => throw .unknownArgument
    | .one topic _ =>
      if progress.given.contains topic || progress.pending?.any (·.topic == topic) then
        throw .unknownArgument
      return { ← progress.settle with pending? := some ⟨topic, [value], false⟩ }
    | .many topic =>
      match progress.pending? with
      | some pending =>
        if pending.topic = topic then
          return { progress with pending? := some ⟨topic, pending.values ++ [value], false⟩ }
        else return { ← progress.settle with pending? := some ⟨topic, [value], false⟩ }
      | none => return { progress with pending? := some ⟨topic, [value], false⟩ }

def long (level : Level) (progress : Progress) (text : List Char) : Except UsageFault Progress :=
  let (name, value?) := match Text.cutFirst? '=' text with
    | some (name, value) => (String.ofList name, some (String.ofList value))
    | none => (String.ofList text, none)
  match level.switches.find? (·.long == name), value? with
  | none, _ => .error .unknownArgument
  | some switch, some value =>
    if switch.valued then progress.giveNow switch.topic value else .error .surplusValue
  | some switch, none =>
    if switch.valued then progress.await switch.topic else progress.giveNow switch.topic ""

/-- Options by their letters. What follows the letter of an option with a value is that value, with
or without an equals sign before it. -/
def short (level : Level) (progress : Progress) : List Char → Except UsageFault Progress
  | [] => .ok progress
  | letter :: rest =>
    match level.switches.find? (·.short? == some letter) with
    | none => .error .unknownArgument
    | some switch =>
      if switch.valued then
        match rest with
        | [] => progress.await switch.topic
        | '=' :: value => progress.giveNow switch.topic (String.ofList value)
        | value => progress.giveNow switch.topic (String.ofList value)
      else do short level (← progress.giveNow switch.topic "") rest

def take (level : Level) (progress : Progress) (argument : String) : Except UsageFault Progress :=
  if progress.operandsOnly then progress.operand level argument
  else
    match argument.toList with
    | ['-', '-'] => .ok { progress with operandsOnly := true }
    | '-' :: '-' :: text => progress.long level text
    | '-' :: letter :: letters => progress.short level (letter :: letters)
    | _ => progress.operand level argument

def finish (level : Level) (progress : Progress) : Except UsageFault Draft := do
  let progress ← progress.settle
  if progress.given.contains .yes && progress.given.contains .skipSuspicious then throw .conflict
  match level.operands with
  | .one topic true => if !progress.given.contains topic then throw .missingOperand
  | _ => pure ()
  return progress.draft

end Progress

def Level.read (level : Level) (arguments : List String) : Except UsageFault Draft := do
  (← arguments.foldlM (Progress.take level) .start).finish level

/-! ### Commands -/

inductive Name where
  | run
  | scan
  | normalize
  | key
  | help
deriving DecidableEq, Repr

def Name.text : Name → String
  | .run => "run"
  | .scan => "scan"
  | .normalize => "normalize"
  | .key => "key"
  | .help => "help"

def Name.all : List Name := [.run, .scan, .normalize, .key, .help]

def Name.ofText? (text : String) : Option Name := all.find? (·.text == text)

def helpOn : List String → UsageFault
  | [] => .help
  | name :: others => if (Name.ofText? name).isSome && others = [] then .help else .unknownCommand

def readCommand (verbose : Bool) (arguments : List String) : Name → Except UsageFault Arguments
  | .help => .error (helpOn arguments)
  | .run => do
    let draft ← Level.ofRun.read arguments
    return ⟨verbose || draft.verbose, .run (draft.path?.getD "") draft.run draft.runner⟩
  | .scan => do
    let draft ← Level.ofScan.read arguments
    return ⟨verbose || draft.verbose, .scan (draft.path?.getD "") draft.runner⟩
  | .normalize => do
    let draft ← Level.ofNormalize.read arguments
    return ⟨verbose || draft.verbose, .normalize draft.path?⟩
  | .key => do
    let draft ← Level.ofKey.read arguments
    return ⟨verbose || draft.verbose, .key draft.params⟩

def readFrom (progress : Progress) : List String → Except UsageFault Arguments
  | [] => .error (if progress.given = [] then .nothingGiven else .noCommand)
  | argument :: rest =>
    match Name.ofText? argument with
    | some name =>
      if progress.operandsOnly then .error .unknownArgument
      else readCommand progress.draft.verbose rest name
    | none =>
      if progress.operandsOnly || !argument.startsWith "-" || argument = "-" then
        .error .unknownCommand
      else do readFrom (← progress.take .top argument) rest

def read (arguments : List String) : Except UsageFault Arguments := readFrom .start arguments

end Proctor.Cli

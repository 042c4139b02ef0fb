import Proctor.Cli.Load
import Proctor.Literal.Picture
import Proctor.Run.Console
import Proctor.Run.World

/-! What each command does on a machine, and the whole program. -/
namespace Proctor.Cli

/-- How a command ended: what it wrote on its two streams, its exit code, and the machine after
it. -/
structure Exit where
  output : String
  error : String
  code : Nat
  machine : Machine
deriving DecidableEq, Repr

namespace Exit

def ofComplaint (machine : Machine) (complaint : Complaint) : Exit :=
  ⟨"", if complaint.message = "" then "" else complaint.message ++ "\n", complaint.code, machine⟩

def printed (machine : Machine) (text : String) : Exit := ⟨text ++ "\n", "", 0, machine⟩

end Exit

def RunnerOptions.config (options : RunnerOptions) (machine : Machine) : Config :=
  let config := { Config.ofEnvironment machine.environment machine.isDirectory machine.near with
    timeout? := options.timeout? }
  let config := (options.scriptsDir?.map config.withScriptsDir).getD config
  (options.program?.map config.withProgram).getD config

/-! ### Running -/

def RunOptions.prompt (options : RunOptions) (machine : Machine) : Prompt :=
  if options.yes then .fixed .runAnyway
  else if options.skipSuspicious then .fixed .skip
  else .console (.ofBytes machine.input)

def transcript (console : Console) : List Step → String
  | [] => ""
  | .told event :: others => console.render event ++ transcript (console.after event) others
  | .asked _ answer :: others => answer.shown ++ transcript console others
  | _ :: others => transcript console others

def runSpec (machine : Machine) (verbose : Bool) (path : String) (options : RunOptions)
    (runner : RunnerOptions) : Exit :=
  match loadSpec path (machine.readText path) options with
  | .error error => .ofComplaint machine error.complaint
  | .ok spec =>
    let config := { runner.config machine with scan := !options.noScan }
    let (result?, world, steps) := World.run config spec ⟨machine, options.prompt machine⟩
    let shown := transcript (.new verbose false) steps
    match result? with
    | none => ⟨"", shown, failureCode, world.machine⟩
    | some (.error error) =>
      ⟨"", shown ++ s!"Error: {error.message}\n", failureCode, world.machine⟩
    | some (.ok report) =>
      ⟨if options.json then report.toJson.toPrettyText ++ "\n" else "", shown,
        if report.hasFailures then failureCode else 0, world.machine⟩

/-! ### The other commands -/

def verdictText : Verdict → String
  | .clean => "clean"
  | .suspicious reasons => "suspicious\n" ++ reasons
  | .scanFailed reason => "scan failed: " ++ reason

def scanFile (machine : Machine) (path : String) (runner : RunnerOptions) : Exit :=
  if !machine.isFile path then
    .ofComplaint machine ⟨s!"Error: {path} is not a file", usageCode⟩
  else
    let (result?, machine) := machine.scan (runner.config machine) path
    match result? with
    | none => ⟨"", "", failureCode, machine⟩
    | some (_, .error error) => .ofComplaint machine ⟨s!"Error: {scanFailure error}", failureCode⟩
    | some (_, .ok verdict) =>
      { Exit.printed machine (verdictText verdict) with
        code := if verdict = .clean then 0 else failureCode }

def normalizeToJson (raw : String) : Except Complaint String :=
  match Output.normalize raw with
  | .ok records => .ok (Json.array (records.map Record.toJson)).toPrettyText
  | .error (.unreadable diagnostic) =>
    .error ⟨"Failed to parse interpreter output:\n" ++ diagnostic.picture, failureCode⟩
  | .error refusal => .error ⟨refusal.message, failureCode⟩

def inputText (machine : Machine) : Except Machine.Failure String :=
  match Text.Utf8.decode? machine.input with
  | some text => .ok (String.ofList text)
  | none => .error .notText

def normalizeFile (machine : Machine) (file? : Option String) : Exit :=
  let content := match file? with
    | some path => machine.readText path
    | none => inputText machine
  let source := file?.getD "stdin"
  match content with
  | .error failure =>
    .ofComplaint machine ⟨s!"Error reading {source}: {failure.message}", usageCode⟩
  | .ok raw =>
    match normalizeToJson raw with
    | .ok text => .printed machine text
    | .error complaint => .ofComplaint machine complaint

def execute (machine : Machine) (arguments : Arguments) : Exit :=
  match arguments.command with
  | .run spec options runner => runSpec machine arguments.verbose spec options runner
  | .scan script runner => scanFile machine script runner
  | .normalize file? => normalizeFile machine file?
  | .key params => .printed machine params.toKey

/-! ### The program -/

def usage : String :=
  "Usage: scriptest [-v] <COMMAND>\n\n" ++
    "Commands:\n" ++
    "  run <SPEC>          Scan, gate and run every target of a test specification\n" ++
    "  scan <SCRIPT>       Run only the safety detector against a script\n" ++
    "  normalize [FILE]    Turn raw interpreter output into test records\n" ++
    "  key [VALUE:TYPE]... Print the mapping key of a parameter list\n"

def UsageFault.reason : UsageFault → String
  | .help => ""
  | .version => ""
  | .nothingGiven => ""
  | .noCommand => "a command is required"
  | .unknownCommand => "unrecognized command"
  | .unknownArgument => "unexpected argument"
  | .conflict => "an argument cannot be used with another one, or twice"
  | .missingOperand => "a required argument was not provided"
  | .invalidValue => "a value is required for an argument but none was supplied"
  | .surplusValue => "a value for an argument that takes none"
  | .refusedValue message => message

def UsageFault.exit (machine : Machine) (fault : UsageFault) : Exit :=
  match fault with
  | .help => ⟨usage, "", fault.exitCode, machine⟩
  | .version => ⟨"scriptest\n", "", fault.exitCode, machine⟩
  | .nothingGiven => ⟨"", usage, fault.exitCode, machine⟩
  | fault => ⟨"", s!"error: {fault.reason}\n\n{usage}", fault.exitCode, machine⟩

def program (machine : Machine) (arguments : List String) : Exit :=
  match read arguments with
  | .error fault => fault.exit machine
  | .ok arguments => execute machine arguments

end Proctor.Cli

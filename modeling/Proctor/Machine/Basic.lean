import Proctor.Config
import Proctor.Machine.Shell.Run
import Proctor.Run.Capture

/-! The machine on which programs run: its files, its environment, its clock and its input, and the
starting of programs. -/
namespace Proctor

structure Machine where
  files : Machine.Files
  environment : Environment
  clock : Nanoseconds
  input : List UInt8
  near : List String
  stamp : String
deriving DecidableEq, Repr

namespace Machine

/-! ### The files of every machine -/

def searchPath : List String :=
  ["/usr/local/sbin", "/usr/local/bin", "/usr/sbin", "/usr/bin", "/sbin", "/bin"]

def programNames : List String :=
  Shell.shellNames ++ Shell.askerName :: Shell.scannerNames ++ Shell.launches.map (·.1) ++
    Shell.batches.map (·.1) ++ Tool.all.map (·.1)

def devices : List (String × Content) :=
  [("fd", .link "/proc/self/fd".toList), ("full", .full), ("null", .void), ("random", .zeros),
    ("stderr", .link "/proc/self/fd/2".toList), ("stdin", .link "/proc/self/fd/0".toList),
    ("stdout", .link "/proc/self/fd/1".toList), ("tty", .terminal), ("urandom", .zeros),
    ("zero", .zeros)]

def standardLinks : List (String × String) :=
  [("/bin", "usr/bin"), ("/sbin", "usr/sbin"), ("/lib", "usr/lib")]

def standardTexts : List (String × String) :=
  [("/etc/passwd", "root:x:0:0:root:/root:/bin/sh\n"), ("/etc/group", "root:x:0:\n"),
    ("/etc/hosts", "127.0.0.1\tlocalhost\n"), ("/etc/hostname", "localhost\n")]

def standardDirectories : List String :=
  ["/dev", "/etc", "/home", "/opt", "/proc/self/fd", "/root", "/run", "/srv", "/tmp", "/usr/bin",
    "/usr/lib", "/usr/local/bin", "/usr/local/sbin", "/usr/sbin", "/usr/share", "/var/log",
    "/var/tmp"]

def standardFiles (current : Place) : Files :=
  let place (path : String) : Place := (Text.fields '/' path.toList).filter (· ≠ [])
  let empty : Files := ⟨[], current, 0⟩
  let files := (standardDirectories.map place ++ [current]).foldl Files.addDirectory empty
  let entries : List (Place × Node) :=
    programNames.map (fun name => (place "/usr/bin" ++ [name.toList], ⟨.program name, 0o755, 0⟩)) ++
    devices.map (fun (name, content) => (place "/dev" ++ [name.toList], ⟨content, 0o666, 0⟩)) ++
    standardLinks.map (fun (path, target) => (place path, ⟨.link target.toList, 0o777, 0⟩)) ++
    standardTexts.map fun (path, text) =>
      (place path, ⟨.file (Octets.ofString text), Files.fileMode, 0⟩)
  let files := entries.foldl (fun files (place, node) => files.add place node) files
  [place "/tmp", place "/var/tmp"].foldl (fun files place => files.setMode place 0o1777) files

/-! ### Files by text -/

def readText (machine : Machine) (path : String) : Except Failure String :=
  machine.files.readText (Octets.ofString path)

def isFile (machine : Machine) (path : String) : Bool := machine.files.isFile (Octets.ofString path)

def isDirectory (machine : Machine) (path : String) : Bool :=
  machine.files.isDirectory (Octets.ofString path)

/-! ### Starting programs -/

def startTime : Nanoseconds := Nanoseconds.perMillisecond

def startVariables (machine : Machine) : List (List Char × List Char) :=
  let always := [("PATH".toList, (":".intercalate searchPath).toList),
    ("PWD".toList, Files.pathOf machine.files.current)]
  OrderedMap.ofPairs (always ++ machine.environment.map fun (name, value) =>
    (Octets.ofString name, Octets.ofString value))

/-- The state of a process that reads nothing and whose streams are the ends of the two pipes. -/
def startState (machine : Machine) : Shell.State where
  files := machine.files
  clock := startTime
  pipes := [(Shell.outputPipe, .empty), (Shell.errorPipe, .empty)]
  descriptions := [(2, ⟨.file Shell.voidPlace 0 false, true, false⟩),
    (3, ⟨.pipe Shell.outputPipe, false, true⟩), (4, ⟨.pipe Shell.errorPipe, false, true⟩)]
  nextNumber := 5
  lastProcess := 1000
  sent := []
  flood := Shell.leastFlood
  starved := false
  running := []
  name := "sh".toList
  line := 0
  command? := none
  process := 1000
  root := 1000
  ancestors := [999]
  started := 0
  parameters := []
  bindings := machine.startVariables
  exported := machine.startVariables.map (·.1)
  readOnly := []
  hidden := []
  functions := []
  aliases := []
  traps := []
  ignored := []
  saved? := none
  caught := []
  noticed := []
  options := []
  status := 0
  takenStatus := 0
  linesRead := 0
  background? := none
  jobs := []
  waits := []
  streams := [(0, 2), (1, 3), (2, 4)]
  mask := 0o022
  loops := 0
  calls := 0
  optionIndex := 1
  optionOffset? := none
  directory := Files.pathOf machine.files.current
  tracked := []
  documents := []
  numbered := 0
  tracing := false

/-- The program that a name stands for. A name with a slash is a path; any other is looked for in the
search path. -/
def image (machine : Machine) (program : String) (args : List String) :
    Except Failure Shell.Image := do
  let name := Octets.ofString program
  if name.contains '\x00' || args.any (·.toList.contains '\x00') then throw .zeroByte
  if name = [] then throw .missing
  let path ← Shell.findProgram machine.files (":".intercalate searchPath).toList name
  Shell.imageAt machine.files 5 path name (args.map Octets.ofString)

def joined (chunks : List Shell.Chunk) : List Shell.Chunk :=
  chunks.foldr (fun chunk later =>
    match later with
    | next :: others =>
      if next.time = chunk.time then { chunk with octets := chunk.octets ++ next.octets } :: others
      else chunk :: later
    | [] => [chunk]) []

/-- The pieces that arrive from a pipe, and its end if it has one. -/
def arrivalsFrom (pipe : Shell.Pipe) (ended? : Option Nanoseconds)
    (piece : List UInt8 → Arrival) (finish : Arrival) : List (Nanoseconds × Arrival) :=
  let pieces := (joined pipe.left).map fun chunk => (chunk.time, piece (Octets.toBytes chunk.octets))
  let closed := match pipe.ended?, ended? with
    | some left, some ended => [(max left ended, finish)]
    | _, _ => []
  pieces ++ closed

def childOf (ending : Shell.Ending) (state : Shell.State) : Child :=
  let ended? := ending.time? state.clock
  let pipe (number : Nat) : Shell.Pipe := (state.pipes.lookup number).getD .empty
  let (output, error) := (pipe Shell.outputPipe, pipe Shell.errorPipe)
  let arrivals := arrivalsFrom output ended? .output .outputEnd ++
    arrivalsFrom error ended? .error .errorEnd
  let sorted := arrivals.mergeSort fun a b => a.1 ≤ b.1
  let closed? := do return max (← ended?) (max (← output.ended?) (← error.ended?))
  let code? := match ending with
    | .status status => some status
    | _ => none
  ⟨sorted, closed?, code?⟩

/-- Starts a program with arguments: what it does, and the machine after it. The clock stands still
until somebody waits. -/
def start (machine : Machine) (program : String) (args : List String) :
    Except Failure (Child × Machine) := do
  let image ← machine.image program args
  let again := Shell.run Shell.maxDepth
  let (ending, state) :=
    Shell.runProcess again (Shell.runImage again Shell.maxLaunches image)
      { machine.startState with name := image.name }
  return (childOf ending state,
    { machine with files := { state.files with current := machine.files.current } })

/-- Runs a program to its end or up to the time limit: the complete lines of its error stream and
the outcome, and the machine after it. No result comes from a program that never ends. -/
def capture (machine : Machine) (invocation : Invocation) (args : List String)
    (limit? : Option Nanoseconds) :
    Option (List String × Except CaptureError Finished) × Machine :=
  match machine.start invocation.program (invocation.args ++ args) with
  | .error failure =>
    (some ([], .error (.spawn invocation.program failure.message)), machine)
  | .ok (child, machine) =>
    let elapsed := match child.ended?, limit? with
      | some ended, some limit => min ended limit
      | some ended, none => ended
      | none, some limit => limit
      | none, none => 0
    (child.follow limit?, { machine with clock := machine.clock + elapsed })

end Machine
end Proctor

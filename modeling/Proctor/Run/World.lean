import Proctor.Machine.Basic
import Proctor.Run.Session

/-! The surroundings of a run that a machine and a prompt make up. -/
namespace Proctor

structure World where
  machine : Machine
  prompt : Prompt
deriving DecidableEq, Repr

/-! ### The request -/

namespace Machine

def requestPath (machine : Machine) (config : Config) : String :=
  Path.join (config.tempDir?.getD machine.environment.tempDir)
    s!"scriptest_request_{machine.stamp}.json"

def writeRequest (machine : Machine) (config : Config) (content : String) :
    Except (String × String) String × Machine :=
  let path := machine.requestPath config
  match machine.files.write (Octets.ofString path) (Octets.ofString content) with
  | .ok files => (.ok path, { machine with files })
  | .error failure => (.error (path, failure.message), machine)

def removeFile (machine : Machine) (path : String) : Option String × Machine :=
  match machine.files.remove (Octets.ofString path) with
  | .ok files => (none, { machine with files })
  | .error failure => (some failure.message, machine)

/-! ### Programs -/

def scan (machine : Machine) (config : Config) (target : String) :
    Option (List String × Except CaptureError Verdict) × Machine :=
  let (result?, machine) := machine.capture config.detector [target] config.timeout?
  (result?.map fun (lines, result) =>
    (lines, result.map fun finished => Verdict.ofOutput finished.text config.marker), machine)

/-- The verdict on a target with the notices of the scan; a scan that fails is noticed as well.
Without scanning every target is clean. -/
def scanTarget (machine : Machine) (config : Config) (target : String) :
    Option (Verdict × List Notice) × Machine :=
  if config.scan then
    let (result?, machine) := machine.scan config target
    (result?.map fun (lines, result) =>
      let notices := errorLines .detectorStderr target lines
      match result with
      | .ok verdict => (verdict, notices)
      | .error error =>
        let reason := scanFailure error
        (.scanFailed reason, notices ++ [⟨.scanFailed, target, reason⟩]), machine)
  else (some (.clean, []), machine)

def execute (machine : Machine) (config : Config) (request target : String) :
    Option (Except ExecError Finished × List Notice) × Machine :=
  let (result?, machine) := machine.capture config.interpreter [request, target] config.timeout?
  (result?.map fun (lines, result) =>
    (result.mapError .ofCapture, errorLines .scriptStderr target lines), machine)

def openEditor (machine : Machine) (words : List String) (target : String) :
    Option String × Machine :=
  match words with
  | [] => (some "no editor command", machine)
  | program :: args =>
    match machine.start program (args ++ [target]) with
    | .ok (_, machine) => (none, machine)
    | .error failure => (some failure.message, machine)

end Machine

/-! ### The world as surroundings -/

namespace World

def withMachine {α : Type} (act : Machine → α × Machine) (world : World) : α × World :=
  let (a, machine) := act world.machine
  (a, { world with machine })

def surroundings (config : Config) : Surroundings World where
  write content := withMachine fun machine =>
    let (answer, machine) := machine.writeRequest config content
    (some answer, machine)
  scan target := withMachine fun machine => machine.scanTarget config target
  ask request world :=
    let (answer, prompt) := world.prompt.ask request
    (some answer, { world with prompt })
  edit target := withMachine fun machine =>
    machine.openEditor (editorCommand none machine.environment) target
  execute request target := withMachine fun machine => machine.execute config request target
  remove request := withMachine fun machine =>
    let (problem?, machine) := machine.removeFile request
    (some problem?, machine)

def run (config : Config) (spec : Specification) (world : World) :
    Option (Except Surroundings.WriteError Report) × World × List Step :=
  let began := world.machine.clock
  (surroundings config).run world.prompt.patience (fun world => world.machine.clock - began) spec
    world

end World
end Proctor

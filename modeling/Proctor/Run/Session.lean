import Proctor.Run.Output
import Proctor.Run.Programs
import Proctor.Run.Prompt
import Proctor.Spec.Codec

/-! A run: the request is written, each target is scanned, decided on, executed and recorded, and
the request is removed. What lies outside the runner is a parameter, and all that the runner does is
kept as a list of steps. -/
namespace Proctor

/-- A detector, a prompt, an editor, an interpreter, a place for the request and somebody who watches,
each of whom may change the state of the world. An answer `none` is never given: the run is abandoned
while it waits for it. -/
structure Surroundings (σ : Type) where
  /-- Writes the request: its path, or the path and the reason why that failed. -/
  write : String → σ → Option (Except (String × String) String) × σ
  scan : (target : String) → σ → Option (Verdict × List Notice) × σ
  ask : Request → σ → Option Answer × σ
  edit : (target : String) → σ → Option String × σ
  execute : (request target : String) → σ → Option (Except ExecError Finished × List Notice) × σ
  /-- Removes the request; a reason if that failed. -/
  remove : (request : String) → σ → Option (Option String) × σ
  hear : Event → σ → σ := fun _ world => world

inductive Step where
  | wrote (path content : String)
  | told (event : Event)
  | scanned (target : String)
  | asked (request : Request) (answer : Answer)
  | opened (target : String) (problem? : Option String)
  | executed (request target : String)
  | removed (request : String)
deriving DecidableEq, Repr

/-- A computation in a world that leaves steps behind and may be abandoned. -/
def Session (σ α : Type) : Type := σ → Option α × σ × List Step

namespace Session

variable {σ α β : Type}

def done (a : α) : Session σ α := fun world => (some a, world, [])

def andThen (first : Session σ α) (next : α → Session σ β) : Session σ β := fun world =>
  match first world with
  | (none, world, steps) => (none, world, steps)
  | (some a, world, steps) =>
    let (b?, world, more) := next a world
    (b?, world, steps ++ more)

instance : Monad (Session σ) where
  pure := done
  bind := andThen

def step (step : Step) : Session σ Unit := fun world => (some (), world, [step])

def await (call : σ → Option α × σ) : Session σ α := fun world =>
  let (a?, world) := call world
  (a?, world, [])

def use (call : σ → α × σ) : Session σ α := fun world =>
  let (a, world) := call world
  (some a, world, [])

def abandon : Session σ α := fun world => (none, world, [])

def beside {τ : Type} (session : Session σ α) : Session (σ × τ) α := fun (world, part) =>
  let (a?, world, steps) := session world
  (a?, (world, part), steps)

end Session

/-- A request on disk that a run holds, and whether its removal has been begun. -/
structure HeldRequest where
  path : String
  begun : Bool
deriving DecidableEq, Repr

inductive Passage where
  | proceed
  | cancelled
  | skipped
deriving DecidableEq, Repr

namespace Surroundings

variable {σ : Type} (around : Surroundings σ)

def tell (event : Event) : Session σ Unit := do
  Session.step (.told event)
  Session.use fun world => ((), around.hear event world)

def scanTarget (target : String) : Session σ Verdict := do
  Session.step (.scanned target)
  let (verdict, notices) ← Session.await (around.scan target)
  notices.forM fun notice => around.tell (.noticed notice)
  return verdict

def openTarget (request : Request) : Session σ Unit := do
  let problem? ← Session.use (around.edit request.path)
  Session.step (.opened request.path problem?)
  match problem? with
  | none => return ()
  | some problem =>
    around.tell (.noticed
      ⟨.editorFailed, request.name, s!"could not open {request.path}: {problem}"⟩)

/-- Asks until the answer is more than to open the target. The number bounds the questions; when it
is used up the run is abandoned. -/
def decide (request : Request) : Nat → Session σ Passage
  | 0 => Session.abandon
  | patience + 1 => do
    let answer ← Session.await (around.ask request)
    Session.step (.asked request answer)
    match answer.decision with
    | .runAnyway => return .proceed
    | .skip => return .skipped
    | .cancel => return .cancelled
    | .openAndReask =>
      around.openTarget request
      decide request patience

def resolve (patience : Nat) (verdict : Verdict) (name path : String) : Session σ Passage :=
  match verdict with
  | .clean => return .proceed
  | .scanFailed _ => return .proceed
  | .suspicious reasons => around.decide ⟨name, path, reasons⟩ patience

def cancelledByUser : String := "execution canceled by user"

def outcomeOf : Except ExecError Finished → Outcome
  | .error error => .failed error.message
  | .ok finished =>
    match Output.normalize finished.text with
    | .ok records => .completed (aggregate records)
    | .error refusal => .failed refusal.message

def executeTarget (request target : String) : Session σ Outcome := do
  Session.step (.executed request target)
  let (result, notices) ← Session.await (around.execute request target)
  notices.forM fun notice => around.tell (.noticed notice)
  return outcomeOf result

def runTarget (patience : Nat) (request name path : String) : Session σ (Option Outcome) := do
  let verdict ← around.scanTarget path
  around.tell (.scanned name verdict)
  match ← around.resolve patience verdict name path with
  | .proceed => return some (← around.executeTarget request path)
  | .cancelled => return some (.failed cancelledByUser)
  | .skipped => return none

def runTargets (patience : Nat) (request : String) : Targets → Report → Session σ Report
  | [], report => return report
  | (name, path) :: others, report => do
    around.tell (.targetStart name path)
    match ← around.runTarget patience request name path with
    | some outcome =>
      around.tell (.completed name outcome)
      runTargets patience request others (report.record name outcome)
    | none =>
      around.tell (.skipped name)
      runTargets patience request others report

/-- Removes the request that is held. It counts as begun before anybody waits for it, so that it is not
begun again if the run is abandoned there. -/
def removeHeld : Session (σ × HeldRequest) (Option String) := do
  let path ← Session.use fun (world, held) => (held.path, world, { held with begun := true })
  Session.step (.removed path)
  Session.beside (Session.await (around.remove path))

/-- Lets go of a request. Unless that was begun before it is removed, and nobody asks what comes of it. -/
def letGo (held : HeldRequest) : Session σ Unit := do
  if !held.begun then
    Session.step (.removed held.path)
    Session.use fun world => ((), (around.remove held.path world).2)

/-- Holds a request during a body, and lets go of it where the body ends or is abandoned. -/
def holding {α : Type} (request : String) (body : Session (σ × HeldRequest) α) : Session σ α :=
  fun world =>
    let (a?, (world, held), steps) := body (world, ⟨request, false⟩)
    let (_, world, more) := around.letGo held world
    (a?, world, steps ++ more)

def whileHeld (patience : Nat) (request : String) (spec : Specification) :
    Session (σ × HeldRequest) (Report × Option String) := do
  Session.beside (around.tell (.runStart spec))
  let report ← Session.beside (around.runTargets patience request spec.targets [])
  return (report, ← around.removeHeld)

def reportLeftover (request : String) : Option String → Session σ Unit
  | none => return ()
  | some problem =>
    around.tell (.noticed ⟨.cleanupFailed, "", s!"could not remove {request}: {problem}"⟩)

structure WriteError where
  path : String
  reason : String
deriving DecidableEq, Repr

def WriteError.message (error : WriteError) : String :=
  s!"failed to write request file {error.path}: {error.reason}"

def run (patience : Nat) (elapsed : σ → Nanoseconds) (spec : Specification) :
    Session σ (Except WriteError Report) := do
  match ← Session.await (around.write spec.toText) with
  | .error (path, reason) => return .error ⟨path, reason⟩
  | .ok request =>
    Session.step (.wrote request spec.toText)
    let (report, problem?) ← around.holding request (around.whileHeld patience request spec)
    around.reportLeftover request problem?
    let duration ← Session.use fun world => (elapsed world, world)
    around.tell (.runComplete report duration)
    return .ok report

end Surroundings

def Step.event? : Step → Option Event
  | .told event => some event
  | _ => none

end Proctor

import Proctor.Duration
import Proctor.Machine.Files
import Proctor.Machine.Shell.Grammar

/-! What a running shell knows, and what it shares with the processes around it. -/
namespace Proctor.Machine.Shell

/-! ### Streams -/

/-- Octets that a process wrote at one time. -/
structure Chunk where
  time : Nanoseconds
  process : Nat
  octets : List Char
deriving DecidableEq, Repr

/-- The end of the process that reads a pipe: when it comes, and how many octets can be written before
it. -/
structure Closing where
  time : Nanoseconds
  room : Nat
deriving DecidableEq, Repr

/-- What goes from some processes to others. -/
structure Pipe where
  /-- What was written and is not sorted by time yet, the last first. -/
  written : List Chunk
  ready : List Chunk
  /-- The processes that may write, and when they end; one without a time never ends. -/
  writers : List (Nat × Option Nanoseconds)
  /-- The end of the reader, if it comes before that of the writers. -/
  closing? : Option Closing
deriving DecidableEq, Repr

namespace Pipe

def empty : Pipe := ⟨[], [], [], none⟩

def holding (chunk : Chunk) : Pipe := ⟨[], [chunk], [], none⟩

/-- The pipe after a chunk is written, if somebody will read it. -/
def write? (pipe : Pipe) (chunk : Chunk) : Option Pipe :=
  let written := chunk :: pipe.written
  match pipe.closing? with
  | none => some { pipe with written }
  | some closing =>
    let size := chunk.octets.length
    if closing.time < chunk.time || closing.room < size then none
    else some { pipe with written, closing? := some { closing with room := closing.room - size } }

def left (pipe : Pipe) : List Chunk :=
  if pipe.written = [] then pipe.ready
  else (pipe.ready ++ pipe.written.reverse).mergeSort fun a b => a.time ≤ b.time

def ended? (pipe : Pipe) : Option Nanoseconds :=
  pipe.writers.foldl (fun latest? (_, ended?) =>
    match latest?, ended? with
    | some latest, some ended => some (max latest ended)
    | _, _ => none) (some 0)

end Pipe

inductive Opened where
  | file (place : Place) (position : Nat) (appending : Bool)
  | pipe (number : Nat)
deriving DecidableEq, Repr

/-- An open file or an end of a pipe. -/
structure Description where
  opened : Opened
  readable : Bool
  writable : Bool
deriving DecidableEq, Repr

def outputPipe : Nat := 0

def errorPipe : Nat := 1

/-! ### Processes -/

/-- A signal that was sent to a process; also to all that it has started if `spread` holds. -/
structure Sent where
  process : Nat
  signal : Nat
  time : Nanoseconds
  spread : Bool
deriving DecidableEq, Repr

inductive Ending where
  | status (status : Nat)
  | signal (number : Nat)
  | never
deriving DecidableEq, Repr

/-- A process that runs beside the shell: its number among those of the shell, its own number and that of
the last process which it started, how and when it ends, and when it waited for programs. -/
structure Job where
  number : Nat
  process : Nat
  last : Nat
  ending : Ending
  ended : Nanoseconds
  waits : List (Nanoseconds × Nanoseconds)
  ignored : List Nat
deriving DecidableEq, Repr

structure System where
  files : Files
  clock : Nanoseconds
  pipes : List (Nat × Pipe)
  descriptions : List (Nat × Description)
  nextNumber : Nat
  lastProcess : Nat
  sent : List Sent
  /-- How many octets a process writes that goes on without end, at least. -/
  flood : Nat
  starved : Bool
  running : List Job

/-! ### Control -/

/-- How a command ends other than by letting the next one follow. -/
inductive Flow where
  | leaveLoop (loops : Nat)
  /-- Some loops but one end, and the next round of that one follows. -/
  | nextRound (loops : Nat)
  | leaveFunction
  | exit
  | abort
  | signal (number : Nat)
  | endless
deriving DecidableEq, Repr

/-- How a command is run: whether somebody looks at its status, so that it may fail, and whether it is
the last thing that the process does. -/
structure Mode where
  tested : Bool
  final : Bool
deriving DecidableEq, Repr

/-- What a function changes for itself alone, as it was before: a variable with its value, and
whether programs get to see it and it keeps its value, or the options. -/
inductive Hidden where
  | binding (name : List Char) (value? : Option (List Char)) (exported readOnly : Bool)
  | options (before : List String)
deriving DecidableEq, Repr

structure State extends System where
  name : List Char
  line : Nat
  linesRead : Nat
  command? : Option (List Char)
  /-- The number of the process, of the shell that it is a copy of, and of those that wait for it. -/
  process : Nat
  root : Nat
  ancestors : List Nat
  started : Nanoseconds
  parameters : List (List Char)
  bindings : List (List Char × List Char)
  /-- The variables that programs get to see, and those that keep their values. -/
  exported : List (List Char)
  readOnly : List (List Char)
  hidden : List (List Hidden)
  functions : List (List Char × Nat × Command)
  aliases : List (List Char × List Char)
  /-- What runs when a signal comes, or at the end for number zero. -/
  traps : List (Nat × List Char)
  ignored : List Nat
  saved? : Option Nat
  /-- The signals that came and whose action has not run yet, and all that were noticed. -/
  caught : List Nat
  noticed : List Sent
  options : List String
  status : Nat
  takenStatus : Nat
  background? : Option Nat
  /-- The processes beside the shell that it has not waited for, the last first. -/
  jobs : List Nat
  waits : List (Nanoseconds × Nanoseconds)
  streams : List (Nat × Nat)
  mask : Nat
  loops : Nat
  calls : Nat
  /-- The number of the word in which the next option is looked for, and where in the word before it the
  letters of options go on. -/
  optionIndex : Nat
  optionOffset? : Option Nat
  directory : List Char
  tracked : List (List Char)
  /-- The texts in the scripts that were read, and how many there are. -/
  documents : List (Nat × Word)
  numbered : Nat
  tracing : Bool

abbrev Action (α : Type) := ExceptT Flow (StateM State) α

abbrev Runner := Mode → Command → Action Unit

namespace State

/-! ### Streams -/

def description? (state : State) (stream : Nat) : Option (Nat × Description) := do
  let number ← state.streams.lookup stream
  let description ← state.descriptions.lookup number
  return (number, description)

def addPipe (state : State) (pipe : Pipe) : Nat × State :=
  (state.nextNumber, { state with
    pipes := (state.nextNumber, pipe) :: state.pipes, nextNumber := state.nextNumber + 1 })

def addDescription (state : State) (description : Description) : Nat × State :=
  (state.nextNumber, { state with
    descriptions := (state.nextNumber, description) :: state.descriptions
    nextNumber := state.nextNumber + 1 })

def connect (state : State) (stream : Nat) (number? : Option Nat) : State :=
  let others := state.streams.filter (·.1 ≠ stream)
  { state with streams := match number? with
      | some number => (stream, number) :: others
      | none => others }

/-- Forgets the descriptions and pipes from a number on that no stream is connected to. -/
def forget (state : State) (first : Nat) : State :=
  let used := state.streams.map (·.2)
  let descriptions := state.descriptions.filter fun (n, _) => n < first || used.contains n
  let piped := descriptions.filterMap fun (_, description) =>
    match description.opened with
    | .pipe number => some number
    | .file _ _ _ => none
  { state with
    descriptions
    pipes := state.pipes.filter fun (n, _) => n < first || piped.contains n }

/-- Writes octets at a place of a file: the content after it. -/
def overwritten (old : List Char) (position : Nat) (octets : List Char) : List Char :=
  if position = old.length then old ++ octets
  else
    old.take position ++ List.replicate (position - old.length) '\x00' ++ octets ++
      old.drop (position + octets.length)

def putDescription (state : State) (number : Nat) (description : Description) : State :=
  { state with descriptions := OrderedMap.put number description state.descriptions }

def putPipe (state : State) (number : Nat) (pipe : Pipe) : State :=
  { state with pipes := OrderedMap.put number pipe state.pipes }

def write (state : State) (stream : Nat) (octets : List Char) : Except Failure State :=
  if octets = [] then .ok state
  else
    match state.description? stream with
    | none => .error .notOpen
    | some (number, description) =>
      if !description.writable then .error .notOpen
      else
        match description.opened with
        | .pipe pipeNumber =>
          let pipe := (state.pipes.lookup pipeNumber).getD .empty
          match pipe.write? ⟨state.clock, state.process, octets⟩ with
          | some pipe => .ok (state.putPipe pipeNumber pipe)
          | none => .error .brokenPipe
        | .file place position appending =>
          let old := match state.files.content? place with
            | some (.file octets) => octets
            | _ => []
          let position := if appending then old.length else position
          match state.files.store place (overwritten old position octets) Files.fileMode with
          | .ok files =>
            .ok ({ state with files }.putDescription number
              { description with opened := .file place (position + octets.length) appending })
          | .error failure => .error failure

/-- When the process that reads a stream ends, if that comes before the end of the writers. -/
def readerEnd? (state : State) (stream : Nat) : Option Nanoseconds := do
  let (_, description) ← state.description? stream
  match description.opened with
  | .pipe number => return (← (← state.pipes.lookup number).closing?).time
  | .file _ _ _ => none

/-- What is left to read from a stream, and when it ends if it does. -/
def left (state : State) (stream : Nat) : Except Failure (List Chunk × Option Nanoseconds) :=
  match state.description? stream with
  | none => .error .notOpen
  | some (_, description) =>
    if !description.readable then .error .notOpen
    else
      match description.opened with
      | .pipe number =>
        let pipe := (state.pipes.lookup number).getD .empty
        .ok (pipe.left, pipe.ended?)
      | .file place position _ =>
        match state.files.content? place with
        | some (.file octets) => .ok ([⟨0, 0, octets.drop position⟩], some 0)
        | some .directory => .error .isDirectory
        | some .terminal => .error .noDevice
        | some .zeros => .ok ([⟨0, 0, List.replicate state.flood '\x00'⟩], none)
        | some .full => .ok ([⟨0, 0, List.replicate state.flood '\x00'⟩], none)
        | _ => .ok ([], some 0)

/-- The chunks without some octets at their start, and the time at which those are there. -/
def dropOctets : Nat → List Chunk → Nanoseconds × List Chunk
  | 0, chunks => (0, chunks)
  | _, [] => (0, [])
  | count, chunk :: chunks =>
    match chunk.octets.drop count with
    | [] =>
      let (time, rest) := dropOctets (count - chunk.octets.length) chunks
      (max chunk.time time, rest)
    | octets => (chunk.time, { chunk with octets } :: chunks)

/-- Takes octets from a stream; the clock goes on to when they are there. A pipe is read in blocks of
some size. -/
def take (state : State) (stream count block : Nat) : State :=
  match state.description? stream with
  | none => state
  | some (number, description) =>
    match description.opened with
    | .file place position appending =>
      state.putDescription number
        { description with opened := .file place (position + count) appending }
    | .pipe pipeNumber =>
      let pipe := (state.pipes.lookup pipeNumber).getD .empty
      let (time, _) := dropOctets count pipe.left
      let blocks := if block ≤ 1 then count else (count + block - 1) / block * block
      let (_, ready) := dropOctets blocks pipe.left
      { state.putPipe pipeNumber { pipe with written := [], ready } with
        clock := max state.clock time }

def pipesHeld (state : State) : List Nat :=
  (state.streams.filterMap fun (stream, _) =>
    match state.description? stream with
    | some (_, ⟨.pipe number, _, true⟩) => some number
    | _ => none).eraseDups

def release (state : State) (held : List Nat) (process : Nat) (ended? : Option Nanoseconds) : State :=
  held.foldl (fun state number =>
    match state.pipes.lookup number with
    | some pipe => state.putPipe number { pipe with writers := (process, ended?) :: pipe.writers }
    | none => state) state

def cutAfter (state : State) (first last : Nat) (time : Nanoseconds) : State :=
  let late (chunk : Chunk) : Bool :=
    first ≤ chunk.process && chunk.process ≤ last && time < chunk.time
  { state with pipes := state.pipes.map fun (number, pipe) =>
      (number, { pipe with
        written := pipe.written.filter fun chunk => !late chunk
        ready := pipe.ready.filter fun chunk => !late chunk }) }

/-! ### Complaints -/

/-- The start of a complaint: the name of the shell, the number of a line and the command. -/
def label (state : State) : String :=
  let command := match state.command? with
    | some command => s!"{String.ofList command}: "
    | none => ""
  s!"{String.ofList state.name}: {state.line}: {command}"

def tell (state : State) (stream : Nat) (text : String) : State :=
  ((state.write stream text.toList).toOption).getD state

def complain (state : State) (message : String) : State := state.tell 2 s!"{state.label}{message}\n"

/-! ### Variables -/

def isOn (state : State) (option : String) : Bool := state.options.contains option

def value? (state : State) (name : List Char) : Option (List Char) :=
  OrderedMap.get? name state.bindings

def valueOf (state : State) (name : List Char) : List Char := (state.value? name).getD []

def separators (state : State) : List Char := (state.value? "IFS".toList).getD [' ', '\t', '\n']

def environment (state : State) : List (List Char × List Char) :=
  state.bindings.filter fun (name, _) => state.exported.contains name

def withName (name : List Char) (names : List (List Char)) : List (List Char) :=
  if names.contains name then names else names ++ [name]

end State

/-! ### Actions -/

namespace Action

def refuse {α : Type} (message : String) : Action α := do
  modify fun state => { state.complain message with status := 2 }
  throw .abort

def complain (message : String) : Action Unit := modify fun state => state.complain message

def setStatus (status : Nat) : Action Unit := modify fun state => { state with status }

def assign (name value : List Char) : Action Unit := do
  let state ← get
  if state.readOnly.contains name then refuse s!"{String.ofList name}: is read only"
  let exported := if state.isOn "allexport" then State.withName name state.exported else state.exported
  let state := { state with bindings := OrderedMap.put name value state.bindings, exported }
  if name = "OPTIND".toList then
    if value.all isDecimalDigit then
      set { state with optionIndex := max 1 (ofDigits 10 value), optionOffset? := none }
    else refuse s!"Illegal number: {String.ofList value}"
  else if name = "PATH".toList then set { state with tracked := [] }
  else set state

def keeping {α : Type} (restore : State → State → State) (action : Action α) : Action α := fun state =>
  let (result, after) := action.run state
  (result, restore state after)

end Action
end Proctor.Machine.Shell

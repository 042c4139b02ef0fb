import Proctor.Machine.Shell.Process

/-! Connecting the streams of commands to files, to each other and to texts. -/
namespace Proctor.Machine.Shell

/-- A redirection whose word is expanded; without a target the stream is closed or reads a text. -/
abbrev Connecting := Redirection (List Char)

/-- Ends the shell because no stream has the name that is given. -/
def refuseStream {α : Type} : Action α := do
  modify fun state => { state with line := state.linesRead }
  Action.refuse "Syntax error: Bad fd number"

/-- Expands the word of a redirection. A text in the script is left for when the stream is connected. -/
def expandRedirection (taker : Taker) (redirection : Redirection Word) : Action Connecting := do
  match redirection.connection with
  | .textHere _ => return { redirection with target := [] }
  | .sameAs =>
    let target ← expandOne taker redirection.target
    match target with
    | [c] =>
      if c = '-' || isDecimalDigit c then return { redirection with target }
      else refuseStream
    | _ => refuseStream
  | _ => return { redirection with target := ← expandOne taker redirection.target }

def streamOf? (path : List Char) : Option Nat :=
  match String.ofList path with
  | "/dev/stdin" => some 0
  | "/dev/stdout" => some 1
  | "/dev/stderr" => some 2
  | _ =>
    let starts := ["/dev/fd/".toList, "/proc/self/fd/".toList]
    (starts.find? fun start => start.isPrefixOf path).bind fun start =>
      let digits := path.drop start.length
      if digits ≠ [] && digits.all isDecimalDigit then some (ofDigits 10 digits) else none

def cannotCreate (path : List Char) (failure : Failure) : String :=
  let reason :=
    if failure = .missing ∨ failure = .notDirectory then "Directory nonexistent" else failure.reason
  s!"cannot create {String.ofList path}: {reason}"

def cannotOpen (path : List Char) (failure : Failure) : String :=
  let reason :=
    if failure = .missing ∨ failure = .notDirectory then "No such file" else failure.reason
  s!"cannot open {String.ofList path}: {reason}"

namespace State

def newMode (state : State) : Nat := 0o666 &&& (0o777 ^^^ state.mask)

/-- Opens a file to write, which is made if it is missing and emptied if `emptied` holds. -/
def openToWrite (state : State) (path : List Char) (emptied : Bool) : Except Failure (Place × State) := do
  let place ← state.files.resolve path
  let ended := path.getLast? = some '/'
  match state.files.content? place with
  | some .directory => throw .isDirectory
  | some (.file _) =>
    if ended then throw .notDirectory
    if emptied then
      return (place, { state with files := ← state.files.store place [] state.newMode })
    else return (place, state)
  | some (.program _) => throw .denied
  | some .terminal => throw .noDevice
  | some _ => return (place, state)
  | none =>
    if ended then throw .isDirectory
    return (place, { state with files := ← state.files.store place [] state.newMode })

def redirect (state : State) (connecting : Connecting) : Except String State :=
  let path := connecting.target
  let stream := connecting.stream
  let opened (description : Description) (state : State) : State :=
    let (number, state) := state.addDescription description
    state.connect stream (some number)
  let same (other : Nat) (failed : String) : Except String State :=
    match state.streams.lookup other with
    | some number => .ok (state.connect stream (some number))
    | none => .error failed
  let writing (emptied appending readable : Bool) : Except String State :=
    match streamOf? path with
    | some other => same other (cannotCreate path .missing)
    | none =>
      match state.openToWrite path emptied with
      | .ok (place, state) => .ok (opened ⟨.file place 0 appending, readable, true⟩ state)
      | .error failure => .error (cannotCreate path failure)
  match connecting.connection with
  | .textHere _ =>
    let (pipe, state) := state.addPipe (.holding ⟨state.clock, state.process, path⟩)
    .ok (opened ⟨.pipe pipe, true, false⟩ state)
  | .sameAs =>
    match path with
    | ['-'] => .ok (state.connect stream none)
    | digits => same (ofDigits 10 digits) s!"{String.ofList digits}: Bad file descriptor"
  | .readFrom =>
    match streamOf? path with
    | some other => same other (cannotOpen path .missing)
    | none =>
      let found : Except Failure Place := do
        let place ← state.files.resolve path
        match (← state.files.find path).content with
        | .terminal => throw .noDevice
        | _ => return place
      match found with
      | .ok place => .ok (opened ⟨.file place 0 false, true, false⟩ state)
      | .error failure => .error (cannotOpen path failure)
  | .writeTo =>
    if state.isOn "noclobber" && state.files.isFile path then .error (cannotCreate path .present)
    else writing true false false
  | .overwrite => writing true false false
  | .appendTo => writing false true false
  | .readAndWrite => writing false false true

end State

/-- Makes connections one after another, up to one that fails with a complaint: whether all are made. -/
def connectAll (taker : Taker) : List Connecting → Action Bool
  | [] => return true
  | connecting :: others => do
    let connecting ← match connecting.connection with
      | .textHere number =>
        let word := ((← get).documents.lookup number).getD []
        pure { connecting with target := ← expandOne taker word }
      | _ => pure connecting
    match (← get).redirect connecting with
    | .ok state =>
      set state
      connectAll taker others
    | .error message =>
      Action.complain message
      return false

/-- Runs an action with its streams connected, and gives the streams back: `keeps` tells whether they
stay. If a connection fails, the action does not run. -/
def connecting (taker : Taker) (connections : List Connecting) (keeps : Bool) (action : Action Unit) :
    Action Bool := do
  if connections.isEmpty then
    action
    return true
  let before ← get
  let back (state : State) : State := { state with streams := before.streams }.forget before.nextNumber
  let made ← try connectAll taker connections
    catch
      | .abort => pure false
      | flow => throw flow
  if made then
    if keeps then action
    else Action.keeping (fun _ after => back after) action
  else
    modify back
    Action.setStatus 2
  return made

end Proctor.Machine.Shell

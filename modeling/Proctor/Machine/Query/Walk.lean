import Proctor.Machine.Query.Reader
import Proctor.Machine.Shell.Stream
import Proctor.Machine.Tool.Launch

/-! Walking through trees of files with a query. What is shown is held back until a program runs or the
walk ends. -/
namespace Proctor.Machine.Query

open Shell (Action State)

/-- How output is written, and how programs run, perhaps in another directory: whether they succeed. -/
structure Means where
  print : List Char → Action Unit
  run : List (List Char) → Option Place → Action Bool

/-- What a walk has come to: the output that is held back and the files that are noted for programs, the
last first, whether the walk is over, and whether it stays out of the last file. -/
structure Progress where
  held : List (List Char)
  noted : List (Nat × List Char)
  finished : Bool
  skips : Bool

abbrev Walk (α : Type) := StateT Progress Action α

namespace Walk

def act {α : Type} (action : Action α) : Walk α := StateT.lift action

def currentFiles : Walk Files := act do return (← get).files

def show' (octets : List Char) : Walk Unit :=
  modify fun progress => { progress with held := octets :: progress.held }

def flush (means : Means) : Walk Unit := do
  let progress : Progress ← get
  set { progress with held := [] }
  if !progress.held.isEmpty then act (means.print (progress.held.reverse.flatMap id))

def complain (means : Means) (message : String) (status : Nat) : Walk Unit := do
  flush means
  act (modify fun state =>
    { state.tell 2 s!"find: {message}\n" with status := max state.status status })

def insidePath (path : List Char) : List Char := '.' :: '/' :: baseName path

/-- Removes a file; the directory where the walk starts stays if it has no name. -/
def remove (means : Means) (visited : Visited) : Walk Bool := do
  if visited.path = ['.'] then return true
  let files ← currentFiles
  let place := visited.place
  let refused (failure : Failure) : Walk Bool := do
    complain means s!"cannot delete {Quoting.text visited.path}: {failure.reason}" 1
    return false
  match visited.own.content with
  | .directory =>
    if files.namesAt place ≠ [] then refused .notEmpty
    else
      act (modify fun state => { state with files := state.files.erase place })
      return true
  | .program _ => refused .denied
  | _ =>
    act (modify fun state => { state with files := state.files.erase place })
    return true

def perform (means : Means) (visited : Visited) (deed : Deed) : Walk Bool := do
  match deed with
  | .show ending =>
    show' (visited.path ++ [ending])
    return true
  | .format pieces =>
    let files ← currentFiles
    show' (pieces.flatMap (Piece.show files visited))
    return true
  | .run inside words =>
    flush means
    let path := if inside then insidePath visited.path else visited.path
    let words := words.map (Tool.replaced ['\x7b', '\x7d'] path)
    act (means.run words (if inside then some visited.place.dropLast else none))
  | .note number =>
    modify fun progress => { progress with noted := (number, visited.path) :: progress.noted }
    return true
  | .remove => remove means visited
  | .skip =>
    modify fun progress => { progress with skips := true }
    return true
  | .quit =>
    modify fun progress => { progress with finished := true }
    return true

def ask (means : Means) (visited : Visited) : Query → Walk Bool
  | .test asked => return asked.holds (← currentFiles) visited
  | .deed done => perform means visited done
  | .not inner => return !(← ask means visited inner)
  | .both first second => do
    let held ← ask means visited first
    if !held then return false
    if (← get).finished then return true
    ask means visited second
  | .either first second => do
    let held ← ask means visited first
    if held || (← get).finished then return held
    ask means visited second
  | .sequence first second => do
    let held ← ask means visited first
    if (← get).finished then return held
    ask means visited second

/-- Visits a file and what lies below it. The number bounds how deep that goes. -/
def visit (means : Means) (plan : Plan) (query : Query) :
    Nat → (origin path : List Char) → Nat → Place → Walk Unit
  | 0, _, _, _, _ => return
  | bound + 1, origin, path, depth, place => do
    if (← get).finished then return
    let files ← currentFiles
    match files.node? place with
    | none => return
    | some own =>
      let follows := plan.follows || plan.followsFirst && depth = 0
      let (target, node) := if follows then followed files place own else (place, own)
      let visited : Visited := ⟨origin, path, depth, place, node, own⟩
      let consider : Walk Unit :=
        if depth < plan.least then return
        else do
          let _ ← ask means visited query
      modify fun progress => { progress with skips := false }
      if !plan.deepFirst then consider
      let progress : Progress ← get
      if node.content.isDirectory && !progress.skips && !progress.finished &&
          !(plan.most?.any (· ≤ depth)) then
        let names := (files.namesAt target).mergeSort fun a b => !Octets.before b a
        names.forM fun name =>
          visit means plan query bound origin (pathBelow path name) (depth + 1) (target ++ [name])
      if plan.deepFirst && !(← get).finished then consider

def runCollectors (means : Means) (plan : Plan) : Walk Unit := do
  let progress : Progress ← get
  plan.collectors.reverse.zipIdx.forM fun ((inside, words), number) => do
    let paths := (progress.noted.filter (·.1 == number)).reverse.map (·.2)
    if !paths.isEmpty then
      flush means
      let paths := if inside then paths.map insidePath else paths
      let succeeds ← act (means.run (words ++ paths) none)
      if !succeeds then act (modify fun state => { state with status := max state.status 1 })

def walkPaths (means : Means) (paths : List (List Char)) (plan : Plan) (query : Query) : Walk Unit := do
  paths.forM fun path => do
    if !(← get).finished then
      let files ← currentFiles
      match (do
        let place ← files.locate false path
        let _ ← files.lookUp false path
        return place : Except Failure Place) with
      | .ok place => visit means plan query Tool.maxDepth path path 0 place
      | .error failure => complain means s!"{Quoting.text path}: {failure.reason}" 1
  flush means
  runCollectors means plan
  flush means

end Walk

def answer (means : Means) (paths : List (List Char)) (plan : Plan) (query : Query) : Action Unit := do
  let _ ← (Walk.walkPaths means paths plan query).run ⟨[], [], false, false⟩

end Proctor.Machine.Query

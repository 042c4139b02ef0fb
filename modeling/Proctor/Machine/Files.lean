import Proctor.Machine.Failure
import Proctor.Machine.Octets
import Proctor.OrderedMap

/-! A tree of files: finding, reading, writing and removing them by path. Paths and what files hold
are octets. -/
namespace Proctor.Machine

/-- Where a file lies: the names on the way to it from the root. -/
abbrev Place := List (List Char)

inductive Content where
  | directory
  | file (octets : List Char)
  | program (name : String)
  | link (target : List Char)
  /-- A device that is empty and forgets what is written to it. -/
  | void
  | zeros
  /-- A device that holds zeros without end and has no space for anything else. -/
  | full
  | terminal
  | pipe
deriving DecidableEq, Repr

structure Node where
  content : Content
  mode : Nat
  modified : Nat
deriving DecidableEq, Repr

namespace Content

def isDirectory : Content → Bool
  | .directory => true
  | _ => false

def isFile : Content → Bool
  | .file _ => true
  | .program _ => true
  | _ => false

def isLink : Content → Bool
  | .link _ => true
  | _ => false

def isDevice : Content → Bool
  | .void => true
  | .zeros => true
  | .full => true
  | .terminal => true
  | _ => false

end Content

def Node.size (node : Node) : Nat :=
  match node.content with
  | .directory => 4096
  | .file octets => octets.length
  | .program _ => 65536
  | .link target => target.length
  | _ => 0

/-- All files, the directory in which relative paths start, and the number of changes so far. -/
structure Files where
  nodes : List (Place × Node)
  current : Place
  changes : Nat
deriving DecidableEq, Repr

namespace Files

def directoryMode : Nat := 0o755

def fileMode : Nat := 0o644

def node? (files : Files) (place : Place) : Option Node :=
  if place = [] then some ⟨.directory, directoryMode, 0⟩ else OrderedMap.get? place files.nodes

def content? (files : Files) (place : Place) : Option Content :=
  (files.node? place).map (·.content)

def maxName : Nat := 255

def maxPath : Nat := 4096

/-- Walks along the parts of a path; whatever a part is taken from must be a directory. An empty part
and one dot stay, two dots go up. Links are followed, the last part only if `follow` holds. The number
bounds the steps. -/
def walk (files : Files) (follow : Bool) : Nat → Place → List (List Char) → Except Failure Place
  | 0, _, _ => .error .tooManyLinks
  | _, place, [] => .ok place
  | bound + 1, place, part :: parts =>
    match files.content? place with
    | none => .error .missing
    | some .directory =>
      if maxName < part.length then .error .nameTooLong
      else if part = [] || part = ['.'] then walk files follow bound place parts
      else if part = ['.', '.'] then walk files follow bound place.dropLast parts
      else
        match files.content? (place ++ [part]) with
        | some (.link target) =>
          if parts.isEmpty && !follow then .ok (place ++ [part])
          else
            let start := if target.head? = some '/' then [] else place
            walk files follow bound start (Text.fields '/' target ++ parts)
        | _ => walk files follow bound (place ++ [part]) parts
    | some _ => .error .notDirectory

/-- The place that a path leads to; its last part need not exist. -/
def locate (files : Files) (follow : Bool) (path : List Char) : Except Failure Place :=
  if path.isEmpty then .error .missing
  else if path.contains '\x00' then .error .zeroByte
  else if maxPath ≤ path.length then .error .nameTooLong
  else
    let parts := Text.fields '/' path
    let bound := parts.length + 400
    files.walk follow bound (if path.head? = some '/' then [] else files.current) parts

def resolve (files : Files) (path : List Char) : Except Failure Place := files.locate true path

/-- What is found under a path, which may end at a link if `follow` does not hold. -/
def lookUp (files : Files) (follow : Bool) (path : List Char) : Except Failure Node := do
  match files.node? (← files.locate follow path) with
  | some node => return node
  | none => throw .missing

def find (files : Files) (path : List Char) : Except Failure Node := files.lookUp true path

def exists? (files : Files) (path : List Char) : Bool := (files.find path).isOk

def isDirectory (files : Files) (path : List Char) : Bool :=
  (files.find path).toOption.any (·.content.isDirectory)

def isFile (files : Files) (path : List Char) : Bool :=
  (files.find path).toOption.any (·.content.isFile)

def octetsOf (content : Content) : Except Failure (List Char) :=
  match content with
  | .directory => .error .isDirectory
  | .file octets => .ok octets
  | .terminal => .error .noDevice
  | _ => .ok []

def read (files : Files) (path : List Char) : Except Failure (List Char) := do
  octetsOf (← files.find path).content

def readText (files : Files) (path : List Char) : Except Failure String := do
  match Text.Utf8.decode? (Octets.toBytes (← files.read path)) with
  | some text => return String.ofList text
  | none => throw .notText

/-- Puts something at a place, in the place of what is there; the permissions stay. -/
def put (files : Files) (place : Place) (content : Content) (mode : Nat) : Files :=
  let mode := ((files.node? place).map (·.mode)).getD mode
  { files with
    nodes := OrderedMap.put place ⟨content, mode, files.changes + 1⟩ files.nodes
    changes := files.changes + 1 }

def store (files : Files) (place : Place) (octets : List Char) (mode : Nat) : Except Failure Files :=
  match files.content? place with
  | some .directory => .error .isDirectory
  | some (.program _) => .error .denied
  | some .void => .ok files
  | some .zeros => .ok files
  | some .full => if octets = [] then .ok files else .error .noSpace
  | some .terminal => .error .noDevice
  | _ => .ok (files.put place (.file octets) mode)

def write (files : Files) (path : List Char) (octets : List Char) : Except Failure Files := do
  if path.getLast? = some '/' && !files.exists? path then throw .isDirectory
  files.store (← files.resolve path) octets fileMode

def erase (files : Files) (place : Place) : Files :=
  { files with nodes := OrderedMap.erase place files.nodes, changes := files.changes + 1 }

def remove (files : Files) (path : List Char) : Except Failure Files := do
  let place ← files.locate false path
  match files.content? place with
  | none => throw .missing
  | some .directory => throw .isDirectory
  | some (.file _) => return files.erase place
  | some (.link _) => return files.erase place
  | some _ => throw .denied

def namesAt (files : Files) (place : Place) : List (List Char) :=
  files.nodes.filterMap fun (p, _) => if p ≠ [] && p.dropLast = place then p.getLast? else none

def namesIn (files : Files) (path : List Char) : List (List Char) :=
  match files.resolve path with
  | .error _ => []
  | .ok place => files.namesAt place

def countIn (files : Files) (path : List Char) : Nat := (files.namesIn path).length

def removeDirectory (files : Files) (path : List Char) : Except Failure Files := do
  let place ← files.locate false path
  match files.content? place with
  | none => throw .missing
  | some .directory =>
    if files.namesAt place = [] then return files.erase place else throw .notEmpty
  | some _ => throw .notDirectory

def move (files : Files) (source target : Place) : Files :=
  let rest := files.nodes.filter fun (p, _) => !target.isPrefixOf p || source.isPrefixOf p
  { files with
    nodes := rest.map fun (p, node) =>
      (if source.isPrefixOf p then target ++ p.drop source.length else p, node)
    changes := files.changes + 1 }

def makeDirectory (files : Files) (path : List Char) (mode : Nat) : Except Failure Files := do
  let place ← files.resolve path
  if (files.node? place).isSome then throw .present
  return files.put place .directory mode

def addDirectory (files : Files) (place : Place) : Files :=
  (List.range place.length).foldl (fun files n =>
    let part := place.take (n + 1)
    if (files.node? part).isSome then files
    else { files with nodes := files.nodes ++ [(part, ⟨.directory, directoryMode, 0⟩)] }) files

def add (files : Files) (place : Place) (node : Node) : Files :=
  let files := files.addDirectory place.dropLast
  { files with nodes := OrderedMap.put place node files.nodes }

def step (place : Place) (part : List Char) : Place :=
  if part = [] ∨ part = ['.'] then place
  else if part = ['.', '.'] then place.dropLast
  else place ++ [part]

/-- The place that a path spells, whether or not there is anything. -/
def placeOf (files : Files) (path : List Char) : Place :=
  let parts := Text.fields '/' path
  parts.foldl step (if parts.head? = some [] then [] else files.current)

def pathOf (place : Place) : List Char := if place = [] then ['/'] else place.flatMap ('/' :: ·)

def addFile (files : Files) (path : List Char) (octets : List Char) : Files :=
  files.add (files.placeOf path) ⟨.file octets, fileMode, 0⟩

def setMode (files : Files) (place : Place) (mode : Nat) : Files :=
  match files.node? place with
  | some node => { files with nodes := OrderedMap.put place { node with mode } files.nodes }
  | none => files

def touch (files : Files) (place : Place) : Files :=
  match files.node? place with
  | some node =>
    { files with
      nodes := OrderedMap.put place { node with modified := files.changes + 1 } files.nodes
      changes := files.changes + 1 }
  | none => files

end Files
end Proctor.Machine

import Proctor.OrderedMap
import Proctor.Path
import Proctor.Spec.Error

/-! The scripts under test: paths under display names, in the order in which they were added. -/
namespace Proctor

abbrev Targets := List (String × String)

namespace Targets

def maxNameLength : Nat := 64

def baseName (path : String) : Except SpecError String :=
  match Path.fileName? path with
  | none => .error (.noFileName path)
  | some name =>
    if maxNameLength < name.length then
      .ok (String.ofList (name.take maxNameLength ++ ['.', '.', '.']))
    else .ok (String.ofList name)

def candidate (base : String) : Nat → String
  | 0 => base
  | n + 1 => s!"{base} ({n + 2})"

def freshFrom (targets : Targets) (base : String) : Nat → Nat → String
  | 0, n => candidate base n
  | tries + 1, n =>
    if OrderedMap.contains (candidate base n) targets then freshFrom targets base tries (n + 1)
    else candidate base n

/-- The first candidate that is no display name yet. There are more candidates to try than display
names. -/
def freshName (targets : Targets) (base : String) : String :=
  freshFrom targets base targets.length 0

def add (targets : Targets) (path : String) : Except SpecError (String × Targets) :=
  (baseName path).map fun base =>
    let name := targets.freshName base
    (name, targets ++ [(name, path)])

def insert (targets : Targets) (name path : String) : Targets := OrderedMap.put name path targets

def remove (targets : Targets) (name : String) : Targets := OrderedMap.erase name targets

def get? (targets : Targets) (name : String) : Option String := OrderedMap.get? name targets

def containsPath (targets : Targets) (path : String) : Bool :=
  targets.any fun (_, p) => Path.same p path

/-- Whether two lists have the same names in the same order, with paths that differ at most in the
spelling of separators. -/
def same (targets others : Targets) : Bool :=
  targets.length == others.length &&
    (targets.zip others).all fun (target, other) =>
      target.1 == other.1 && Path.same target.2 other.2

def ofMembers (members : List (String × Json)) : Except Json.Fault Targets :=
  members.foldlM (fun targets (name, value) =>
    match value with
    | .string path => .ok (insert targets name path)
    | _ => .error (.refused s!"path of target '{name}' must be a string")) []

def toJson (targets : Targets) : Json :=
  .object (targets.map fun (name, path) => (name, .string path))

end Targets
end Proctor

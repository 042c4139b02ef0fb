import Proctor.Text.Segments

/-! File paths: their components, the name of the file, joining, and equality up to the spelling
of separators. -/
namespace Proctor.Path

inductive Component where
  | root
  | here
  | up
  | name (text : List Char)
deriving DecidableEq, Repr

/-- The components of a path. Empty parts and dots drop out, except a dot that starts a relative
path. -/
def components (path : String) : List Component :=
  let parts := Text.fields '/' path.toList
  let absolute := path.toList.head? = some '/'
  let start : List Component :=
    if absolute then [.root] else if parts.head? = some ['.'] then [.here] else []
  start ++ parts.filterMap fun part =>
    if part = [] ∨ part = ['.'] then none
    else if part = ['.', '.'] then some .up
    else some (.name part)

def fileName? (path : String) : Option (List Char) :=
  match (components path).getLast? with
  | some (.name text) => some text
  | _ => none

def same (p q : String) : Bool := components p == components q

def join (directory file : String) : String :=
  if file.toList.head? = some '/' then file
  else if directory.isEmpty || directory.toList.getLast? = some '/' then directory ++ file
  else directory ++ "/" ++ file

end Proctor.Path

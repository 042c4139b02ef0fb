import Proctor.Machine.Regex.Reader
import Proctor.Machine.Tool.Listing
import Proctor.Machine.Tool.Making

/-! Queries: what is asked of each file of a tree, and what is done with those that fit. -/
namespace Proctor.Machine

/-- A file that a walk has come to: where the walk started, the path from there, its depth, and what
lies there, of which `own` may be a link that `node` has followed. -/
structure Visited where
  origin : List Char
  path : List Char
  depth : Nat
  place : Place
  node : Node
  own : Node
deriving Repr

namespace Query

/-- How a number must compare with another one. -/
inductive Bound where
  | exactly (n : Nat)
  | above (n : Nat)
  | below (n : Nat)
deriving DecidableEq, Repr

def Bound.holds : Bound → Nat → Bool
  | .exactly n, m => m == n
  | .above n, m => n < m
  | .below n, m => m < n

/-- How the permissions of a file must compare with some: with all of them and no others, at least all
of them, or any of them. -/
inductive Share where
  | exactly
  | all
  | any
deriving DecidableEq, Repr

def Share.holds (share : Share) (asked mode : Nat) : Bool :=
  match share with
  | .exactly => mode == asked
  | .all => mode &&& asked == asked
  | .any => asked == 0 || mode &&& asked != 0

/-- The name, the path or the target of a link, as a pattern looks at it. -/
inductive Part where
  | name
  | path
  | target
deriving DecidableEq, Repr

inductive Test where
  | always (result : Bool)
  | fits (part : Part) (caseless : Bool) (pattern : List Wildcard)
  | matching (regex : Regex)
  /-- Whether the kind has one of some letters; `other` looks at links the other way round. -/
  | kind (other : Bool) (letters : List Char)
  | empty
  | size (bound : Bound) (unit : Nat)
  | mode (share : Share) (asked : Nat)
  | changedAfter (change : Nat)
  | links (bound : Bound)
  | age (bound : Bound)
  | at (place : Place)
  | runs

/-- A piece of a format: a text, or what a letter stands for at some width. -/
inductive Piece where
  | text (octets : List Char)
  | item (letter : Char) (left : Bool) (width : Nat)
deriving DecidableEq, Repr

inductive Deed where
  | show (ending : Char)
  | format (pieces : List Piece)
  /-- Runs a program on the file, in its directory if `inside` holds. -/
  | run (inside : Bool) (words : List (List Char))
  /-- Notes the file for a program that runs on all of them at the end. -/
  | note (number : Nat)
  | remove
  | skip
  | quit
deriving DecidableEq, Repr

end Query

/-- A query: tests and deeds, which are done as far as those before them allow. -/
inductive Query where
  | test (test : Query.Test)
  | deed (deed : Query.Deed)
  | not (inner : Query)
  | both (first second : Query)
  | either (first second : Query)
  | sequence (first second : Query)

namespace Query

/-! ### Names -/

def baseName (path : List Char) : List Char :=
  let bare := (path.reverse.dropWhile (· = '/')).reverse
  if bare = [] then path.take 1 else (bare.reverse.takeWhile (· ≠ '/')).reverse

def parentPath (path : List Char) : List Char :=
  let bare := (path.reverse.dropWhile (· = '/')).reverse
  match bare.reverse.dropWhile (· ≠ '/') with
  | [] => if bare = [] then [] else ['.']
  | ['/'] => []
  | _ :: rest => rest.reverse

def pathBelow (directory name : List Char) : List Char :=
  if directory.getLast? = some '/' then directory ++ name else directory ++ '/' :: name

def kindLetter (node : Node) : Char :=
  match node.content.letter with
  | '-' => 'f'
  | letter => letter

/-- What a link leads to, or the link itself if that is nothing. -/
def followed (files : Files) (place : Place) (node : Node) : Place × Node :=
  match node.content with
  | .link _ =>
    match files.resolve (Files.pathOf place) with
    | .ok target => (target, (files.node? target).getD node)
    | .error _ => (place, node)
  | _ => (place, node)

/-! ### Tests -/

def lowered (text : List Char) : List Char := text.map Char.toLower

def Test.holds (files : Files) (visited : Visited) : Test → Bool
  | .always result => result
  | .fits part caseless pattern =>
    let text := match part, visited.own.content with
      | .name, _ => baseName visited.path
      | .path, _ => visited.path
      | .target, .link target => target
      | .target, _ => []
    let isLink := visited.own.content.isLink
    (part ≠ .target || isLink) && Wildcard.fits pattern (if caseless then lowered text else text)
  | .matching regex =>
    let text := visited.path.toArray
    (regex.matchAt? text (· == text.size) 0).isSome
  | .kind other letters =>
    let node := if other then
        if visited.own.content.isLink && visited.node.content.isLink then
          (followed files visited.place visited.own).2
        else visited.own
      else visited.node
    letters.contains (kindLetter node)
  | .empty =>
    match visited.node.content with
    | .directory => files.namesAt visited.place = []
    | .file octets => octets = []
    | _ => false
  | .size bound unit => bound.holds ((visited.node.size + unit - 1) / unit)
  | .mode share asked => share.holds asked visited.node.mode
  | .changedAfter change => change < visited.node.modified
  | .links bound => bound.holds (files.linkCount visited.place visited.node)
  | .age bound => bound.holds 0
  | .at place => visited.place = place
  | .runs => visited.node.content.isDirectory || visited.node.mode &&& 0o111 != 0

/-! ### Formats -/

def itemText (files : Files) (visited : Visited) (letter : Char) : List Char :=
  let digits (n : Nat) : List Char := digitsOf 10 n
  match letter with
  | 'p' => visited.path
  | 'f' => baseName visited.path
  | 'h' => parentPath visited.path
  | 'H' => visited.origin
  | 'P' =>
    let below := visited.path.drop visited.origin.length
    if below.head? = some '/' then below.drop 1 else below
  | 's' => digits visited.node.size
  | 'd' => digits visited.depth
  | 'k' => digits visited.node.blocks
  | 'b' => digits (2 * visited.node.blocks)
  | 'm' => digitsOf 8 visited.node.mode
  | 'M' => visited.node.permissions
  | 'y' => [kindLetter visited.node]
  | 'Y' =>
    let (_, target) := followed files visited.place visited.own
    if target.content.isLink then ['N'] else [kindLetter target]
  | 'l' =>
    match visited.node.content with
    | .link target => target
    | _ => []
  | 'n' => digits (files.linkCount visited.place visited.node)
  | 'u' => "root".toList
  | 'g' => "root".toList
  | 'U' => ['0']
  | 'G' => ['0']
  | _ => []

def Piece.show (files : Files) (visited : Visited) : Piece → List Char
  | .text octets => octets
  | .item letter left width =>
    let shown := itemText files visited letter
    if left then Tool.leftAligned width shown else Tool.rightAligned width shown

def acts : Query → Bool
  | .test _ => false
  | .deed .skip => false
  | .deed .quit => false
  | .deed _ => true
  | .not inner => acts inner
  | .both first second => acts first || acts second
  | .either first second => acts first || acts second
  | .sequence first second => acts first || acts second

end Query
end Proctor.Machine

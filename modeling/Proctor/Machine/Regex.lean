import Proctor.Machine.Wildcard

/-! Regular expressions: the places where their matches end, the longest match among those that start
first, and what the groups of a match hold. -/
namespace Proctor.Machine

inductive Regex where
  | empty
  | char (negated : Bool) (ranges : List (Char × Char))
  | start
  | finish
  | lineStart
  | lineFinish
  /-- Where a word starts or ends: before it if `opens` holds, after it if `closes` holds. -/
  | border (opens closes : Bool)
  | noBorder
  | both (first second : Regex)
  | either (first second : Regex)
  | many (inner : Regex)
  | group (number : Nat) (inner : Regex)
  | again (number : Nat)
deriving DecidableEq, Repr

namespace Regex

def isWordChar (c : Char) : Bool := c.isAlphanum || c == '_'

def wordAround (text : Array Char) (place : Nat) : Bool × Bool :=
  (place ≠ 0 && (text[place - 1]?).any isWordChar, (text[place]?).any isWordChar)

def holdsAt (text : Array Char) (place : Nat) : Regex → Bool
  | .empty => true
  | .start => place == 0
  | .finish => place == text.size
  | .lineStart => place == 0 || text[place - 1]? == some '\n'
  | .lineFinish => place == text.size || text[place]? == some '\n'
  | .border opens closes =>
    match wordAround text place with
    | (false, true) => opens
    | (true, false) => closes
    | _ => false
  | .noBorder =>
    let (before, after) := wordAround text place
    before == after
  | _ => false

def fitsChar (negated : Bool) (ranges : List (Char × Char)) (c : Char) : Bool :=
  inRanges ranges c != negated

/-! ### Ends of matches -/

def merge : List Nat → List Nat → List Nat
  | [], others => others
  | first :: rest, others =>
    let (smaller, greater) := others.span (· < first)
    smaller ++ first :: merge rest (if greater.head? = some first then greater.tail else greater)

/-- The places of an ascending list that are not in another one. -/
def without : List Nat → List Nat → List Nat
  | [], _ => []
  | first :: rest, others =>
    let others := others.dropWhile (· < first)
    if others.head? = some first then without rest others else first :: without rest others

def closure (step : List Nat → List Nat) : Nat → List Nat → List Nat → List Nat
  | 0, seen, _ => seen
  | bound + 1, seen, fresh =>
    let next := without (step fresh) seen
    if next = [] then seen else closure step bound (merge seen next) next

/-- All places up to which characters fit one after another, from each of some places; `reached` is the
place after those that are done. -/
def runs (text : Array Char) (fits : Char → Bool) (reached : Nat) : List Nat → List Nat
  | [] => []
  | place :: rest =>
    if place < reached then runs text fits reached rest
    else
      let tail := (text.toList.drop place).takeWhile fits
      let found := (List.range (tail.length + 1)).map (place + ·)
      found ++ runs text fits (place + tail.length + 1) rest

/-- The places where matches end that start at given places. What is remembered is not known here: any
text may stand for it. -/
def ends (text : Array Char) : Regex → List Nat → List Nat
  | .char negated ranges, places => places.filterMap fun place =>
    if (text[place]?).any (fitsChar negated ranges) then some (place + 1) else none
  | .both first second, places => ends text second (ends text first places)
  | .either first second, places => merge (ends text first places) (ends text second places)
  | .many (.char negated ranges), places => runs text (fitsChar negated ranges) 0 places
  | .many inner, places => closure (ends text inner) (text.size + 1) places places
  | .group _ inner, places => ends text inner places
  | .again _, places => runs text (fun _ => true) 0 places
  | atom, places => places.filter fun place => holdsAt text place atom

/-! ### What groups hold -/

/-- The start and the end of what is remembered under numbers, the last first. -/
abbrev Groups := List (Nat × Nat × Nat)

/-- What follows in a match: from a place and the groups so far to the groups at its end. -/
abbrev Next := Nat → Groups → Option Groups

/-- Repeats a step as often as it leads on, and less often if the rest of the match needs that. -/
def repeated (step : Next → Next) (next : Next) : Nat → Next
  | 0, place, groups => next place groups
  | bound + 1, place, groups =>
    let more := step (fun after groups =>
      if place < after then repeated step next bound after groups else none) place groups
    match more with
    | some found => some found
    | none => next place groups

def trace (text : Array Char) : Regex → Next → Next
  | .char negated ranges, next, place, groups =>
    if (text[place]?).any (fitsChar negated ranges) then next (place + 1) groups else none
  | .both first second, next, place, groups => trace text first (trace text second next) place groups
  | .either first second, next, place, groups =>
    match trace text first next place groups with
    | some found => some found
    | none => trace text second next place groups
  | .many inner, next, place, groups =>
    repeated (trace text inner) next (text.size + 1) place groups
  | .group number inner, next, place, groups =>
    trace text inner (fun after groups => next after ((number, place, after) :: groups)) place groups
  | .again number, next, place, groups =>
    match groups.lookup number with
    | some (from', to') =>
      let length := to' - from'
      if text.extract from' to' = text.extract place (place + length) then
        next (place + length) groups
      else none
    | none => none
  | atom, next, place, groups => if holdsAt text place atom then next place groups else none

def remembers : Regex → Bool
  | .both first second => remembers first || remembers second
  | .either first second => remembers first || remembers second
  | .many inner => remembers inner
  | .group _ inner => remembers inner
  | .again _ => true
  | _ => false

/-- A match: where it starts and ends, and its groups. -/
structure Match where
  start : Nat
  stop : Nat
  groups : Groups
deriving DecidableEq, Repr

def groupsOf? (regex : Regex) (text : Array Char) (origin stop : Nat) : Option Groups :=
  trace text regex (fun place groups => if place = stop then some groups else none) origin []

def matchAt? (regex : Regex) (text : Array Char) (allowed : Nat → Bool) (origin : Nat) :
    Option Match :=
  let stops := (ends text regex [origin]).reverse.filter allowed
  if remembers regex then
    stops.findSome? fun stop => (groupsOf? regex text origin stop).map (⟨origin, stop, ·⟩)
  else stops.head?.map fun stop => ⟨origin, stop, (groupsOf? regex text origin stop).getD []⟩

/-- The first match that starts at a place or after it; the number counts the places to try. -/
def matchFrom? (regex : Regex) (text : Array Char) : Nat → Nat → Option Match
  | 0, _ => none
  | bound + 1, origin =>
    match regex.matchAt? text (fun _ => true) origin with
    | some found => some found
    | none => matchFrom? regex text bound (origin + 1)

def find? (regex : Regex) (text : Array Char) (origin : Nat) : Option Match :=
  regex.matchFrom? text (text.size + 1 - origin) origin

def occurs (regex : Regex) (text : Array Char) : Bool :=
  if remembers regex then (regex.find? text 0).isSome
  else ends text regex (List.range (text.size + 1)) ≠ []

def caseless : Regex → Regex
  | .char negated ranges =>
    let swapped := ranges.flatMap fun (low, high) =>
      let letters := (List.range 52).map fun n => Char.ofNat (if n < 26 then 65 + n else 71 + n)
      (letters.filter fun c => low ≤ c && c ≤ high).map fun c =>
        if c.isUpper then (c.toLower, c.toLower) else (c.toUpper, c.toUpper)
    .char negated (ranges ++ swapped)
  | .both first second => .both (caseless first) (caseless second)
  | .either first second => .either (caseless first) (caseless second)
  | .many inner => .many (caseless inner)
  | .group number inner => .group number (caseless inner)
  | other => other

def ofFixed (text : List Char) : Regex :=
  text.foldr (fun c rest => .both (.char false [(c, c)]) rest) .empty

def copies (regex : Regex) (least : Nat) : Option Nat → Regex
  | none => .both (required least) (.many regex)
  | some most => .both (required least) (optional (most - least))
where
  required : Nat → Regex
    | 0 => .empty
    | n + 1 => .both regex (required n)
  optional : Nat → Regex
    | 0 => .empty
    | n + 1 => .either (.both regex (optional n)) .empty

end Regex
end Proctor.Machine

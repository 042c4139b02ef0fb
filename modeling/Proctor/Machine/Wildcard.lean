/-! Wildcard patterns, as a shell uses them to match and to cut texts, and the classes of characters
in brackets. -/
namespace Proctor.Machine

def inRanges (ranges : List (Char × Char)) (c : Char) : Bool :=
  ranges.any fun (low, high) => low ≤ c && c ≤ high

def classes : List (String × List (Char × Char)) :=
  [("alnum", [('0', '9'), ('A', 'Z'), ('a', 'z')]), ("alpha", [('A', 'Z'), ('a', 'z')]),
    ("blank", [(' ', ' '), ('\t', '\t')]), ("cntrl", [('\x00', '\x1f'), ('\x7f', '\x7f')]),
    ("digit", [('0', '9')]), ("graph", [('!', '~')]), ("lower", [('a', 'z')]),
    ("print", [(' ', '~')]), ("punct", [('!', '/'), (':', '@'), ('[', '\x60'), ('\x7b', '~')]),
    ("space", [(' ', ' '), ('\t', '\x0d')]), ("upper", [('A', 'Z')]),
    ("xdigit", [('0', '9'), ('A', 'F'), ('a', 'f')])]

/-- The class whose name stands between colons at the start of a text, and the text after the bracket
behind it. -/
def class? (text : List Char) : Option (List (Char × Char) × List Char) :=
  match text with
  | '[' :: ':' :: rest =>
    let name := rest.takeWhile Char.isAlpha
    match rest.drop name.length, classes.lookup (String.ofList name) with
    | ':' :: ']' :: rest, some ranges => some (ranges, rest)
    | _, _ => none
  | _ => none

inductive Wildcard where
  | char (c : Char)
  | one
  | many
  | range (negated : Bool) (ranges : List (Char × Char))
deriving DecidableEq, Repr

namespace Wildcard

/-- A character of a pattern, and whether a quote or a backslash takes its meaning. -/
abbrev Mark := Char × Bool

/-- The ranges at the start of a text that does not close a bracket, and the text after them. -/
def rangeOf (first : Mark) (rest : List Mark) : List (Char × Char) × List Mark :=
  match class? ((first :: rest).map (·.1)), rest with
  | some (ranges, after), _ => (ranges, rest.drop (rest.length - after.length))
  | none, ('-', false) :: (']', false) :: _ => ([(first.1, first.1)], rest)
  | none, ('-', false) :: high :: rest => ([(first.1, high.1)], rest)
  | none, rest => ([(first.1, first.1)], rest)

/-- The ranges up to a closing bracket, and the text after it; a bracket that comes first is a
character. The number bounds how many ranges there are. -/
def rangesUpTo : Nat → Bool → List Mark → Option (List (Char × Char) × List Mark)
  | 0, _, _ => none
  | _, _, [] => none
  | bound + 1, first, mark :: rest =>
    if mark = (']', false) && !first then some ([], rest)
    else
      let (found, rest) := rangeOf mark rest
      (rangesUpTo bound false rest).map fun (ranges, rest) => (found ++ ranges, rest)

/-- The pattern of marks. A bracket that nothing closes stands for itself. -/
def ofMarks : Nat → List Mark → List Wildcard
  | 0, _ => []
  | _, [] => []
  | bound + 1, (c, quoted) :: rest =>
    if quoted then .char c :: ofMarks bound rest
    else if c = '*' then .many :: ofMarks bound rest
    else if c = '?' then .one :: ofMarks bound rest
    else if c = '[' then
      let (negated, inside) := match rest with
        | ('!', false) :: inside => (true, inside)
        | ('^', false) :: inside => (true, inside)
        | inside => (false, inside)
      match rangesUpTo (inside.length + 1) true inside with
      | some (ranges, after) => .range negated ranges :: ofMarks bound after
      | none => .char '[' :: ofMarks bound rest
    else .char c :: ofMarks bound rest

def markedChars : List Char := "!*?[=~:/-]\\".toList

/-- The marks of a pattern without the backslashes in it that take the meaning of what follows them. A
backslash before a quoted sign stands for itself, and the sign has its meaning. -/
def withoutBackslashes (marks : List Mark) : List Mark :=
  let step (found : List Mark × Bool) (mark : Mark) : List Mark × Bool :=
    let (c, quoted) := mark
    match found with
    | (marks, false) => if mark = ('\\', false) then (marks, true) else (mark :: marks, false)
    | (marks, true) =>
      if quoted && markedChars.contains c then
        let marks := ('\\', true) :: marks
        if c = '\\' then (marks, true) else ((c, false) :: marks, false)
      else ((c, true) :: marks, false)
  let (found, escaped) := marks.foldl step ([], false)
  (if escaped then ('\\', true) :: found else found).reverse

def ofText (marks : List Mark) : List Wildcard :=
  let marks := withoutBackslashes marks
  ofMarks (marks.length + 1) marks

def ofPlain (text : List Char) : List Wildcard := ofText (text.map fun c => (c, false))

def fitsOne : Wildcard → Char → Bool
  | .char c, d => c == d
  | .one, _ => true
  | .many, _ => false
  | .range negated ranges, d => inRanges ranges d != negated

/-- The patterns of which one must fit the rest of a text, after the first character of the text is
taken from one of some patterns. -/
def advance (c : Char) (patterns : List (List Wildcard)) : List (List Wildcard) :=
  (patterns.flatMap fun
    | .many :: pattern => [.many :: pattern]
    | part :: pattern => if part.fitsOne c then [pattern] else []
    | [] => []).eraseDups

/-- A pattern and those that are left when its first parts stand for nothing. -/
def opened : List Wildcard → List (List Wildcard)
  | .many :: pattern => (.many :: pattern) :: opened pattern
  | pattern => [pattern]

def anyFits : List (List Wildcard) → List Char → Bool
  | patterns, [] => patterns.any (·.isEmpty)
  | patterns, c :: rest =>
    let next := advance c patterns
    if next = [] then false else anyFits (next.flatMap opened).eraseDups rest

def fits (pattern : List Wildcard) (text : List Char) : Bool := anyFits (opened pattern) text

def plain? : List Wildcard → Option (List Char)
  | [] => some []
  | .char c :: rest => (plain? rest).map (c :: ·)
  | _ => none

def startLengths (length : Nat) : List (List Wildcard) → List Char → List Nat
  | patterns, [] => if patterns.any (·.isEmpty) then [length] else []
  | patterns, c :: rest =>
    let here := if patterns.any (·.isEmpty) then [length] else []
    let next := advance c patterns
    here ++ if next = [] then []
      else startLengths (length + 1) (next.flatMap opened).eraseDups rest

/-- The text without a piece at its start that the pattern fits: the longest or the shortest. -/
def cutStart (longest : Bool) (pattern : List Wildcard) (text : List Char) : List Char :=
  let lengths := startLengths 0 (opened pattern) text
  match if longest then lengths.getLast? else lengths.head? with
  | some n => text.drop n
  | none => text

/-- The text without a piece at its end that the pattern fits: the longest or the shortest. -/
def cutEnd (longest : Bool) (pattern : List Wildcard) (text : List Char) : List Char :=
  (cutStart longest pattern.reverse text.reverse).reverse

end Wildcard
end Proctor.Machine

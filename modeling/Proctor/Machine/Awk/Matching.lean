import Proctor.Machine.Awk.Token
import Proctor.Machine.Regex.Reader

/-! How programs that scan records use regular expressions: how they are written, how they divide a text,
and how their matches are replaced. -/
namespace Proctor.Machine.Awk

/-! ### Reading -/

/-- The character at the start of a text in a bracket, which may be an escape, and the text after it. -/
def bracketChar? (text : List Char) : Option (Char × List Char) :=
  match text with
  | '\\' :: rest =>
    match Token.escape? rest, rest with
    | some found, _ => some found
    | none, c :: rest => some (c, rest)
    | none, [] => none
  | c :: rest => some (c, rest)
  | [] => none

/-- The ranges up to the end of a bracket, and the text after it. A closing bracket that comes first is a
character. The number bounds the octets. -/
def bracketRanges? : Nat → Bool → List Char → Option (List (Char × Char) × List Char)
  | 0, _, _ => none
  | bound + 1, first, text => do
    let go (ranges : List (Char × Char)) (rest : List Char) :
        Option (List (Char × Char) × List Char) :=
      (bracketRanges? bound false rest).map fun (others, after) => (ranges ++ others, after)
    match text with
    | ']' :: rest => if first then go [(']', ']')] rest else some ([], rest)
    | '[' :: ':' :: rest =>
      match Regex.named? ':' rest with
      | some (name, after) =>
        match classes.lookup (String.ofList name) with
        | some ranges => go ranges after
        | none => none
      | none => none
    | text =>
      let (low, rest) ← bracketChar? text
      match rest with
      | '-' :: ']' :: _ => go [(low, low)] rest
      | '-' :: more =>
        let (high, after) ← bracketChar? more
        go [(low, high)] after
      | rest => go [(low, low)] rest

def signsOf : Nat → List Char → List Regex.Sign
  | 0, _ => []
  | _, [] => []
  | bound + 1, c :: rest =>
    let go (sign : Regex.Sign) : List Regex.Sign := sign :: signsOf bound rest
    match c with
    | '\\' =>
      match Token.escape? rest, rest with
      | some (d, rest), _ => .atom (Regex.ofChar d) :: signsOf bound rest
      | none, d :: rest => .atom (Regex.ofChar d) :: signsOf bound rest
      | none, [] => [.atom (Regex.ofChar '\\')]
    | '[' =>
      let (negated, inside) := match rest with
        | '^' :: inside => (true, inside)
        | inside => (false, inside)
      match bracketRanges? (inside.length + 1) true inside with
      | some (ranges, rest) => .atom (.char negated ranges) :: signsOf bound rest
      | none => [.bad .bracket]
    | '.' => go (.atom (.char true []))
    | '*' => go .star
    | '^' => go (.anchor .start)
    | '$' => go (.anchor .finish)
    | '\x7b' => go (if rest.head?.any (fun d => isDecimalDigit d || d == ',') then .openCount
        else .atom (Regex.ofChar c))
    | c =>
      match Regex.switchedSigns.lookup c with
      | some sign => go sign
      | none => go (.atom (Regex.ofChar c))

/-- Signs in which a closing parenthesis stands for itself if there is none to close. -/
def withoutStray (signs : List Regex.Sign) : List Regex.Sign :=
  let (found, _) := signs.foldl (fun (found, depth) sign =>
    if sign = .opening then (sign :: found, depth + 1)
    else if sign = .closing then
      if depth = 0 then (.atom (Regex.ofChar ')') :: found, 0) else (sign :: found, depth - 1)
    else (sign :: found, depth)) (([] : List Regex.Sign), 0)
  found.reverse

def repeatsStart (signs : List Regex.Sign) : Bool :=
  (signs.zip (signs.drop 1)).any fun (sign, after) =>
    sign = .anchor .start && (after = .star || after = .plus)

def lacksOperand (signs : List Regex.Sign) : Bool :=
  let (missing, opened) := signs.foldl (fun (missing, opened) sign =>
    let needs := sign = .star || sign = .plus || sign = .question || sign = .bar || sign = .closing
    (missing || (opened && needs), sign = .opening || sign = .bar)) (false, true)
  missing || (opened && signs ≠ [] && signs.getLast? ≠ some .opening)

def faultText (fault : Regex.Fault) : String :=
  match fault with
  | .group => "missing ')'"
  | .bracket => "bad class -- [], [^] or ["
  | .size => "bad interval expression"
  | .content => "bad interval expression"
  | .brace => "bad interval expression"
  | _ => "missing operand"

def regexFault (text : List Char) (reason : String) : String :=
  s!"regular expression compile failed ({reason})\n{String.ofList text}"

def regexOf (text : List Char) : Except String Regex :=
  let signs := withoutStray (signsOf (text.length + 1) text)
  if repeatsStart signs then .error (regexFault text "syntax error ^* or ^+")
  else if lacksOperand signs && !signs.any (fun sign => sign matches .bad _) then
    .error (regexFault text "missing operand")
  else
    match Regex.ofSigns ⟨true, true, false⟩ signs with
    | .ok (regex, _) => .ok regex
    | .error fault => .error (regexFault text (faultText fault))

/-! ### Dividing -/

inductive Separator where
  | blanks
  | nothing
  | char (c : Char)
  | regex (regex : Regex)
deriving Repr, Inhabited

def Separator.ofText (text : List Char) : Except String Separator :=
  match text with
  | [] => .ok .nothing
  | [' '] => .ok .blanks
  | [c] => .ok (.char c)
  | text => (regexOf text).map .regex

/-- The parts of a text between matches that are not empty, the last first. The number bounds the
matches. -/
def partsBetween (hit : Regex) (text : Array Char) :
    Nat → (start origin : Nat) → List (List Char) → List (List Char)
  | 0, start, _, found => (text.extract start text.size).toList :: found
  | bound + 1, start, origin, found =>
    match hit.find? text origin with
    | none => (text.extract start text.size).toList :: found
    | some one =>
      if one.start = one.stop then
        if text.size ≤ one.start then (text.extract start text.size).toList :: found
        else partsBetween hit text bound start (one.start + 1) found
      else
        partsBetween hit text bound one.stop one.stop
          ((text.extract start one.start).toList :: found)

def wordsOf (text : List Char) : List (List Char) :=
  let (found, current) := text.foldl (fun (found, current) c =>
    if isBlank c then (if current = [] then found else current.reverse :: found, [])
    else (found, c :: current)) (([] : List (List Char)), ([] : List Char))
  ((if current = [] then [] else [current.reverse]) ++ found).reverse

/-- The fields of a text; a newline divides it too if `lines` holds. -/
def Separator.divide (separator : Separator) (lines : Bool) (text : List Char) : List (List Char) :=
  if text = [] then []
  else
    match separator with
    | .blanks => wordsOf text
    | .nothing => text.map ([·])
    | .char c =>
      if lines && c ≠ '\n' then
        (Text.fields '\n' text).flatMap (Text.fields c)
      else Text.fields c text
    | .regex hit =>
      let hit := if lines then .either hit (Regex.ofChar '\n') else hit
      let text := text.toArray
      (partsBetween hit text (text.size + 1) 0 0 []).reverse

/-! ### Replacing -/

/-- A text that takes the place of a match, in parts; between them stands what was matched. Backslashes
before an ampersand take its meaning or that of each other. -/
def replacementParts (text : List Char) : List (List Char) :=
  let (found, current, slashes) := text.foldl (fun (found, current, slashes) c =>
    if c = '\\' then (found, current, slashes + 1)
    else if c = '&' then
      let current := List.replicate (slashes / 2) '\\' ++ current
      if slashes % 2 = 1 then (found, '&' :: current, 0) else (current.reverse :: found, [], 0)
    else (found, c :: (List.replicate slashes '\\' ++ current), 0))
    (([] : List (List Char)), ([] : List Char), 0)
  ((List.replicate slashes '\\' ++ current).reverse :: found).reverse

/-- A text with matches replaced, the last part first, and how many there were. An empty match just after
another one does not count; `before?` is the end of the last one. The number bounds the matches. -/
def replacedFrom (regex : Regex) (parts : List (List Char)) (every : Bool) (text : Array Char) :
    Nat → (origin : Nat) → (before? : Option Nat) → (found : List (List Char)) → Nat →
    List (List Char) × Nat
  | 0, origin, _, found, count => ((text.extract origin text.size).toList :: found, count)
  | bound + 1, origin, before?, found, count =>
    if text.size < origin then (found, count)
    else
      match regex.find? text origin with
      | none => ((text.extract origin text.size).toList :: found, count)
      | some hit =>
        let before := (text.extract origin hit.start).toList
        let next := (text.extract hit.stop (hit.stop + 1)).toList
        if hit.start = hit.stop && before? = some hit.start then
          replacedFrom regex parts every text bound (hit.stop + 1) none (next :: before :: found) count
        else
          let new := (text.extract hit.start hit.stop).toList.intercalate parts
          let found := new :: before :: found
          if !every then ((text.extract hit.stop text.size).toList :: found, count + 1)
          else if hit.start = hit.stop then
            replacedFrom regex parts every text bound (hit.stop + 1) none (next :: found) (count + 1)
          else replacedFrom regex parts every text bound hit.stop (some hit.stop) found (count + 1)

def replaced (regex : Regex) (replacement text : List Char) (every : Bool) : List Char × Nat :=
  let array := text.toArray
  let (found, count) :=
    replacedFrom regex (replacementParts replacement) every array (2 * array.size + 3) 0 none [] 0
  (found.reverse.flatten, count)

end Proctor.Machine.Awk

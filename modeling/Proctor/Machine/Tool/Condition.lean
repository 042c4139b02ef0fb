import Proctor.Machine.Tool.Basic

/-! The conditions of `test`: on texts, on numbers and on files. The shell and the tool of that name read
the same words by rules of their own. -/
namespace Proctor.Machine.Tool.Condition

/-- What a path leads to; a link at its end is followed if the first argument holds. -/
abbrev Look := Bool → List Char → Option Node

/-! ### Operators -/

def aboutFile (look : Look) (letter : Char) (path : List Char) : Bool :=
  let followed (holds : Node → Bool) : Bool := (look true path).any holds
  match letter with
  | 'f' => followed fun node => node.content.isFile
  | 'd' => followed fun node => node.content.isDirectory
  | 'c' => followed fun node => node.content.isDevice
  | 'b' => false
  | 'p' => followed fun node => node.content = .pipe
  | 'S' => false
  | 's' => followed fun node => node.size ≠ 0
  | 'x' => followed fun node => node.content.isDirectory || node.mode &&& 0o111 ≠ 0
  | 'u' => followed fun node => node.mode &&& 0o4000 ≠ 0
  | 'g' => followed fun node => node.mode &&& 0o2000 ≠ 0
  | 'k' => followed fun node => node.mode &&& 0o1000 ≠ 0
  | 'h' => (look false path).any (·.content.isLink)
  | 'L' => (look false path).any (·.content.isLink)
  | _ => followed fun _ => true

def fileLetters : List Char := "rwxefdcbpugkshLSOG".toList

def textLetters : List Char := "znt".toList

def unary? : List Char → Option Char
  | ['-', c] => if fileLetters.contains c || textLetters.contains c then some c else none
  | _ => none

def isNewer (look : Look) (path other : List Char) : Option Bool := do
  return (← look true other).modified < (← look true path).modified

def comparison? (look : Look) (operator : String) :
    Option (List Char → List Char → Bool) :=
  match operator with
  | "=" => some fun left right => left = right
  | "!=" => some fun left right => left ≠ right
  | "<" => some fun left right => Octets.before left right
  | ">" => some fun left right => Octets.before right left
  | "-nt" => some fun left right => (isNewer look left right).getD false
  | "-ot" => some fun left right => (isNewer look right left).getD false
  | "-ef" => some fun left right => (look true left).isSome && look true left = look true right
  | _ => none

def numeric? : String → Option (Int → Int → Bool)
  | "-eq" => some fun left right => left = right
  | "-ne" => some fun left right => left ≠ right
  | "-lt" => some fun left right => left < right
  | "-le" => some fun left right => left ≤ right
  | "-gt" => some fun left right => right < left
  | "-ge" => some fun left right => right ≤ left
  | _ => none

/-- How a reader of conditions looks at files, and reads numbers. -/
structure Reading where
  look : Look
  integer : List Char → Except String Int
  operators : List String

namespace Reading

def isBinary (reading : Reading) (word : List Char) : Bool :=
  reading.operators.contains (String.ofList word)

def unary (reading : Reading) (letter : Char) (operand : List Char) : Except String Bool :=
  match letter with
  | 'n' => .ok (operand ≠ [])
  | 'z' => .ok (operand = [])
  | 't' => do
    let _ ← reading.integer operand
    return false
  | letter => .ok (aboutFile reading.look letter operand)

def binary (reading : Reading) (left operator right : List Char) : Except String Bool :=
  let operator := String.ofList operator
  match numeric? operator with
  | some holds => do return holds (← reading.integer left) (← reading.integer right)
  | none =>
    match comparison? reading.look (if operator = "==" then "=" else operator) with
    | some holds => .ok (holds left right)
    | none => .ok false

end Reading

def operators : List String :=
  ["=", "!=", "-eq", "-ne", "-lt", "-le", "-gt", "-ge", "-nt", "-ot", "-ef"]

/-! ### In the shell -/

namespace Shell

/-- What a word means in a condition. -/
inductive Meaning where
  | nothing
  | operand
  | unary (letter : Char)
  | binary
  | no
  | both
  | either
  | opens
  | closes
deriving DecidableEq, Repr

/-- The meaning of the first of some words. An operator for one operand is an operand itself if none
follows it, or if an operator for two follows and something else. -/
def meaning (reading : Reading) : List (List Char) → Meaning
  | [] => .nothing
  | ['!'] :: _ => .no
  | ['-', 'a'] :: _ => .both
  | ['-', 'o'] :: _ => .either
  | ['('] :: rest => if rest = [] then .operand else .opens
  | [')'] :: _ => .closes
  | word :: rest =>
    if reading.isBinary word then .binary
    else
      match unary? word, rest with
      | some _, [] => .operand
      | some letter, [_] => .unary letter
      | some letter, next :: _ => if reading.isBinary next then .operand else .unary letter
      | none, _ => .operand

/-- Whether a condition holds, and the words from its last one on. -/
abbrev Found := Except String (Bool × List (List Char))

def refused {α : Type} (word : List Char) (message : String) : Except String α :=
  .error (if word = [] then message else s!"{String.ofList word}: {message}")

/-- A condition without operators that join others; `inner` reads one in brackets. -/
def single (reading : Reading) (inner : Meaning → List (List Char) → Found) (meaning : Meaning)
    (words : List (List Char)) : Found :=
  match meaning, words with
  | .nothing, words => .ok (false, words)
  | _, [] => .ok (false, [])
  | .opens, _ :: rest =>
    let next := Shell.meaning reading rest
    if next = .closes then .ok (false, rest)
    else do
      let (holds, last) ← inner next rest
      match last.tail with
      | [')'] :: after => return (holds, [')'] :: after)
      | _ => .error "closing paren expected"
  | .unary letter, operator :: rest =>
    match rest with
    | [] => refused operator "argument expected"
    | operand :: _ => do return (← reading.unary letter operand, rest)
  | _, left :: operator :: rest =>
    if Shell.meaning reading (operator :: rest) = .binary then
      match rest with
      | [] => refused operator "argument expected"
      | right :: _ => do return (← reading.binary left operator right, rest)
    else .ok (left ≠ [], left :: operator :: rest)
  | _, [word] => .ok (word ≠ [], [word])

def denied (reading : Reading) (inner : Meaning → List (List Char) → Found) :
    Nat → Meaning → List (List Char) → Found
  | 0, _, words => .ok (false, words)
  | bound + 1, meaning, words =>
    if meaning = .no then do
      let next := Shell.meaning reading words.tail
      let (holds, last) ← denied reading inner bound next
        (if next = .nothing then words else words.tail)
      return (!holds, last)
    else single reading inner meaning words

def conjunction (reading : Reading) (inner : Meaning → List (List Char) → Found) :
    Nat → Meaning → List (List Char) → Found
  | 0, _, words => .ok (false, words)
  | bound + 1, meaning, words => do
    let (holds, last) ← denied reading inner (words.length + 1) meaning words
    if Shell.meaning reading last.tail = .both then
      let rest := last.drop 2
      let (others, last) ← conjunction reading inner bound (Shell.meaning reading rest) rest
      return (holds && others, last)
    else return (holds, last)

def disjunction (reading : Reading) (inner : Meaning → List (List Char) → Found) :
    Nat → Meaning → List (List Char) → Found
  | 0, _, words => .ok (false, words)
  | bound + 1, meaning, words => do
    let (holds, last) ← conjunction reading inner (words.length + 1) meaning words
    if Shell.meaning reading last.tail = .either then
      let rest := last.drop 2
      let (others, last) ← disjunction reading inner bound (Shell.meaning reading rest) rest
      return (holds || others, last)
    else return (holds, last)

def condition (reading : Reading) : Nat → Meaning → List (List Char) → Found
  | 0, _, words => .ok (false, words)
  | bound + 1, meaning, words =>
    disjunction reading (condition reading bound) (words.length + 1) meaning words

def whole (reading : Reading) (meaning : Meaning) (words : List (List Char)) : Except String Bool := do
  match ← condition reading (words.length + 1) meaning words with
  | (_, word :: _ :: _) => refused word "unexpected operator"
  | (holds, _) => return holds

/-- Whether the words of a condition hold. Some are told by their number alone; two denials at the start
of four words count as one. -/
def holds (reading : Reading) (words : List (List Char)) : Except String Bool :=
  let plain (words : List (List Char)) := whole reading (meaning reading words) words
  match words with
  | [] => .ok false
  | [left, operator, right] =>
    if reading.isBinary operator then whole reading .operand words
    else if left = ['('] && right = [')'] then plain [operator]
    else if left = ['!'] then (plain [operator, right]).map (!·)
    else plain words
  | [['('], first, second, [')']] => plain [first, second]
  | ['!'] :: first :: operator :: [right] =>
    let rest := [first, operator, right]
    if reading.isBinary operator then (whole reading .operand rest).map (!·)
    else if first = ['('] && right = [')'] then (plain [operator]).map (!·)
    else if first = ['!'] then (plain [operator, right]).map (!·)
    else (plain rest).map (!·)
  | words => plain words

end Shell

/-! ### In the tool -/

namespace Standalone

/-- Whether a condition holds, and the words after it. -/
abbrev Left := Except String (Bool × List (List Char))

def quoted (word : List Char) : String := Quoting.text word

def one : List (List Char) → Left
  | [] => .ok (false, [])
  | word :: rest => .ok (word ≠ [], rest)

/-- A condition on one operand; `last` is the last word of all. -/
def onOne (reading : Reading) (last : List Char) : List (List Char) → Left
  | operator :: rest =>
    match unary? operator, rest with
    | some letter, operand :: rest => do return (← reading.unary letter operand, rest)
    | some _, [] => .error s!"missing argument after {quoted last}"
    | none, _ => .error s!"{quoted operator}: unary operator expected"
  | [] => .ok (false, [])

def isSwitch : List Char → Bool
  | ['-', _] => true
  | _ => false

def two (reading : Reading) (last : List Char) (words : List (List Char)) : Left :=
  match words with
  | ['!'] :: rest => do
    let (holds, rest) ← one rest
    return (!holds, rest)
  | word :: _ =>
    if isSwitch word then onOne reading last words
    else .error s!"missing argument after {quoted last}"
  | [] => .ok (false, [])

/-- A condition that is no part of a larger one; `inner` reads some words in brackets. -/
def term (reading : Reading) (last : List Char) (inner : Nat → List (List Char) → Left) :
    List (List Char) → Left
  | [] => .error s!"missing argument after {quoted last}"
  | ['!'] :: rest => do
    let (holds, rest) ← term reading last inner rest
    return (!holds, rest)
  | ['('] :: rest =>
    if rest = [] then .error s!"missing argument after {quoted last}"
    else do
      let inside := (rest.tail.takeWhile (· ≠ [')'])).length + 1
      let (holds, rest) ← inner (if 4 < inside then rest.length else inside) rest
      match rest with
      | [')'] :: rest => return (holds, rest)
      | [] => .error (quoted [')'] ++ " expected")
      | word :: _ => .error (quoted [')'] ++ " expected, found " ++ quoted word)
  | left :: operator :: right :: rest =>
    if reading.isBinary operator then do return (← reading.binary left operator right, rest)
    else if isSwitch left then onOne reading last (left :: operator :: right :: rest)
    else .ok (left ≠ [], operator :: right :: rest)
  | word :: rest =>
    if isSwitch word then onOne reading last (word :: rest) else .ok (word ≠ [], rest)

def joined (operator : List Char) (join : Bool → Bool → Bool)
    (next : List (List Char) → Left) : Nat → List (List Char) → Left
  | 0, words => .ok (false, words)
  | bound + 1, words => do
    match ← next words with
    | (holds, word :: rest) =>
      if word = operator then
        let (others, rest) ← joined operator join next bound rest
        return (join holds others, rest)
      else return (holds, word :: rest)
    | found => return found

def long (reading : Reading) (last : List Char) (inner : Nat → List (List Char) → Left)
    (words : List (List Char)) : Left :=
  let bound := words.length + 1
  let conjunction := joined ['-', 'a'] (· && ·) (term reading last inner) bound
  joined ['-', 'o'] (· || ·) conjunction bound words

def three (reading : Reading) (last : List Char) (inner : Nat → List (List Char) → Left)
    (words : List (List Char)) : Left :=
  match words with
  | left :: operator :: right :: rest =>
    if reading.isBinary operator then do return (← reading.binary left operator right, rest)
    else if left = ['!'] then do
      let (holds, rest) ← two reading last (operator :: right :: rest)
      return (!holds, rest)
    else if left = ['('] && right = [')'] then .ok (operator ≠ [], rest)
    else if operator = ['-', 'a'] || operator = ['-', 'o'] then long reading last inner words
    else .error s!"{quoted operator}: binary operator expected"
  | words => long reading last inner words

/-- A condition of a number of words; the first number bounds how deep brackets are nested. -/
def counted (reading : Reading) (last : List Char) : Nat → Nat → List (List Char) → Left
  | 0, _, words => .ok (false, words)
  | bound + 1, count, words =>
    let inner := counted reading last bound
    match count, words with
    | 1, words => one words
    | 2, words => two reading last words
    | 3, words => three reading last inner words
    | 4, ['!'] :: rest => do
      let (holds, rest) ← three reading last inner rest
      return (!holds, rest)
    | 4, ['('] :: first :: second :: [')'] :: rest => do
      let (holds, _) ← two reading last [first, second]
      return (holds, rest)
    | _, words => long reading last inner words

def holds (reading : Reading) (words : List (List Char)) : Except String Bool := do
  if words = [] then return false
  let last := (words.getLast?).getD []
  match ← counted reading last (words.length + 1) words.length words with
  | (holds, []) => return holds
  | (_, word :: _) => throw s!"extra argument {quoted word}"

end Standalone

end Condition

/-! ### The commands -/

def operand? (text : List Char) : Option Int :=
  let blank (c : Char) : Bool := c == ' ' || ('\t' ≤ c && c ≤ '\x0d')
  integer? ((text.dropWhile blank).reverse.dropWhile blank).reverse

def checkCondition (words : List (List Char)) : Tool Unit := do
  let call ← call
  let reading : Condition.Reading := {
    look := fun follow path => (nodeAt call call.files follow path).toOption
    integer := fun text =>
      match operand? text with
      | some n => .ok n
      | none => .error s!"invalid integer {Quoting.text text}"
    operators := "==" :: Condition.operators }
  match Condition.Standalone.holds reading words with
  | .ok true => return
  | .ok false => fail 1
  | .error message => refuse message 2

def testCondition : Tool Unit := do checkCondition (← args)

def bracketCondition : Tool Unit := do
  let words ← args
  if words.getLast? ≠ some [']'] then refuse "missing ']'" 2
  checkCondition words.dropLast

end Proctor.Machine.Tool

import Proctor.Machine.Octets
import Proctor.Machine.Shell.Command
import Proctor.Number.Decimal
import Proctor.OrderedMap

/-! A script that is being read, from its characters up to its words. -/
namespace Proctor.Machine.Shell

inductive Token where
  | word (word : Word)
  | reserved (text : String)
  | operator (text : String)
  /-- The start of a redirection, whose word follows; tabs at the start of the lines of a text in the
  script do not count if `indented` holds. -/
  | redirect (stream : Nat) (connection : Connection) (indented : Bool)
  | newline
  | finish

/-- A text in the script that starts on the next line: its number, the line that ends it, and whether
it is taken as it stands. -/
structure Terminator where
  number : Nat
  line : List Char
  indented : Bool
  literal : Bool
deriving DecidableEq, Repr

/-- Where the text of an alias ends: there as many characters are left. Its name does not stand for it
before that. -/
structure Inserted where
  name : List Char
  left : Nat
  endsBlank : Bool
deriving DecidableEq, Repr

/-- The rest of a script, and what is known from the part before it. -/
structure Source where
  rest : List Char
  line : Nat
  held? : Option Token
  pending : List Terminator
  /-- The texts in the script that are read, by their numbers, and how many have a number. -/
  texts : List (Nat × Word)
  numbered : Nat
  aliases : List (List Char × List Char)
  inserted : List Inserted

/-- Why a script cannot be read, and the line where that shows. -/
structure SyntaxFault where
  line : Nat
  message : String
deriving DecidableEq, Repr

/-- A computation that reads from a script. -/
abbrev Reader (α : Type) := StateT Source (Except SyntaxFault) α

namespace Reader

def fail {α : Type} (message : String) : Reader α := fun source =>
  .error ⟨source.line, s!"Syntax error: {message}"⟩

def bound : Reader Nat := fun source => .ok (source.rest.length + 1000, source)

def joinLines : Reader Unit := fun source =>
  let rec count : List Char → Nat
    | '\\' :: '\n' :: rest => count rest + 1
    | _ => 0
  let n := count source.rest
  .ok ((), { source with rest := source.rest.drop (2 * n), line := source.line + n })

def peekRaw : Reader (Option Char) := fun source => .ok (source.rest.head?, source)

def peek : Reader (Option Char) := do
  joinLines
  peekRaw

def drop : Reader Unit := fun source =>
  let line := if source.rest.head? = some '\n' then source.line + 1 else source.line
  .ok ((), { source with rest := source.rest.tail, line })

def swallow : Reader Unit := fun source => .ok ((), { source with rest := source.rest.tail })

def accept (c : Char) : Reader Bool := do
  if (← peek) = some c then
    drop
    return true
  else return false

def takeWhile (condition : Char → Bool) : Nat → Reader (List Char)
  | 0 => return []
  | bound + 1 => do
    match ← peek with
    | some c =>
      if condition c then
        drop
        return c :: (← takeWhile condition bound)
      else return []
    | none => return []

end Reader

/-! ### Characters -/

def isSpace (c : Char) : Bool := c == ' ' || c == '\t'

def endsWord (c : Char) : Bool :=
  isSpace c || c == '\n' || c == ';' || c == '&' || c == '|' || c == '<' || c == '>' || c == '(' ||
    c == ')'

def isNameStart (c : Char) : Bool := c.isAlpha || c == '_'

def isNamePart (c : Char) : Bool := c.isAlphanum || c == '_'

def isName (text : List Char) : Bool := text.head?.any isNameStart && text.all isNamePart

def isSpecial (c : Char) : Bool := "@*#?$!-".toList.contains c || isDecimalDigit c

/-! ### Words -/

/-- Where a part of a word stands. -/
inductive Surroundings where
  | plain
  | braces
  | quotes
  /-- In the braces of a parameter within quotes; between quotes of their own if `inner` holds. The
  text is one in the script if `here` holds. -/
  | quotedBraces (inner here : Bool)
  | document
  | sum (depth : Nat)
deriving DecidableEq, Repr

namespace Surroundings

def isQuoted : Surroundings → Bool
  | .plain => false
  | .braces => false
  | _ => true

def inBraces : Surroundings → Surroundings
  | .plain => .braces
  | .braces => .braces
  | .document => .quotedBraces false true
  | .quotedBraces _ here => .quotedBraces false here
  | _ => .quotedBraces false false

def escapes (surroundings : Surroundings) (c : Char) : Bool :=
  c = '\\' || c = '\x60' || c = '$' || (c = '"' && surroundings ≠ .document) ||
    (c = '\x7d' && surroundings matches .quotedBraces _ _)

def braceMissing : String := "Missing '\x7d'"

def atEnd? : Surroundings → Option String
  | .plain => none
  | .document => none
  | .braces => some braceMissing
  | .quotes => some "Unterminated quoted string"
  | .quotedBraces _ here =>
    some (if here then braceMissing else "Unterminated quoted string")
  | .sum _ => some "Missing '))'"

end Surroundings

def Part.push (c : Char) (quoted : Bool) : Word → Word
  | .text octets other :: parts =>
    if other = quoted && octets ≠ [] then .text (c :: octets) quoted :: parts
    else .text [c] quoted :: .text octets other :: parts
  | parts => .text [c] quoted :: parts

def Part.isAllParameters : Part → Bool
  | .parameter ['@'] .none true => true
  | _ => false

/-- The parts between double quotes as parts of a word. They make a field even if they are empty,
except for all parameters, of which there may be none. -/
def quotedParts (inside : Word) : Word :=
  if inside.any Part.isAllParameters then inside else .text [] true :: inside

namespace Reader

def literalText : Nat → Reader (List Char)
  | 0 => return []
  | bound + 1 => do
    match ← peekRaw with
    | none => fail "Unterminated quoted string"
    | some '\'' =>
      drop
      return []
    | some c =>
      drop
      return c :: (← literalText bound)

/-- The text of a command up to the next backquote. A backslash before another backquote, a dollar
sign or a backslash is dropped, within quotes also before one of them. -/
def backquotedText (quoted : Bool) : Nat → Reader (List Char)
  | 0 => return []
  | bound + 1 => do
    match ← peek with
    | none => fail "EOF in backquote substitution"
    | some '\x60' =>
      drop
      return []
    | some '\\' =>
      drop
      match ← peekRaw with
      | none => return ← backquotedText quoted bound
      | some c =>
        drop
        let dropped := c = '\\' || c = '\x60' || c = '$' || (quoted && c = '"')
        let rest ← backquotedText quoted bound
        return if dropped then c :: rest else '\\' :: c :: rest
    | some c =>
      drop
      return c :: (← backquotedText quoted bound)

def within {α : Type} (text : List Char) (line : Nat) (reader : Reader α) : Reader α := do
  let outer ← get
  set { outer with rest := text, line, held? := none, pending := [], inserted := [] }
  let result ← reader
  let inner ← get
  set { outer with texts := inner.texts, numbered := inner.numbered }
  return result

/-- The command in brackets after a dollar sign; `commands` reads a list of commands. -/
def bracketed (commands : Reader Command) (close : Reader Unit) : Reader Command := do
  let outer ← get
  set { outer with pending := [] }
  let command ← commands
  close
  let inner ← get
  set { inner with pending := outer.pending }
  return command

def name (digits : Bool) : Reader (List Char) := do
  let bound ← bound
  match ← peek with
  | some c =>
    if isNameStart c then takeWhile isNamePart bound
    else if isDecimalDigit c then
      if digits then takeWhile isDecimalDigit bound
      else
        drop
        return [c]
    else return []
  | none => return []

/-- The name of a parameter in braces, and whether its length is asked for; nothing if there is no
name. -/
def bracedName : Reader (Option (List Char) × Bool) := do
  match ← peek with
  | none => return (none, false)
  | some '\x7d' => return (none, false)
  | some '#' =>
    drop
    match ← peek with
    | none => return (some ['#'], false)
    | some c =>
      if isNamePart c then return (some (← name true), true)
      else
        let before ← get
        drop
        if c ≠ '\x7d' && (← peek) = some '\x7d' then
          return (if isSpecial c then some [c] else none, true)
        else
          set before
          return (some ['#'], false)
  | some c =>
    if isNamePart c then return (some (← name true), false)
    else
      swallow
      return (if isSpecial c then some [c] else none, false)

/-- What the sign after the name of a parameter in braces asks for; `word` reads the rest, outside
quotes if it gets that. -/
def modifier (word : Bool → Reader Word) : Reader Modifier := do
  let emptyToo ← accept ':'
  match ← peek with
  | some '\x7d' =>
    drop
    if emptyToo then
      let _ ← word false
      return .none
    else return .none
  | some c =>
    if !emptyToo && (c = '#' || c = '%') then
      drop
      let longest ← accept c
      return .cut (c = '%') longest (← word true)
    else
      swallow
      let rest ← word false
      return if "-+?=".toList.contains c then .instead c emptyToo rest else .unknown
  | none =>
    let _ ← word false
    return .unknown

def braced (quoted : Bool) (word : Bool → Reader Word) : Reader Part := do
  match ← bracedName with
  | (none, _) =>
    let _ ← word false
    return .parameter [] .unknown quoted
  | (some name, true) =>
    let closed := (← peek) = some '\x7d'
    let _ ← word false
    return .parameter name (if closed then .length else .unknown) quoted
  | (some name, false) => return .parameter name (← modifier word) quoted

/-- The part that starts with a dollar sign, after that sign. A dollar sign before anything else stands
for itself. -/
def dollar (commands : Reader Command) (close : Reader Unit) (sum : Reader Word)
    (word : Bool → Reader Word) (quoted : Bool) : Reader Part := do
  match ← peek with
  | some '(' =>
    drop
    if ← accept '(' then return .sum (← sum) quoted
    else return .output (← bracketed commands close) quoted
  | some '\x7b' =>
    drop
    braced quoted word
  | some c =>
    if isNameStart c then return .parameter (← name false) .none quoted
    else if isSpecial c then
      drop
      return .parameter [c] .none quoted
    else return .text ['$'] quoted
  | none => return .text ['$'] quoted

/-- The parts of a word up to where its surroundings end. Without `expanding` a dollar sign and a
backquote stand for themselves. -/
def parts (commands : Reader Command) (close : Reader Unit) (expanding : Bool) :
    Nat → Surroundings → Reader Word
  | 0, _ => return []
  | bound + 1, place => do
    let again : Reader Word := parts commands close expanding bound place
    let quoted := place.isQuoted
    match ← peek with
    | none =>
      match place.atEnd? with
      | some message => fail message
      | none => return []
    | some c =>
      if place = .plain && endsWord c then return []
      drop
      match c, place with
      | '\x7d', .braces => return []
      | '\x7d', .quotedBraces false _ => return []
      | '"', .quotes => return []
      | '"', .quotedBraces inner here =>
        parts commands close expanding bound (.quotedBraces (!inner) here)
      | '(', .sum depth =>
        return Part.push c true (← parts commands close expanding bound (.sum (depth + 1)))
      | ')', .sum 0 => if ← accept ')' then return [] else return Part.push c true (← again)
      | ')', .sum (depth + 1) =>
        return Part.push c true (← parts commands close expanding bound (.sum depth))
      | '$', _ =>
        if expanding then
          let word (outside : Bool) : Reader Word :=
            parts commands close expanding bound (if outside then .braces else place.inBraces)
          let sum := parts commands close expanding bound (.sum 0)
          let part ← dollar commands close sum word quoted
          return part :: (← again)
        else return Part.push c quoted (← again)
      | '\x60', _ =>
        if expanding then
          let text ← backquotedText quoted bound
          let command ← within text 1 commands
          return .output command quoted :: (← again)
        else return Part.push c true (← again)
      | '\\', _ =>
        match ← peekRaw with
        | none => return Part.push c true (← again)
        | some d =>
          drop
          let rest ← again
          if quoted && !place.escapes d then return Part.push c true (Part.push d true rest)
          else return Part.push d true rest
      | '\'', _ =>
        if quoted then return Part.push c true (← again)
        else
          let text ← literalText bound
          return .text text true :: (← again)
      | '"', _ =>
        if quoted then return Part.push c true (← again)
        else
          let inside ← parts commands close expanding bound .quotes
          return quotedParts inside ++ (← again)
      | c, _ => return Part.push c quoted (← again)

/-! ### Texts in the script -/

/-- The lines up to a terminator, and what comes after them. A line that is joined to the one before
it does not end the text. -/
def textUpTo (terminator : Terminator) : Bool → List (List Char) → List (List Char) × List (List Char)
  | _, [] => ([], [])
  | joined, line :: lines =>
    let line := if terminator.indented && !joined then line.dropWhile (· == '\t') else line
    if line = terminator.line && !joined then ([], lines)
    else
      let backslashes := (line.reverse.takeWhile (· == '\\')).length
      let (text, rest) := textUpTo terminator (!terminator.literal && backslashes % 2 = 1) lines
      (line :: text, rest)

/-- Reads with one line more in a complaint about a parameter that nothing closes, if `more` holds. -/
def lineMore {α : Type} (more : Bool) (reader : Reader α) : Reader α := fun source =>
  match reader source with
  | .error fault =>
    if more && fault.message.endsWith Surroundings.braceMissing then
      .error { fault with line := fault.line + 1 }
    else .error fault
  | read => read

def textFor (commands : Reader Command) (close : Reader Unit) (terminator : Terminator) :
    Reader Unit := do
  let source ← get
  let lines := Text.fields '\n' source.rest
  let ended := source.rest.getLast? = some '\n'
  let (found, others) := textUpTo terminator false (if ended then lines.dropLast else lines)
  let closed := found.length + others.length < (if ended then lines.dropLast else lines).length
  let closesScript := !ended && closed && others = []
  let complete := ended || others ≠ [] || lines.any (· = terminator.line)
  let joined := ['\n'].intercalate found
  let text := if found ≠ [] && complete then joined ++ ['\n'] else joined
  let after := ['\n'].intercalate (if ended then others ++ [[]] else others)
  let after := if ended && others = [] then [] else after
  let word ← if terminator.literal then pure [.text text true]
    else
      let inside := parts commands close true (text.length + 2) .document
      lineMore closed (within text source.line inside)
  let source ← get
  let skipped := (source.rest.take (source.rest.length - after.length)).count '\n'
  set { source with
    rest := after
    line := source.line + skipped + (if closesScript then 1 else 0)
    texts := (terminator.number, word) :: source.texts }

def textsHere (commands : Reader Command) (close : Reader Unit) : Reader Unit := do
  let pending := (← get).pending
  modify fun source => { source with pending := [] }
  pending.forM (textFor commands close)

end Reader
end Proctor.Machine.Shell

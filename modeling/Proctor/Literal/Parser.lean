import Proctor.Literal.Basic
import Proctor.Literal.Numeral
import Proctor.Literal.ParseFault

/-! Parsing tokens as one literal value. A parser looks at the first token of those that are left;
where none is left it sees the last token of the whole sequence, again and again. -/
namespace Proctor.Literal

inductive Halt where
  | fault (fault : Located ParseFault)
  /-- The sequence lacks an end: its last token, a sign or a string, is consumed for ever. -/
  | endless
deriving DecidableEq, Repr

abbrev Parser : Type → Type := StateT (List Token) (Except Halt)

def noToken : Token := ⟨.finish, ⟨0, 0⟩⟩

namespace Parser

/-- The token that is next; `last` is the last of the whole sequence. -/
def peek (last : Token) : Parser Token := fun tokens => .ok (tokens.headD last, tokens)

def peekSecond (last : Token) : Parser Token := fun tokens => .ok (tokens.tail.headD last, tokens)

def advance (last : Token) : Parser Token := fun tokens =>
  let token := tokens.headD last
  .ok (token, if token.what = .finish then tokens else tokens.tail)

def fail {α : Type} (fault : ParseFault) (span : Span) : Parser α :=
  throw (.fault ⟨fault, span⟩)

def accept (last : Token) (mark : Mark) : Parser Bool := do
  if (← peek last).what = .mark mark then
    let _ ← advance last
    return true
  else return false

def expect (last : Token) (mark : Mark) (fault : Kind → ParseFault) : Parser Unit := do
  let token ← peek last
  if token.what = .mark mark then
    let _ ← advance last
  else fail (fault token.what) token.span

def bound : Parser Nat := fun tokens => .ok (tokens.length + 2, tokens)

/-! ### Numbers and strings -/

def signs (last : Token) (negative : Bool) : Parser Bool := fun tokens =>
  match tokens with
  | [] =>
    if last.what = .mark .plus ∨ last.what = .mark .minus then .error .endless
    else .ok (negative, [])
  | token :: rest =>
    if token.what = .mark .minus then signs last (!negative) rest
    else if token.what = .mark .plus then signs last negative rest
    else .ok (negative, tokens)

def namedNumber? (name : String) : Option Binary64 :=
  if name = "inf" ∨ name = "Infinity" then some (.infinity false)
  else if name = "nan" ∨ name = "NaN" then some .nan
  else none

def negated (n : Int) : Literal :=
  if n < -maxInt then .float (Binary64.ofInt n).neg else .int (-n)

def numeral (negative : Bool) (token : Token) : Parser Literal :=
  match token.what with
  | .int n => return if negative then negated n else .int n
  | .float x => return .float (if negative then x.neg else x)
  | .ident name =>
    match namedNumber? name with
    | some x => return .float (if negative then x.neg else x)
    | none => fail (.noNumber token.what) token.span
  | other => fail (.noNumber other) token.span

def number (last : Token) : Parser Literal := do
  let negative ← signs last false
  numeral negative (← advance last)

def parts {α : Type} (last : Token) (part? : Kind → Option α) : Parser (List α) := fun tokens =>
  match tokens with
  | [] => if (part? last.what).isSome then .error .endless else .ok ([], [])
  | token :: rest =>
    match part? token.what with
    | some part => do
      let (others, rest) ← parts last part? rest
      return (part :: others, rest)
    | none => .ok ([], tokens)

def texts (last : Token) : Parser Literal := do
  let found ← parts last Kind.text?
  let token ← peek last
  if token.what.bytes?.isSome then fail .mixedStrings token.span
  else return .text (String.join found)

def byteStrings (last : Token) : Parser Literal := do
  let found ← parts last Kind.bytes?
  let token ← peek last
  if token.what.text?.isSome then fail .mixedStrings token.span
  else return .bytes found.flatten

/-! ### Containers -/

inductive Opening where
  | list
  | paren
  | brace
  | call (name : String)
deriving DecidableEq, Repr

/-- Values separated by commas up to a closing mark, which is left; a comma may stand before it.
The number bounds the values. -/
def values (last : Token) (value : Parser Literal) (close : Mark) : Nat → Parser (List Literal)
  | 0 => return []
  | bound + 1 => do
    if (← peek last).what = .mark close then return []
    let first ← value
    if ← accept last .comma then
      return first :: (← values last value close bound)
    else return [first]

def items (last : Token) (value : Parser Literal) (close : Mark) (what : Closing) :
    Parser (List Literal) := do
  let found ← values last value close (← bound)
  expect last close (.notClosed what)
  return found

def list (last : Token) (value : Parser Literal) : Parser Literal := do
  let _ ← advance last
  return .list (← items last value .listClose .list)

def paren (last : Token) (value : Parser Literal) : Parser Literal := do
  let _ ← advance last
  if ← accept last .parenClose then return .tuple []
  let first ← value
  if ← accept last .parenClose then return first
  expect last .comma (.notClosed .tuple)
  return .tuple (first :: (← items last value .parenClose .tuple))

def entries (last : Token) (value : Parser Literal) : Nat → Parser (List (Literal × Literal))
  | 0 => return []
  | bound + 1 => do
    if !(← accept last .comma) then return []
    if (← peek last).what = .mark .braceClose then return []
    let key ← value
    expect last .colon .noColon
    let content ← value
    return (key, content) :: (← entries last value bound)

def brace (last : Token) (value : Parser Literal) : Parser Literal := do
  let _ ← advance last
  if ← accept last .braceClose then return .dict []
  let first ← value
  if ← accept last .colon then
    let content ← value
    let others ← entries last value (← bound)
    expect last .braceClose (.notClosed .dict)
    return .dict ((first, content) :: others)
  else if ← accept last .comma then
    return .set (first :: (← items last value .braceClose .set))
  else
    expect last .braceClose (.notClosed .set)
    return .set [first]

def applied (name : String) (span : Span) (argument : Literal) : Parser Literal :=
  if name = "dict" then
    match argument with
    | .dict found => return .dict found
    | other => fail (.notDict other.typeName) span
  else
    match argument with
    | .list found => return .set found
    | .tuple found => return .set found
    | .set found => return .set found
    | .dict found => return .set (found.map (·.1))
    | other => fail (.notCollection name other.typeName) span

def call (last : Token) (value : Parser Literal) (name : String) : Parser Literal := do
  let callee ← advance last
  let _ ← advance last
  if ← accept last .parenClose then
    return if name = "dict" then .dict [] else .set []
  let argument ← value
  let _ ← accept last .comma
  expect last .parenClose (.notClosed (.call name))
  applied name callee.span argument

def construct (last : Token) (value : Parser Literal) : Opening → Parser Literal
  | .list => list last value
  | .paren => paren last value
  | .brace => brace last value
  | .call name => call last value name

/-! ### Values -/

def isCallable (name : String) : Bool := name == "set" || name == "frozenset" || name == "dict"

def valueWith (last : Token) (nested : Opening → Parser Literal) : Parser Literal := do
  let token ← peek last
  match token.what with
  | .null =>
    let _ ← advance last
    return .null
  | .bool b =>
    let _ ← advance last
    return .bool b
  | .int _ => number last
  | .float _ => number last
  | .text _ => texts last
  | .bytes _ => byteStrings last
  | .mark .plus => number last
  | .mark .minus => number last
  | .mark .listOpen => nested .list
  | .mark .parenOpen => nested .paren
  | .mark .braceOpen => nested .brace
  | .ident name =>
    if (namedNumber? name).isSome then number last
    else if isCallable name && (← peekSecond last).what = .mark .parenOpen then nested (.call name)
    else fail (.identifier name) token.span
  | other => fail (.noValue other) token.span

/-- A value in which at most `room` nested values are open at once. -/
def value (last : Token) : Nat → Parser Literal
  | 0 => valueWith last fun _ => do fail .tooDeep (← peek last).span
  | room + 1 => valueWith last (construct last (value last room))

def whole (last : Token) : Parser Literal := do
  let found ← value last maxNesting
  let token ← peek last
  if token.what = .finish then return found
  else fail (.trailing token.what) token.span

end Parser

def parse (tokens : List Token) : Except Halt Literal :=
  ((Parser.whole (tokens.getLast?.getD noToken)).run tokens).map (·.1)

def Located.parseError (fault : Located ParseFault) : SyntaxError :=
  ⟨fault.what.message, fault.span, fault.what.hints⟩

end Proctor.Literal

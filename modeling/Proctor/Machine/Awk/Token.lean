import Proctor.Machine.Awk.Syntax
import Proctor.Machine.Awk.Value

/-! The words of programs that scan records. -/
namespace Proctor.Machine.Awk

inductive Token where
  | number (x : Float) (shown : List Char)
  | text (octets : List Char)
  | regex (octets : List Char)
  | name (octets : List Char)
  | called (octets : List Char)
  | builtin (name : Builtin) (shown : List Char)
  | keyword (word : String)
  | sign (word : String)
  | newline
  | finish
deriving Repr, Inhabited

/-- Why a program cannot be read: the line and what is said. -/
structure Fault where
  line : Nat
  message : String
  bare : Bool
deriving DecidableEq, Repr

namespace Token

def shown : Token → String
  | number _ shown => String.ofList shown
  | text octets => String.ofList octets
  | regex octets => s!"/{String.ofList octets}/"
  | name octets => String.ofList octets
  | called octets => String.ofList octets
  | builtin _ shown => String.ofList shown
  | keyword word => word
  | sign word => word
  | newline => "end of line"
  | finish => "end of file"

def builtins : List (String × Builtin) :=
  [("length", .length), ("substr", .substr), ("index", .index), ("split", .split), ("sub", .sub),
    ("gsub", .gsub), ("match", .matchIn), ("sprintf", .sprintf), ("sin", .sine), ("cos", .cosine),
    ("atan2", .arctangent), ("exp", .exponential), ("log", .logarithm), ("sqrt", .root),
    ("int", .integer), ("rand", .random), ("srand", .seed), ("tolower", .lower), ("toupper", .upper),
    ("system", .system), ("close", .close), ("fflush", .flush), ("systime", .now)]

def keywords : List String :=
  ["BEGIN", "END", "if", "else", "while", "for", "do", "break", "continue", "exit", "return", "delete",
    "in", "getline", "next", "nextfile", "print", "printf", "function"]

def signs : List String :=
  ["&&", "||", "==", "!=", "<=", ">=", ">>", "++", "--", "+=", "-=", "*=", "/=", "%=", "^=", "!~", "\x7b",
    "\x7d", "(", ")", "[", "]", ";", ",", "+", "-", "*", "/", "%", "^", "!", ">", "<", "|", "?", ":", "~",
    "$", "="]

def endsOperand : Token → Bool
  | number _ _ => true
  | text _ => true
  | regex _ => true
  | name _ => true
  | builtin _ _ => true
  | sign word => [")", "]", "$", "++", "--"].contains word
  | _ => false

/-! ### Texts -/

def escapeLetters : List (Char × Char) :=
  [('"', '"'), ('\\', '\\'), ('a', '\x07'), ('b', '\x08'), ('f', '\x0c'), ('n', '\n'),
    ('r', '\r'), ('t', '\t'), ('v', '\x0b')]

/-- The octet of an escape after its backslash, and the text after it; nothing if there is no such
escape. -/
def escape? (octets : List Char) : Option (Char × List Char) :=
  match octets with
  | [] => none
  | c :: rest =>
    match escapeLetters.lookup c with
    | some d => some (d, rest)
    | none =>
      let octal := (octets.take 3).takeWhile Tool.isOctal
      if octal ≠ [] then some (Octets.char (ofDigits 8 octal), octets.drop octal.length)
      else if c = 'x' then
        let digits := (rest.take 2).takeWhile Tool.isHexadecimal
        if digits = [] then none
        else some (Octets.char (ofDigits 16 digits), rest.drop digits.length)
      else none

def unescaped : Nat → List Char → List Char
  | 0, octets => octets
  | bound + 1, octets =>
    match octets with
    | '\\' :: rest =>
      match escape? rest with
      | some (c, rest) => c :: unescaped bound rest
      | none => '\\' :: unescaped bound rest
    | c :: rest => c :: unescaped bound rest
    | [] => []

def quoted? : List Char → List Char → Option (List Char × List Char)
  | _, [] => none
  | _, '\n' :: _ => none
  | found, '"' :: rest => some (found, rest)
  | found, '\\' :: '\n' :: rest => quoted? found rest
  | found, '\\' :: c :: rest => quoted? (c :: '\\' :: found) rest
  | found, c :: rest => quoted? (c :: found) rest

/-- The text up to a slash that stands in no bracket, the last octet first, and what follows it. -/
def slashed? (inside : Bool) : List Char → List Char → Option (List Char × List Char)
  | _, [] => none
  | _, '\n' :: _ => none
  | found, '\\' :: c :: rest =>
    slashed? inside (if c = '/' then '/' :: found else c :: '\\' :: found) rest
  | found, '/' :: rest => if inside then slashed? inside ('/' :: found) rest else some (found, rest)
  | found, '[' :: rest =>
    if inside then slashed? true ('[' :: found) rest
    else
      match rest with
      | ']' :: rest => slashed? true (']' :: '[' :: found) rest
      | '^' :: ']' :: rest => slashed? true (']' :: '^' :: '[' :: found) rest
      | rest => slashed? true ('[' :: found) rest
  | found, ']' :: rest => slashed? false (']' :: found) rest
  | found, c :: rest => slashed? inside (c :: found) rest

def numberLength (octets : List Char) : Nat :=
  let (_, _, after) := Quantity.pointed 10 octets
  let (_, after) := Quantity.exponentOf 'e' after
  octets.length - after.length

def isNameStart (c : Char) : Bool := c.isAlpha || c == '_'

def isNameChar (c : Char) : Bool := c.isAlphanum || c == '_'

def ofName (word : List Char) (next? : Option Char) : Token :=
  let known := String.ofList word
  if keywords.contains known then .keyword known
  else
    match builtins.lookup known with
    | some found => .builtin found word
    | none => if next? = some '(' then .called word else .name word

def excerpt (octets : List Char) : String :=
  String.ofList ((octets.takeWhile (· ≠ '\n')).take 10) ++ " ..."

/-- The tokens of a text with their lines, the last first, and why they end early if they do. The number
bounds the octets. -/
def tokensFrom : Nat → Nat → List Char → List (Token × Nat) → List (Token × Nat) × Option Fault
  | 0, _, _, found => (found, Option.none)
  | _, _, [], found => (found, Option.none)
  | bound + 1, line, c :: rest, found =>
    if c = ' ' || c = '\t' || c = '\r' then tokensFrom bound line rest found
    else if c = '\n' then tokensFrom bound (line + 1) rest ((.newline, line) :: found)
    else if c = '#' then tokensFrom bound line (rest.dropWhile (· ≠ '\n')) found
    else if c = '\\' && (rest.dropWhile (· == '\r')).head? = some '\n' then
      tokensFrom bound (line + 1) ((rest.dropWhile (· == '\r')).drop 1) found
    else if c = '"' then
      match quoted? [] rest with
      | some (body, rest) =>
        let body := body.reverse
        tokensFrom bound line rest ((.text (unescaped (body.length + 1) body), line) :: found)
      | none => (found, some ⟨line, s!"runaway string constant \"{excerpt rest}", false⟩)
    else if c = '/' && !(found.head?.any fun (token, _) => token.endsOperand) then
      match slashed? false [] rest with
      | some (body, rest) => tokensFrom bound line rest ((.regex body.reverse, line) :: found)
      | none => (found, some ⟨line, s!"runaway regular expression /{excerpt rest}", false⟩)
    else if isDecimalDigit c || (c = '.' && (rest.head?.any isDecimalDigit)) then
      let octets := c :: rest
      let length := numberLength octets
      let digits := octets.take length
      tokensFrom bound line (octets.drop length) ((.number (numberAt digits) digits, line) :: found)
    else if isNameStart c then
      let word := c :: rest.takeWhile isNameChar
      let rest := rest.drop (word.length - 1)
      tokensFrom bound line rest ((ofName word rest.head?, line) :: found)
    else
      match signs.find? fun word => word.toList.isPrefixOf (c :: rest) with
      | some word => tokensFrom bound line ((c :: rest).drop word.length) ((.sign word, line) :: found)
      | none => (found, some ⟨line, s!"{line}: unexpected character '{c}'", true⟩)

def ofText (octets : List Char) : List (Token × Nat) × Option Fault :=
  let last := octets.count '\n' + 1
  let (found, fault?) := tokensFrom (octets.length + 1) 1 octets []
  (((.finish, last + 1) :: (.newline, last) :: found).reverse, fault?)

end Token
end Proctor.Machine.Awk

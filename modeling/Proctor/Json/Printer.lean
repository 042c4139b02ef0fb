import Proctor.Json.Basic
import Proctor.Number.Shortest

/-! The two texts of a JSON value: compact, and pretty with an indent of two spaces. -/
namespace Proctor.Json

def escaped (c : Char) : List Char :=
  if c = '"' then ['\\', '"']
  else if c = '\\' then ['\\', '\\']
  else if c = '\x08' then ['\\', 'b']
  else if c = '\t' then ['\\', 't']
  else if c = '\n' then ['\\', 'n']
  else if c = '\x0c' then ['\\', 'f']
  else if c = '\r' then ['\\', 'r']
  else if c.toNat < 0x20 then ['\\', 'u'] ++ padded 4 (digitsOf 16 c.toNat)
  else [c]

def quote (text : String) : List Char := '"' :: text.toList.flatMap escaped ++ ['"']

def intText (n : Int) : List Char :=
  if n < 0 then '-' :: digitsOf 10 n.natAbs else digitsOf 10 n.natAbs

def joined (separator : List Char) : List (List Char) → List Char
  | [] => []
  | [text] => text
  | text :: rest => text ++ separator ++ joined separator rest

mutual
def compact : Json → List Char
  | .null => ['n', 'u', 'l', 'l']
  | .bool true => ['t', 'r', 'u', 'e']
  | .bool false => ['f', 'a', 'l', 's', 'e']
  | .int n => intText n
  | .float x => x.interchange
  | .string text => quote text
  | .array items => '[' :: joined [','] (compactAll items) ++ [']']
  | .object members => '\x7b' :: joined [','] (compactMembers members) ++ ['\x7d']

def compactAll : List Json → List (List Char)
  | [] => []
  | item :: rest => compact item :: compactAll rest

def compactMembers : List (String × Json) → List (List Char)
  | [] => []
  | member :: rest => compactMember member :: compactMembers rest

def compactMember : String × Json → List Char
  | (name, value) => quote name ++ ':' :: compact value
end

def indent (depth : Nat) : List Char := '\n' :: List.replicate (2 * depth) ' '

def block (opening closing : Char) (depth : Nat) : List (List Char) → List Char
  | [] => [opening, closing]
  | parts =>
    opening :: indent (depth + 1) ++ joined (',' :: indent (depth + 1)) parts ++
      indent depth ++ [closing]

mutual
def prettyAt (depth : Nat) : Json → List Char
  | .array items => block '[' ']' depth (prettyAll (depth + 1) items)
  | .object members => block '\x7b' '\x7d' depth (prettyMembers (depth + 1) members)
  | .null => compact .null
  | .bool value => compact (.bool value)
  | .int n => compact (.int n)
  | .float x => compact (.float x)
  | .string text => compact (.string text)

def prettyAll (depth : Nat) : List Json → List (List Char)
  | [] => []
  | item :: rest => prettyAt depth item :: prettyAll depth rest

def prettyMembers (depth : Nat) : List (String × Json) → List (List Char)
  | [] => []
  | member :: rest => prettyMember depth member :: prettyMembers depth rest

def prettyMember (depth : Nat) : String × Json → List Char
  | (name, value) => quote name ++ [':', ' '] ++ prettyAt depth value
end

def pretty (value : Json) : List Char := prettyAt 0 value

def toText (value : Json) : String := String.ofList value.compact

def toPrettyText (value : Json) : String := String.ofList value.pretty

end Proctor.Json

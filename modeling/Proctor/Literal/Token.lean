import Proctor.Literal.Span
import Proctor.Number.Binary64

/-! The tokens of literal text. -/
namespace Proctor.Literal

inductive Mark where
  | plus
  | minus
  | comma
  | colon
  | parenOpen
  | parenClose
  | listOpen
  | listClose
  | braceOpen
  | braceClose
deriving DecidableEq, Repr

inductive Kind where
  | null
  | bool (value : Bool)
  | ident (name : String)
  | int (value : Int)
  | float (value : Binary64)
  | text (value : String)
  | bytes (value : List UInt8)
  | mark (mark : Mark)
  | finish
deriving DecidableEq, Repr

abbrev Token := Located Kind

namespace Mark

def char : Mark → Char
  | .plus => '+'
  | .minus => '-'
  | .comma => ','
  | .colon => ':'
  | .parenOpen => '('
  | .parenClose => ')'
  | .listOpen => '['
  | .listClose => ']'
  | .braceOpen => '\x7b'
  | .braceClose => '\x7d'

def all : List Mark :=
  [.plus, .minus, .comma, .colon, .parenOpen, .parenClose, .listOpen, .listClose, .braceOpen,
    .braceClose]

def ofChar? (c : Char) : Option Mark := all.find? (·.char == c)

def describe (mark : Mark) : String := String.ofList ['\'', mark.char, '\'']

end Mark

namespace Kind

def keywords : List (String × Kind) :=
  [("None", .null), ("null", .null), ("True", .bool true), ("true", .bool true),
    ("False", .bool false), ("false", .bool false)]

def keyword? (name : String) : Option Kind :=
  (keywords.find? (·.1 == name)).map (·.2)

def text? : Kind → Option String
  | .text value => some value
  | _ => none

def bytes? : Kind → Option (List UInt8)
  | .bytes value => some value
  | _ => none

def describe : Kind → String
  | .null => "'None'"
  | .bool true => "'True'"
  | .bool false => "'False'"
  | .ident name => s!"identifier '{name}'"
  | .int _ => "number"
  | .float _ => "number"
  | .text _ => "string"
  | .bytes _ => "byte string"
  | .mark sign => sign.describe
  | .finish => "end of input"

end Kind
end Proctor.Literal

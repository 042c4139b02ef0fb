import Proctor.Literal.Cursor
import Proctor.Number.Decimal
import Proctor.Text.Printable

/-! What can be wrong inside a single token. -/
namespace Proctor.Literal

inductive LexFault where
  | unexpected (c : Char)
  | noRadixDigits
  | intTooLarge (source : List Char)
  | noExponentDigits (source : List Char)
  | complexNumber
  | unterminated
  | newlineInString
  | unterminatedEscape
  | octalRange (value : Nat)
  | hexDigits
  | shortDigits
  | longDigits
  | codePoint (value : Nat)
deriving DecidableEq, Repr

def LexFault.message : LexFault → String
  | .unexpected c => "Unexpected character '" ++ String.ofList (Text.shown ['\'', '"'] c) ++ "'"
  | .noRadixDigits => "Invalid integer literal: missing digits after base prefix"
  | .intTooLarge source => "Integer literal too large: " ++ String.ofList source
  | .noExponentDigits source =>
    "Invalid float literal: " ++ String.ofList source ++ " (missing exponent digits)"
  | .complexNumber => "Complex numbers are not supported"
  | .unterminated => "Unterminated string"
  | .newlineInString => "Unterminated string (newline in single-quoted string)"
  | .unterminatedEscape => "Unterminated escape sequence"
  | .octalRange value => "Octal escape out of range: \\" ++ String.ofList (digitsOf 8 value)
  | .hexDigits => "Invalid hex escape: expected two hex digits after \\x"
  | .shortDigits => "Invalid unicode escape: expected four hex digits after \\u"
  | .longDigits => "Invalid unicode escape: expected eight hex digits after \\U"
  | .codePoint value => "Invalid code point: \\U" ++ String.ofList (padded 8 (digitsOf 16 value))

/-- The outcome of reading one token: its kind if it has one, the faults found in it with the
offsets up to which they reach, and the place after it. -/
structure Scan where
  kind? : Option Kind
  faults : List (LexFault × Nat)
  after : Cursor
deriving DecidableEq, Repr

namespace Scan

def token (kind : Kind) (after : Cursor) : Scan := ⟨some kind, [], after⟩

def fault (fault : LexFault) (after : Cursor) : Scan := ⟨none, [(fault, after.offset)], after⟩

end Scan
end Proctor.Literal

import Proctor.Number.Decimal
import Proctor.Text.Blank

/-! Numbers as people type them: decimal digits with a point anywhere among them, an exponent, and
words for what is not finite. -/
namespace Proctor.Binary64

def signOf : List Char → Bool × List Char
  | '-' :: rest => (true, rest)
  | '+' :: rest => (false, rest)
  | text => (false, text)

def exponentOf? (text : List Char) : Option Int :=
  let (negative, digits) := signOf text
  if digits ≠ [] && digits.all isDecimalDigit then
    some (if negative then -(ofDigits 10 digits : Int) else ofDigits 10 digits)
  else none

def decimalOf? (text : List Char) : Option Decimal :=
  let whole := text.takeWhile isDecimalDigit
  let rest := text.drop whole.length
  let (fraction, rest) := match rest with
    | '.' :: rest =>
      let digits := rest.takeWhile isDecimalDigit
      (digits, rest.drop digits.length)
    | rest => ([], rest)
  if whole = [] && fraction = [] then none
  else
    match rest with
    | [] => some ⟨whole, fraction, 0⟩
    | mark :: rest =>
      if mark = 'e' ∨ mark = 'E' then (exponentOf? rest).map (⟨whole, fraction, ·⟩) else none

def ofText? (text : List Char) : Option Binary64 :=
  let (negative, rest) := signOf text
  let word := Text.lowerAscii rest
  if word = "inf".toList ∨ word = "infinity".toList then some (infinity negative)
  else if word = "nan".toList then some nan
  else (decimalOf? rest).map (·.nearest negative)

end Proctor.Binary64

import Proctor.Literal.LexFault

/-! Numbers in literal text: integers in four bases and floating point numbers. -/
namespace Proctor.Literal

def maxInt : Nat := 170141183460469231731687303715884105727

def isDigitOr (base : Nat) (c : Char) : Bool := c == '_' || (digitIn? base c).isSome

def bareDigits (run : List Char) : List Char := run.filter (· != '_')

def radix? (c : Char) : Option Nat :=
  if c = 'x' ∨ c = 'X' then some 16
  else if c = 'o' ∨ c = 'O' then some 8
  else if c = 'b' ∨ c = 'B' then some 2
  else none

def scanRadix (start cursor : Cursor) (base : Nat) : Scan :=
  let digits := bareDigits (cursor.run (isDigitOr base))
  let after := cursor.pass (isDigitOr base)
  if digits = [] then .fault .noRadixDigits after
  else
    let value := ofDigits base digits
    if value ≤ maxInt then .token (.int value) after
    else .fault (.intTooLarge (start.upTo after)) after

def fractionAt (cursor : Cursor) : Option (List Char) × Cursor :=
  match cursor.rest with
  | '.' :: c :: _ =>
    if isDecimalDigit c then
      let point := cursor.next
      (some (bareDigits (point.run (isDigitOr 10))), point.pass (isDigitOr 10))
    else (none, cursor)
  | _ => (none, cursor)

def exponentMark? (cursor : Cursor) : Option (List Char × Bool × Cursor) :=
  match cursor.rest with
  | c :: rest =>
    if c = 'e' ∨ c = 'E' then
      match rest with
      | '-' :: _ => some (['e', '-'], true, cursor.skip 2)
      | '+' :: _ => some (['e', '+'], false, cursor.skip 2)
      | _ => some (['e'], false, cursor.next)
    else none
  | [] => none

def finishNumber (kind : Kind) (cursor : Cursor) : Scan :=
  match cursor.peek? with
  | some c =>
    if c = 'j' ∨ c = 'J' then .fault .complexNumber cursor.next else .token kind cursor
  | none => .token kind cursor

/-- A decimal number that starts at `start`. An integer too large to stay exact becomes the
nearest double. -/
def scanDecimal (start : Cursor) : Scan :=
  let whole := bareDigits (start.run (isDigitOr 10))
  let (fraction?, cursor) := fractionAt (start.pass (isDigitOr 10))
  let fraction := fraction?.getD []
  match exponentMark? cursor with
  | some (mark, negative, cursor) =>
    let point := if fraction?.isSome then '.' :: fraction else []
    if (cursor.peek?.filter isDecimalDigit).isNone then
      .fault (.noExponentDigits (whole ++ point ++ mark)) cursor
    else
      let n : Int := ofDigits 10 (bareDigits (cursor.run (isDigitOr 10)))
      let value : Decimal := ⟨whole, fraction, if negative then -n else n⟩
      finishNumber (.float (value.nearest false)) (cursor.pass (isDigitOr 10))
  | none =>
    let value := ofDigits 10 whole
    if fraction?.isNone ∧ value ≤ maxInt then finishNumber (.int value) cursor
    else finishNumber (.float (Decimal.nearest false ⟨whole, fraction, 0⟩)) cursor

def scanNumber (start : Cursor) : Scan :=
  match start.rest with
  | '0' :: c :: _ =>
    match radix? c with
    | some base => scanRadix start (start.skip 2) base
    | none => scanDecimal start
  | _ => scanDecimal start

end Proctor.Literal

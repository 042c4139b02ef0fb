import Proctor.Number.Binary64

/-! Decimal notation: digits as numbers, the digits of a number, and the double nearest to a
decimal number of any length. -/
namespace Proctor

def digitValue? (c : Char) : Option Nat :=
  if '0' ≤ c ∧ c ≤ '9' then some (c.toNat - '0'.toNat)
  else if 'a' ≤ c ∧ c ≤ 'f' then some (c.toNat - 'a'.toNat + 10)
  else if 'A' ≤ c ∧ c ≤ 'F' then some (c.toNat - 'A'.toNat + 10)
  else none

def digitIn? (base : Nat) (c : Char) : Option Nat :=
  (digitValue? c).filter (· < base)

def isDecimalDigit (c : Char) : Bool := '0' ≤ c && c ≤ '9'

def ofDigits (base : Nat) (digits : List Char) : Nat :=
  digits.foldl (fun n c => n * base + (digitValue? c).getD 0) 0

def digitsOf (base n : Nat) : List Char := Nat.toDigits base n

def padded (length : Nat) (digits : List Char) : List Char :=
  List.replicate (length - digits.length) '0' ++ digits

namespace Binary64

/-- The double nearest to `digits * 10 ^ exponent`. Exponents far outside the range of doubles are
decided without computing the power. -/
def ofDecimal (negative : Bool) (digits : Nat) (exponent : Int) : Binary64 :=
  let places : Int := (digitsOf 10 digits).length
  if digits = 0 then zero negative
  else if 400 < places + exponent then infinity negative
  else if places + exponent < -400 then zero negative
  else if exponent < 0 then ofRatio negative digits (Nat.pow 10 (-exponent).toNat)
  else ofRatio negative (digits * Nat.pow 10 exponent.toNat) 1

theorem neg_ofDecimal (negative : Bool) (digits : Nat) (exponent : Int) :
    (ofDecimal negative digits exponent).neg = ofDecimal (!negative) digits exponent := by
  unfold ofDecimal
  dsimp only
  repeat' split
  · rfl
  · rfl
  · rfl
  · exact neg_ofRatio _ _ _
  · exact neg_ofRatio _ _ _

end Binary64

/-- An unsigned decimal number in parts: the digits before and after the point, and the exponent
of ten. -/
structure Decimal where
  whole : List Char
  fraction : List Char
  exponent : Int
deriving DecidableEq, Repr

def Decimal.nearest (negative : Bool) (d : Decimal) : Binary64 :=
  .ofDecimal negative (ofDigits 10 (d.whole ++ d.fraction)) (d.exponent - d.fraction.length)

end Proctor

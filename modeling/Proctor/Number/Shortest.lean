import Proctor.Number.Decimal

/-! The shortest decimal digits that read back as a given double, and the layouts in which they
are written. -/
namespace Proctor

/-- Decimal digits and the place of the point: the number is `0.d₁d₂… * 10 ^ point`. -/
structure DecimalDigits where
  digits : List Char
  point : Int
deriving DecidableEq, Repr

namespace Binary64

def pointOf (num den : Nat) : Int :=
  let k : Int := ((digitsOf 10 num).length : Int) - ((digitsOf 10 den).length : Int)
  let reached := if k < 0 then den ≤ num * Nat.pow 10 (-k).toNat else den * Nat.pow 10 k.toNat ≤ num
  if reached then k + 1 else k

def stripZeros (digits : List Char) : List Char :=
  (digits.reverse.dropWhile (· == '0')).reverse

/-- The numbers that round to a positive finite double, as quotients over one denominator: the
lower end, the double itself, the upper end. -/
def neighbourhood (x : Binary64) : Nat × Nat × Nat × Nat :=
  let m := x.significand
  -- Below a power of two the doubles lie twice as close.
  let low := if x.fraction.val = 0 ∧ 1 < x.exponent.val then 4 * m - 1 else 4 * m - 2
  let e := x.scale - 2
  if e < 0 then (low, 4 * m, 4 * m + 2, Nat.pow 2 (-e).toNat)
  else (low * Nat.pow 2 e.toNat, 4 * m * Nat.pow 2 e.toNat, (4 * m + 2) * Nat.pow 2 e.toNat, 1)

def isBetween (closed : Bool) (low high n : Nat) : Bool :=
  if closed then low ≤ n && n ≤ high else low < n && n < high

/-- The two multiples of `grid` around a number, as quotients, the nearer one first. `tieUp` decides an
exact tie; else the even one is first. -/
def multiplesAround (tieUp : Bool) (mid grid : Nat) : List Nat :=
  let below := mid / grid
  let upper := 2 * mid > (2 * below + 1) * grid ||
    (2 * mid == (2 * below + 1) * grid && (tieUp || below % 2 == 1))
  if upper then [below + 1, below] else [below, below + 1]

def nearestMultiple? (tieUp closed : Bool) (low mid high grid : Nat) : Option Nat :=
  (multiplesAround tieUp mid grid).find? fun n => n ≠ 0 && isBetween closed low high (n * grid)

/-- The multiple of `10 ^ unit` that is nearest to a positive finite double among its two
neighbours on that grid, if one of them rounds to it. -/
def onGrid? (tieUp : Bool) (x : Binary64) (unit : Int) : Option Nat :=
  let (low, mid, high, den) := x.neighbourhood
  let closed := x.significand % 2 == 0
  if unit < 0 then
    let lift := Nat.pow 10 (-unit).toNat
    nearestMultiple? tieUp closed (low * lift) (mid * lift) (high * lift) den
  else nearestMultiple? tieUp closed low mid high (Nat.pow 10 unit.toNat * den)

def shortestFrom (tieUp : Bool) (x : Binary64) (point : Int) : Nat → Nat → DecimalDigits
  | 0, _ => ⟨[], 0⟩
  | tries + 1, n =>
    match x.onGrid? tieUp (point - n) with
    | some value =>
      let digits := digitsOf 10 value
      ⟨stripZeros digits, point - n + digits.length⟩
    | none => shortestFrom tieUp x point tries (n + 1)

def shortest (tieUp : Bool) (x : Binary64) : DecimalDigits :=
  shortestFrom tieUp x (pointOf x.ratio.1 x.ratio.2) 17 1

end Binary64

namespace DecimalDigits

def positional (integral : List Char) (d : DecimalDigits) : List Char :=
  if 0 < d.point then
    let k := d.point.toNat
    if d.digits.length ≤ k then d.digits ++ List.replicate (k - d.digits.length) '0' ++ integral
    else d.digits.take k ++ '.' :: d.digits.drop k
  else ['0', '.'] ++ List.replicate (-d.point).toNat '0' ++ d.digits

def scientific (d : DecimalDigits) : List Char :=
  let e := d.point - 1
  let mantissa :=
    match d.digits with
    | first :: second :: rest => first :: '.' :: second :: rest
    | digits => digits
  mantissa ++ ['e', if e < 0 then '-' else '+'] ++ digitsOf 10 e.natAbs

end DecimalDigits

namespace Binary64

/-- The text of a magnitude in the interchange format: positional from `10 ^ -5` up to
`10 ^ 16`, otherwise scientific; an integral number keeps one zero after the point. -/
def interchangeMagnitude (x : Binary64) : List Char :=
  if x.isZero then ['0', '.', '0']
  else
    let d := x.shortest false
    if -5 < d.point ∧ d.point ≤ 16 then d.positional ['.', '0'] else d.scientific

def interchange (x : Binary64) : List Char :=
  if x.negative then '-' :: x.interchangeMagnitude else x.interchangeMagnitude

def plain (x : Binary64) : List Char :=
  if x.isZero then ['0'] else (x.shortest true).positional []

def fixed (places : Nat) (x : Binary64) : List Char :=
  let n := roundEven (x.ratio.1 * Nat.pow 10 places) x.ratio.2
  let digits := padded (places + 1) (digitsOf 10 n)
  digits.take (digits.length - places) ++ '.' :: digits.drop (digits.length - places)

end Binary64
end Proctor

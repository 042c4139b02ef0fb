/-! Double-precision numbers as values of the logic: their three fields, the exact number that a
finite one stands for, and rounding of exact numbers to the nearest double. -/
namespace Proctor

/-- A double: its sign, its exponent field and its fraction field. -/
structure Binary64 where
  negative : Bool
  exponent : Fin 2048
  fraction : Fin 4503599627370496
deriving DecidableEq, Repr, Inhabited

namespace Binary64

def leadingBit : Nat := 4503599627370496

def zero (negative : Bool) : Binary64 := ⟨negative, 0, 0⟩

def infinity (negative : Bool) : Binary64 := ⟨negative, 2047, 0⟩

def nan : Binary64 := ⟨false, 2047, 2251799813685248⟩

def isFinite (x : Binary64) : Bool := x.exponent.val < 2047

def isInfinite (x : Binary64) : Bool := x.exponent.val == 2047 && x.fraction.val == 0

def isNaN (x : Binary64) : Bool := x.exponent.val == 2047 && x.fraction.val != 0

def isZero (x : Binary64) : Bool := x.exponent.val == 0 && x.fraction.val == 0

def neg (x : Binary64) : Binary64 := { x with negative := !x.negative }

/-- The integer significand: a finite number has the magnitude `significand * 2 ^ scale`. -/
def significand (x : Binary64) : Nat :=
  if x.exponent.val = 0 then x.fraction.val else x.fraction.val + leadingBit

def scale (x : Binary64) : Int := max (x.exponent.val : Int) 1 - 1075

def ratio (x : Binary64) : Nat × Nat :=
  if x.scale < 0 then (x.significand, Nat.pow 2 (-x.scale).toNat)
  else (x.significand * Nat.pow 2 x.scale.toNat, 1)

def roundEven (num den : Nat) : Nat :=
  let q := num / den
  let r := num % den
  if 2 * r < den then q else if den < 2 * r then q + 1 else q + q % 2

def scaled (num den : Nat) (e : Int) : Nat × Nat :=
  if e < 0 then (num * Nat.pow 2 (-e).toNat, den) else (num, den * Nat.pow 2 e.toNat)

/-- The number `m * 2 ^ e` for a significand `m ≤ 2 ^ 53` with `-1074 ≤ e`, or the infinity where
the exponent is too large. -/
def ofSignificand (negative : Bool) (m : Nat) (e : Int) : Binary64 :=
  -- Rounding may have carried into the next power of two.
  let (m, e) := if m = 2 * leadingBit then (leadingBit, e + 1) else (m, e)
  if m < leadingBit then ⟨negative, 0, Fin.ofNat _ m⟩
  else if e + 1075 < 2047 then
    ⟨negative, Fin.ofNat _ (e + 1075).toNat, Fin.ofNat _ (m - leadingBit)⟩
  else infinity negative

def exponentOf (num den : Nat) : Int :=
  let guess : Int := (num.log2 : Int) - (den.log2 : Int) - 53
  -- The logarithms leave the number of bits open by one.
  let (n, d) := scaled num den guess
  max (if n / d < 2 * leadingBit then guess else guess + 1) (-1074)

def ofRatio (negative : Bool) (num den : Nat) : Binary64 :=
  if num = 0 ∨ den = 0 then zero negative
  else
    let e := exponentOf num den
    let (n, d) := scaled num den e
    ofSignificand negative (roundEven n d) e

theorem neg_ofRatio (negative : Bool) (num den : Nat) :
    (ofRatio negative num den).neg = ofRatio (!negative) num den := by
  unfold ofRatio
  split
  · rfl
  · simp only [ofSignificand]
    split <;> split <;> (try split) <;> rfl

def ofNat (n : Nat) : Binary64 := ofRatio false n 1

def ofInt (n : Int) : Binary64 := ofRatio (n < 0) n.natAbs 1

def mul (x y : Binary64) : Binary64 :=
  ofRatio (x.negative != y.negative) (x.ratio.1 * y.ratio.1) (x.ratio.2 * y.ratio.2)

def div (x y : Binary64) : Binary64 :=
  ofRatio (x.negative != y.negative) (x.ratio.1 * y.ratio.2) (x.ratio.2 * y.ratio.1)

def addNonneg (x y : Binary64) : Binary64 :=
  ofRatio false (x.ratio.1 * y.ratio.2 + y.ratio.1 * x.ratio.2) (x.ratio.2 * y.ratio.2)

end Binary64
end Proctor

import Proctor.Number.Decimal

/-! Numbers with fractions as the tools read and write them: exact quotients, and the layouts of
formats. -/
namespace Proctor.Machine

/-- A number with a sign, or one of those that are none. -/
inductive Quantity where
  | finite (negative : Bool) (num den : Nat)
  | infinite (negative : Bool)
  | undefined (negative : Bool)
deriving DecidableEq, Repr

namespace Quantity

def zero : Quantity := .finite false 0 1

def ofInt (n : Int) : Quantity := .finite (n < 0) n.natAbs 1

def isNegative : Quantity → Bool
  | .finite negative _ _ => negative
  | .infinite negative => negative
  | .undefined negative => negative

def magnitude : Quantity → Quantity
  | .finite _ num den => .finite false num den
  | .infinite _ => .infinite false
  | .undefined _ => .undefined false

def isZero : Quantity → Bool
  | .finite _ num _ => num == 0
  | _ => false

def nearestBits (bits num den : Nat) : Nat × Nat :=
  if num = 0 then (0, 1)
  else
    let guess : Int := (num.log2 : Int) - (den.log2 : Int) - bits
    let (n, d) := Binary64.scaled num den guess
    let e := if n / d < Nat.pow 2 bits then guess else guess + 1
    let (n, d) := Binary64.scaled num den e
    let m := Binary64.roundEven n d
    if e < 0 then (m, Nat.pow 2 (-e).toNat) else (m * Nat.pow 2 e.toNat, 1)

def long : Quantity → Quantity
  | .finite negative num den =>
    let (num, den) := nearestBits 64 num den
    .finite negative num den
  | other => other

def double : Quantity → Quantity
  | .finite negative num den =>
    let x := Binary64.ofRatio negative num den
    if x.isFinite then .finite negative x.ratio.1 x.ratio.2 else .infinite negative
  | other => other

/-! ### Reading -/

def startsWith (text : List Char) (word : String) : Bool :=
  word.toList.isPrefixOf (text.map Char.toLower)

/-- An exponent after a letter, and the text after it; zero if there is none. -/
def exponentOf (letter : Char) (text : List Char) : Int × List Char :=
  match text with
  | c :: rest =>
    if c.toLower ≠ letter then (0, text)
    else
      let (negative, digits) := match rest with
        | '-' :: rest => (true, rest)
        | '+' :: rest => (false, rest)
        | rest => (false, rest)
      let found := digits.takeWhile isDecimalDigit
      if found = [] then (0, text)
      else
        let n : Int := ofDigits 10 found
        (if negative then -n else n, digits.drop found.length)
  | [] => (0, [])

/-- The digits before and after a point at the start of a text, and the text after them. -/
def pointed (base : Nat) (text : List Char) : List Char × List Char × List Char :=
  let isDigit (c : Char) : Bool := (digitIn? base c).isSome
  let whole := text.takeWhile isDigit
  match text.drop whole.length with
  | '.' :: rest =>
    let fraction := rest.takeWhile isDigit
    if whole = [] && fraction = [] then ([], [], text) else (whole, fraction, rest.drop fraction.length)
  | rest => (whole, [], rest)

def maxExponent : Int := 5000

def ofParts (base digitBase : Nat) (negative : Bool) (whole fraction : List Char) (exponent : Int)
    (fractionStep : Nat) : Quantity :=
  let digits := ofDigits digitBase (whole ++ fraction)
  let exponent := exponent - fraction.length * fractionStep
  if digits = 0 then .finite negative 0 1
  else if maxExponent < exponent then .infinite negative
  else if exponent < -maxExponent then .finite negative 0 1
  else if exponent < 0 then .finite negative digits (Nat.pow base (-exponent).toNat)
  else .finite negative (digits * Nat.pow base exponent.toNat) 1

/-- The number without a sign at the start of a text, and the text after it. -/
def readUnsigned? (negative : Bool) (text : List Char) : Option (Quantity × List Char) :=
  let hexadecimal? : Option (Quantity × List Char) :=
    match text with
    | '0' :: x :: rest =>
      if x.toLower = 'x' then
        let (whole, fraction, after) := pointed 16 rest
        if whole = [] && fraction = [] then none
        else
          let (exponent, after) := exponentOf 'p' after
          some (ofParts 2 16 negative whole fraction exponent 4, after)
      else none
    | _ => none
  match hexadecimal? with
  | some found => some found
  | none =>
    let (whole, fraction, after) := pointed 10 text
    if whole ≠ [] || fraction ≠ [] then
      let (exponent, after) := exponentOf 'e' after
      some (ofParts 10 10 negative whole fraction exponent 1, after)
    else if startsWith text "infinity" then some (.infinite negative, text.drop 8)
    else if startsWith text "inf" then some (.infinite negative, text.drop 3)
    else if startsWith text "nan" then some (.undefined negative, text.drop 3)
    else none

def read? (text : List Char) : Option (Quantity × List Char) :=
  match text.dropWhile fun c => c == ' ' || ('\t' ≤ c && c ≤ '\x0d') with
  | '-' :: rest => readUnsigned? true rest
  | '+' :: rest => readUnsigned? false rest
  | rest => readUnsigned? false rest

/-! ### Writing -/

/-- The digits of a quotient with some places after the point; an exact half goes to the even
neighbour. A point stands also before no places if `pointed` holds. -/
def fixed (num den places : Nat) (pointed : Bool) : List Char :=
  let n := Binary64.roundEven (num * Nat.pow 10 places) den
  let digits := padded (places + 1) (digitsOf 10 n)
  let whole := digits.take (digits.length - places)
  if places = 0 && !pointed then whole else whole ++ '.' :: digits.drop whole.length

/-- The exponent of ten of the first digit of a quotient that is not zero. -/
def magnitudeOf (num den : Nat) : Int :=
  let guess : Int := (digitsOf 10 num).length - (digitsOf 10 den).length
  let reaches (e : Int) : Bool :=
    if e < 0 then den ≤ num * Nat.pow 10 (-e).toNat else den * Nat.pow 10 e.toNat ≤ num
  if reaches guess then guess else guess - 1

def significant (num den count : Nat) : List Char × Int :=
  if num = 0 then (List.replicate count '0', 0)
  else
    let e := magnitudeOf num den
    let shift := (count : Int) - 1 - e
    let n :=
      if shift < 0 then Binary64.roundEven num (den * Nat.pow 10 (-shift).toNat)
      else Binary64.roundEven (num * Nat.pow 10 shift.toNat) den
    let digits := digitsOf 10 n
    if count < digits.length then (digits.take count, e + 1) else (digits, e)

def exponentText (letter : Char) (least : Nat) (e : Int) : List Char :=
  letter :: (if e < 0 then '-' else '+') :: padded least (digitsOf 10 e.natAbs)

def scientific (num den places : Nat) (pointed : Bool) : List Char :=
  let (digits, e) := significant num den (places + 1)
  let mantissa :=
    if places = 0 && !pointed then digits else digits.take 1 ++ '.' :: digits.drop 1
  mantissa ++ exponentText 'e' 2 e

/-- Digits without the zeros after a point, and without a point that ends them. -/
def shortened (digits : List Char) : List Char :=
  if !digits.contains '.' then digits
  else
    match digits.reverse.dropWhile (· == '0') with
    | '.' :: rest => rest.reverse
    | rest => rest.reverse

/-- The shorter one of the two layouts with some significant digits; zeros at the end stay if `full`
holds. -/
def general (num den precision : Nat) (full : Bool) : List Char :=
  let precision := max precision 1
  let (_, e) := significant num den precision
  if e < -4 || (precision : Int) ≤ e then
    let text := scientific num den (precision - 1) full
    if full then text
    else
      let mantissa := text.takeWhile (· ≠ 'e')
      shortened mantissa ++ text.drop mantissa.length
  else
    let text := fixed num den ((precision : Int) - 1 - e).toNat full
    if full then text else shortened text

def hexadecimal (num den : Nat) (places? : Option Nat) (full long : Bool) : List Char :=
  let dots (fraction : List Char) : List Char :=
    if fraction = [] && !full then [] else '.' :: fraction
  if num = 0 then
    ['0', 'x', '0'] ++ dots (List.replicate (places?.getD 0) '0') ++ ['p', '+', '0']
  else
    let guess : Int := (num.log2 : Int) - (den.log2 : Int)
    let (n, d) := Binary64.scaled num den guess
    let e := if n < d then guess - 1 else guess
    let e := if long then e - 3 else e
    let (n, d) := Binary64.scaled num den e
    let places := places?.getD (if long then 15 else 13)
    let rounded := Binary64.roundEven (n * Nat.pow 16 places) d
    let (rounded, e) :=
      if long && Nat.pow 16 (places + 1) ≤ rounded then (rounded / 16, e + 4) else (rounded, e)
    let digits := padded (places + 1) (digitsOf 16 rounded)
    let fraction := digits.drop 1
    let fraction :=
      if places?.isSome then fraction else (fraction.reverse.dropWhile (· == '0')).reverse
    ['0', 'x'] ++ digits.take 1 ++ dots fraction ++ 'p' :: (if e < 0 then '-' else '+') ::
      digitsOf 10 e.natAbs

/-- The magnitude in the layout of a letter, with a precision if one is given. -/
def shown (quantity : Quantity) (letter : Char) (precision? : Option Nat) (full long : Bool) :
    List Char :=
  match quantity with
  | .infinite _ => "inf".toList
  | .undefined _ => "nan".toList
  | .finite _ num den =>
    match letter with
    | 'f' => fixed num den (precision?.getD 6) full
    | 'e' => scientific num den (precision?.getD 6) full
    | 'a' => hexadecimal num den precision? full long
    | _ => general num den (precision?.getD 6) full

end Quantity
end Proctor.Machine

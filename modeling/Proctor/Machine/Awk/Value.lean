import Proctor.Machine.Tool.Printing

/-! The values of the programs that scan records: numbers, texts, and texts that look like numbers; how
they turn into each other, and how formats lay them out. -/
namespace Proctor.Machine.Awk

inductive Value where
  | none
  | number (x : Float)
  | text (octets : List Char)
  | both (octets : List Char) (x : Float)
deriving Repr, Inhabited

/-! ### Numbers -/

def binaryOf (x : Float) : Binary64 :=
  let bits := x.toBits.toNat
  ⟨bits / Nat.pow 2 63 = 1, ⟨bits / Nat.pow 2 52 % 2048, Nat.mod_lt _ (by decide)⟩,
    ⟨bits % 4503599627370496, Nat.mod_lt _ (by decide)⟩⟩

def ofBinary (x : Binary64) : Float :=
  let sign := if x.negative then Nat.pow 2 63 else 0
  Float.ofBits (UInt64.ofNat (sign + x.exponent.val * Nat.pow 2 52 + x.fraction.val))

def quantityOf (x : Float) : Quantity :=
  let x := binaryOf x
  if x.isNaN then .undefined true
  else if x.isInfinite then .infinite x.negative
  else .finite x.negative x.ratio.1 x.ratio.2

def ofQuantity : Quantity → Float
  | .finite negative num den => ofBinary (Binary64.ofRatio negative num den)
  | .infinite negative => ofBinary (.infinity negative)
  | .undefined _ => ofBinary .nan

def ofInt (n : Int) : Float :=
  if n.natAbs < Nat.pow 2 53 then Float.ofInt n else ofQuantity (.ofInt n)

def integer? (x : Float) : Option Int :=
  if x.abs < 9e15 then
    if x.floor == x then
      let n : Int := x.abs.toUInt64.toNat
      some (if x < 0 then -n else n)
    else none
  else
    match quantityOf x with
    | .finite negative num den =>
      let n : Int := num / den
      if num % den = 0 then some (if negative then -n else n) else none
    | _ => none

def truncated (x : Float) : Int :=
  match quantityOf x with
  | .finite negative num den =>
    let n : Int := num / den
    if negative then -n else n
  | _ => 0

def remainder (x y : Float) : Float :=
  match integer? x, integer? y with
  | some a, some b =>
    if b = 0 then ofBinary .nan
    else
      let rest := a.tmod b
      if rest = 0 && x < 0 then -0.0 else ofInt rest
  | _, _ =>
    match quantityOf x, quantityOf y with
    | .finite negative a b, .finite _ c d =>
      if c = 0 then ofBinary .nan
      else ofQuantity (.finite negative ((a * d) % (c * b)) (b * d))
    | .finite _ _ _, .infinite _ => x
    | _, _ => ofBinary .nan

/-! ### Texts as numbers -/

def isBlank (c : Char) : Bool := c == ' ' || ('\t' ≤ c && c ≤ '\x0d')

/-- The number at the start of a text; zero if there is none. -/
def numberAt (octets : List Char) : Float :=
  let text := octets.dropWhile isBlank
  if text ≠ [] && text.length ≤ 15 && text.all isDecimalDigit then
    (ofDigits 10 text).toFloat
  else
    match Quantity.read? text with
    | some (quantity, _) => ofQuantity quantity
    | none => 0

/-- Whether a text without blanks around it is a decimal number with nothing after it. -/
def isNumeric (text : List Char) : Bool :=
  let digits := match text with
    | '-' :: rest => rest
    | '+' :: rest => rest
    | text => text
  let start := digits.head?
  (start.any fun c => isDecimalDigit c || c == '.') &&
    match Quantity.pointed 10 digits with
    | ([], [], _) => false
    | (_, _, after) => (Quantity.exponentOf 'e' after).2 = []

def Value.ofInput (octets : List Char) : Value :=
  let text := octets.dropWhile isBlank
  match text.head? with
  | Option.none => .text octets
  | some c =>
    if !(isDecimalDigit c || c == '-' || c == '+' || c == '.') then .text octets
    else
      let text := (text.reverse.dropWhile isBlank).reverse
      if isNumeric text then .both octets (numberAt text) else .text octets

namespace Value

def toNumber : Value → Float
  | none => 0
  | number x => x
  | text octets => numberAt octets
  | both _ x => x

def isTrue : Value → Bool
  | none => false
  | number x => x != 0
  | text octets => octets ≠ []
  | both _ x => x != 0

end Value

/-! ### Numbers as texts -/

def most : Int := 18446744073709551615

def integerText? (x : Float) : Option (List Char) :=
  match integer? x with
  | Option.none => Option.none
  | some n =>
    if n < -9223372036854775808 || most + 1 < n then Option.none
    else
      let n := min n most
      some (if n < 0 then '-' :: digitsOf 10 n.natAbs else digitsOf 10 n.natAbs)

/-- Why a format cannot be laid out. -/
inductive FormatFault where
  | few
  | conversion (index : Nat)
deriving DecidableEq, Repr

/-- An integer of a format: its parts below zero and above the signed numbers have limits. -/
def integerOf (x : Float) : Int :=
  match quantityOf x with
  | .undefined _ => -9223372036854775808
  | .infinite negative => if negative then -9223372036854775807 else most
  | .finite _ _ _ =>
    let n := truncated x
    if n < -9223372036854775808 then -9223372036854775807 else min n most

def laidOut (directive : Tool.Directive) (x : Float) : List Char :=
  let letter := directive.letter
  if letter = 'd' || letter = 'i' then directive.signed (integerOf x)
  else if "ouxX".toList.contains letter then directive.unsigned (integerOf x % (most + 1)).toNat
  else directive.real false (quantityOf x)

/-- A directive after a percent sign, the values that are left after its sizes were taken from them,
and the text after it; nothing if values are missing or the letter is. -/
def directiveOf (values : List Value) (text : List Char) :
    Except FormatFault (Option (Tool.Directive × List Value × List Char)) := do
  let flags := text.takeWhile fun c => "-+ #0".toList.contains c
  let size (values : List Value) (text : List Char) :
      Except FormatFault (Option Int × List Value × List Char) :=
    match text with
    | '*' :: rest =>
      match values with
      | [] => throw .few
      | value :: values => return (some (truncated value.toNumber), values, rest)
    | text =>
      let digits := text.takeWhile isDecimalDigit
      return (if digits = [] then Option.none else some (ofDigits 10 digits), values,
        text.drop digits.length)
  let (width?, values, text) ← size values (text.drop flags.length)
  let (precision?, values, text) ← match text with
    | '.' :: rest => do
      let (found?, values, rest) ← size values rest
      pure (some (found?.getD 0), values, rest)
    | text => pure (Option.none, values, text)
  let text := text.dropWhile fun c => c == 'l' || c == 'h'
  let width := width?.getD 0
  let flags := if width < 0 then '-' :: flags else flags
  match text with
  | [] => return Option.none
  | letter :: rest =>
    let precision? := (precision?.filter fun n => 0 ≤ n).map Int.toNat
    return some (⟨flags, width.natAbs, precision?, letter⟩, values, rest)

/-- The layout of a format as far as it goes, the last part first, and why it ends early; `shown` turns a
value into a text. The number bounds the octets. -/
def formatFrom (shown : Value → List Char) :
    Nat → Nat → List Value → List Char → List (List Char) → List (List Char) × Option FormatFault
  | 0, _, _, _, found => (found, Option.none)
  | _, _, _, [], found => (found, Option.none)
  | bound + 1, index, values, '%' :: rest, found =>
    if rest.head? = some '%' then
      formatFrom shown bound index values (rest.drop 1) (['%'] :: found)
    else
      match directiveOf values rest with
      | .error fault => (found, some fault)
      | .ok Option.none => (found, some (.conversion index))
      | .ok (some (directive, values, rest)) =>
        if !"diouxXcseEfFgG".toList.contains directive.letter then
          (found, some (.conversion index))
        else
          match values with
          | [] => (found, some .few)
          | value :: values =>
            let text := match directive.letter, value with
              | 's', value => directive.text (shown value)
              | 'c', .text octets => directive.fill [octets.headD '\x00']
              | 'c', value => directive.fill [Octets.char (truncated value.toNumber % 256).toNat]
              | _, value => laidOut directive value.toNumber
            formatFrom shown bound (index + 1) values rest (text :: found)
  | bound + 1, index, values, text, found =>
    let plain := text.takeWhile (· ≠ '%')
    formatFrom shown bound index values (text.drop plain.length) (plain :: found)

/-- The layout of a format for values, and why it ends early if it does. -/
def formatted (shown : Value → List Char) (format : List Char) (values : List Value) :
    List Char × Option FormatFault :=
  let (found, fault?) := formatFrom shown (format.length + 1) 1 values format []
  (found.reverse.flatten, fault?)

/-- The text of a number, in a format if it is no integer. -/
def numberText (format : List Char) (x : Float) : List Char :=
  match integerText? x with
  | some digits => digits
  | Option.none =>
    if format = "%.6g".toList then laidOut ⟨[], 0, some 6, 'g'⟩ x
    else (formatted (fun _ => []) format [.number x]).1

def Value.toText (format : List Char) : Value → List Char
  | none => []
  | number x => numberText format x
  | text octets => octets
  | both octets _ => octets

/-- How two values compare: as numbers if neither is a mere text. -/
def Value.compare (format : List Char) (a b : Value) : Ordering :=
  let texts : Bool := match a, b with
    | text _, _ => true
    | _, text _ => true
    | _, _ => false
  if texts then
    let x := a.toText format
    let y := b.toText format
    if x = y then .eq else if Octets.before x y then .lt else .gt
  else
    let x := a.toNumber
    let y := b.toNumber
    if x < y then .lt else if x == y then .eq else .gt

end Proctor.Machine.Awk

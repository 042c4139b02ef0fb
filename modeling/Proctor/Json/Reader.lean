import Proctor.Json.Fault
import Proctor.Number.Decimal
import Proctor.Text.Utf8

/-! Reading JSON text from the left: blanks, words, numbers and strings, whole values, and values
that are only skipped. A reader returns the text that is left. -/
namespace Proctor.Json

/-- A computation that takes its input from the front of a text and may find a fault. -/
abbrev Reader : Type → Type := StateT (List Char) (Except Fault)

def isSpace (c : Char) : Bool := c == ' ' || c == '\n' || c == '\t' || c == '\r'

def peek : Reader (Option Char) := fun text =>
  let rest := text.dropWhile isSpace
  .ok (rest.head?, rest)

def advance : Reader Unit := fun text => .ok ((), text.tail)

def word : List Char → Reader Unit
  | [] => pure ()
  | letter :: letters => fun text =>
    match text with
    | [] => .error .endOfValue
    | c :: rest => if c = letter then word letters rest else .error .expectedWord

/-! ### Numbers -/

/-- A number as it is written: its sign, its digits, and whether it has a point or an exponent. -/
structure Numeral where
  negative : Bool
  decimal : Decimal
  integral : Bool
deriving DecidableEq, Repr

/-- How a decimal number becomes a double; `none` where it lies outside the range. -/
abbrev Rounding := Bool → Decimal → Option Binary64

def nearest : Rounding := fun negative d =>
  let x := d.nearest negative
  if x.isFinite then some x else none

def maxUnsigned : Nat := 18446744073709551615

/-- The digits of a decimal number as an integer of 64 bits and an exponent. Digits of the whole
part that no longer fit raise the exponent; from the first digit of the fraction that does not fit,
the fraction is dropped. -/
def significandOf (whole fraction : List Char) : Nat × Int :=
  let takeWhole (state : Nat × Int × Bool) (c : Char) : Nat × Int × Bool :=
    let (n, e, full) := state
    let next := n * 10 + (digitValue? c).getD 0
    if full || maxUnsigned < next then (n, e + 1, true) else (next, e, false)
  let takeFraction (state : Nat × Int × Bool) (c : Char) : Nat × Int × Bool :=
    let (n, e, full) := state
    let next := n * 10 + (digitValue? c).getD 0
    if full || maxUnsigned < next then (n, e, true) else (next, e - 1, false)
  let (n, e, _) := whole.foldl takeWhole (0, 0, false)
  let (n, e, _) := fraction.foldl takeFraction (n, e, false)
  (n, e)

def scaleByTen (x : Binary64) : Nat → Int → Option Binary64
  | 0, _ => some x
  | steps + 1, e =>
    if e.natAbs ≤ 308 then
      let power := Binary64.ofDecimal false 1 e.natAbs
      if e < 0 then some (x.div power)
      else
        let y := x.mul power
        if y.isFinite then some y else none
    else if x.isZero then some x
    else if 0 ≤ e then none
    else scaleByTen (x.div (Binary64.ofDecimal false 1 308)) steps (e + 308)

/-- The double reached by rounding the leading digits and then scaling by powers of ten, each step
rounded; it can miss the nearest double by the last place. -/
def stepwise : Rounding := fun negative d =>
  let (n, e) := significandOf d.whole d.fraction
  (scaleByTen (Binary64.ofNat n) 8 (e + d.exponent)).map fun x => { x with negative }

def digitRun (text : List Char) : List Char × List Char :=
  (text.takeWhile isDecimalDigit, text.dropWhile isDecimalDigit)

def wholePart : Reader (List Char) := fun text =>
  match text with
  | [] => .error .endOfValue
  | '0' :: rest =>
    match rest with
    | c :: _ => if isDecimalDigit c then .error .invalidNumber else .ok (['0'], rest)
    | [] => .ok (['0'], rest)
  | c :: _ => if isDecimalDigit c then .ok (digitRun text) else .error .invalidNumber

def someDigits : Reader (List Char) := fun text =>
  match digitRun text, text with
  | ([], _), [] => .error .endOfValue
  | ([], _), _ => .error .invalidNumber
  | run, _ => .ok run

def fractionPart : Reader (Option (List Char)) := fun text =>
  match text with
  | '.' :: rest => (someDigits rest).map fun (digits, rest) => (some digits, rest)
  | _ => .ok (none, text)

def exponentPart : Reader (Option Int) := fun text =>
  match text with
  | 'e' :: rest | 'E' :: rest =>
    let (negative, rest) :=
      match rest with
      | '-' :: rest => (true, rest)
      | '+' :: rest => (false, rest)
      | _ => (false, rest)
    (someDigits rest).map fun (digits, rest) =>
      let n : Int := ofDigits 10 digits
      (some (if negative then -n else n), rest)
  | _ => .ok (none, text)

def numeral (negative : Bool) : Reader Numeral := do
  let whole ← wholePart
  let fraction ← fractionPart
  let exponent ← exponentPart
  return ⟨negative, ⟨whole, fraction.getD [], exponent.getD 0⟩, fraction.isNone && exponent.isNone⟩

/-- The value of a numeral. Integers of 64 bits stay integers, except that minus zero is a
floating point number. -/
def Numeral.value (round : Rounding) (n : Numeral) : Except Fault Json :=
  let asFloat :=
    match round n.negative n.decimal with
    | some x => .ok (.float x)
    | none => .error .numberOutOfRange
  if n.integral then
    let magnitude := ofDigits 10 n.decimal.whole
    if !n.negative && magnitude ≤ maxUnsigned then .ok (.int magnitude)
    else if n.negative && magnitude ≠ 0 && magnitude ≤ 9223372036854775808 then .ok (.int (-magnitude))
    else asFloat
  else asFloat

def number (round : Rounding) (c : Char) : Reader Json := do
  if c = '-' then advance
  let n ← numeral (c = '-')
  match n.value round with
  | .ok value => return value
  | .error fault => throw fault

/-! ### Strings -/

def hexQuad : Reader Nat := fun text =>
  match text with
  | a :: b :: c :: d :: rest =>
    match digitValue? a, digitValue? b, digitValue? c, digitValue? d with
    | some a, some b, some c, some d => .ok (((a * 16 + b) * 16 + c) * 16 + d, rest)
    | _, _, _, _ => .error .invalidEscape
  | _ => if Text.Utf8.size text < 4 then .error .endOfString else .error .invalidEscape

def expectInString (c : Char) : Reader Unit := fun text =>
  match text with
  | [] => .error .endOfString
  | d :: rest => if c = d then .ok ((), rest) else .error .cutEscape

def unicodeEscape : Reader Char := do
  let first ← hexQuad
  if 0xdc00 ≤ first ∧ first ≤ 0xdfff then throw .loneSurrogate
  if first < 0xd800 ∨ 0xdbff < first then return Char.ofNat first
  expectInString '\\'
  expectInString 'u'
  let second ← hexQuad
  if second < 0xdc00 ∨ 0xdfff < second then throw .loneSurrogate
  return Char.ofNat (0x10000 + (first - 0xd800) * 0x400 + (second - 0xdc00))

def escape : Reader Char := fun text =>
  match text with
  | [] => .error .endOfString
  | c :: rest =>
    match c with
    | '"' => .ok ('"', rest)
    | '\\' => .ok ('\\', rest)
    | '/' => .ok ('/', rest)
    | 'b' => .ok ('\x08', rest)
    | 'f' => .ok ('\x0c', rest)
    | 'n' => .ok ('\n', rest)
    | 'r' => .ok ('\r', rest)
    | 't' => .ok ('\t', rest)
    | 'u' => unicodeEscape rest
    | _ => .error .invalidEscape

def stringBody : Nat → Reader (List Char)
  | 0 => throw .endOfString
  | bound + 1 => fun text =>
    match text with
    | [] => .error .endOfString
    | '"' :: rest => .ok ([], rest)
    | '\\' :: rest => do
      let (c, rest) ← escape rest
      let (others, rest) ← stringBody bound rest
      return (c :: others, rest)
    | c :: rest =>
      if c.toNat < 0x20 then .error .controlCharacter
      else do
        let (others, rest) ← stringBody bound rest
        return (c :: others, rest)

def stringToken : Reader String := fun text => do
  let (characters, rest) ← stringBody text.length text.tail
  return (String.ofList characters, rest)

/-! ### Lists and objects -/

def nextItem (first : Bool) : Reader Bool := do
  match ← peek with
  | none => throw .endOfList
  | some ']' => return false
  | some c =>
    if first then return true
    else if c = ',' then
      advance
      match ← peek with
      | none => throw .endOfValue
      | some ']' => throw .trailingComma
      | some _ => return true
    else throw .expectedListEnd

def nextName (first : Bool) : Reader Bool := do
  match ← peek with
  | none => throw .endOfObject
  | some '\x7d' => return false
  | some c =>
    if first then
      if c = '"' then return true else throw .keyNotString
    else if c = ',' then
      advance
      match ← peek with
      | none => throw .endOfValue
      | some '"' => return true
      | some '\x7d' => throw .trailingComma
      | some _ => throw .keyNotString
    else throw .expectedObjectEnd

def endList : Reader Unit := do
  match ← peek with
  | none => throw .endOfList
  | some ']' => advance
  | some ',' =>
    advance
    match ← peek with
    | some ']' => throw .trailingComma
    | _ => throw .trailingText
  | some _ => throw .trailingText

def endObject : Reader Unit := do
  match ← peek with
  | none => throw .endOfObject
  | some '\x7d' => advance
  | some ',' => throw .trailingComma
  | some _ => throw .trailingText

def colon : Reader Unit := do
  match ← peek with
  | none => throw .endOfObject
  | some ':' => advance
  | some _ => throw .expectedColon

def items {α : Type} (item : Reader α) : Nat → Bool → Reader (List α)
  | 0, _ => throw .endOfList
  | bound + 1, first => do
    if ← nextItem first then
      let x ← item
      let others ← items item bound false
      return x :: others
    else return []

def members {α : Type} (value : Reader α) : Nat → Bool → Reader (List (String × α))
  | 0, _ => throw .endOfObject
  | bound + 1, first => do
    if ← nextName first then
      let name ← stringToken
      colon
      let x ← value
      let others ← members value bound false
      return (name, x) :: others
    else return []

def bound : Reader Nat := fun text => .ok (text.length + 1, text)

/-! ### Values -/

def maxOpen : Nat := 127

def valueWith (round : Rounding) (inner : Char → Reader Json) : Reader Json := do
  match ← peek with
  | none => throw .endOfValue
  | some 'n' => advance; word ['u', 'l', 'l']; return .null
  | some 't' => advance; word ['r', 'u', 'e']; return .bool true
  | some 'f' => advance; word ['a', 'l', 's', 'e']; return .bool false
  | some '"' => return .string (← stringToken)
  | some c =>
    if c = '-' || isDecimalDigit c then number round c
    else if c = '[' || c = '\x7b' then inner c
    else throw .expectedValue

/-- A value in which at most `room` containers are open at once. Members of equal name are all
kept. -/
def value (round : Rounding) : Nat → Reader Json
  | 0 => valueWith round fun _ => throw .tooDeep
  | room + 1 => valueWith round fun opening => do
    advance
    if opening = '[' then
      let parts ← items (value round room) (← bound) true
      endList
      return .array parts
    else
      let parts ← members (value round room) (← bound) true
      endObject
      return .object parts

/-! ### Skipped values -/

/-- Skips a string after its opening quote. Escapes are checked, surrogates are not paired. -/
def skipString : Nat → Reader Unit
  | 0 => throw .endOfString
  | bound + 1 => fun text =>
    match text with
    | [] => .error .endOfString
    | '"' :: rest => .ok ((), rest)
    | '\\' :: [] => .error .endOfString
    | '\\' :: 'u' :: rest => do
      let (_, rest) ← hexQuad rest
      skipString bound rest
    | '\\' :: c :: rest =>
      if c ∈ ['"', '\\', '/', 'b', 'f', 'n', 'r', 't'] then skipString bound rest
      else .error .invalidEscape
    | c :: rest => if c.toNat < 0x20 then .error .controlCharacter else skipString bound rest

def skipDigits : Reader Unit := fun text =>
  match digitRun text with
  | ([], _) => .error .invalidNumber
  | (_, rest) => .ok ((), rest)

def skipNumber : Reader Unit := fun text =>
  let whole : Except Fault (List Char) :=
    match text with
    | '0' :: rest =>
      match rest with
      | c :: _ => if isDecimalDigit c then .error .invalidNumber else .ok rest
      | [] => .ok rest
    | _ => (skipDigits text).map (·.2)
  let fraction (text : List Char) : Except Fault (List Char) :=
    match text with
    | '.' :: rest => (skipDigits rest).map (·.2)
    | _ => .ok text
  let exponent (text : List Char) : Except Fault (List Char) :=
    match text with
    | 'e' :: rest | 'E' :: rest =>
      match rest with
      | '-' :: rest | '+' :: rest => (skipDigits rest).map (·.2)
      | _ => (skipDigits rest).map (·.2)
    | _ => .ok text
  (whole >>= fraction >>= exponent).map fun rest => ((), rest)

def skipName : Reader Unit := do
  match ← peek with
  | none => throw .endOfObject
  | some '"' =>
    advance
    skipString (← bound)
    colon
  | some _ => throw .keyNotString

mutual
def skipValue : Nat → Reader Unit
  | 0 => throw .endOfValue
  | steps + 1 => do
    match ← peek with
    | none => throw .endOfValue
    | some 'n' => advance; word ['u', 'l', 'l']
    | some 't' => advance; word ['r', 'u', 'e']
    | some 'f' => advance; word ['a', 'l', 's', 'e']
    | some '"' => advance; skipString (← bound)
    | some '-' => advance; skipNumber
    | some '[' =>
      advance
      match ← peek with
      | some ']' => advance
      | none => throw .endOfList
      | some _ => skipItems steps
    | some '\x7b' =>
      advance
      match ← peek with
      | some '\x7d' => advance
      | _ => skipMembers steps
    | some c => if isDecimalDigit c then skipNumber else throw .expectedValue

def skipItems : Nat → Reader Unit
  | 0 => throw .endOfList
  | steps + 1 => do
    skipValue steps
    match ← peek with
    | some ',' => advance; skipItems steps
    | some ']' => advance
    | none => throw .endOfList
    | some _ => throw .expectedListEnd

def skipMembers : Nat → Reader Unit
  | 0 => throw .endOfObject
  | steps + 1 => do
    skipName
    skipValue steps
    match ← peek with
    | some ',' => advance; skipMembers steps
    | some '\x7d' => advance
    | none => throw .endOfObject
    | some _ => throw .expectedObjectEnd
end

def skip : Reader Unit := fun text => skipValue (2 * text.length + 2) text

/-! ### Whole texts -/

def readAll {α : Type} (reader : Reader α) (text : String) : Except Fault α :=
  match (do let x ← reader; return (x, ← peek)) text.toList with
  | .error fault => .error fault
  | .ok ((x, none), _) => .ok x
  | .ok ((_, some _), _) => .error .trailingText

def read (round : Rounding) (text : String) : Except Fault Json :=
  (readAll (value round maxOpen) text).map settle

end Proctor.Json

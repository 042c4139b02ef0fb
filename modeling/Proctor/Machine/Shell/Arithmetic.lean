import Proctor.Json.Printer
import Proctor.Machine.Shell.State

/-! Numbers in texts, and the values of sums. -/
namespace Proctor.Machine.Shell

/-! ### Numbers -/

def wordSize : Nat := 18446744073709551616

def wrapped (n : Int) : Int := n.bmod wordSize

def greatest : Int := 9223372036854775807

def least : Int := -9223372036854775808

/-- The digits of a number at the start of a text, their base, and the text after them. Without
`decimal` a zero starts an octal number, and a zero and an x a hexadecimal one. -/
def leadingDigits (decimal : Bool) (text : List Char) : List Char × Nat × List Char :=
  let span (base : Nat) (text : List Char) : List Char × Nat × List Char :=
    let digits := text.takeWhile fun c => (digitIn? base c).isSome
    (digits, base, text.drop digits.length)
  match decimal, text with
  | false, '0' :: x :: d :: rest =>
    if (x = 'x' || x = 'X') && (digitIn? 16 d).isSome then span 16 (d :: rest)
    else span 8 text
  | false, '0' :: _ => span 8 text
  | _, text => span 10 text

def isWhite (c : Char) : Bool := c == ' ' || ('\t' ≤ c && c ≤ '\x0d')

/-- The number that a whole text spells, with white space around it; a decimal number must have
digits, another one is zero without any. Numbers of more than 64 bits are none. -/
def integer? (decimal : Bool) (text : List Char) : Option Int :=
  let start := text.dropWhile isWhite
  let (negative, unsigned) := match start with
    | '-' :: rest => (true, rest)
    | '+' :: rest => (false, rest)
    | rest => (false, rest)
  let (digits, base, after) := leadingDigits decimal unsigned
  let after := if digits = [] then text else after
  let n : Int := ofDigits base digits
  let n := if negative then -n else n
  if n < least || greatest < n || (decimal && digits = []) || !(after.all isWhite) then none
  else some n

/-- The digits of a number, with a sign if it is negative. -/
def intDigits (n : Int) : List Char :=
  if n < 0 then '-' :: digitsOf 10 n.natAbs else digitsOf 10 n.natAbs

/-! ### Symbols -/

/-- A number, a name, or a sign. -/
inductive Symbol where
  | number (n : Int)
  | name (text : List Char)
  | sign (text : String)
  | stray
deriving DecidableEq, Repr

def signs : List String :=
  ["<<=", ">>=", "==", "!=", "<=", ">=", "&&", "||", "<<", ">>", "+=", "-=", "*=", "/=", "%=", "&=",
    "^=", "|=", "=", "<", ">", "!", "(", ")", "*", "/", "%", "+", "-", "~", "?", ":", "^", "&", "|"]

def symbols : Nat → List Char → List Symbol
  | 0, _ => []
  | _, [] => []
  | bound + 1, c :: rest =>
    if isSpace c || c == '\n' then symbols bound rest
    else if isNameStart c then
      let name := (c :: rest).takeWhile isNamePart
      .name name :: symbols bound ((c :: rest).drop name.length)
    else if isDecimalDigit c then
      let (digits, base, after) := leadingDigits false (c :: rest)
      .number (min (ofDigits base digits) greatest) :: symbols bound after
    else
      match signs.find? fun sign => sign.toList.isPrefixOf (c :: rest) with
      | some sign => .sign sign :: symbols bound ((c :: rest).drop sign.length)
      | none => [.stray]

/-! ### Values -/

def places (n : Int) : Nat := (n % 64).toNat

def ofTruth (holds : Bool) : Int := if holds then 1 else 0

def onBits (combine : Nat → Nat → Nat) (a b : Int) : Int :=
  wrapped (combine (a % wordSize).toNat (b % wordSize).toNat)

def operators : List (List String) :=
  [["|"], ["^"], ["&"], ["==", "!="], ["<", "<=", ">", ">="], ["<<", ">>"], ["+", "-"],
    ["*", "/", "%"]]

/-- What an operator makes of two numbers, except for a quotient by zero. -/
def combined (operator : String) (a b : Int) : Int :=
  match operator with
  | "|" => onBits (· ||| ·) a b
  | "^" => onBits (· ^^^ ·) a b
  | "&" => onBits (· &&& ·) a b
  | "==" => ofTruth (a == b)
  | "!=" => ofTruth (a != b)
  | "<" => ofTruth (a < b)
  | "<=" => ofTruth (a ≤ b)
  | ">" => ofTruth (b < a)
  | ">=" => ofTruth (b ≤ a)
  | "<<" => wrapped (a * Nat.pow 2 (places b))
  | ">>" => a / Nat.pow 2 (places b)
  | "+" => wrapped (a + b)
  | "-" => wrapped (a - b)
  | "*" => wrapped (a * b)
  | "/" => a.tdiv b
  | _ => a.tmod b

/-- A value at the start of symbols, and the symbols left. -/
abbrev Valued := Action (Int × List Symbol)

def unvalued {α : Type} (text : List Char) (reason : String) : Action α :=
  Action.refuse s!"arithmetic expression: {reason}: \"{String.ofList text}\""

def numberOf (name : List Char) : Action Int := do
  let value := (← get).valueOf name
  match integer? false value with
  | some n => return n
  | none => Action.refuse s!"Illegal number: {String.ofList value}"

def applied (text : List Char) (skipped : Bool) (operator : String) (a b : Int) : Action Int := do
  if skipped then return b
  else if operator = "/" || operator = "%" then
    if b = 0 then unvalued text "division by zero"
    else if a = least && b = -1 then throw (.signal 8)
    else return combined operator a b
  else return combined operator a b

/-- A number, a sum in brackets, or one with a sign in front; `inner` values what is in brackets. -/
def primary (text : List Char) (inner : Bool → List Symbol → Valued) (skipped : Bool) :
    List Symbol → Valued
  | .number n :: rest => return (n, rest)
  | .name name :: rest => do
    if skipped then return (0, rest)
    else return (← numberOf name, rest)
  | .sign "(" :: rest => do
    match ← inner skipped rest with
    | (n, .sign ")" :: rest) => return (n, rest)
    | _ => unvalued text "expecting ')'"
  | .sign "+" :: rest => primary text inner skipped rest
  | .sign "-" :: rest => do
    let (n, rest) ← primary text inner skipped rest
    return (wrapped (-n), rest)
  | .sign "!" :: rest => do
    let (n, rest) ← primary text inner skipped rest
    return (ofTruth (n == 0), rest)
  | .sign "~" :: rest => do
    let (n, rest) ← primary text inner skipped rest
    return (-n - 1, rest)
  | _ => unvalued text "expecting primary"

/-- Applies operators of one strength from the left; `next` values an operand. -/
def chained (text : List Char) (names : List String) (skipped : Bool)
    (next : List Symbol → Valued) : Nat → Int → List Symbol → Valued
  | 0, a, symbols => return (a, symbols)
  | bound + 1, a, symbols =>
    match symbols with
    | .sign operator :: rest => do
      if names.contains operator then
        let (b, rest) ← next rest
        chained text names skipped next bound (← applied text skipped operator a b) rest
      else return (a, symbols)
    | symbols => return (a, symbols)

def joined (text : List Char) (inner : Bool → List Symbol → Valued) (skipped : Bool) :
    List (List String) → List Symbol → Valued
  | [], symbols => primary text inner skipped symbols
  | names :: stronger, symbols => do
    let next := joined text inner skipped stronger
    let (a, rest) ← next symbols
    chained text names skipped next (rest.length + 1) a rest

/-- Values of which all must be true; those after a false one do not count. -/
def conjunction (text : List Char) (inner : Bool → List Symbol → Valued) :
    Nat → Bool → List Symbol → Valued
  | 0, _, symbols => return (0, symbols)
  | bound + 1, skipped, symbols => do
    match ← joined text inner skipped operators symbols with
    | (a, .sign "&&" :: rest) =>
      let (b, rest) ← conjunction text inner bound (skipped || a == 0) rest
      return (ofTruth (a != 0 && b != 0), rest)
    | found => return found

/-- Values of which one must be true; those after a true one do not count. -/
def disjunction (text : List Char) (inner : Bool → List Symbol → Valued) :
    Nat → Bool → List Symbol → Valued
  | 0, _, symbols => return (0, symbols)
  | bound + 1, skipped, symbols => do
    match ← conjunction text inner (bound + 1) skipped symbols with
    | (a, .sign "||" :: rest) =>
      let (b, rest) ← disjunction text inner bound (skipped || a != 0) rest
      return (ofTruth (a != 0 || b != 0), rest)
    | found => return found

def conditional (text : List Char) (inner : Bool → List Symbol → Valued) :
    Nat → Bool → List Symbol → Valued
  | 0, _, symbols => return (0, symbols)
  | bound + 1, skipped, symbols => do
    match ← disjunction text inner (bound + 1) skipped symbols with
    | (a, .sign "?" :: rest) =>
      match ← inner (skipped || a == 0) rest with
      | (yes, .sign ":" :: rest) =>
        let (no, rest) ← conditional text inner bound (skipped || a != 0) rest
        return (if a = 0 then no else yes, rest)
      | _ => unvalued text "expecting ':'"
    | found => return found

def assigning? (sign : String) : Option String :=
  if sign = "=" then some ""
  else if ["+=", "-=", "*=", "/=", "%=", "&=", "^=", "|=", "<<=", ">>="].contains sign then
    some (sign.dropEnd 1).toString
  else none

/-- An assignment, or a condition. The number bounds how deep sums are nested. -/
def sumFrom (text : List Char) : Nat → Bool → List Symbol → Valued
  | 0, _, _ => unvalued text "expecting primary"
  | bound + 1, skipped, symbols =>
    match symbols with
    | .name name :: .sign sign :: rest =>
      match assigning? sign with
      | some operator => do
        let (value, rest) ← sumFrom text bound skipped rest
        if skipped then return (value, rest)
        else
          let value ← if operator = "" then pure value
            else do applied text false operator (← numberOf name) value
          Action.assign name (intDigits value)
          return (value, rest)
      | none => conditional text (sumFrom text bound) (symbols.length + 1) skipped symbols
    | symbols => conditional text (sumFrom text bound) (symbols.length + 1) skipped symbols

def evaluate (text : List Char) : Action Int := do
  let symbols := symbols (text.length + 1) text
  match ← sumFrom text (symbols.length + 2) false symbols with
  | (n, []) => return n
  | _ => unvalued text "expecting EOF"

end Proctor.Machine.Shell

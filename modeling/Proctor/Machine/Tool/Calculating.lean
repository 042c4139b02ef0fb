import Proctor.Machine.Regex.Reader
import Proctor.Machine.Tool.Basic

/-! The tools that calculate: expressions that are given word by word, and the factors of numbers. -/
namespace Proctor.Machine

/-! ### Expressions -/

/-- What words come to: a number, or a text. -/
inductive Amount where
  | number (n : Int)
  | text (octets : List Char)
deriving DecidableEq, Repr

namespace Amount

def octets : Amount → List Char
  | number n => if n < 0 then '-' :: digitsOf 10 n.natAbs else digitsOf 10 n.natAbs
  | text octets => octets

def number? : Amount → Option Int
  | number n => some n
  | text ('-' :: digits) => (Tool.number? digits).map fun n => -(n : Int)
  | text digits => (Tool.number? digits).map fun n => (n : Int)

def isNull : Amount → Bool
  | number n => n = 0
  | text octets =>
    let digits := match octets with
      | '-' :: digits => digits
      | digits => digits
    octets = [] || (digits ≠ [] && digits.all (· == '0'))

end Amount

namespace Calculation

/-- The word that was read last, and the words that are left. -/
structure Progress where
  last : List Char
  words : List (List Char)

abbrev Reading := ExceptT String (StateM Progress)

def take : Reading (List Char) := do
  let progress ← get
  match progress.words with
  | [] => throw s!"syntax error: missing argument after {Quoting.text progress.last}"
  | word :: words =>
    set (Progress.mk word words)
    return word

def takeOne? (known : List String) : Reading (Option String) := do
  let progress ← get
  match progress.words with
  | [] => return none
  | word :: words =>
    match known.find? fun text => text.toList = word with
    | none => return none
    | some text =>
      set (Progress.mk word words)
      return some text

def numbers (a b : Amount) : Reading (Int × Int) := do
  match a.number?, b.number? with
  | some x, some y => return (x, y)
  | _, _ => throw "non-integer argument"

def combined (operator : String) (a b : Amount) : Reading Amount := do
  let (x, y) ← numbers a b
  match operator with
  | "+" => return .number (x + y)
  | "-" => return .number (x - y)
  | "*" => return .number (x * y)
  | operator =>
    if y = 0 then throw "division by zero"
    return .number (if operator = "/" then x.tdiv y else x.tmod y)

def compared (operator : String) (a b : Amount) : Bool :=
  let order : Ordering := match a.number?, b.number? with
    | some x, some y => compare x y
    | _, _ =>
      let (x, y) := (a.octets, b.octets)
      if x = y then .eq else if Octets.before x y then .lt else .gt
  match operator with
  | "<" => order = .lt
  | "<=" => order ≠ .gt
  | "=" => order = .eq
  | "==" => order = .eq
  | "!=" => order ≠ .eq
  | ">=" => order ≠ .lt
  | _ => order = .gt

/-- What the start of a text has in common with an expression: the text of its first group, or how long
the match is. -/
def matched (subject pattern : Amount) : Reading Amount := do
  let text := subject.octets.toArray
  match Regex.ofText ⟨false, true, false⟩ pattern.octets with
  | .error fault => throw fault.message
  | .ok (regex, groups) =>
    match regex.matchAt? text (fun _ => true) 0 with
    | none => return if 0 < groups then .text [] else .number 0
    | some hit =>
      if groups = 0 then return .number (hit.stop - hit.start : Nat)
      else
        match hit.groups.lookup 1 with
        | some (start, stop) => return .text (text.extract start stop).toList
        | none => return .text []

/-- The first place of one of some characters, counted from one; zero if there is none. -/
def placeOf (chars octets : List Char) : Nat :=
  match octets.findIdx? chars.contains with
  | some i => i + 1
  | none => 0

/-- A part of a text: from a place, counted from one, on, and of some length. -/
def part (octets : List Char) (start length : Amount) : List Char :=
  match start.number?, length.number? with
  | some start, some length =>
    if start < 1 || length < 1 then [] else (octets.drop (start - 1).toNat).take length.toNat
  | _, _ => []

/-- The levels of operators, the weakest first, but for the two that join conditions. -/
def levels : List (List String) :=
  [["<", "<=", "=", "==", "!=", ">=", ">"], ["+", "-"], ["*", "/", "%"], [":"]]

mutual

def whole : Nat → Bool → Reading Amount
  | 0, _ => throw "syntax error"
  | bound + 1, wanted => do moreWhole bound wanted (← both bound wanted)

def moreWhole : Nat → Bool → Amount → Reading Amount
  | 0, _, found => return found
  | bound + 1, wanted, found => do
    if (← takeOne? ["|"]).isNone then return found
    let other ← both bound (wanted && found.isNull)
    let found := if found.isNull then (if other.isNull then .number 0 else other) else found
    moreWhole bound wanted found

def both : Nat → Bool → Reading Amount
  | 0, _ => throw "syntax error"
  | bound + 1, wanted => do moreBoth bound wanted (← operation bound wanted levels)

def moreBoth : Nat → Bool → Amount → Reading Amount
  | 0, _, found => return found
  | bound + 1, wanted, found => do
    if (← takeOne? ["&"]).isNone then return found
    let other ← operation bound (wanted && !found.isNull) levels
    moreBoth bound wanted (if found.isNull || other.isNull then .number 0 else found)

def operation : Nat → Bool → List (List String) → Reading Amount
  | 0, _, _ => throw "syntax error"
  | bound + 1, wanted, [] => operand bound wanted
  | bound + 1, wanted, level :: levels => do
    moreOperation bound wanted level levels (← operation bound wanted levels)

def moreOperation : Nat → Bool → List String → List (List String) → Amount → Reading Amount
  | 0, _, _, _, found => return found
  | bound + 1, wanted, level, levels, found => do
    match ← takeOne? level with
    | none => return found
    | some operator =>
      let other ← operation bound wanted levels
      let found ←
        if !wanted then pure found
        else if operator = ":" then matched found other
        else if ["+", "-", "*", "/", "%"].contains operator then combined operator found other
        else pure (.number (if compared operator found other then 1 else 0))
      moreOperation bound wanted level levels found

def operand : Nat → Bool → Reading Amount
  | 0, _ => throw "syntax error"
  | bound + 1, wanted => do
    match ← takeOne? ["+", "length", "match", "index", "substr", "(", ")"] with
    | some "+" => return .text (← take)
    | some "length" => return .number (← operand bound wanted).octets.length
    | some "match" =>
      let subject ← operand bound wanted
      let pattern ← operand bound wanted
      if wanted then matched subject pattern else return subject
    | some "index" =>
      let octets := (← operand bound wanted).octets
      return .number (placeOf (← operand bound wanted).octets octets)
    | some "substr" =>
      let octets := (← operand bound wanted).octets
      let start ← operand bound wanted
      return .text (part octets start (← operand bound wanted))
    | some "(" =>
      let found ← whole bound wanted
      let progress ← get
      match progress.words with
      | [] => throw s!"syntax error: expecting ')' after {Quoting.text progress.last}"
      | word :: _ =>
        if (← takeOne? [")"]).isNone then
          throw s!"syntax error: expecting ')' instead of {Quoting.text word}"
        return found
    | some _ => throw "syntax error: unexpected ')'"
    | none => return .text (← take)

end

def ofWords (words : List (List Char)) : Except String Amount := do
  let (result, progress) := (whole (40 * words.length + 40) true).run.run ⟨[], words⟩
  let found ← result
  match progress.words with
  | [] => return found
  | word :: _ => throw s!"syntax error: unexpected argument {Quoting.text word}"

end Calculation

namespace Tool

/-- Prints what words come to. The status tells whether that is empty or zero. -/
def expr : Tool Unit := do
  let words ← args
  let words := if words.head? = some "--".toList then words.tail else words
  if words = [] then misused "missing operand" 2
  match Calculation.ofWords words with
  | .error message => refuse message 2
  | .ok found =>
    printLine found.octets
    if found.isNull then fail 1

/-! ### Factors -/

/-- The prime factors of a number from a candidate on. The number bounds the candidates. -/
def factorsFrom : Nat → Nat → Nat → List Nat
  | 0, _, n => [n]
  | bound + 1, candidate, n =>
    if n < candidate * candidate then (if 1 < n then [n] else [])
    else if n % candidate = 0 then candidate :: factorsFrom bound candidate (n / candidate)
    else factorsFrom bound (candidate + if candidate = 2 then 1 else 2) n

def factor : Tool Unit := do
  let (options, names) ← options "h" "" [("exponents", 'h')] 1
  let words ← if names = [] then do
      let octets := ((← inputOf 0).toOption).getD []
      pure ((octets.splitBy fun a b => !isGap a && !isGap b).filter fun word => !word.all isGap)
    else pure names
  words.forM fun word => do
    match number? word with
    | some n =>
      let factors := if n < 2 then [] else factorsFrom 3000000 2 n
      let shown := if options.has 'h' then powers factors
        else factors.map fun n => digitsOf 10 n
      printLine (digitsOf 10 n ++ ':' :: shown.flatMap (' ' :: ·))
    | none => complain s!"{Quoting.text word} is not a valid positive integer" 1
where
  powers (factors : List Nat) : List (List Char) :=
    (factors.splitBy (· == ·)).map fun run =>
      let base := digitsOf 10 (run.headD 0)
      if run.length = 1 then base else base ++ '^' :: digitsOf 10 run.length
  isGap (c : Char) : Bool := c == ' ' || c == '\n' || c == '\t'

end Tool
end Proctor.Machine

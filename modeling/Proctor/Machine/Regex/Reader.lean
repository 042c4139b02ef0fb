import Proctor.Machine.Regex
import Proctor.Number.Decimal

/-! How regular expressions are written: the signs of a text, and the expression that they denote. There
are two forms. In the basic one most signs need a backslash to have a meaning, in the extended one they
need a backslash to lose it. -/
namespace Proctor.Machine.Regex

structure Style where
  extended : Bool
  /-- Whether a repetition may stand where there is nothing to repeat, and repetitions may follow each
  other. -/
  lenient : Bool
  byLine : Bool
deriving DecidableEq, Repr

inductive Fault where
  | group
  | parenthesis
  | bracket
  | brace
  | content
  | range
  | className
  | collation
  | colons
  | reference
  | repetition
  | backslash
  | size
deriving DecidableEq, Repr

def Fault.message : Fault → String
  | .group => "Unmatched ( or \\("
  | .parenthesis => "Unmatched ) or \\)"
  | .bracket => "Unmatched [, [^, [:, [., or [="
  | .brace => "Unmatched \\\x7b"
  | .content => "Invalid content of \\\x7b\\\x7d"
  | .range => "Invalid range end"
  | .className => "Invalid character class name"
  | .collation => "Invalid collation character"
  | .colons => "character class syntax is [[:space:]], not [:space:]"
  | .reference => "Invalid back reference"
  | .repetition => "Invalid preceding regular expression"
  | .backslash => "Trailing backslash"
  | .size => "Regular expression too big"

/-! ### Brackets -/

def named? (mark : Char) : List Char → Option (List Char × List Char)
  | [] => none
  | c :: rest =>
    if c = mark && rest.head? = some ']' then some ([], rest.drop 1)
    else (named? mark rest).map fun (name, after) => (c :: name, after)

/-- What stands in a bracket: one character, or a class of them. -/
inductive Element where
  | char (c : Char)
  | several (ranges : List (Char × Char))

def elementOf : List Char → Except Fault (Element × List Char)
  | '[' :: '.' :: rest =>
    match named? '.' rest with
    | some ([c], rest) => .ok (.char c, rest)
    | some _ => .error .collation
    | none => .error .bracket
  | '[' :: '=' :: rest =>
    match named? '=' rest with
    | some ([c], rest) => .ok (.several [(c, c)], rest)
    | some _ => .error .collation
    | none => .error .bracket
  | '[' :: ':' :: rest =>
    match named? ':' rest with
    | some (name, rest) =>
      match classes.lookup (String.ofList name) with
      | some ranges => .ok (.several ranges, rest)
      | none => .error .className
    | none => .error .bracket
  | c :: rest => .ok (.char c, rest)
  | [] => .error .bracket

/-- The ranges up to a closing bracket, and the text after it. A closing bracket or a dash that comes
first is a character. The number bounds how many ranges there are. -/
def rangesOf : Nat → Bool → List Char → Except Fault (List (Char × Char) × List Char)
  | 0, _, _ => .error .bracket
  | bound + 1, first, text =>
    let go (found : List (Char × Char)) (rest : List Char) :
        Except Fault (List (Char × Char) × List Char) := do
      let (others, after) ← rangesOf bound false rest
      return (found ++ others, after)
    match text with
    | [] => .error .bracket
    | c :: rest =>
      if c = ']' && !first then .ok ([], rest)
      else if c = '-' && !first && rest ≠ [] && rest.head? ≠ some ']' then .error .range
      else do
        match ← elementOf (c :: rest) with
        | (.several ranges, rest) => go ranges rest
        | (.char low, '-' :: ']' :: rest) => go [(low, low)] ('-' :: ']' :: rest)
        | (.char _, ['-']) => throw .bracket
        | (.char low, '-' :: rest) =>
          match ← elementOf rest with
          | (.char high, rest) => if high < low then throw .range else go [(low, high)] rest
          | (.several _, _) => throw .range
        | (.char c, rest) => go [(c, c)] rest

/-- Whether a bracket looks like the name of a class without a second bracket. -/
def isBareClass (text : List Char) : Bool :=
  match text with
  | ':' :: rest =>
    let inside := rest.takeWhile (· ≠ ']')
    inside.getLast? = some ':' && inside.any (· ≠ ':') && !inside.any fun c => c = '-' || c = '['
  | _ => false

def bracketOf (style : Style) (text : List Char) : Except Fault (Regex × List Char) := do
  let (negated, inside) := match text with
    | '^' :: inside => (true, inside)
    | inside => (false, inside)
  let (ranges, rest) ← rangesOf (inside.length + 1) true inside
  if style.lenient && isBareClass inside then throw .colons
  return (.char negated ranges, rest)

/-! ### Signs -/

inductive Sign where
  /-- An expression that may be repeated, and one that may not. -/
  | atom (regex : Regex)
  | anchor (regex : Regex)
  | again (number : Nat)
  | star
  | plus
  | question
  | opening
  | closing
  | bar
  | openCount
  | closeCount
  | bad (fault : Fault)
deriving DecidableEq, Repr

def ofChar (c : Char) : Regex := .char false [(c, c)]

def wordRanges : List (Char × Char) := [('0', '9'), ('A', 'Z'), ('_', '_'), ('a', 'z')]

def spaceRanges : List (Char × Char) := [(' ', ' '), ('\t', '\x0d')]

/-- The signs that need a backslash in the basic form and none in the extended one. -/
def switchedSigns : List (Char × Sign) :=
  [('(', .opening), (')', .closing), ('\x7b', .openCount), ('\x7d', .closeCount), ('|', .bar),
    ('+', .plus), ('?', .question)]

def escapedSigns : List (Char × Sign) :=
  [('<', .anchor (.border true false)), ('>', .anchor (.border false true)),
    ('b', .anchor (.border true true)), ('B', .anchor .noBorder), ('\x60', .anchor .start),
    ('\'', .anchor .finish), ('w', .atom (.char false wordRanges)),
    ('W', .atom (.char true wordRanges)), ('s', .atom (.char false spaceRanges)),
    ('S', .atom (.char true spaceRanges))]

def escapedSign (style : Style) (c : Char) : Sign :=
  match (if style.extended then none else switchedSigns.lookup c), escapedSigns.lookup c with
  | some sign, _ => sign
  | none, some sign => sign
  | none, none => if '1' ≤ c && c ≤ '9' then .again (c.toNat - 48) else .atom (ofChar c)

/-- The signs of a text; `opened` tells that an expression may start here. The number bounds how many
signs there are. -/
def signsOf (style : Style) : Nat → Bool → List Char → List Sign
  | 0, _, _ => []
  | _, _, [] => []
  | _, _, ['\\'] => [.bad .backslash]
  | bound + 1, _, '\\' :: c :: rest =>
    let sign := escapedSign style c
    sign :: signsOf style bound (sign = .opening || sign = .bar) rest
  | bound + 1, opened, c :: rest =>
    let go (sign : Sign) : List Sign :=
      sign :: signsOf style bound (sign = .opening || sign = .bar) rest
    match c with
    | '[' =>
      match bracketOf style rest with
      | .ok (regex, rest) => .atom regex :: signsOf style bound false rest
      | .error fault => [.bad fault]
    | '.' => go (.atom (.char true []))
    | '*' => go .star
    | '^' =>
      if style.extended || opened then go (.anchor (if style.byLine then .lineStart else .start))
      else go (.atom (ofChar c))
    | '$' =>
      let last := rest = [] || ['\\', ')'].isPrefixOf rest || ['\\', '|'].isPrefixOf rest
      if style.extended || last then go (.anchor (if style.byLine then .lineFinish else .finish))
      else go (.atom (ofChar c))
    | c =>
      match if style.extended then switchedSigns.lookup c else none with
      | some sign => go sign
      | none => go (.atom (ofChar c))

def Sign.plain? : Sign → Option Char
  | .star => some '*'
  | .plus => some '+'
  | .question => some '?'
  | .closing => some ')'
  | .openCount => some '\x7b'
  | .closeCount => some '\x7d'
  | _ => none

/-! ### Expressions -/

/-- The signs that are left, how many groups were opened, and which are closed. -/
structure Progress where
  signs : List Sign
  opened : Nat
  closed : List Nat

abbrev Reading := StateT Progress (Except Fault)

def next? : Reading (Option Sign) := return (← get).signs.head?

def pass : Reading Unit := modify fun progress => { progress with signs := progress.signs.drop 1 }

inductive Amount where
  | absent
  | unclear
  | times (n : Nat)
deriving DecidableEq, Repr

def maxTimes : Nat := 32767

def Amount.add (amount : Amount) (sign : Sign) : Amount :=
  match sign with
  | .atom (.char false [(c, d)]) =>
    if c = d && isDecimalDigit c then
      match amount with
      | .absent => .times (c.toNat - 48)
      | .unclear => .unclear
      | .times n => .times (min (maxTimes + 1) (n * 10 + (c.toNat - 48)))
    else .unclear
  | _ => .unclear

def amountOf (amount : Amount) : List Sign → Amount × Option Sign × List Sign
  | [] => (.unclear, none, [])
  | sign :: rest =>
    if sign = .closeCount || sign = .atom (ofChar ',') then (amount, some sign, rest)
    else amountOf (amount.add sign) rest

def counted (style : Style) (regex : Regex) (signs : List Sign) :
    Except Fault (Regex × List Sign) := do
  let comma := some (Sign.atom (ofChar ','))
  let (least, mark, rest) := amountOf .absent signs
  if least = .absent && mark ≠ comma then throw .content
  let least := if least = .absent then .times 0 else least
  let (most, mark, rest) :=
    if mark = comma then amountOf .absent rest
    else (least, mark, rest)
  match least, most with
  | .times n, .absent =>
    if mark ≠ some .closeCount then throw .content
    if maxTimes < n then throw .size
    return (regex.copies n none, rest)
  | .times n, .times m =>
    if m < n || mark ≠ some .closeCount then throw .content
    if maxTimes < m then throw .size
    return (regex.copies n (some m), rest)
  | _, _ =>
    if style.extended && style.lenient then return (regex, .atom (ofChar '\x7b') :: signs)
    throw (if mark = none then .brace else .content)

/-- The repetitions after an expression. The number bounds how many there are. -/
def repetitions (style : Style) : Nat → Regex → Reading Regex
  | 0, regex => return regex
  | bound + 1, regex => do
    let again (regex : Regex) : Reading Regex := do
      let sign ← next?
      if !style.extended && !style.lenient && (sign = some .star || sign = some .openCount) then
        throw .repetition
      repetitions style bound regex
    match ← next? with
    | some .star => pass; again (.many regex)
    | some .plus => pass; again (.both regex (.many regex))
    | some .question => pass; again (.either regex .empty)
    | some .openCount =>
      let progress ← get
      let (regex, rest) ← counted style regex (progress.signs.drop 1)
      set { progress with signs := rest }
      again regex
    | _ => return regex

mutual

def alternatives (style : Style) : Nat → Nat → Reading Regex
  | 0, _ => return .empty
  | bound + 1, depth => do
    let first ← sequence style bound depth
    if (← next?) = some .bar then
      pass
      return .either first (← alternatives style bound depth)
    else return first

def sequence (style : Style) : Nat → Nat → Reading Regex
  | 0, _ => return .empty
  | bound + 1, depth => do
    match ← next? with
    | none => return .empty
    | some sign =>
      if sign = .bar || (sign = .closing && 0 < depth) then return .empty
      let first ← single style bound depth
      return .both first (← sequence style bound depth)

def single (style : Style) : Nat → Nat → Reading Regex
  | 0, _ => return .empty
  | bound + 1, depth => do
    let plain (sign : Sign) : Reading Regex := do
      pass
      repetitions style bound (ofChar (sign.plain?.getD '*'))
    match ← next? with
    | none => return .empty
    | some (.atom regex) => pass; repetitions style bound regex
    | some (.anchor regex) => pass; return regex
    | some (.bad fault) => throw fault
    | some (.again number) =>
      if !(← get).closed.contains number then throw .reference
      pass
      repetitions style bound (.again number)
    | some .opening =>
      pass
      let number := (← get).opened + 1
      modify fun progress => { progress with opened := number }
      let inner ← alternatives style bound (depth + 1)
      if (← next?) ≠ some .closing then throw .group
      pass
      modify fun progress => { progress with closed := number :: progress.closed }
      repetitions style bound (.group number inner)
    | some .bar => return .empty
    | some .closing =>
      if style.extended && style.lenient then plain .closing else throw .parenthesis
    | some .closeCount => plain .closeCount
    | some sign =>
      if sign = .openCount && !style.extended && !style.lenient then throw .repetition
      if !style.extended then plain sign
      else if style.lenient then
        pass
        single style bound depth
      else throw .repetition

end

def ofSigns (style : Style) (signs : List Sign) : Except Fault (Regex × Nat) := do
  let (regex, progress) ← (alternatives style (4 * signs.length + 8) 0).run ⟨signs, 0, []⟩
  return (regex, progress.opened)

def ofText (style : Style) (text : List Char) : Except Fault (Regex × Nat) :=
  ofSigns style (signsOf style (text.length + 1) true text)

def idleRepetitions (style : Style) (text : List Char) : List String :=
  let shown : Sign → Option String
    | .star => some "*"
    | .plus => some "+"
    | .question => some "?"
    | .openCount => some "\x7b...\x7d"
    | _ => none
  let opens : Sign → Bool
    | .anchor .start => true
    | .opening => true
    | .bar => true
    | _ => false
  let signs := signsOf style (text.length + 1) true text
  let (found, _) := signs.foldl (fun (found, opened) sign =>
    match shown sign with
    | some text => if opened then (text :: found, true) else (found, false)
    | none => (found, opens sign)) (([] : List String), true)
  if style.extended then found.reverse else []

end Proctor.Machine.Regex

import Proctor.Machine.Tool.Basic
import Proctor.Machine.Tool.Quantity

/-! The tools that print their arguments, and the formats in which they do so. -/
namespace Proctor.Machine.Tool

/-! ### Escapes -/

def isOctal (c : Char) : Bool := '0' ≤ c && c ≤ '7'

def isHexadecimal (c : Char) : Bool := (digitIn? 16 c).isSome

/-- Which escapes there are besides those of a letter or of up to three octal digits: whether a zero
may stand before the digits, whether there are hexadecimal ones, whether one stops all printing, and
whether hexadecimal ones must have their digits and may stand for characters of any size. -/
structure Escapes where
  zero : Bool
  hexadecimal : Bool
  stopping : Bool
  strict : Bool
deriving DecidableEq, Repr

/-- The escapes of a shell: in what it echoes, and in its formats. -/
def Escapes.echoed : Escapes := ⟨true, false, true, false⟩

def Escapes.formatted : Escapes := ⟨false, false, false, false⟩

/-- The escapes of other tools: in what they echo, in their formats, and in the arguments of those. -/
def Escapes.fullyEchoed : Escapes := ⟨true, true, true, false⟩

def Escapes.fullyFormatted : Escapes := ⟨false, true, true, true⟩

def Escapes.fullyExpanded : Escapes := ⟨true, true, true, true⟩

def escapeLetters : List (Char × Char) :=
  [('a', '\x07'), ('b', '\x08'), ('e', '\x1b'), ('f', '\x0c'), ('n', '\n'), ('r', '\r'), ('t', '\t'),
    ('v', '\x0b'), ('\\', '\\')]

def octalChar (text : List Char) : Char × List Char :=
  let digits := (text.take 3).takeWhile isOctal
  (Octets.char (ofDigits 8 digits), text.drop digits.length)

/-- A character of any size as hexadecimal digits name it: one that is not ASCII stays an escape. -/
def wideChar (letter : Char) (digits : List Char) : List Char :=
  let n := ofDigits 16 digits
  if n < 128 then [Char.ofNat n] else '\\' :: letter :: digits.map Char.toUpper

/-- What the text after a backslash starts with, and the text after that; nothing if printing stops
there, or if digits are missing. -/
def Escapes.read (escapes : Escapes) (text : List Char) : Option (List Char × List Char) :=
  match text with
  | [] => some (['\\'], [])
  | c :: rest =>
    match escapeLetters.lookup c with
    | some found => some ([found], rest)
    | none =>
      if c = 'c' && escapes.stopping then none
      else if c = '0' && escapes.zero && rest.head?.any isOctal then
        let (found, rest) := octalChar rest
        some ([found], rest)
      else if isOctal c then
        let (found, rest) := octalChar text
        some ([found], rest)
      else if c = 'x' && escapes.hexadecimal && rest.head?.any isHexadecimal then
        let digits := (rest.take 2).takeWhile isHexadecimal
        some ([Octets.char (ofDigits 16 digits)], rest.drop digits.length)
      else if escapes.strict && (c = 'x' || c = 'u' || c = 'U') then
        let count := if c = 'u' then 4 else 8
        let digits := (rest.take count).takeWhile isHexadecimal
        if c = 'x' || digits.length < count then none
        else some (wideChar c digits, rest.drop count)
      else some (['\\', c], rest)

/-- The octets of a text with its escapes, up to one that stops the printing, with the text after the
backslash of that. -/
def Escapes.apply (escapes : Escapes) : Nat → List Char → List Char × Option (List Char)
  | 0, _ => ([], none)
  | _, [] => ([], none)
  | bound + 1, c :: rest =>
    if c = '\\' then
      match escapes.read rest with
      | none => ([], some rest)
      | some (found, rest) =>
        let (others, stopped?) := escapes.apply bound rest
        (found ++ others, stopped?)
    else
      let plain := (c :: rest).takeWhile (· ≠ '\\')
      let (others, stopped?) := escapes.apply bound (rest.drop (plain.length - 1))
      (plain ++ others, stopped?)

/-! ### Echo -/

/-- The letters of the options of `echo`, and the arguments after them. -/
def echoOptions : List (List Char) → List Char × List (List Char)
  | ('-' :: letter :: more) :: args =>
    if (letter :: more).all fun c => c == 'n' || c == 'e' || c == 'E' then
      let (letters, args) := echoOptions args
      (letter :: more ++ letters, args)
    else ([], ('-' :: letter :: more) :: args)
  | args => ([], args)

/-- Prints the arguments on a line, which the option `n` leaves open; after the option `e` there are
escapes. -/
def echo : Tool Unit := do
  let (letters, rest) := echoOptions (← args)
  let text := spaced rest
  let escaping := (letters.filter fun c => c == 'e' || c == 'E').getLast? = some 'e'
  let (octets, stopped?) :=
    if escaping then Escapes.fullyEchoed.apply (text.length + 1) text else (text, none)
  print (if letters.contains 'n' || stopped?.isSome then octets else octets ++ ['\n'])

/-- Prints the arguments on a line, which a first argument `-n` leaves open, with escapes. -/
def echoInShell : Tool Unit := do
  let (unended, rest) := match ← args with
    | ['-', 'n'] :: rest => (true, rest)
    | rest => (false, rest)
  let text := spaced rest
  let (octets, stopped?) := Escapes.echoed.apply (text.length + 1) text
  print (if unended || stopped?.isSome then octets else octets ++ ['\n'])

/-! ### Formats -/

/-- A directive of a format: its flags, its width, its precision, and its letter. -/
structure Directive where
  flags : List Char
  width : Nat
  precision? : Option Nat
  letter : Char
deriving DecidableEq, Repr

namespace Directive

def has (directive : Directive) (flag : Char) : Bool := directive.flags.contains flag

def fill (directive : Directive) (octets : List Char) : List Char :=
  if directive.has '-' then leftAligned directive.width octets
  else rightAligned directive.width octets

/-- A text, of which only some octets are shown if there is a precision. -/
def text (directive : Directive) (octets : List Char) : List Char :=
  directive.fill ((directive.precision?.map octets.take).getD octets)

/-- Digits with a mark before them. Zeros that fill up the width come between them, if the flag for
them is there and `zeros` allows them. -/
def marked (directive : Directive) (zeros : Bool) (mark digits : List Char) : List Char :=
  if directive.has '0' && !directive.has '-' && zeros then
    mark ++ padded (directive.width - mark.length) digits
  else directive.fill (mark ++ digits)

def sign (directive : Directive) (negative : Bool) : List Char :=
  if negative then ['-'] else if directive.has '+' then ['+'] else if directive.has ' ' then [' ']
  else []

def signed (directive : Directive) (n : Int) : List Char :=
  let digits := match directive.precision?, n with
    | some 0, 0 => []
    | precision?, n => padded (precision?.getD 1) (digitsOf 10 n.natAbs)
  directive.marked directive.precision?.isNone (directive.sign (n < 0)) digits

def unsigned (directive : Directive) (n : Nat) : List Char :=
  let upper := directive.letter = 'X'
  let base := if directive.letter = 'o' then 8 else if directive.letter.toLower = 'x' then 16 else 10
  let digits := if n = 0 && directive.precision? = some 0 then [] else digitsOf base n
  let digits := padded (directive.precision?.getD 0) digits
  let digits := if upper then digits.map Char.toUpper else digits
  let mark : List Char :=
    if directive.has '#' && n ≠ 0 && base = 16 then ['0', directive.letter] else []
  let digits :=
    if directive.has '#' && base = 8 && digits.head? ≠ some '0' then '0' :: digits else digits
  directive.marked directive.precision?.isNone mark digits

/-- A number with a fraction; `long` tells whether it is kept with as many digits as the tools do. -/
def real (directive : Directive) (long : Bool) (quantity : Quantity) : List Char :=
  let text := quantity.shown directive.letter.toLower directive.precision? (directive.has '#') long
  let text := if directive.letter.isUpper then text.map Char.toUpper else text
  let finite := match quantity with
    | .finite _ _ _ => true
    | _ => false
  let (mark, digits) := if directive.letter.toLower = 'a' && finite then (text.take 2, text.drop 2)
    else ([], text)
  directive.marked finite (directive.sign quantity.isNegative ++ mark) digits

end Directive

/-- How a tool reads the arguments of a format and complains about them. -/
structure FormatStyle where
  escapes : Escapes
  inner : Escapes
  /-- The complaint about a format whose directive has no meaning. -/
  invalid : List Char → String
  unnumbered : List Char → String
  unfinished : List Char → String
  outOfRange : List Char → String
  lengths : Bool
  /-- Whether names can be quoted, and flags that mean nothing for a letter are refused. -/
  strict : Bool
  kept : Quantity → Quantity
  status : Nat

/-- What printing a format has come to: the arguments left, and whether it is over. -/
structure Formatting where
  args : List (List Char)
  used : Bool
  ended : Bool

/-- A computation that takes arguments of a format. -/
abbrev Format (α : Type) := StateT Formatting Tool α

namespace Format

def next : Format (Option (List Char)) := do
  let formatting ← get
  match formatting.args with
  | [] => return none
  | arg :: rest =>
    set { formatting with args := rest, used := true }
    return some arg

def integerAt (arg : List Char) : Int × List Char × Bool :=
  let text := arg.dropWhile fun c => c == ' ' || ('\t' ≤ c && c ≤ '\x0d')
  let (negative, digits) := match text with
    | '-' :: rest => (true, rest)
    | '+' :: rest => (false, rest)
    | rest => (false, rest)
  let span (base : Nat) (text : List Char) : Int × List Char × Bool :=
    let found := text.takeWhile fun c => (digitIn? base c).isSome
    let n : Int := ofDigits base found
    if found = [] then (0, arg, false)
    else (if negative then -n else n, text.drop found.length, true)
  match digits with
  | '0' :: x :: d :: rest =>
    if x.toLower = 'x' && isHexadecimal d then span 16 (d :: rest) else span 8 digits
  | '0' :: _ => span 8 digits
  | digits => span 10 digits

/-- The integer that an argument spells, within limits. Complains if it spells none. -/
def integer (style : FormatStyle) (low high : Int) : Format Int := do
  match ← next with
  | none => return 0
  | some (quote :: rest) =>
    if quote = '\'' || quote = '"' then
      if style.lengths && 1 < rest.length then
        let ignored := "character(s) following character constant have been ignored"
        complain s!"warning: {String.ofList (rest.drop 1)}: {ignored}" 0
      return (rest.head?.map fun c => (c.toNat : Int)).getD 0
    else
      let arg := quote :: rest
      let (n, after, found) := integerAt arg
      let limited := max low (min high n)
      if !found && arg.all (fun c => c ≠ '\x00') then complain (style.unnumbered arg) 1
      else if after ≠ [] then complain (style.unfinished arg) 1
      else if limited ≠ n then complain (style.outOfRange arg) 1
      return limited
  | some [] => return 0

def quantity (style : FormatStyle) : Format Quantity := do
  match ← next with
  | none => return .zero
  | some (quote :: rest) =>
    if quote = '\'' || quote = '"' then
      return .ofInt ((rest.head?.map fun c => (c.toNat : Int)).getD 0)
    else
      let arg := quote :: rest
      match Quantity.read? arg with
      | none =>
        complain (style.unnumbered arg) 1
        return .zero
      | some (found, after) =>
        let kept := style.kept found
        let infinite := match found, kept with
          | .finite _ _ _, .infinite _ => true
          | _, _ => false
        if after ≠ [] then complain (style.unfinished arg) 1
        else if infinite then complain (style.outOfRange arg) 1
        return kept
  | some [] => return .zero

def leastSize : Int := -2147483648

def mostSize : Int := 2147483647

/-- A number in a directive, or the one of the next argument, and the text after it. One that is too
large is refused, or loses its high digits if it is an argument of a shell. -/
def size (style : FormatStyle) (what : String) (text : List Char) : Format (Option Int × List Char) := do
  match text with
  | '*' :: rest =>
    let word := (← get).args.headD []
    let n ← integer style (-9223372036854775808) 9223372036854775807
    if !style.strict then return (some (Int.bmod n 4294967296), rest)
    if mostSize < n || what = "field width" && n < leastSize then
      refuse s!"invalid {what}: {Quoting.text word}" style.status
    return (some n, rest)
  | text =>
    let digits := text.takeWhile isDecimalDigit
    let n : Int := ofDigits 10 digits
    if !style.strict && mostSize ≤ n then refuse "xvsnprintf failed" style.status
    return (if digits = [] then none else some n, text.drop digits.length)

def lettersFor (flags : List Char) (precise : Bool) : List Char :=
  let without (flag : Bool) (letters : String) (c : Char) : Bool := flag && letters.toList.contains c
  "aAcdeEfFgGiosuxX".toList.filter fun c =>
    !(without (flags.contains '\'' || flags.contains 'I') "aAceEosxX" c ||
      without (flags.contains '#') "cdisu" c || without (flags.contains '0') "cs" c ||
      without precise "c" c)

/-- The directive after a percent sign, the text after it and whether the letter may follow the flags;
nothing if the letter is missing. -/
def directive (style : FormatStyle) (text : List Char) :
    Format (Option (Directive × List Char × Bool)) := do
  let signs := if style.strict then "-0+ #'I" else "-0+ #"
  let flags := text.takeWhile fun c => signs.toList.contains c
  let (width?, after) ← size style "field width" (text.drop flags.length)
  let (precision?, after) ← match after with
    | '.' :: rest => do
      let (found?, rest) ← size style "precision" rest
      pure (some (found?.getD 0), rest)
    | after => pure (none, after)
  let after := if style.lengths then after.dropWhile fun c => "hljtzL".toList.contains c else after
  let width := width?.getD 0
  match after with
  | [] => return none
  | letter :: rest =>
    let bare := text.head? = some letter && (letter = 'b' || letter = 'q')
    let known := !style.strict || bare || (lettersFor flags precision?.isSome).contains letter
    let flags := if width < 0 then '-' :: flags else flags
    let precision? := (precision?.filter fun n => 0 ≤ n).map Int.toNat
    return some (⟨flags, width.natAbs, precision?, letter⟩, rest, known)

def forgive : Tool Unit := modify fun work => { work with status := 0 }

def stopAt (style : FormatStyle) (escape : List Char) : Format Unit := do
  if escape.head? ≠ some 'c' then refuse "missing hexadecimal number in escape" style.status
  if style.strict then forgive
  modify fun formatting => { formatting with ended := true }

def most : Int := 18446744073709551615

def mostSigned : Int := 9223372036854775807

/-- Prints an argument in the way of a directive: whether its letter has a meaning. -/
def apply (style : FormatStyle) (directive : Directive) : Format Bool := do
  match directive.letter with
  | 's' => print (directive.text ((← next).getD []))
  | 'b' =>
    let arg := (← next).getD []
    let (octets, stopped?) := style.inner.apply (arg.length + 1) arg
    print (directive.text octets)
    match stopped? with
    | none => pure ()
    | some rest => stopAt style rest
  | 'c' => print (directive.fill (((← next).getD []).headD '\x00' :: []))
  | 'q' =>
    if !style.strict then return false
    print (directive.fill (Quoting.ifNeeded ((← next).getD [])).toList)
  | letter =>
    if letter = 'd' || letter = 'i' then
      print (directive.signed (← integer style (-mostSigned - 1) mostSigned))
    else if "ouxX".toList.contains letter then
      let n ← integer style (-most) most
      print (directive.unsigned (n % (most + 1)).toNat)
    else if "aAeEfFgG".toList.contains letter then print (directive.real style.strict (← quantity style))
    else return false
  return true

def once (style : FormatStyle) : Nat → List Char → Format Unit
  | 0, _ => return
  | _, [] => return
  | bound + 1, '%' :: '%' :: rest => do
    print ['%']
    once style bound rest
  | bound + 1, '%' :: text => do
    match ← directive style text with
    | none => refuse (style.invalid ('%' :: text)) style.status
    | some (directive, rest, known) =>
      if !known then
        let culprit := '%' :: text.take (text.length - rest.length)
        refuse (style.invalid culprit) style.status
      if ← apply style directive then
        if !(← get).ended then once style bound rest
      else
        let culprit := '%' :: text.take (text.length - rest.length)
        refuse (style.invalid culprit) style.status
  | bound + 1, '\\' :: rest => do
    match style.escapes.read rest with
    | none => stopAt style rest
    | some (octets, rest) =>
      print octets
      once style bound rest
  | bound + 1, c :: rest => do
    let plain := (c :: rest).takeWhile fun c => c ≠ '%' && c ≠ '\\'
    print plain
    once style bound (rest.drop (plain.length - 1))

def again (style : FormatStyle) (format : List Char) : Nat → Format Unit
  | 0 => return
  | bound + 1 => do
    let before := (← get).args.length
    once style (format.length + 1) format
    let formatting ← get
    if !formatting.ended && formatting.args ≠ [] && formatting.args.length < before then
      again style format bound

end Format

/-- Prints a format with arguments; the arguments that it does not take. -/
def format (style : FormatStyle) (text : List Char) (rest : List (List Char)) :
    Tool (List (List Char)) := do
  let ((), formatting) ← (Format.again style text (rest.length + 1)).run ⟨rest, false, false⟩
  return if formatting.ended then [] else formatting.args

def FormatStyle.ofShell : FormatStyle where
  escapes := .formatted
  inner := .echoed
  invalid culprit :=
    if culprit.getLast?.any fun c => "%-+ #.*".toList.contains c || isDecimalDigit c then
      if 1 < culprit.length && culprit.getLast? = some '%' then
        s!"{String.ofList culprit}: invalid directive"
      else "missing format character"
    else s!"{String.ofList culprit}: invalid directive"
  unnumbered arg := s!"{String.ofList arg}: expected numeric value"
  unfinished arg := s!"{String.ofList arg}: not completely converted"
  outOfRange arg := s!"{String.ofList arg}: Numerical result out of range"
  lengths := false
  strict := false
  kept := Quantity.double
  status := 2

def FormatStyle.ofTools : FormatStyle where
  escapes := .fullyFormatted
  inner := .fullyExpanded
  invalid culprit := s!"{String.ofList culprit}: invalid conversion specification"
  unnumbered arg := s!"{Quoting.text arg}: expected a numeric value"
  unfinished arg := s!"{Quoting.text arg}: value not completely converted"
  outOfRange arg := s!"{Quoting.text arg}: Numerical result out of range"
  lengths := true
  strict := true
  kept := Quantity.long
  status := 1

/-- Prints a format as part of a shell: complaints come before everything that is printed. -/
def printfInShell : Tool Unit := do
  let words ← args
  let words := if words.head? = some ['-', '-'] then words.tail else words
  match words with
  | [] => refuse "usage: printf format [arg ...]" 2
  | text :: rest =>
    match text, (← args).head? with
    | '-' :: c :: _, first? =>
      if first? ≠ some ['-', '-'] then refuse s!"Illegal option -{c}" 2
    | _, _ => pure ()
    let _ ← tryCatch (format .ofShell text rest) fun _ => return []
    modify fun work =>
      let (complaints, printed) := work.written.partition (·.1 == 2)
      { work with written := printed ++ complaints }

def printf : Tool Unit := do
  let words ← args
  let words := if words.head? = some ['-', '-'] then words.tail else words
  match words with
  | [] => misused "missing operand" 1
  | text :: rest =>
    let left ← format .ofTools text rest
    match left with
    | [] => return
    | first :: _ =>
      complain s!"warning: ignoring excess arguments, starting with {Quoting.text first}" 0

/-! ### Sequences -/

/-- A number with an exact value and the digits after its point. -/
structure Step where
  negative : Bool
  num : Nat
  den : Nat
  places : Nat
  width : Nat
deriving DecidableEq, Repr

/-- The number that an argument of `seq` spells, with its precision and its width. -/
def Step.ofText? (text : List Char) : Option (Option Step) :=
  match Quantity.read? text with
  | some (.finite negative num den, []) =>
    let mantissa := text.takeWhile fun c => c ≠ 'e' && c ≠ 'E'
    let hexadecimal := text.any fun c => c == 'x' || c == 'X'
    let fraction := ((Text.cutFirst? '.' mantissa).map (·.2)).getD []
    let (exponent, _) :=
      if hexadecimal then (0, []) else Quantity.exponentOf 'e' (text.drop mantissa.length)
    let places := if hexadecimal then 0 else ((fraction.length : Int) - exponent).toNat
    let unsigned := mantissa.dropWhile fun c => c == '+' || c == ' '
    let whole := (unsigned.takeWhile (· ≠ '.')).length
    let whole := if whole = 0 || unsigned.take 2 = ['-', '.'] then whole + 1 else whole
    let shown := (whole : Int) + max exponent 0
    some (some ⟨negative, num, den, places, shown.toNat + if places = 0 then 0 else places + 1⟩)
  | some (_, []) => some none
  | _ => none

def Step.over (step : Step) (den : Nat) : Int :=
  let n : Int := step.num * (den / step.den)
  if step.negative then -n else n

/-- What `seq` puts before and after a number, and how it writes it. -/
structure SequenceFormat where
  before : List Char
  directive : Directive
  after : List Char

def SequenceFormat.ofText (text : List Char) : Except String SequenceFormat :=
  let rec split : Nat → List Char → List Char × List Char
    | 0, rest => ([], rest)
    | _, [] => ([], [])
    | bound + 1, '%' :: '%' :: rest =>
      let (before, rest) := split bound rest
      ('%' :: before, rest)
    | _, '%' :: rest => ([], '%' :: rest)
    | bound + 1, c :: rest =>
      let (before, rest) := split bound rest
      (c :: before, rest)
  let (before, rest) := split (text.length + 1) text
  match rest with
  | [] => .error s!"format {Quoting.text text} has no % directive"
  | _ :: rest =>
    let flags := rest.takeWhile fun c => "-0+ #'".toList.contains c
    let rest := rest.drop flags.length
    let width := rest.takeWhile isDecimalDigit
    let rest := rest.drop width.length
    let (precision?, rest) := match rest with
      | '.' :: rest =>
        let digits := rest.takeWhile isDecimalDigit
        (some (ofDigits 10 digits), rest.drop digits.length)
      | rest => (none, rest)
    let rest := if rest.head? = some 'L' then rest.drop 1 else rest
    match rest with
    | [] => .error s!"format {Quoting.text text} ends in %"
    | letter :: rest =>
      if !"aAeEfFgG".toList.contains letter then
        .error s!"format {Quoting.text text} has unknown %{letter} directive"
      else
        let (after, more) := split (rest.length + 1) rest
        if more ≠ [] then .error s!"format {Quoting.text text} has too many % directives"
        else .ok ⟨before, ⟨flags, ofDigits 10 width, precision?, letter⟩, after⟩

def sequenceText (format : SequenceFormat) (n : Int) (den : Nat) (negativeZero : Bool) : List Char :=
  let quantity : Quantity := .finite (n < 0 || (n = 0 && negativeZero)) n.natAbs den
  format.before ++ format.directive.real true quantity.long ++ format.after

def mostNumbers : Nat := 5000000

/-- The options of `seq`, which come before its numbers; a negative number is none. -/
def sequenceOptions : List (List Char) → List (List Char) × List (List Char)
  | ['-', '-'] :: rest => ([], rest)
  | ('-' :: c :: more) :: rest =>
    if isDecimalDigit c || c = '.' then ([], ('-' :: c :: more) :: rest)
    else
      let valued := ("sf".toList.contains c && more = []) ||
        (c = '-' && ["separator", "format"].contains (String.ofList more))
      match valued, rest with
      | true, value :: rest =>
        let (options, others) := sequenceOptions rest
        (('-' :: c :: more) :: value :: options, others)
      | _, rest =>
        let (options, others) := sequenceOptions rest
        (('-' :: c :: more) :: options, others)
  | rest => ([], rest)

def seq : Tool Unit := do
  let (optionArgs, numbers) := sequenceOptions (← args)
  let (options, _) ← optionsFrom ['w'] ['s', 'f']
    [("separator", 's'), ("format", 'f'), ("equal-width", 'w')] true 1 optionArgs
  if numbers.isEmpty then misused "missing operand" 1
  if 3 < numbers.length then misused s!"extra operand {Quoting.text (numbers.getD 3 [])}" 1
  let format? ← match options.last? 'f' with
    | none => pure none
    | some text =>
      match SequenceFormat.ofText text with
      | .ok format => pure (some format)
      | .error message => refuse message 1
  if options.has 'w' && format?.isSome then
    misused "format string may not be specified when printing equal width strings" 1
  let found ← numbers.mapM fun text => do
    match Step.ofText? text with
    | some step? => pure step?
    | none => misused s!"invalid floating point argument: {Quoting.text text}" 1
  let one : Step := ⟨false, 1, 1, 0, 1⟩
  let (first?, step?, last?) := match found with
    | [last] => (some one, some one, last)
    | [first, last] => (first, some one, last)
    | [first, step, last] => (first, step, last)
    | _ => (none, none, none)
  let first := first?.getD one
  let step := step?.getD one
  if step.num = 0 then
    misused s!"invalid Zero increment value: {Quoting.text (numbers.getD 1 [])}" 1
  let last := last?.getD one
  let den := first.den * step.den * last.den
  let flood := (← call).flood
  let (low, by', high) := (first.over den, step.over den, last.over den)
  let count :=
    if last?.isNone then flood / 4
    else if 0 < by' then (if low ≤ high then ((high - low) / by' + 1).toNat else 0)
    else if high ≤ low then ((low - high) / -by' + 1).toNat else 0
  let places := max first.places step.places
  let widthOf (step : Step) : Nat :=
    if places = step.places then step.width
    else if step.places = 0 then step.width + places + 1
    else step.width + places - step.places
  let width := if options.has 'w' then
      max (widthOf first) (if last.places ≤ places then widthOf last else last.width - (last.places - places))
    else 0
  let plain : SequenceFormat :=
    ⟨[], ⟨if options.has 'w' then ['0'] else [], width, some places, 'f'⟩, []⟩
  let format := format?.getD plain
  let usual := den = 1 && places = 0 && width = 0 && !options.has 'f' && !first.negative && 0 < by'
  let shown := (List.range (min count mostNumbers)).map fun (i : Nat) =>
    let n : Int := low + i * by'
    if usual then digitsOf 10 n.toNat else sequenceText format n den (i = 0 && first.negative)
  let separator := (options.last? 's').getD ['\n']
  if shown ≠ [] then print (separator.intercalate shown ++ ['\n'])
  if last?.isNone then modify fun work => { work with endless := true }

def yes : Tool Unit := do
  let words ← args
  let words := if words.head? = some ['-', '-'] then words.tail else words
  let line := (if words = [] then ['y'] else spaced words) ++ ['\n']
  print (List.replicate ((← call).flood / line.length + 1) line).flatten
  modify fun work => { work with endless := true }

end Tool
end Proctor.Machine

import Proctor.Machine.Regex.Reader
import Proctor.Machine.Tool.Basic

/-! The tools that count what files hold, and that number lines. -/
namespace Proctor.Machine.Tool

/-! ### Counting -/

/-- How many lines, words and octets there are, and how wide the widest line is. -/
structure Counts where
  lines : Nat
  words : Nat
  octets : Nat
  width : Nat

namespace Counts

def isShown (c : Char) : Bool := ' ' ≤ c && c ≤ '~'

def isGap (c : Char) : Bool := c == ' ' || ('\t' ≤ c && c ≤ '\x0d')

def place (place : Nat) (c : Char) : Nat :=
  if c = '\t' then place + 8 - place % 8
  else if c = '\n' || c = '\r' || c = '\x0c' then 0
  else if isShown c then place + 1
  else place

/-- The counts of octets. A word is what stands between gaps and has something that is shown. -/
def ofOctets (octets : List Char) : Counts :=
  let (counts, _, _) := octets.foldl (fun (counts, inWord, at') c =>
    let next := place at' c
    let starts := !inWord && !isGap c && isShown c
    let counts : Counts :=
      { lines := if c = '\n' then counts.lines + 1 else counts.lines
        words := if starts then counts.words + 1 else counts.words
        octets := counts.octets + 1
        width := max counts.width next }
    (counts, if isGap c then false else inWord || starts, next))
    ((⟨0, 0, 0, 0⟩ : Counts), false, 0)
  counts

def add (counts other : Counts) : Counts :=
  ⟨counts.lines + other.lines, counts.words + other.words, counts.octets + other.octets,
    max counts.width other.width⟩

end Counts

/-- How wide the numbers of `wc` are: as wide as the number of octets of all files, and wider if that
cannot be known before. -/
def countWidth (names : List (List Char)) (columns : Nat) : Tool Nat := do
  let call ← call
  let files ← files
  if columns = 1 && names.length ≤ 1 then return 1
  let nodes := (if names = [] then [['-']] else names).filterMap fun name =>
    (nodeAt call files true (if name = ['-'] then "/dev/stdin".toList else name)).toOption
  let total := nodes.foldl (fun sum node => if node.content.isFile then sum + node.size else sum) 0
  let least := if nodes.all (·.content.isFile) then 1 else 7
  return max least (digitsOf 10 total).length

def wc : Tool Unit := do
  let (options, names) ← options "clmwL" "Ť" [("bytes", 'c'), ("chars", 'm'), ("lines", 'l'),
    ("words", 'w'), ("max-line-length", 'L'), ("total", 'Ť')] 1
  let wanted := "lwmcL".toList.filter options.has
  let wanted := if wanted = [] then "lwc".toList else wanted
  let totals := ((options.last? 'Ť').map String.ofList).getD "auto"
  if ! ["auto", "always", "only", "never"].contains totals then
    let choices := ["auto", "always", "only", "never"].map fun choice => s!"  - '{choice}'\n"
    warn (s!"{(← call).label}invalid argument '{totals}' for '--total'\n" ++
      s!"Valid arguments are:\n{String.join choices}")
    hint 1
  let width ← if totals = "only" then pure 1 else countWidth names wanted.length
  let show' (counts : Counts) (name : List Char) : Tool Unit := do
    let fields := wanted.map fun letter =>
      rightAligned width (digitsOf 10 (match letter with
        | 'l' => counts.lines
        | 'w' => counts.words
        | 'L' => counts.width
        | _ => counts.octets))
    printLine (spaced (fields ++ if name = [] then [] else [name]))
  let mut total : Counts := ⟨0, 0, 0, 0⟩
  for name in if names = [] then [['-']] else names do
    let label := if names = [] then [] else name
    match ← readNamed name with
    | .ok octets =>
      let counts := Counts.ofOctets octets
      total := total.add counts
      if totals ≠ "only" then show' counts label
    | .error .isDirectory =>
      complain s!"{Quoting.ifNeeded name}: Is a directory" 1
      if totals ≠ "only" then show' ⟨0, 0, 0, 0⟩ label
    | .error .notOpen =>
      complain "'standard input': Bad file descriptor" 1
      if totals ≠ "only" then show' ⟨0, 0, 0, 0⟩ label
      complain "-: Bad file descriptor" 1
    | .error failure => complain (plainly name failure) 1
  let last := totals = "always" || totals = "only" || (totals = "auto" && 1 < names.length)
  if last then show' total (if totals = "only" then [] else "total".toList)

/-! ### Numbering -/

/-- Which lines of a part of a page have numbers. -/
inductive Numbering where
  | every
  | filled
  | none
  | hits (regex : Regex)

def Numbering.ofText? : List Char → Option Numbering
  | ['a'] => some .every
  | ['t'] => some .filled
  | ['n'] => some .none
  | 'p' :: pattern =>
    match Regex.ofText ⟨false, false, false⟩ pattern with
    | .ok (regex, _) => some (.hits regex)
    | .error _ => Option.none
  | _ => Option.none

/-- Whether a line has a number; `empties` empty lines were counted as one before it. -/
def Numbering.counts (numbering : Numbering) (line : List Char) : Bool :=
  match numbering with
  | .every => true
  | .filled => line ≠ []
  | .none => false
  | .hits regex => regex.occurs line.toArray

structure Numbers where
  header : Numbering
  body : Numbering
  footer : Numbering
  marks : List Char
  start : Int
  step : Int
  joined : Nat
  layout : String
  keeps : Bool
  separator : List Char
  width : Nat

namespace Numbers

def field (numbers : Numbers) (n : Int) : List Char :=
  let sign := if n < 0 then ['-'] else []
  let digits := digitsOf 10 n.natAbs
  if numbers.layout = "ln" then leftAligned numbers.width (sign ++ digits)
  else if numbers.layout = "rz" then sign ++ padded (numbers.width - sign.length) digits
  else rightAligned numbers.width (sign ++ digits)

/-- The lines with their numbers. A line of only marks starts another part of a page. -/
def lines (numbers : Numbers) (texts : List (List Char)) : List (List Char) :=
  let repeated (n : Nat) : List Char := (List.replicate n numbers.marks).flatten
  let blank := List.replicate (numbers.width + numbers.separator.length) ' '
  let (found, _, _, _) := texts.foldl (fun (found, numbering, n, empties) text =>
    let part? :=
      if numbers.marks = [] then none
      else if text = repeated 3 then some numbers.header
      else if text = repeated 2 then some numbers.body
      else if text = repeated 1 then some numbers.footer
      else none
    match part? with
    | some part =>
      ([] :: found, part, if numbers.keeps then n else numbers.start, 0)
    | none =>
      let empties := if text = [] then empties + 1 else 0
      let counted := numbering.counts text && (match numbering with
        | .every => text ≠ [] || empties % numbers.joined = 0
        | _ => true)
      if counted then
        ((numbers.field n ++ numbers.separator ++ text) :: found, numbering, n + numbers.step, 0)
      else ((blank ++ text) :: found, numbering, n, empties))
    (([] : List (List Char)), numbers.body, numbers.start, 0)
  found.reverse

end Numbers

def nl : Tool Unit := do
  let (options, names) ← options "p" "bdfhilnsvw" [("body-numbering", 'b'),
    ("section-delimiter", 'd'), ("footer-numbering", 'f'), ("header-numbering", 'h'),
    ("line-increment", 'i'), ("join-blank-lines", 'l'), ("number-format", 'n'),
    ("no-renumber", 'p'), ("number-separator", 's'), ("starting-line-number", 'v'),
    ("number-width", 'w')] 1
  let style (letter : Char) (part : String) (usual : Numbering) : Tool Numbering := do
    match options.last? letter with
    | none => return usual
    | some text =>
      match Numbering.ofText? text with
      | some numbering => return numbering
      | none => misused s!"invalid {part} numbering style: {Quoting.text text}" 1
  let body ← style 'b' "body" .filled
  let header ← style 'h' "header" .none
  let footer ← style 'f' "footer" .none
  let number (letter : Char) (what : String) (usual least : Int) : Tool Int := do
    match options.last? letter with
    | none => return usual
    | some text =>
      match integer? text with
      | some n =>
        if n < least then
          refuse s!"invalid {what}: {Quoting.text text}: Numerical result out of range" 1
        return n
      | none => refuse s!"invalid {what}: {Quoting.text text}" 1
  let farthest : Int := -1000000000000000000
  let start ← number 'v' "starting line number" 1 farthest
  let step ← number 'i' "line number increment" 1 farthest
  let joined ← number 'l' "line number of blank lines" 1 1
  let width ← number 'w' "line number field width" 6 1
  let layout := ((options.last? 'n').map String.ofList).getD "rn"
  if ! ["ln", "rn", "rz"].contains layout then
    misused s!"invalid line numbering format: {Quoting.text layout.toList}" 1
  let marks := match options.last? 'd' with
    | none => ['\\', ':']
    | some [c] => [c, ':']
    | some text => text
  let numbers : Numbers :=
    { header, body, footer, marks, start, step, layout
      joined := joined.toNat
      keeps := options.has 'p'
      separator := (options.last? 's').getD ['\t']
      width := width.toNat }
  let found ← sources names plainly 1
  print (Octets.ofLines (numbers.lines (found.flatMap fun (_, octets) => Octets.lines octets)))

end Proctor.Machine.Tool

import Proctor.Machine.Regex.Reader
import Proctor.Machine.Tool.Basic

/-! Searching files for lines that hold a match. -/
namespace Proctor.Machine.Tool

/-! ### Matches in a line -/

/-- What is looked for in a line. -/
structure Search where
  regex : Regex
  whole : Bool
  words : Bool
  inverted : Bool

namespace Search

def allows (search : Search) (text : Array Char) (origin stop : Nat) : Bool :=
  if search.whole then origin == 0 && stop == text.size
  else if search.words then
    !(origin ≠ 0 && (text[origin - 1]?).any Regex.isWordChar) &&
      !(text[stop]?).any Regex.isWordChar
  else true

/-- The first match that starts at a place or after it; the number counts the places to try. -/
def findFrom? (search : Search) (text : Array Char) : Nat → Nat → Option (Nat × Nat)
  | 0, _ => none
  | bound + 1, origin =>
    match search.regex.matchAt? text (search.allows text origin) origin with
    | some found => some (found.start, found.stop)
    | none => findFrom? search text bound (origin + 1)

def find? (search : Search) (text : Array Char) (origin : Nat) : Option (Nat × Nat) :=
  let places := if search.whole then 1 - origin else text.size + 1 - origin
  search.findFrom? text places origin

def wants (search : Search) (line : List Char) : Bool :=
  let text := line.toArray
  let found :=
    if search.whole || search.words then (search.find? text 0).isSome else search.regex.occurs text
  found != search.inverted

/-- All matches in a line that are not empty. The number bounds how many there are. -/
def allFrom (search : Search) (text : Array Char) : Nat → Nat → List (Nat × Nat)
  | 0, _ => []
  | bound + 1, origin =>
    match search.find? text origin with
    | none => []
    | some (start, stop) =>
      if stop ≤ start then allFrom search text bound (start + 1)
      else (start, stop) :: allFrom search text bound stop

def all (search : Search) (text : Array Char) : List (Nat × Nat) :=
  search.allFrom text (text.size + 1) 0

end Search

/-! ### What is shown -/

structure Showing where
  named : Bool
  numbered : Bool
  placed : Bool
  /-- Whether only the matches are shown, and not their lines. -/
  matchesOnly : Bool
  tabbed : Bool
  zeroed : Bool
  colored : Bool
  /-- How many lines before a wanted one are shown, and how many after it. -/
  before : Nat
  after : Nat
  /-- What stands between lines that do not follow each other. -/
  gap? : Option (List Char)
  ending : Char

namespace Showing

def painted (showing : Showing) (color : String) (text : List Char) : List Char :=
  if showing.colored then
    s!"\x1b[{color}m\x1b[K".toList ++ text ++ "\x1b[m\x1b[K".toList
  else text

/-- What stands before a line or a match: the name, the number of the line and its place in the file. -/
def label (showing : Showing) (name : List Char) (width : Nat) (mark : Char) (number place : Nat) :
    List Char :=
  let separator := showing.painted "36" [mark]
  let digits (n : Nat) : List Char :=
    let shown := digitsOf 10 n
    showing.painted "32" (if showing.tabbed then rightAligned width shown else shown) ++ separator
  let tab := showing.tabbed && (showing.named || showing.numbered || showing.placed)
  (if showing.named then
    showing.painted "35" name ++ (if showing.zeroed then ['\x00'] else separator) else []) ++
  (if showing.numbered then digits number else []) ++
  (if showing.placed then digits place else []) ++
  if tab then ['\t'] else []

def lit (showing : Showing) (search : Search) (line : List Char) : List Char :=
  if !showing.colored || search.inverted then line
  else
    let text := line.toArray
    let (pieces, reached) := (search.all text).foldl (fun (pieces, reached) (start, stop) =>
      (pieces ++ (text.extract reached start).toList ++
        showing.painted "01;31" (text.extract start stop).toList, stop)) (([] : List Char), 0)
    pieces ++ (text.extract reached text.size).toList

end Showing

/-- A line with its number and its place in the file. -/
abbrev Numbered := Nat × Nat × List Char

/-- What has been shown of a file so far. -/
structure SearchState where
  output : List (List Char)
  /-- The lines before the next one that were not shown, the last first. -/
  waiting : List Numbered
  following : Nat
  last : Nat
  /-- Whether anything was shown, of this file or of an earlier one. -/
  any : Bool
  count : Nat
  reached : Nat

namespace SearchState

def line (shown : SearchState) (showing : Showing) (search : Search) (name : List Char) (width : Nat)
    (wanted : Bool) (entry : Numbered) : SearchState :=
  let (number, place, text) := entry
  let mark := if wanted then ':' else '-'
  let body : List (List Char) :=
    if showing.matchesOnly then
      if !wanted || search.inverted then []
      else
        let octets := text.toArray
        (search.all octets).map fun (start, stop) =>
          showing.label name width mark number (place + start) ++
            showing.painted "01;31" (octets.extract start stop).toList ++ [showing.ending]
    else
      [showing.label name width mark number place ++
        (if wanted then showing.lit search text else text) ++ [showing.ending]]
  { shown with output := body.reverse ++ shown.output, last := number, any := true }

def next (shown : SearchState) (showing : Showing) (search : Search) (name : List Char) (width : Nat)
    (wanted : Bool) (entry : Numbered) : SearchState :=
  let (number, place, text) := entry
  if wanted then
    let earlier := (shown.waiting.take showing.before).reverse
    let first := (earlier.head?.map (·.1)).getD number
    let gap := match showing.gap? with
      | some gap =>
        if shown.any && (shown.last + 1 ≠ first || shown.last = 0) then
          [showing.painted "36" gap ++ ['\n']] else []
      | none => []
    let shown := { shown with output := gap ++ shown.output }
    let shown := earlier.foldl (fun shown entry => shown.line showing search name width false entry) shown
    let shown := shown.line showing search name width true entry
    { shown with
      waiting := []
      following := showing.after
      count := shown.count + 1
      reached := place + text.length + 1 }
  else if 0 < shown.following then
    let shown := shown.line showing search name width false entry
    { shown with following := shown.following - 1 }
  else { shown with waiting := (entry :: shown.waiting).take showing.before }

end SearchState

def searchLines (search : Search) (showing : Showing) (name : List Char) (width : Nat) :
    Option Nat → SearchState → List Numbered → SearchState
  | _, shown, [] => shown
  | most?, shown, entry :: rest =>
    let done := most?.any (· ≤ shown.count)
    if done && shown.following = 0 then shown
    else
      let wanted := !done && search.wants entry.2.2
      searchLines search showing name width most?
        (shown.next showing search name width wanted entry) rest

/-! ### The tool -/

/-- The long options of `grep`. Those without a letter have one that is no octet. -/
def searchOptions : List (String × Char) :=
  [("basic-regexp", 'G'), ("extended-regexp", 'E'), ("fixed-regexp", 'F'), ("fixed-strings", 'F'),
    ("perl-regexp", 'P'), ("after-context", 'A'), ("before-context", 'B'), ("binary-files", 'Ť'),
    ("binary", 'U'), ("byte-offset", 'b'), ("context", 'C'), ("color", 'Č'), ("colour", 'Č'),
    ("count", 'c'), ("devices", 'D'), ("directories", 'd'), ("exclude", 'Ě'), ("exclude-dir", 'Ď'),
    ("file", 'f'), ("files-with-matches", 'l'), ("files-without-match", 'L'),
    ("group-separator", 'Ğ'), ("include", 'İ'), ("ignore-case", 'i'), ("no-ignore-case", 'Ń'),
    ("initial-tab", 'T'), ("label", 'Ł'), ("line-buffered", 'Ů'), ("line-number", 'n'),
    ("line-regexp", 'x'), ("max-count", 'm'), ("no-filename", 'h'), ("no-group-separator", 'Ġ'),
    ("no-messages", 's'), ("null", 'Z'), ("null-data", 'z'), ("only-matching", 'o'), ("quiet", 'q'),
    ("recursive", 'r'), ("dereference-recursive", 'R'), ("regexp", 'e'), ("invert-match", 'v'),
    ("silent", 'q'), ("text", 'a'), ("unix-byte-offsets", 'u'), ("with-filename", 'H'),
    ("word-regexp", 'w')]

def patternsOf (options : Options) (names : List (List Char)) :
    Tool (List (List Char) × List (List Char)) := do
  let chosen := options.filter fun (c, _) => c == 'e' || c == 'f'
  if chosen = [] then
    match names with
    | [] => hint 2
    | pattern :: names => return (Text.fields '\n' pattern, names)
  else
    let lists ← chosen.mapM fun (c, text) => do
      if c == 'e' then return Text.fields '\n' text
      match ← readNamed text with
      | .ok octets => return Octets.lines octets
      | .error failure => refuse s!"{String.ofList text}: {failure.reason}" 2
    return (lists.flatten, names)

def simplified : List Char → List Char
  | '\\' :: 'd' :: rest => "[0-9]".toList ++ simplified rest
  | '\\' :: 'D' :: rest => "[^0-9]".toList ++ simplified rest
  | '\\' :: 't' :: rest => '\t' :: simplified rest
  | '(' :: '?' :: ':' :: rest => '(' :: simplified rest
  | '\\' :: c :: rest => '\\' :: c :: simplified rest
  | c :: rest => c :: simplified rest
  | [] => []

def patternRegex (form : Char) (patterns : List (List Char)) : Tool Regex := do
  let parts ← patterns.mapM fun pattern => do
    if form = 'F' then return Regex.ofFixed pattern
    let extended := form = 'E' || form = 'P'
    let pattern := if form = 'P' then simplified pattern else pattern
    match Regex.ofText ⟨extended, true, false⟩ pattern with
    | .ok (regex, _) => return regex
    | .error fault => refuse fault.message 2
  if form = 'E' then
    patterns.forM fun pattern =>
      (Regex.idleRepetitions ⟨true, true, false⟩ pattern).forM fun sign => do
        warn s!"{(← call).label}warning: {sign} at start of expression\n"
  match parts with
  | [] => return .char false []
  | first :: others => return others.foldl .either first

def contextSize (text : List Char) : Tool Nat := do
  match number? text with
  | some n => return n
  | none => refuse s!"{String.ofList text}: invalid context length argument" 2

/-- The files under a path, with their paths. The number bounds the depth. -/
def filesBelow (files : Files) (enters : List Char → Bool) :
    Nat → Place → List Char → List (List Char)
  | 0, _, _ => []
  | bound + 1, place, path =>
    (files.namesAt place).flatMap fun name =>
      let below := if path = [] then name
        else if path.getLast? = some '/' then path ++ name else path ++ '/' :: name
      match files.content? (place ++ [name]) with
      | some .directory => if enters name then filesBelow files enters bound (place ++ [name]) below else []
      | some (.file _) => [below]
      | some (.program _) => [below]
      | _ => []

def fitsAny (patterns : List (List Char)) (name : List Char) : Bool :=
  patterns.any fun pattern => Wildcard.fits (Wildcard.ofText (pattern.map fun c => (c, false))) name

def lastPart (path : List Char) : List Char :=
  ((Text.cutLast? '/' path).map (·.2)).getD path

/-- The files that are searched, and whether their names are shown if nothing else is said. -/
def searchedFiles (options : Options) (names : List (List Char)) :
    Tool (List (List Char) × Bool) := do
  let texts (letter : Char) : List (List Char) := (options.filter (·.1 == letter)).map (·.2)
  let takesFile (name : List Char) : Bool :=
    (texts 'İ' = [] || fitsAny (texts 'İ') (lastPart name)) && !fitsAny (texts 'Ě') (lastPart name)
  let deep := options.has 'r' || options.has 'R' || options.last? 'd' = some "recurse".toList
  let files ← files
  if deep then
    let bound := files.nodes.length + 1
    let enters (name : List Char) : Bool := !fitsAny (texts 'Ď') name
    if names = [] then
      return ((filesBelow files enters bound files.current []).filter takesFile, true)
    let entered := names.any files.isDirectory
    let found := names.flatMap fun name =>
      match files.isDirectory name, files.resolve name with
      | true, .ok place => (filesBelow files enters bound place name).filter takesFile
      | _, _ => [name]
    return (found, entered || 1 < names.length)
  else
    let names := if names = [] then [['-']] else names
    return (names.filter fun name => name = ['-'] || takesFile name || files.isDirectory name,
      1 < names.length)

def numberedLines (ending : Char) (octets : List Char) : List Numbered :=
  let (found, _, _) := (Octets.piecesBy ending octets).foldl (fun (found, number, place) line =>
    ((number, place, line) :: found, number + 1, place + line.length + 1))
    (([] : List Numbered), 1, 0)
  found.reverse

def searchBlock : Nat := 98304

/-- Searches files for lines that hold a match. The status is 0 if there is one, 1 if not, and 2 if
something was wrong. -/
def grep : Tool Unit := do
  let (options, names) ← options "EFGHILPTUVabchilLnoqRrsuvwxyzZ0123456789ČŃŮĠ"
    "ABCDdefmŤČĚĎĞİŁ" searchOptions 2
  let any (letters : String) : Bool := letters.toList.any (Options.has options)
  let forms := (options.filter fun (c, _) => "EFGP".toList.contains c).map (·.1)
  let form := forms.head?.getD 'G'
  if forms.any (· ≠ form) then refuse "conflicting matchers specified" 2
  let digits := (options.filter fun (c, _) => isDecimalDigit c).map (·.1)
  let around? ← (options.last? 'C').mapM contextSize
  let around? := around?.or (if digits = [] then none else some (ofDigits 10 digits))
  let before? ← (options.last? 'B').mapM contextSize
  let after? ← (options.last? 'A').mapM contextSize
  let most? ← (options.last? 'm').mapM fun text => do
    match integer? text with
    | some n => return if n < 0 then none else some n.toNat
    | none => refuse "invalid max count" 2
  if any "u" then warn s!"{(← call).label}warning: --unix-byte-offsets (-u) is obsolete\n"
  let binary := match options.last? 'Ť' with
    | some text => String.ofList text
    | none => if any "a" then "text" else if any "I" then "without-match" else "binary"
  if ! ["binary", "text", "without-match"].contains binary then refuse "unknown binary-files type" 2
  let (patterns, names) ← patternsOf options names
  let regex ← patternRegex form patterns
  let regex := if any "iy" && options.lastOf? "iyŃ" ≠ some 'Ń' then regex.caseless else regex
  let search : Search := ⟨regex, any "x", any "w", any "v"⟩
  let (found, several) ← searchedFiles options names
  let color := (options.last? 'Č').map String.ofList
  let gaps := around?.isSome || before?.isSome || after?.isSome
  let gap := (options.last? 'Ğ').getD ['-', '-']
  let named := match options.lastOf? "Hh" with
    | some letter => letter == 'H'
    | none => several
  let showing : Showing := {
    named
    numbered := any "n"
    placed := any "b"
    matchesOnly := any "o"
    tabbed := any "T"
    zeroed := any "Z"
    colored := color = some "always"
    before := before?.getD (around?.getD 0)
    after := after?.getD (around?.getD 0)
    gap? := if gaps && !any "Ġ" then some gap else none
    ending := if any "z" then '\x00' else '\n' }
  let listing := any "qlL"
  let most? := (most?.map fun most? => most?).join
  let limit? := if listing then some (min 1 (most?.getD 1)) else most?
  let mut hit := false
  let mut shownAny := false
  for name in found do
    let shownName := if name = ['-'] then ((options.last? 'Ł').getD "(standard input)".toList) else name
    if options.last? 'd' = some "skip".toList && (← files).isDirectory name then continue
    let before := (← get).taken
    match ← readNamed name with
    | .error failure =>
      if !any "s" then complain s!"{String.ofList shownName}: {failure.reason}" 2 else fail 2
    | .ok octets =>
      let isBinary := binary ≠ "text" && !any "z" && octets.contains '\x00'
      let plain := any "qlLc"
      if binary = "without-match" && isBinary then continue
      let lines := numberedLines showing.ending octets
      let width := if name = ['-'] then 19 else (digitsOf 10 octets.length).length
      let limit? := if isBinary && !plain then some (min 1 (limit?.getD 1)) else limit?
      let start : SearchState := ⟨[], [], 0, 0, shownAny, 0, 0⟩
      let quiet := { showing with before := 0, after := 0, gap? := none }
      let shown := searchLines search (if plain then quiet else showing) shownName width limit? start lines
      if limit?.any (· ≤ shown.count) && name = ['-'] && before = .nothing then
        let count := if listing then min octets.length searchBlock else min shown.reached octets.length
        takes count searchBlock
      let label := showing.painted "35" shownName
      let separator := if showing.zeroed then ['\x00'] else showing.painted "36" [':']
      let listed := label ++ [if showing.zeroed then '\x00' else '\n']
      if 0 < shown.count then
        hit := true
      if any "q" then
        if 0 < shown.count then
          modify fun work => { work with status := 0 }
          stop
      else if any "lL" then
        let wanted := options.lastOf? "lL" = some 'l'
        if wanted = (0 < shown.count) then print listed
      else if any "c" then
        print ((if named then label ++ separator else []) ++ digitsOf 10 shown.count ++ ['\n'])
      else if isBinary then
        if 0 < shown.count then complain s!"{String.ofList shownName}: binary file matches" 0
      else
        print shown.output.reverse.flatten
        shownAny := shown.any
  if !hit then fail 1

end Proctor.Machine.Tool

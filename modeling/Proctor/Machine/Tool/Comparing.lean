import Proctor.Machine.Tool.Naming

/-! The tools that compare files: octet by octet, and line by line. -/
namespace Proctor.Machine

/-! ### Changes -/

/-- Lines of one text that have become lines of another one: where they start, and how many there are. -/
structure Change where
  oldStart : Nat
  oldCount : Nat
  newStart : Nat
  newCount : Nat
deriving DecidableEq, Repr

namespace Change

/-- For each place in the old lines, and each in the new ones, how many lines from there on they can have
in common; the last row first. -/
def commonCounts {α : Type} [BEq α] (old new : Array α) : Array (Array Nat) :=
  let last : Array Nat := Array.replicate (new.size + 1) 0
  let rows := (List.range old.size).foldl (fun (rows : List (Array Nat)) i =>
    let line? := old[old.size - 1 - i]?
    let below := rows.headD last
    let row := (List.range new.size).foldl (fun (row : Array Nat) j =>
      let j := new.size - 1 - j
      let count := if line?.isSome && line? == new[j]? then below.getD (j + 1) 0 + 1
        else max (below.getD j 0) (row.getD (j + 1) 0)
      row.setIfInBounds j count) last
    row :: rows) [last]
  rows.toArray

/-- The pairs of lines that two texts have in common, in order. The number bounds the steps. -/
def commonPairs {α : Type} [BEq α] (old new : Array α) (counts : Array (Array Nat)) :
    Nat → Nat → Nat → List (Nat × Nat)
  | 0, _, _ => []
  | bound + 1, i, j =>
    if i < old.size && j < new.size then
      if old[i]? == new[j]? then (i, j) :: commonPairs old new counts bound (i + 1) (j + 1)
      else
        let count (i j : Nat) : Nat := (counts.getD i #[]).getD j 0
        if count i (j + 1) ≤ count (i + 1) j then commonPairs old new counts bound (i + 1) j
        else commonPairs old new counts bound i (j + 1)
    else []

def between : Nat → Nat → List (Nat × Nat) → List Change
  | _, _, [] => []
  | i, j, (a, b) :: rest =>
    let later := between (a + 1) (b + 1) rest
    if i = a && j = b then later else ⟨i, a - i, j, b - j⟩ :: later

def ofLines {α : Type} [BEq α] (old new : Array α) : List Change :=
  let pairs := commonPairs old new (commonCounts old new) (old.size + new.size + 1) 0 0
  between 0 0 (pairs ++ [(old.size, new.size)])

/-- The numbers of the first and the last of some lines; of none, that of the line before. -/
def range (start count : Nat) : List Char :=
  if count ≤ 1 then digitsOf 10 (start + count)
  else digitsOf 10 (start + 1) ++ ',' :: digitsOf 10 (start + count)

def letter (change : Change) : Char :=
  if change.oldCount = 0 then 'a' else if change.newCount = 0 then 'd' else 'c'

def grouped (near : Nat) (changes : List Change) : List (List Change) :=
  changes.splitBy fun a b => b.oldStart - (a.oldStart + a.oldCount) ≤ 2 * near

end Change

/-! ### Lines -/

/-- A line of a text, and whether a newline ends it. -/
structure TextLine where
  octets : List Char
  ended : Bool
deriving DecidableEq, Repr

namespace TextLine

def ofText (octets : List Char) : List TextLine :=
  (Tool.wholeLines octets).map fun line =>
    if line.getLast? = some '\n' then ⟨line.dropLast, true⟩ else ⟨line, false⟩

/-- A line behind a mark, and what is said if no newline ends it. -/
def shown (mark : List Char) (line : TextLine) : List Char :=
  mark ++ line.octets ++ if line.ended then ['\n'] else "\n\\ No newline at end of file\n".toList

end TextLine

/-- The lines of two texts, and the changes from one to the other. -/
structure Difference where
  old : Array TextLine
  new : Array TextLine
  changes : List Change

namespace Difference

def oldLines (difference : Difference) (start count : Nat) : List TextLine :=
  (difference.old.extract start (start + count)).toList

def newLines (difference : Difference) (start count : Nat) : List TextLine :=
  (difference.new.extract start (start + count)).toList

def plain (difference : Difference) : List Char :=
  difference.changes.flatMap fun change =>
    let old := difference.oldLines change.oldStart change.oldCount
    let new := difference.newLines change.newStart change.newCount
    Change.range change.oldStart change.oldCount ++ change.letter ::
      Change.range change.newStart change.newCount ++ ['\n'] ++
      old.flatMap (TextLine.shown ['<', ' ']) ++
      (if change.letter = 'c' then "---\n".toList else []) ++
      new.flatMap (TextLine.shown ['>', ' '])

def extent (start count : Nat) : List Char :=
  if count = 1 then digitsOf 10 (start + 1)
  else digitsOf 10 (if count = 0 then start else start + 1) ++ ',' :: digitsOf 10 count

def unifiedGroup (difference : Difference) (near : Nat) (group : List Change) : List Char :=
  match group.head?, group.getLast? with
  | some first, some last =>
    let before := min near first.oldStart
    let oldStart := first.oldStart - before
    let newStart := first.newStart - before
    let oldEnd := min difference.old.size (last.oldStart + last.oldCount + near)
    let after := oldEnd - (last.oldStart + last.oldCount)
    let newEnd := last.newStart + last.newCount + after
    let head := "@@ -".toList ++ extent oldStart (oldEnd - oldStart) ++ " +".toList ++
      extent newStart (newEnd - newStart) ++ " @@\n".toList
    let (body, place) := group.foldl (fun (body, place) change =>
      let kept := difference.oldLines place (change.oldStart - place)
      (body ++ kept.flatMap (TextLine.shown [' ']) ++
        (difference.oldLines change.oldStart change.oldCount).flatMap (TextLine.shown ['-']) ++
        (difference.newLines change.newStart change.newCount).flatMap (TextLine.shown ['+']),
        change.oldStart + change.oldCount)) (([] : List Char), oldStart)
    head ++ body ++ (difference.oldLines place (oldEnd - place)).flatMap (TextLine.shown [' '])
  | _, _ => []

def unified (difference : Difference) (near : Nat) : List Char :=
  (Change.grouped near difference.changes).flatMap (difference.unifiedGroup near)

def span (start stop : Nat) : List Char :=
  if stop ≤ start + 1 then digitsOf 10 stop
  else digitsOf 10 (start + 1) ++ ',' :: digitsOf 10 stop

def contextGroup (difference : Difference) (near : Nat) (group : List Change) : List Char :=
  match group.head?, group.getLast? with
  | some first, some last =>
    let before := min near first.oldStart
    let oldStart := first.oldStart - before
    let newStart := first.newStart - before
    let oldEnd := min difference.old.size (last.oldStart + last.oldCount + near)
    let newEnd := last.newStart + last.newCount + (oldEnd - (last.oldStart + last.oldCount))
    let part (start stop : Nat) (lines : Nat → Nat → List TextLine) (spans : List (Nat × Nat × Char)) :
        List Char :=
      if spans.all fun (_, count, _) => count = 0 then []
      else
        let (body, place) := spans.foldl (fun (body, place) (start, count, mark) =>
          (body ++ (lines place (start - place)).flatMap (TextLine.shown [' ', ' ']) ++
            (lines start count).flatMap (TextLine.shown [mark, ' ']), start + count))
          (([] : List Char), start)
        body ++ (lines place (stop - place)).flatMap (TextLine.shown [' ', ' '])
    let mark (change : Change) (other : Char) : Char := if change.letter = 'c' then '!' else other
    "***************\n*** ".toList ++ span oldStart oldEnd ++ " ****\n".toList ++
      part oldStart oldEnd difference.oldLines
        (group.map fun change => (change.oldStart, change.oldCount, mark change '-')) ++
      "--- ".toList ++ span newStart newEnd ++ " ----\n".toList ++
      part newStart newEnd difference.newLines
        (group.map fun change => (change.newStart, change.newCount, mark change '+'))
  | _, _ => []

def context (difference : Difference) (near : Nat) : List Char :=
  (Change.grouped near difference.changes).flatMap (difference.contextGroup near)

def commands (difference : Difference) : List Char :=
  difference.changes.reverse.flatMap fun change =>
    let new := difference.newLines change.newStart change.newCount
    Change.range change.oldStart change.oldCount ++ change.letter :: '\n' ::
      if new = [] then [] else new.flatMap (fun line => line.octets ++ ['\n']) ++ ".\n".toList

end Difference

/-! ### Tools -/

namespace Tool

/-- Octets as they are counted when all blanks or letters that differ only in case are taken for the
same. -/
def comparedLine (options : Options) (line : TextLine) : TextLine :=
  let isGap (c : Char) : Bool := c == ' ' || ('\t' ≤ c && c ≤ '\x0d')
  let octets := if options.has 'w' then line.octets.filter fun c => !isGap c
    else if options.has 'b' then
      let runs := line.octets.splitBy fun a b => isGap a == isGap b
      let parts := runs.map fun run => if run.any isGap then [' '] else run
      let parts := if parts.getLast? = some [' '] then parts.dropLast else parts
      parts.flatten
    else line.octets
  ⟨if options.has 'i' then octets.map Char.toLower else octets,
    line.ended || options.has 'w' || options.has 'b'⟩

def differenceOf (options : Options) (old new : List Char) : Difference :=
  let oldLines := TextLine.ofText old
  let newLines := TextLine.ofText new
  let key := comparedLine options
  let changes := Change.ofLines (oldLines.map key).toArray (newLines.map key).toArray
  let isBlankChange (change : Change) : Bool :=
    ((oldLines.drop change.oldStart).take change.oldCount ++
      (newLines.drop change.newStart).take change.newCount).all fun line => line.octets = []
  let changes := if options.has 'B' then changes.filter fun change => !isBlankChange change
    else changes
  ⟨oldLines.toArray, newLines.toArray, changes⟩

def nearOf (options : Options) : Nat :=
  ((options.filter fun (letter, text) => "UC".toList.contains letter && text ≠ []).getLast?.bind
    fun (_, text) => number? text).getD 3

def headsOf (options : Options) (first second : String) (old new : List Char) : List Char :=
  let labels := (options.filter (·.1 == 'Ł')).map (·.2)
  let name (i : Nat) (name : List Char) : List Char :=
    match labels[i]? with
    | some label => label
    | none => name ++ "\t1970-01-01 00:00:00.000000000 +0000".toList
  first.toList ++ name 0 old ++ '\n' :: second.toList ++ name 1 new ++ ['\n']

def compareTexts (options : Options) (command : List Char) (oldName newName old new : List Char) :
    Tool Unit := do
  let names := s!"{String.ofList oldName} and {String.ofList newName}"
  let difference := differenceOf options old new
  if difference.changes = [] then
    if options.has 's' then printLine s!"Files {names} are identical".toList
  else
    fail 1
    if options.has 'q' then printLine s!"Files {names} differ".toList
    else
      print command
      if old.contains '\x00' || new.contains '\x00' then
        printLine s!"Binary files {names} differ".toList
      else
        match options.lastOf? "uUcCeny" with
        | some 'e' => print difference.commands
        | some c =>
          if c = 'u' || c = 'U' then
            print (headsOf options "--- " "+++ " oldName newName)
            print (difference.unified (nearOf options))
          else if c = 'c' || c = 'C' then
            print (headsOf options "*** " "--- " oldName newName)
            print (difference.context (nearOf options))
          else print difference.plain
        | none => print difference.plain

/-- Compares two files or directories. The number bounds how deep directories are nested. -/
def compareNamed (options : Options) (words : List Char) :
    Nat → Bool → List Char → List Char → Tool Unit
  | 0, _, _, _ => return
  | bound + 1, within, old, new => do
    let files ← files
    let join (directory name : List Char) : List Char := withoutEndSlashes directory ++ '/' :: name
    let isDirectory (name : List Char) : Bool := name ≠ ['-'] && files.isDirectory name
    match isDirectory old, isDirectory new with
    | true, true =>
      if within && !options.has 'r' then
        let names := s!"{String.ofList old} and {String.ofList new}"
        printLine s!"Common subdirectories: {names}".toList
      else
        let first := files.namesIn old
        let second := files.namesIn new
        let all := (first ++ second).eraseDups.mergeSort fun a b => !Octets.before b a
        all.forM fun name => do
          if !second.contains name then
            if options.has 'N' then compareNamed options words bound true (join old name) (join new name)
            else
              fail 1
              printLine s!"Only in {String.ofList old}: {String.ofList name}".toList
          else if !first.contains name then
            if options.has 'N' then compareNamed options words bound true (join old name) (join new name)
            else
              fail 1
              printLine s!"Only in {String.ofList new}: {String.ofList name}".toList
          else compareNamed options words bound true (join old name) (join new name)
    | true, false =>
      let last := ((Text.cutLast? '/' new).map (·.2)).getD new
      if within then
        fail 1
        let shown := s!"File {String.ofList old} is a directory while file {String.ofList new} is a"
        printLine s!"{shown} regular file".toList
      else compareNamed options words bound false (join old last) new
    | false, true =>
      let last := ((Text.cutLast? '/' old).map (·.2)).getD old
      if within then
        fail 1
        let shown := s!"File {String.ofList old} is a regular file while file {String.ofList new} is a"
        printLine s!"{shown} directory".toList
      else compareNamed options words bound false old (join new last)
    | false, false =>
      let absent (name : List Char) : Bool := options.has 'N' && name ≠ ['-'] && !files.exists? name
      let read (name : List Char) : Tool (Except Failure (List Char)) :=
        if absent name then return .ok [] else readNamed name
      let complain (name : List Char) (failure : Failure) : Tool Unit :=
        complain s!"{String.ofList name}: {failure.reason}" 2
      match ← read old, ← read new with
      | .ok a, .ok b =>
        let command := if within then
            "diff ".toList ++ words ++ old ++ ' ' :: new ++ ['\n']
          else []
        compareTexts options command old new a b
      | .error first, .error second =>
        complain old first
        complain new second
      | .error failure, .ok _ => complain old failure
      | .ok _, .error failure => complain new failure

def diff : Tool Unit := do
  let (options, names) ← options "bBcdeEinNpqrstTuwyaZUC" "CUILŁW"
    [("brief", 'q'), ("report-identical-files", 's'), ("unified", 'U'), ("context", 'C'), ("label", 'Ł'),
      ("ignore-case", 'i'), ("ignore-all-space", 'w'), ("ignore-space-change", 'b'),
      ("ignore-blank-lines", 'B'), ("recursive", 'r'), ("new-file", 'N'), ("text", 'a'), ("ed", 'e'),
      ("normal", 'Ñ'), ("strip-trailing-cr", 'Ş')] 2
  let options : Options := options.map fun (letter, text) => (if letter = 'L' then 'Ł' else letter, text)
  match names with
  | [] => misused "missing operand after 'diff'" 2
  | [name] => misused s!"missing operand after {Quoting.text name}" 2
  | [old, new] =>
    let flags := (← args).filter fun word => word.head? = some '-' && word ≠ ['-'] && word ≠ "--".toList
    compareNamed options (flags.flatMap (· ++ [' '])) 100 false old new
  | _ :: _ :: extra :: _ => misused s!"extra operand {Quoting.text extra}" 2

def visibleOctet (c : Char) : List Char :=
  let n := c.toNat
  let low (n : Nat) : List Char :=
    if n < 32 then ['^', Char.ofNat (n + 64)] else if n = 127 then ['^', '?'] else [Char.ofNat n]
  if n < 128 then low n else 'M' :: '-' :: low (n - 128)

def cmp : Tool Unit := do
  let (options, names) ← options "bls" "in"
    [("print-bytes", 'b'), ("verbose", 'l'), ("silent", 's'), ("quiet", 's'), ("ignore-initial", 'i'),
      ("bytes", 'n')] 2
  let (old, new) ← match names with
    | [] => misused "missing operand after 'cmp'" 2
    | [old] => pure (old, ['-'])
    | old :: new :: _ => pure (old, new)
  let skip := (((options.last? 'i').bind fun text => sized? (text.takeWhile (· ≠ ':')))).getD 0
  let most? := (options.last? 'n').bind sized?
  let cut (octets : List Char) : List Char :=
    let octets := octets.drop skip
    (most?.map octets.take).getD octets
  let read (name : List Char) : Tool (List Char) := do
    match ← readNamed name with
    | .ok octets => return cut octets
    | .error failure =>
      if !options.has 's' then complain s!"{String.ofList name}: {failure.reason}" 2 else fail 2
      stop
  let a ← read old
  let b ← read new
  let differing := ((a.zip b).zipIdx).filter fun ((x, y), _) => x ≠ y
  let shown (c : Char) : String := String.ofList (visibleOctet c)
  if options.has 'l' && !options.has 's' then
    let width := (toString (max a.length b.length)).length
    differing.forM fun ((x, y), i) => do
      let place := rightAligned width (digitsOf 10 (i + 1))
      let code (c : Char) : List Char := rightAligned 3 (digitsOf 8 c.toNat)
      if options.has 'b' then
        printLine (place ++ ' ' :: code x ++ ' ' :: leftAligned 4 (visibleOctet x) ++ ' ' :: code y ++
          ' ' :: visibleOctet y)
      else printLine (place ++ ' ' :: code x ++ ' ' :: code y)
  match differing.head? with
  | some ((x, y), i) =>
    fail 1
    if !options.has 'l' && !options.has 's' then
      let line := (a.take i).count '\n' + 1
      let names := s!"{String.ofList old} {String.ofList new}"
      if options.has 'b' then
        let code (c : Char) : String := String.ofList (rightAligned 3 (digitsOf 8 c.toNat))
        let both := s!"{code x} {shown x} {code y} {shown y}"
        printLine s!"{names} differ: byte {i + 1}, line {line} is {both}".toList
      else printLine s!"{names} differ: char {i + 1}, line {line}".toList
  | none => pure ()
  if a.length ≠ b.length && (differing = [] || options.has 'l') then
    fail 1
    if !options.has 's' then
      let (name, short) := if a.length < b.length then (old, a) else (new, b)
      let shown := String.ofList name
      if short = [] then warn s!"cmp: EOF on {shown} which is empty\n"
      else if options.has 'l' then warn s!"cmp: EOF on {shown} after byte {short.length}\n"
      else
        let lines := short.count '\n'
        let place := if short.getLast? = some '\n' then s!"line {lines}" else s!"in line {lines + 1}"
        warn s!"cmp: EOF on {shown} after byte {short.length}, {place}\n"

end Tool
end Proctor.Machine

import Proctor.Machine.Tool.Basic

/-! The tools that take columns out of lines, put lines side by side, and change where lines and tabs
end. -/
namespace Proctor.Machine.Tool

/-! ### Cutting -/

/-- Positions from one to another, both counted from one; without an end they go on. -/
abbrev Positions := List (Nat × Option Nat)

namespace Positions

def holds (positions : Positions) (n : Nat) : Bool :=
  positions.any fun (low, high?) => low ≤ n && high?.all (n ≤ ·)

def startsAt (positions : Positions) (n : Nat) : Bool :=
  positions.any fun (low, _) => low = n

/-- Ranges in order, of which none touches another one that starts within it. -/
def sorted (positions : Positions) : Positions :=
  let ordered := positions.mergeSort fun a b => a.1 ≤ b.1
  (ordered.foldl (fun found (low, high?) =>
    match found with
    | (first, last?) :: others =>
      if last?.all (low ≤ ·) then
        let high? := match last?, high? with
          | some last, some high => some (max last high)
          | _, _ => none
        (first, high?) :: others
      else (low, high?) :: found
    | [] => [(low, high?)]) ([] : Positions)).reverse

end Positions

def maxPosition : Nat := 18446744073709551614

def positionsOf (byField : Bool) (text : List Char) : Tool Positions := do
  let kind := if byField then "field" else "byte/character"
  let position (digits : List Char) : Tool Nat := do
    match number? digits with
    | some 0 =>
      misused (if byField then "fields are numbered from 1"
        else "byte/character positions are numbered from 1") 1
    | some n =>
      if maxPosition < n then
        let value := if byField then "field number" else "byte/character offset"
        misused s!"{value} {Quoting.text digits} is too large" 1
      return n
    | none =>
      let value := if byField then "field value" else "byte/character position"
      misused s!"invalid {value} {Quoting.text digits}" 1
  let parts := Text.fields ',' (text.map fun c => if c = ' ' || c = '\t' then ',' else c)
  parts.mapM fun part => do
    match Text.cutFirst? '-' part with
    | none =>
      if part = [] then
        misused (if byField then "fields are numbered from 1"
          else "byte/character positions are numbered from 1") 1
      let n ← position part
      return (n, some n)
    | some (low, high) =>
      if low = [] && high = [] then misused "invalid range with no endpoint: -" 1
      if high.contains '-' then misused s!"invalid {kind} range" 1
      let low ← if low = [] then pure 1 else position low
      if high = [] then return (low, none)
      let high ← position high
      if high < low then misused "invalid decreasing range" 1
      return (low, some high)

def groupsAt (positions : Positions) (complement : Bool) (items : List Char) : List (List Char) :=
  let (found, _) := (items.zipIdx 1).foldl (fun (found, before) (c, n) =>
    let wanted := positions.holds n != complement
    if !wanted then (found, false)
    else
      let fresh := !before || (!complement && positions.startsAt n)
      match found with
      | group :: others => if fresh then ([c] :: found, true) else ((c :: group) :: others, true)
      | [] => ([[c]], true)) (([] : List (List Char)), false)
  (found.map List.reverse).reverse

def cut : Tool Unit := do
  let (options, names) ← options "nszČ" "bcdfŮ"
    [("bytes", 'b'), ("characters", 'c'), ("fields", 'f'), ("delimiter", 'd'),
      ("only-delimited", 's'), ("output-delimiter", 'Ů'), ("complement", 'Č'),
      ("zero-terminated", 'z')] 1
  let lists := options.filter fun (c, _) => "bcf".toList.contains c
  let byField := lists.any (·.1 == 'f')
  let some (_, list) := lists.head?
    | misused "you must specify a list of bytes, characters, or fields" 1
  if 1 < lists.length then misused "only one list may be specified" 1
  let mark := match options.last? 'd' with
    | none => '\t'
    | some [] => '\x00'
    | some (c :: _) => c
  if (options.last? 'd').any (1 < ·.length) then
    misused "the delimiter must be a single character" 1
  if !byField && options.has 'd' then
    misused "an input delimiter may be specified only when operating on fields" 1
  if !byField && options.has 's' then
    misused "suppressing non-delimited lines makes sense\n\tonly when operating on fields" 1
  let positions := (← positionsOf byField list).sorted
  let complement := options.has 'Č'
  let ending := if options.has 'z' then '\x00' else '\n'
  let joint := options.last? 'Ů'
  let part (line : List Char) : Option (List Char) :=
    if byField then
      if line.contains mark then
        let fields := ((Text.fields mark line).zipIdx 1).filter fun (_, n) =>
          positions.holds n != complement
        some ((joint.getD [mark]).intercalate (fields.map (·.1)))
      else if options.has 's' then none
      else some line
    else
      match joint with
      | some joint => some (joint.intercalate (groupsAt positions complement line))
      | none => some (((line.zipIdx 1).filter fun (_, n) => positions.holds n != complement).map (·.1))
  for (_, octets) in ← sources names plainly 1 do
    print (((Octets.piecesBy ending octets).filterMap part).flatMap (· ++ [ending]))

/-! ### Pasting -/

/-- The separators that a list with escapes names; one of them may be empty. -/
def separatorsOf : List Char → Option (List (List Char))
  | [] => some []
  | ['\\'] => none
  | '\\' :: c :: rest =>
    let found : List Char := match c with
      | '0' => []
      | 'b' => ['\x08']
      | 'f' => ['\x0c']
      | 'n' => ['\n']
      | 'r' => ['\r']
      | 't' => ['\t']
      | 'v' => ['\x0b']
      | c => [c]
    (separatorsOf rest).map (found :: ·)
  | c :: rest => (separatorsOf rest).map ([c] :: ·)

def joinedInTurn (separators items : List (List Char)) : List Char :=
  match items with
  | [] => []
  | first :: others =>
    first ++ ((others.zipIdx).flatMap fun (item, n) =>
      (separators[n % max 1 separators.length]?).getD [] ++ item)

/-- Rows of the first lines of files, then of the second ones, and so on. A file that stands several
times gives several lines to a row. The number bounds the rows. -/
def rowsOf (columns : List Nat) : Nat → List (List (List Char)) → List (List (List Char))
  | 0, _ => []
  | bound + 1, files =>
    let (row, files) := columns.foldl (fun (row, files) column =>
      match files[column]? with
      | some (line :: rest) => (some line :: row, files.set column rest)
      | _ => (none :: row, files)) (([] : List (Option (List Char))), files)
    if row.all (·.isNone) then []
    else row.reverse.map (·.getD []) :: rowsOf columns bound files

def paste : Tool Unit := do
  let (options, names) ← options "sz" "d"
    [("delimiters", 'd'), ("serial", 's'), ("zero-terminated", 'z')] 1
  let ending := if options.has 'z' then '\x00' else '\n'
  let list := (options.last? 'd').getD ['\t']
  let some separators := separatorsOf (if list = [] then ['\\', '0'] else list)
    | refuse s!"delimiter list ends with an unescaped backslash: {String.ofList list}" 1
  let names := if names = [] then [['-']] else names
  if options.has 's' then
    for name in names do
      match ← readNamed name with
      | .error failure => complain (plainly name failure) 1
      | .ok octets => print (joinedInTurn separators (Octets.piecesBy ending octets) ++ [ending])
  else
    let (distinct, columns, _) := names.foldl (fun (distinct, columns, input?) name =>
      match name == ['-'], input? with
      | true, some column => (distinct, columns ++ [column], input?)
      | true, none => (distinct ++ [name], columns ++ [distinct.length], some distinct.length)
      | false, _ => (distinct ++ [name], columns ++ [distinct.length], input?))
      (([] : List (List Char)), ([] : List Nat), (none : Option Nat))
    let mut found : List (List (List Char)) := []
    for name in distinct do
      match ← readNamed name with
      | .ok octets => found := found ++ [Octets.piecesBy ending octets]
      | .error .isDirectory =>
        complain s!"{Quoting.ifNeeded name}: Is a directory" 1
        found := found ++ [[]]
      | .error failure => refuse (plainly name failure) 1
    let most := found.foldl (fun sum lines => sum + lines.length) 1
    print ((rowsOf columns most found).flatMap fun row => joinedInTurn separators row ++ [ending])

/-! ### Folding -/

def placeAfter (bytes : Bool) (place : Nat) (c : Char) : Nat :=
  if bytes then place + 1
  else if c = '\x08' then place - 1
  else if c = '\r' then 0
  else if c = '\t' then place + 8 - place % 8
  else place + 1

/-- A line that is cut so that no piece is wider than allowed. The octets of a piece come last first. -/
def folded (bytes atBlanks : Bool) (width : Nat) (line : List Char) : List (List Char) :=
  let size (piece : List Char) : Nat := piece.reverse.foldl (placeAfter bytes) 0
  let (found, piece, _) := line.foldl (fun (found, piece, place) c =>
    let next := placeAfter bytes place c
    if next ≤ width || piece = [] then (found, c :: piece, next)
    else
      let rest := if atBlanks then piece.takeWhile fun c => c ≠ ' ' && c ≠ '\t' else piece
      let (found, piece) :=
        if atBlanks && rest.length < piece.length then
          (piece.drop rest.length :: found, rest)
        else (piece :: found, [])
      let next := placeAfter bytes (size piece) c
      if next ≤ width || piece = [] then (found, c :: piece, next)
      else (piece :: found, [c], placeAfter bytes 0 c))
    (([] : List (List Char)), ([] : List Char), 0)
  ((piece :: found).map List.reverse).reverse

/-- The arguments in which an option of digits only is the option of a letter. -/
def digitsAs (letter : Char) (args : List (List Char)) : List (List Char) :=
  args.map fun
    | '-' :: d :: rest =>
      if (d :: rest).all isDecimalDigit then '-' :: letter :: d :: rest else '-' :: d :: rest
    | word => word

def fold : Tool Unit := do
  let (options, names) ← optionsFrom "bs".toList "w".toList
    [("bytes", 'b'), ("spaces", 's'), ("width", 'w')] false 1 (digitsAs 'w' (← args))
  let width ← match options.last? 'w' with
    | none => pure 80
    | some text =>
      match number? text with
      | some 0 =>
        refuse s!"invalid number of columns: {Quoting.text text}: Numerical result out of range" 1
      | some n => pure n
      | none => refuse s!"invalid number of columns: {Quoting.text text}" 1
  for (_, octets) in ← sources names plainly 1 do
    print ((wholeLines octets).flatMap fun line =>
      let ended := line.getLast? = some '\n'
      let text := if ended then line.dropLast else line
      ['\n'].intercalate (folded (options.has 'b') (options.has 's') width text) ++
        if ended then ['\n'] else [])

/-! ### Tabs -/

/-- Where tabs lead: to some columns, and then to the multiples of a number, or to columns so far apart
from the last one. -/
structure Stops where
  columns : List Nat
  each? : Option Nat
  relative : Bool

namespace Stops

def next? (stops : Stops) (place : Nat) : Option Nat :=
  match stops.columns.find? (place < ·) with
  | some column => some column
  | none =>
    stops.each?.map fun each =>
      let start := if stops.relative then stops.columns.getLast?.getD 0 else 0
      start + ((place - start) / each + 1) * each

end Stops

def stopsOf (text : List Char) : Tool Stops := do
  let parts := (Text.fields ',' (text.map fun c => if c = ' ' then ',' else c)).filter (· ≠ [])
  let mut columns : List Nat := []
  let mut each? : Option (Nat × Bool) := none
  for part in parts do
    let (mark?, digits) := match part with
      | '/' :: digits => (some false, digits)
      | '+' :: digits => (some true, digits)
      | digits => (none, digits)
    match number? digits with
    | none =>
      let bad := digits.dropWhile isDecimalDigit
      refuse s!"tab size contains invalid character(s): {Quoting.text bad}" 1
    | some n =>
      match mark? with
      | some relative => each? := some (n, relative)
      | none =>
        if n = 0 then refuse "tab size cannot be 0" 1
        if columns.any (n ≤ ·) then refuse "tab sizes must be ascending" 1
        columns := columns ++ [n]
  match columns, each? with
  | [], none => return ⟨[], some 8, false⟩
  | [n], none => return ⟨[], some n, false⟩
  | found, none => return ⟨found, none, false⟩
  | found, some (n, relative) => return ⟨found, some (max n 1), relative⟩

def stopsFrom (options : Options) : Tool Stops := do
  let texts := (options.filter (·.1 == 't')).map (·.2)
  if texts = [] then return ⟨[], some 8, false⟩ else stopsOf ([','].intercalate texts)

def expanded (stops : Stops) (initial : Bool) (octets : List Char) : List Char :=
  let (found, _, _) := octets.foldl (fun (found, place, within) c =>
    if c = '\n' then ([c] :: found, 0, true)
    else if !within then ([c] :: found, place, within)
    else if c = '\t' then
      let next := (stops.next? place).getD (place + 1)
      (List.replicate (next - place) ' ' :: found, next, within)
    else if c = '\x08' then ([c] :: found, place - 1, within && !initial)
    else ([c] :: found, place + 1, within && (!initial || c = ' ')))
    (([] : List (List Char)), 0, true)
  found.reverse.flatten

def expand : Tool Unit := do
  let (options, names) ← optionsFrom ['i'] ['t'] [("initial", 'i'), ("tabs", 't')] false 1
    (digitsAs 't' (← args))
  let stops ← stopsFrom options
  for (_, octets) in ← sources names plainly 1 do
    print (expanded stops (options.has 'i') octets)

/-- What is known while blanks are replaced by tabs. -/
structure Gap where
  output : List (List Char)
  place : Nat
  pending : List Char
  single : Bool
  blank : Bool
  converts : Bool

def Gap.next (gap : Gap) (stops : Stops) (everywhere : Bool) (c : Char) : Gap :=
  if c = '\n' then
    let pending :=
      if 1 < gap.pending.length && gap.single then '\t' :: gap.pending.drop 1 else gap.pending
    ⟨['\n'] :: pending :: gap.output, 0, [], false, true, true⟩
  else if !gap.converts then { gap with output := [c] :: gap.output }
  else
    let flush (gap : Gap) (c : Char) (isBlank : Bool) : Gap :=
      let pending :=
        if 1 < gap.pending.length && gap.single then '\t' :: gap.pending.drop 1 else gap.pending
      { gap with
        output := [c] :: pending :: gap.output
        pending := []
        single := if gap.pending = [] then gap.single else false
        blank := isBlank
        converts := gap.converts && (everywhere || isBlank) }
    if c = ' ' || c = '\t' then
      match stops.next? gap.place with
      | none => { flush gap c true with converts := false }
      | some next =>
        if c = '\t' then
          let pending := if gap.pending = [] then [] else '\t' :: gap.pending.drop 1
          flush { gap with place := next, pending := if gap.single then pending.take 1 else [] } c true
        else
          let place := gap.place + 1
          if gap.blank && place = next then
            flush { gap with place, pending := if gap.single then ['\t'] else [] } '\t' true
          else
            { gap with
              place
              pending := gap.pending ++ [c]
              single := gap.single || place = next
              blank := true }
    else if c = '\x08' then flush { gap with place := gap.place - 1 } c false
    else flush { gap with place := gap.place + 1 } c false

def unexpand : Tool Unit := do
  let (options, names) ← optionsFrom "aFł".toList ['t']
    [("all", 'a'), ("first-only", 'ł'), ("tabs", 't')] false 1 (digitsAs 't' (← args))
  let stops ← stopsFrom options
  let everywhere := (options.has 'a' || options.has 't') && !options.has 'ł'
  for (_, octets) in ← sources names plainly 1 do
    let start : Gap := ⟨[], 0, [], false, true, true⟩
    let gap := octets.foldl (fun gap c => gap.next stops everywhere c) start
    print (gap.pending :: gap.output).reverse.flatten

end Proctor.Machine.Tool

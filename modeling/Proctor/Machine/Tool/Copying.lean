import Proctor.Machine.Tool.Basic

/-! The tools that copy what they read, as a whole or in part, or from the end. -/
namespace Proctor.Machine.Tool

/-! ### Whole files -/

structure Shown where
  numbered : Bool
  filledOnly : Bool
  ends : Bool
  tabs : Bool
  hidden : Bool
  squeezed : Bool

def visible (c : Char) : List Char :=
  let n := c.toNat
  let low (n : Nat) : List Char :=
    if n < 32 then ['^', Octets.char (n + 64)]
    else if n = 127 then ['^', '?']
    else [Octets.char n]
  if n = 10 then [c] else if n < 128 then low n else 'M' :: '-' :: low (n - 128)

namespace Shown

def line (shown : Shown) (text : List Char) : List Char :=
  text.flatMap fun c =>
    if c = '\t' then if shown.tabs then ['^', 'I'] else [c]
    else if shown.hidden then visible c
    else [c]

/-- Lines as they are shown, from a number on, when some empty lines came before; the next number and
how many empty lines there are at the end. -/
def lines (shown : Shown) (number empty : Nat) (texts : List (List Char)) :
    List (List Char) × Nat × Nat :=
  let (found, number, empty) := texts.foldl (fun (found, number, empty) text =>
    let ended := text.getLast? = some '\n'
    let inner := if ended then text.dropLast else text
    let blank := inner = [] && ended
    let empty := if blank then empty + 1 else 0
    if shown.squeezed && 1 < empty then (found, number, empty)
    else
      let counted := shown.numbered && !(shown.filledOnly && blank)
      let label := if counted then rightAligned 6 (digitsOf 10 number) ++ ['\t'] else []
      let carriage := shown.ends && !shown.hidden && ended && inner.getLast? = some '\r'
      let body := if carriage then shown.line inner.dropLast ++ ['^', 'M'] else shown.line inner
      let ending := if ended then (if shown.ends then ['$', '\n'] else ['\n']) else []
      ((label ++ body ++ ending) :: found, if counted then number + 1 else number, empty))
    (([] : List (List Char)), number, empty)
  (found.reverse, number, empty)

end Shown

def cat : Tool Unit := do
  let (options, names) ← options "AbeEnstTuv" ""
    [("show-all", 'A'), ("number-nonblank", 'b'), ("show-nonprinting", 'v'), ("show-ends", 'E'),
      ("number", 'n'), ("squeeze-blank", 's'), ("show-tabs", 'T')] 1
  let any (letters : String) : Bool := letters.toList.any (Options.has options)
  let shown : Shown := ⟨any "nb", any "b", any "AeE", any "AtT", any "Aetv", any "s"⟩
  let plain := !any "AbeEnstTv"
  let names := if names.isEmpty then [['-']] else names
  let closed := ((← call).input? 0).isNone
  let mut number := 1
  let mut empty := 0
  let mut partly := false
  for name in names do
    match ← readNamed name with
    | .error failure => complain (plainly name failure) 1
    | .ok octets =>
      if plain then print octets
      else
        let texts := wholeLines octets
        let (before, rest) := match partly, texts with
          | true, first :: rest => ([first], rest)
          | _, texts => ([], texts)
        before.forM fun text =>
          print ((shown.line (text.filter (· ≠ '\n'))) ++
            if text.getLast? = some '\n' then (if shown.ends then ['$', '\n'] else ['\n']) else [])
        let (found, next, blanks) := shown.lines number (if before = [] then empty else 0) rest
        print found.flatten
        number := next
        empty := blanks
        partly := octets ≠ [] && octets.getLast? ≠ some '\n' || octets = [] && partly
  if closed && names.contains ['-'] then complain "closing standard input: Bad file descriptor" 1

def piecesBy (separator text : List Char) : List (List Char) :=
  let size := separator.length
  let rec walk : Nat → List Char → List Char → List (List Char) → List (List Char)
    | 0, _, _, found => found
    | _, [], current, found => if current = [] then found else current.reverse :: found
    | bound + 1, c :: rest, current, found =>
      if separator.isPrefixOf (c :: rest) then
        walk bound ((c :: rest).drop size) [] ((current.reverse ++ separator) :: found)
      else walk bound rest (c :: current) found
  walk (text.length + 1) text [] []

/-- The pieces of a text, each with the separator before it, the last first. -/
def piecesFrom (separator text : List Char) : List (List Char) :=
  let bare := (piecesBy separator text.reverse.reverse).reverse
  let size := separator.length
  let bodies := bare.map fun piece =>
    if separator.isSuffixOf piece then (piece.take (piece.length - size), true) else (piece, false)
  match bodies with
  | [] => []
  | (first, ended) :: rest =>
    let (found, open') := rest.foldl (fun (found, before) (body, ended) =>
      (((if before then separator else []) ++ body) :: found, ended)) ([first], ended)
    if open' then separator :: found else found

def tac : Tool Unit := do
  let (options, names) ← options "br" "s" [("before", 'b'), ("regex", 'r'), ("separator", 's')] 1
  let separator := (options.last? 's').getD ['\n']
  let separator := if separator = [] then ['\x00'] else separator
  let describe (name : List Char) (failure : Failure) : String :=
    if failure = .isDirectory then s!"{Quoting.ifNeeded name}: read error: Invalid argument"
    else s!"failed to open {Quoting.always name} for reading: {failure.reason}"
  for (_, octets) in ← sources names describe 1 do
    print (if options.has 'b' then (piecesFrom separator octets).flatten
      else (piecesBy separator octets).flatten)

/-- Copies files with the characters of each line in the opposite order. A character outside of ASCII
makes it wait for ever. -/
def rev : Tool Unit := do
  let (_, names) ← options "0" "" [("zero", '0')] 1
  for (_, octets) in ← sources names (fun name failure =>
      s!"cannot open {String.ofList name}: {failure.reason}") 1 do
    let strange := octets.any fun c => '\x7f' < c
    if strange then
      modify fun work => { work with endless := true }
      stop
    print ((wholeLines octets).flatMap fun line =>
      if line.getLast? = some '\n' then line.dropLast.reverse ++ ['\n'] else line.reverse)

/-! ### Parts of files -/

/-- How much of a file is copied: so many octets or lines, or all but so many. -/
structure Portion where
  lines : Bool
  count : Nat
  except : Bool

def recordsOf (separator : Char) (octets : List Char) : List (List Char) :=
  if separator = '\n' then wholeLines octets else piecesBy [separator] octets

def Portion.start (portion : Portion) (separator : Char) (octets : List Char) : List Char :=
  if portion.lines then
    let records := recordsOf separator octets
    (if portion.except then records.take (records.length - portion.count)
      else records.take portion.count).flatten
  else if portion.except then octets.take (octets.length - portion.count)
  else octets.take portion.count

/-- The end of octets: the last ones, or those from a number on. -/
def Portion.final (portion : Portion) (separator : Char) (octets : List Char) : List Char :=
  if portion.lines then
    let records := recordsOf separator octets
    (if portion.except then records.drop (portion.count - 1)
      else records.drop (records.length - portion.count)).flatten
  else if portion.except then octets.drop (portion.count - 1)
  else octets.drop (octets.length - portion.count)

def maxCount : Nat := 18446744073709551615

def countIn (lines : Bool) (text : List Char) : Tool Nat := do
  let unit := if lines then "lines" else "bytes"
  match sized? text with
  | none => refuse s!"invalid number of {unit}: {Quoting.text text}" 1
  | some count =>
    if maxCount < count then
      refuse s!"invalid number of {unit}: {Quoting.text text}: Value too large for defined data type" 1
    return count

def header (first : Bool) (name : List Char) : List Char :=
  let shown := if name = ['-'] then "standard input" else Quoting.ifNeeded name
  (if first then [] else ['\n']) ++ s!"==> {shown} <==\n".toList

def oldPortion (args : List (List Char)) : Tool (List (List Char)) := do
  match args with
  | ('-' :: d :: more) :: rest =>
    if isDecimalDigit d then
      let digits := (d :: more).takeWhile isDecimalDigit
      let letters := (d :: more).drop digits.length
      let bad := letters.filter fun c => !"cbkmlqvz".toList.contains c
      match bad with
      | c :: _ =>
        warn s!"{(← call).label}invalid trailing option -- {c}\n"
        hint 1
      | [] =>
        let units := letters.filter fun c => "bkm".toList.contains c
        let counted := letters.contains 'c' || units ≠ []
        let shown := letters.filter fun c => "qvz".toList.contains c
        let value := digits ++ (units.getLast?).toList
        let first := ('-' :: (if counted then 'c' else 'n') :: value) :: shown.map fun c => ['-', c]
        return first ++ rest
    else return args
  | args => return args

def signedCount (text : List Char) : Option Char × List Char :=
  match text with
  | '+' :: rest => (some '+', rest)
  | '-' :: rest => (some '-', rest)
  | text => (none, text)

def portionOf (options : Options) (usual : Char) : Tool (Option Char × Bool × Nat) := do
  let chosen := options.filter fun (c, _) => c == 'n' || c == 'c'
  let mut found := (none, true, 10)
  for (letter, text) in chosen do
    let (sign, digits) := signedCount text
    let count ← countIn (letter == 'n') (if sign = some usual then text else digits)
    found := (sign, letter == 'n', count)
  return found

/-- Copies parts of files, with a line before each if `titled` holds. No more than `most?` octets of each
are needed. -/
def copyParts (names : List (List Char)) (titled : Bool) (part : List Char → List Char)
    (portion? most? : Option Nat) : Tool Unit := do
  let names := if names.isEmpty then [['-']] else names
  let tool := (← call).name
  let mut first := true
  for name in names do
    let endless ← isEndless name
    let found ← match portion?, (← call).input? 0 with
      | some _, some input =>
        if name = ['-'] && !endless then pure input else readSome most? name
      | _, _ => readSome most? name
    match found with
    | .error .isDirectory =>
      if titled then print (header first name)
      first := false
      complain s!"error reading {Quoting.always name}: Is a directory" 1
    | .error failure =>
      complain s!"cannot open {Quoting.always name} for reading: {failure.reason}" 1
    | .ok octets =>
      if titled then print (header first name)
      first := false
      let found := part octets
      print found
      if name = ['-'] && tool = "head" && !endless then
        match portion? with
        | some wanted =>
          if wanted ≤ found.length then takes found.length 8192
          else modify fun work => { work with taken := .all, starved := true }
        | none => pure ()

def head : Tool Unit := do
  let args ← oldPortion (← call).args
  let (options, names) ← optionsFrom "qvz".toList "nc".toList
    [("lines", 'n'), ("bytes", 'c'), ("quiet", 'q'), ("silent", 'q'), ("verbose", 'v'),
      ("zero-terminated", 'z')] false 1 args
  let (sign, lines, count) ← portionOf options '+'
  let portion : Portion := ⟨lines, count, sign = some '-'⟩
  let separator := if options.has 'z' then '\x00' else '\n'
  let titled := match options.lastOf? "qv" with
    | some 'q' => false
    | some _ => true
    | none => 1 < names.length
  let input := match (← call).input? 0 with
    | some (.ok octets) => octets
    | _ => []
  let full := if lines then count ≤ (input.filter (· == separator)).length else count ≤ input.length
  let portion? := if portion.except then none
    else some (if full then 0 else input.length + 1)
  let most? := if lines || portion.except then none else some count
  copyParts names titled (portion.start separator) portion? most?

def isOldCount (word : List Char) : Bool :=
  match word with
  | '+' :: d :: _ => isDecimalDigit d
  | '-' :: d :: _ => isDecimalDigit d
  | _ => false

/-- The arguments of `tail` with an old count at their start in the new form. -/
def oldFinal (args : List (List Char)) : List (List Char) :=
  match args with
  | (sign :: rest) :: others =>
    let digits := rest.takeWhile isDecimalDigit
    let letters := rest.drop digits.length
    if isOldCount (sign :: rest) && others.length ≤ 1 &&
        (letters = [] || letters = ['c'] || letters = ['l'] || letters = ['f'] || letters = ['b']) then
      let letter := if letters = ['c'] || letters = ['b'] then 'c' else 'n'
      let unit := if letters = ['b'] then ['b'] else []
      let follow := if letters = ['f'] then [['-', 'f']] else []
      ('-' :: letter :: (if sign = '+' then ['+'] else []) ++ digits ++ unit) :: follow ++ others
    else args
  | args => args

def tail : Tool Unit := do
  let args := oldFinal (← call).args
  match args.find? fun word => word.head? = some '-' && isOldCount word with
  | some (_ :: d :: _) => refuse s!"option used in invalid context -- {d}" 1
  | _ => pure ()
  let (options, names) ← optionsFrom "qvzfF".toList "ncs".toList
    [("lines", 'n'), ("bytes", 'c'), ("quiet", 'q'), ("silent", 'q'), ("verbose", 'v'),
      ("zero-terminated", 'z'), ("follow", 'f'), ("retry", 'F'), ("sleep-interval", 's')] false 1 args
  let (sign, lines, count) ← portionOf options '-'
  let portion : Portion := ⟨lines, count, sign = some '+'⟩
  let separator := if options.has 'z' then '\x00' else '\n'
  let titled := match options.lastOf? "qv" with
    | some 'q' => false
    | some _ => true
    | none => 1 < names.length
  copyParts names titled (portion.final separator) none none
  if options.has 'f' || options.has 'F' then
    let files ← files
    if names ≠ [] && !names.any files.exists? then complain "no files remaining" 1
    else if names ≠ [] then modify fun work => { work with endless := true }

/-! ### Copies to many places -/

def tee : Tool Unit := do
  let (options, names) ← options "aip" ""
    [("append", 'a'), ("ignore-interrupts", 'i'), ("output-error", 'p')] 1
  let octets := ((← inputOf 0).toOption).getD []
  let complaints ← names.filterMapM fun name => do
    match ← store name [] true with
    | none =>
      let failure? ← store name octets (options.has 'a')
      return failure?.map fun failure => plainly name failure
    | some failure => return some (plainly name failure)
  let (early, late) := (complaints, ([] : List String))
  early.forM fun message => complain message 1
  print octets
  late.forM fun message => complain message 1

end Proctor.Machine.Tool

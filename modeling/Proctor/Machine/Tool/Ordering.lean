import Proctor.Machine.Tool.Column
import Proctor.Machine.Tool.Quantity

/-! The tools that order lines, and those that compare ordered lines. -/
namespace Proctor.Machine.Tool

/-! ### Orders -/

def isBlank (c : Char) : Bool := c == ' ' || c == '\t'

def compareOctets (a b : List Char) : Ordering :=
  if a = b then .eq else if Octets.before a b then .lt else .gt

/-- A decimal number as text: whether it is negative, its digits before the point and those after it. -/
def decimalOf (text : List Char) : Bool × List Char × List Char :=
  let text := text.dropWhile isBlank
  let (negative, text) := match text with
    | '-' :: rest => (true, rest)
    | text => (false, text)
  let whole := text.takeWhile isDecimalDigit
  let fraction := match text.drop whole.length with
    | '.' :: rest => rest.takeWhile isDecimalDigit
    | _ => []
  (negative, whole.dropWhile (· == '0'), (fraction.reverse.dropWhile (· == '0')).reverse)

def compareDigits (a b : List Char × List Char) : Ordering :=
  (compare a.1.length b.1.length).then ((compareOctets a.1 b.1).then (compareOctets a.2 b.2))

def compareDecimals (a b : List Char) : Ordering :=
  let (negativeA, wholeA, fractionA) := decimalOf a
  let (negativeB, wholeB, fractionB) := decimalOf b
  let negativeA := negativeA && (wholeA ≠ [] || fractionA ≠ [])
  let negativeB := negativeB && (wholeB ≠ [] || fractionB ≠ [])
  match negativeA, negativeB with
  | false, false => compareDigits (wholeA, fractionA) (wholeB, fractionB)
  | true, true => compareDigits (wholeB, fractionB) (wholeA, fractionA)
  | true, false => .lt
  | false, true => .gt

/-- The order of the numbers of any form with which texts start; what is none comes first. -/
def compareQuantities (a b : List Char) : Ordering :=
  match Quantity.read? a, Quantity.read? b with
  | none, none => .eq
  | none, some _ => .lt
  | some _, none => .gt
  | some (a, _), some (b, _) =>
    let rank : Quantity → Int
      | .undefined _ => 0
      | .infinite true => 1
      | .finite _ _ _ => 2
      | .infinite false => 3
    match a, b with
    | .finite negativeA numA denA, .finite negativeB numB denB =>
      let left : Int := if negativeA then -((numA * denB : Nat) : Int) else (numA * denB : Nat)
      let right : Int := if negativeB then -((numB * denA : Nat) : Int) else (numB * denA : Nat)
      compare left right
    | a, b => compare (rank a) (rank b)

def unitRank (text : List Char) : Nat :=
  let rest := (text.dropWhile isBlank).dropWhile fun c => c = '-' || c = '.' || isDecimalDigit c
  match rest.head? with
  | some 'k' => 1
  | some c => match "KMGTPEZYRQ".toList.idxOf? c with
    | some n => n + 1
    | none => 0
  | none => 0

def compareSized (a b : List Char) : Ordering :=
  let signed (text : List Char) : Int :=
    let (negative, whole, fraction) := decimalOf text
    if whole = [] && fraction = [] then 0
    else if negative then -((unitRank text : Int) + 1) else unitRank text + 1
  (compare (signed a) (signed b)).then (compareDecimals a b)

def monthOf (text : List Char) : Nat :=
  let name := ((text.dropWhile isBlank).take 3).map Char.toUpper
  let months := ["JAN", "FEB", "MAR", "APR", "MAY", "JUN", "JUL", "AUG", "SEP", "OCT", "NOV", "DEC"]
  match months.idxOf? (String.ofList name) with
  | some n => n + 1
  | none => 0

def versionRank (c : Char) : Int :=
  if c = '~' then -1 else if isDecimalDigit c then 0 else if c.isAlpha then c.toNat
  else (c.toNat : Int) + 256

/-- The order of versions: what is no number octet by octet, and numbers by their values. The number
bounds the parts. -/
def compareVersions : Nat → List Char → List Char → Ordering
  | 0, _, _ => .eq
  | bound + 1, a, b =>
    if a = [] && b = [] then .eq
    else
      let wordA := a.takeWhile fun c => !isDecimalDigit c
      let wordB := b.takeWhile fun c => !isDecimalDigit c
      let length := max wordA.length wordB.length
      let ranks (word : List Char) : List Int :=
        (word.map versionRank) ++ List.replicate (length - word.length) 0
      let words := ((ranks wordA).zip (ranks wordB)).foldl (fun found (x, y) =>
        found.then (compare x y)) Ordering.eq
      let (restA, restB) := (a.drop wordA.length, b.drop wordB.length)
      let digitsA := restA.takeWhile isDecimalDigit
      let digitsB := restB.takeWhile isDecimalDigit
      words.then ((compare (ofDigits 10 digitsA) (ofDigits 10 digitsB)).then
        (compareVersions bound (restA.drop digitsA.length) (restB.drop digitsB.length)))

/-! ### Keys -/

/-- The part of a line by which it is ordered, and how. -/
structure SortKey where
  startField : Nat
  startChar : Nat
  finish? : Option (Nat × Nat)
  startFlags : List Char
  endFlags : List Char
deriving Repr

namespace SortKey

def flags (key : SortKey) : List Char := key.startFlags ++ key.endFlags

def has (key : SortKey) (flag : Char) : Bool := key.flags.contains flag

/-- The text after some fields; `last` tells that the separator after them goes too. -/
def afterFields (separator? : Option Char) (last : Bool) : Nat → List Char → List Char
  | 0, text => text
  | n + 1, text =>
    let rest := match separator? with
      | some separator =>
        let rest := text.dropWhile (· ≠ separator)
        if n = 0 && !last then rest else rest.drop 1
      | none =>
        let isGap (c : Char) : Bool := isBlank c || c = '\n'
        (text.dropWhile isGap).dropWhile fun c => !isGap c
    afterFields separator? last n rest

def text (key : SortKey) (separator? : Option Char) (line : List Char) : List Char :=
  let rest := afterFields separator? true key.startField line
  let rest := if key.startFlags.contains 'b' then rest.dropWhile isBlank else rest
  let rest := rest.drop key.startChar
  match key.finish? with
  | none => rest
  | some (field, char) =>
    let after :=
      if char = 0 then afterFields separator? false field line
      else
        let after := afterFields separator? true (field - 1) line
        let after := if key.endFlags.contains 'b' then after.dropWhile isBlank else after
        after.drop char
    rest.take (rest.length - after.length)

/-- A text without what the key passes over, and with letters in one case if it asks for that. -/
def reduced (key : SortKey) (text : List Char) : List Char :=
  let text :=
    if key.has 'd' then text.filter fun c => isBlank c || c.isAlphanum
    else if key.has 'i' then text.filter fun c => ' ' ≤ c && c ≤ '~'
    else text
  if key.has 'f' then text.map Char.toUpper else text

def compareTexts (key : SortKey) (a b : List Char) : Ordering :=
  let found :=
    if key.has 'n' then compareDecimals a b
    else if key.has 'g' then compareQuantities a b
    else if key.has 'h' then compareSized a b
    else if key.has 'M' then compare (monthOf a) (monthOf b)
    else if key.has 'V' then compareVersions (a.length + b.length + 1) a b
    else compareOctets (key.reduced a) (key.reduced b)
  if key.has 'r' then found.swap else found

end SortKey

def keyFlags : List Char := "bdfgiMhnRrV".toList

def keyCount (text : List Char) : Option Nat × List Char :=
  let digits := text.takeWhile isDecimalDigit
  (if digits = [] then none else some (ofDigits 10 digits), text.drop digits.length)

def keyOf (text : List Char) : Tool SortKey := do
  let bad {α : Type} (why : String) : Tool α :=
    refuse s!"{why}: invalid field specification {Quoting.text text}" 2
  let badCount {α : Type} (why : String) (rest : List Char) : Tool α :=
    refuse s!"{why}: invalid count at start of {Quoting.text rest}" 2
  let position (what : String) (text : List Char) : Tool (Nat × Nat × List Char × List Char) := do
    match keyCount text with
    | (none, _) => badCount s!"invalid number {what}" text
    | (some 0, _) => bad "field number is zero"
    | (some field, rest) =>
      let (char, rest) ← match rest with
        | '.' :: rest =>
          match keyCount rest with
          | (none, _) => badCount "invalid number after '.'" rest
          | (some char, rest) => pure (char, rest)
        | rest => pure (0, rest)
      let flags := rest.takeWhile keyFlags.contains
      return (field, char, flags, rest.drop flags.length)
  let (field, char, flags, rest) ← position "at field start" text
  let dotted := (text.dropWhile isDecimalDigit).head? = some '.'
  if dotted && char = 0 then bad "character offset is zero"
  match rest with
  | [] => return ⟨field - 1, char - 1, none, flags, []⟩
  | ',' :: rest =>
    let (endField, endChar, endFlags, rest) ← position "after ','" rest
    if rest ≠ [] then bad "stray character in field spec"
    return ⟨field - 1, char - 1, some (endField, endChar), flags, endFlags⟩
  | _ => bad "stray character in field spec"

/-- The keys that options name; one without flags has those of the whole. -/
def keysFrom (options : Options) : Tool (List SortKey) := do
  let common := (options.filter fun (c, _) => keyFlags.contains c).map (·.1)
  let sorts := (options.last? 'Ş').map String.ofList
  let named := match sorts with
    | some "numeric" => ['n']
    | some "general-numeric" => ['g']
    | some "human-numeric" => ['h']
    | some "month" => ['M']
    | some "version" => ['V']
    | _ => []
  let common := common ++ named
  let keys ← ((options.filter (·.1 == 'k')).map (·.2)).mapM keyOf
  let keys := keys.map fun key =>
    if key.flags = [] then { key with startFlags := common, endFlags := common } else key
  let keys := if keys = [] && common.any (· ≠ 'r') then [⟨0, 0, none, common, common⟩] else keys
  for key in keys do
    let kinds := "nghM".toList.filter key.has
    let plain := key.has 'V' || key.has 'R' || key.has 'd' || key.has 'i'
    if 1 < kinds.length + (if plain then 1 else 0) then
      let shown := "dfghiMnRV".toList.filter fun c => c ≠ 'f' && key.has c
      refuse s!"options '-{String.ofList shown}' are incompatible" 2
  return keys

/-! ### Sorting -/

def compareByKeys (keys : List SortKey) (separator? : Option Char) (a b : List Char) : Ordering :=
  keys.foldl (fun found key =>
    if found = .eq then key.compareTexts (key.text separator? a) (key.text separator? b) else found) .eq

def withoutEqual (same : List Char → List Char → Bool) (lines : List (List Char)) : List (List Char) :=
  (lines.foldl (fun found line =>
    if found.head?.any fun last => same last line then found else line :: found)
    ([] : List (List Char))).reverse

def sortedSources (names : List (List Char)) (ending : Char) : Tool (List (List (List Char))) := do
  let files ← files
  for name in names do
    if name ≠ ['-'] && (streamOf? name).isNone then
      match files.find name with
      | .ok _ => pure ()
      | .error failure => refuse s!"cannot read: {Quoting.ifNeeded name}: {failure.reason}" 2
  names.mapM fun name => do
    match ← readNamed name with
    | .ok octets => return Octets.piecesBy ending octets
    | .error failure => refuse s!"read failed: {Quoting.ifNeeded name}: {failure.reason}" 2

def sortOptions : List (String × Char) :=
  [("ignore-leading-blanks", 'b'), ("check", 'Č'), ("dictionary-order", 'd'), ("ignore-case", 'f'),
    ("general-numeric-sort", 'g'), ("ignore-nonprinting", 'i'), ("key", 'k'), ("merge", 'm'),
    ("month-sort", 'M'), ("numeric-sort", 'n'), ("human-numeric-sort", 'h'), ("version-sort", 'V'),
    ("random-sort", 'R'), ("output", 'o'), ("reverse", 'r'), ("sort", 'Ş'), ("stable", 's'),
    ("buffer-size", 'S'), ("field-separator", 't'), ("temporary-directory", 'T'), ("unique", 'u'),
    ("zero-terminated", 'z'), ("parallel", 'Ţ')]

def sort : Tool Unit := do
  let (options, names) ← options "bcCdfghiMmnRrsuVzČ" "koStTŞČŢ" sortOptions 2
  let separator? ← match options.last? 't' with
    | none => pure none
    | some [] => refuse "empty tab" 2
    | some [c] => pure (some c)
    | some ['\\', '0'] => pure (some '\x00')
    | some text => refuse s!"multi-character tab {Quoting.text text}" 2
  let keys ← keysFrom options
  let ending := if options.has 'z' then '\x00' else '\n'
  let names := if names = [] then [['-']] else names
  let reverse := options.has 'r'
  let unique := options.has 'u'
  let byKeys := compareByKeys keys separator?
  let order (a b : List Char) : Ordering :=
    let found := byKeys a b
    if found ≠ .eq || (keys ≠ [] && (unique || options.has 's')) then found
    else
      let plain := compareOctets a b
      if reverse then plain.swap else plain
  let checks := options.has 'c' || options.has 'C' || options.has 'Č'
  if checks then
    match names[1]? with
    | some extra => refuse s!"extra operand {Quoting.always extra} not allowed with -c" 2
    | none => pure ()
    let lines := (← sortedSources names ending).flatten
    let pairs := (lines.zip (lines.drop 1)).zipIdx 2
    let bad := pairs.find? fun ((a, b), _) =>
      if unique then order a b != .lt else order a b == .gt
    match bad with
    | none => pure ()
    | some ((_, b), n) =>
      let quiet := options.has 'C' || (options.last? 'Č').any fun text =>
        text = "quiet".toList || text = "silent".toList
      if !quiet then
        let name := String.ofList (names.headD ['-'])
        complain s!"{name}:{n}: disorder: {String.ofList b}" 1
      fail 1
  else
    let lists ← sortedSources names ending
    let inOrder (a b : List Char) : Bool := order a b != .gt
    let sorted :=
      if options.has 'm' then
        lists.foldl (fun found lines => found.merge lines inOrder) ([] : List (List Char))
      else lists.flatten.mergeSort inOrder
    let sorted := if unique then withoutEqual (fun a b => order a b == .eq) sorted else sorted
    let output := sorted.flatMap (· ++ [ending])
    match options.last? 'o' with
    | none => print output
    | some name =>
      match ← store name output false with
      | none => pure ()
      | some failure => refuse s!"open failed: {Quoting.ifNeeded name}: {failure.reason}" 2

/-! ### Repeated lines -/

/-- The groups of neighbours that are the same. The lines of a group come last first. -/
def groupedBy (same : List Char → List Char → Bool) (lines : List (List Char)) :
    List (List (List Char)) :=
  (lines.foldl (fun found line =>
    match found with
    | (last :: more) :: others =>
      if same last line then (line :: last :: more) :: others else [line] :: found
    | _ => [line] :: found) ([] : List (List (List Char)))).reverse.map List.reverse

def uniq : Tool Unit := do
  let (options, names) ← options "cdDizuĂĞ" "fswĂĞ"
    [("count", 'c'), ("repeated", 'd'), ("all-repeated", 'Ă'), ("skip-fields", 'f'),
      ("ignore-case", 'i'), ("skip-chars", 's'), ("unique", 'u'), ("zero-terminated", 'z'),
      ("check-chars", 'w'), ("group", 'Ğ')] 1
  match names[2]? with
  | some extra => misused s!"extra operand {Quoting.always extra}" 1
  | none => pure ()
  let number (letter : Char) (what : String) : Tool (Option Nat) := do
    match options.last? letter with
    | none => return none
    | some text =>
      match number? text with
      | some n => return some n
      | none => refuse s!"{String.ofList text}: invalid number of {what}" 1
  let skippedFields := (← number 'f' "fields to skip").getD 0
  let skippedChars := (← number 's' "bytes to skip").getD 0
  let compared ← number 'w' "bytes to compare"
  let ending := if options.has 'z' then '\x00' else '\n'
  let name := names.headD ['-']
  match ← readNamed name with
  | .error failure =>
    if failure = .isDirectory then refuse s!"error reading {Quoting.always name}: Is a directory" 1
    else refuse (plainly name failure) 1
  | .ok octets =>
    let part (line : List Char) : List Char :=
      let rest := (SortKey.afterFields none true skippedFields line).drop skippedChars
      let rest := match compared with
        | some n => rest.take n
        | none => rest
      if options.has 'i' then rest.map Char.toUpper else rest
    let groups := groupedBy (fun a b => part a = part b) (Octets.piecesBy ending octets)
    let every := options.has 'D' || options.has 'Ă'
    let repeated := options.has 'd' || every
    let kept := groups.filter fun group =>
      (!repeated || 1 < group.length) && (!options.has 'u' || group.length = 1)
    let style := ((options.last? 'Ă').map String.ofList).getD "none"
    let shown (group : List (List Char)) : List (List Char) :=
      if every then group
      else
        let first := group.headD []
        [if options.has 'c' then rightAligned 7 (digitsOf 10 group.length) ++ ' ' :: first else first]
    let blocks := kept.map fun group => (shown group).flatMap (· ++ [ending])
    let output :=
      if options.has 'Ğ' then
        let style := ((options.last? 'Ğ').map String.ofList).getD ""
        let whole := groups.map fun group => group.flatMap (· ++ [ending])
        let inner := [ending].intercalate whole
        let before := (style = "prepend" || style = "both") && whole ≠ []
        let after := (style = "append" || style = "both") && whole ≠ []
        (if before then [ending] else []) ++ inner ++ if after then [ending] else []
      else if every && style = "prepend" then blocks.flatMap ([ending] ++ ·)
      else if every && style = "separate" then [ending].intercalate blocks
      else blocks.flatten
    match names[1]? with
    | none => print output
    | some target =>
      if target = ['-'] then print output
      else
        match ← store target output false with
        | none => pure ()
        | some failure => refuse (plainly target failure) 1

/-! ### Two ordered files -/

/-- A line of one file or of both. -/
inductive Side where
  | first (line : List Char)
  | second (line : List Char)
  | both (line : List Char)

/-- The lines of two ordered files in one order. The number bounds the lines. -/
def sides : Nat → List (List Char) → List (List Char) → List Side
  | 0, _, _ => []
  | _, [], others => others.map .second
  | _, lines, [] => lines.map .first
  | bound + 1, a :: as, b :: bs =>
    match compareOctets a b with
    | .lt => .first a :: sides bound as (b :: bs)
    | .gt => .second b :: sides bound (a :: as) bs
    | .eq => .both a :: sides bound as bs

def isDisordered (lines : List (List Char)) : Bool :=
  (lines.zip (lines.drop 1)).any fun (a, b) => compareOctets a b == .gt

def comm : Tool Unit := do
  let (options, names) ← options "123zĆŃŤ" "Ů"
    [("check-order", 'Ć'), ("nocheck-order", 'Ń'), ("output-delimiter", 'Ů'), ("total", 'Ť'),
      ("zero-terminated", 'z')] 1
  let (one, two) ← match names with
    | [] => misused "missing operand" 1
    | [one] => misused s!"missing operand after {Quoting.always one}" 1
    | [one, two] => pure (one, two)
    | _ :: _ :: extra :: _ => misused s!"extra operand {Quoting.always extra}" 1
  let ending := if options.has 'z' then '\x00' else '\n'
  let lists ← [one, two].mapM fun name => do
    match ← readNamed name with
    | .ok octets => return Octets.piecesBy ending octets
    | .error failure => refuse (plainly name failure) 1
  let (as, bs) := (lists.headD [], (lists.drop 1).headD [])
  let mark := (options.last? 'Ů').getD ['\t']
  let indent (columns : List Char) : List Char :=
    (columns.filter fun c => !options.has c).flatMap fun _ => mark
  let found := sides (as.length + bs.length + 1) as bs
  let lines := found.filterMap fun
    | .first line => if options.has '1' then none else some line
    | .second line => if options.has '2' then none else some (indent ['1'] ++ line)
    | .both line => if options.has '3' then none else some (indent ['1', '2'] ++ line)
  let bad := [(as, 1), (bs, 2)].filter fun (lines, _) => isDisordered lines
  print (lines.flatMap (· ++ [ending]))
  if options.has 'Ť' then
    let count (wanted : Side → Bool) : List Char := digitsOf 10 (found.filter wanted).length
    print (mark.intercalate [count fun | .first _ => true | _ => false,
      count fun | .second _ => true | _ => false, count fun | .both _ => true | _ => false,
      "total".toList] ++ [ending])
  let unpaired := found.any fun
    | .both _ => false
    | _ => true
  if bad ≠ [] && !options.has 'Ń' && (unpaired || options.has 'Ć') then
    bad.forM fun (_, n) => complain s!"file {n} is not in sorted order" 1
    if !options.has 'Ć' then complain "input is not in sorted order" 1

/-! ### Joining -/

def joinFields (separator? : Option Char) (line : List Char) : List (List Char) :=
  match separator? with
  | some separator => Text.fields separator line
  | none =>
    let words := (line.foldl (fun found c =>
      if isBlank c then [] :: found
      else
        match found with
        | word :: others => (c :: word) :: others
        | [] => [[c]]) ([[]] : List (List Char)))
    (words.reverse.map List.reverse).filter (· ≠ [])

structure Joining where
  separator? : Option Char
  fields : Nat × Nat
  caseless : Bool
  alone : List Char
  paired : Bool
  empty : List Char
  /-- The fields that are shown: the key, or a field of a file. -/
  layout? : Option (List (Option (Bool × Nat)))

namespace Joining

/-- The key of a line, in one case if that does not count. -/
def key (joining : Joining) (second : Bool) (line : List (List Char)) : List Char :=
  let field := if second then joining.fields.2 else joining.fields.1
  let text := line.getD (field - 1) []
  if joining.caseless then text.map Char.toUpper else text

def shown (joining : Joining) (a? b? : Option (List (List Char))) : List Char :=
  let mark := joining.separator?.getD ' '
  let filled (text : List Char) : List Char := if text = [] then joining.empty else text
  let key := match a?, b? with
    | some a, _ => (a[joining.fields.1 - 1]?).getD []
    | none, some b => (b[joining.fields.2 - 1]?).getD []
    | none, none => []
  let rest (line? : Option (List (List Char))) (field : Nat) : List (List Char) :=
    (line?.map fun line => (line.eraseIdx (field - 1))).getD []
  let fields := match joining.layout? with
    | none => key :: (rest a? joining.fields.1 ++ rest b? joining.fields.2)
    | some layout => layout.map fun (field? : Option (Bool × Nat)) =>
      match field? with
      | none => key
      | some (second, n) => (((if second then b? else a?).getD [])[n - 1]?).getD []
  [mark].intercalate (fields.map filled)

/-- The joined lines of two ordered files. The number bounds the lines. -/
def lines (joining : Joining) : Nat → List (List (List Char)) → List (List (List Char)) →
    List (List Char)
  | 0, _, _ => []
  | bound + 1, as, bs =>
    let alone (letter : Char) (line : List Char) : List (List Char) :=
      if joining.alone.contains letter then [line] else []
    match as, bs with
    | [], [] => []
    | a :: as, [] => alone '1' (joining.shown (some a) none) ++ lines joining bound as []
    | [], b :: bs => alone '2' (joining.shown none (some b)) ++ lines joining bound [] bs
    | a :: as, b :: bs =>
      match compareOctets (joining.key false a) (joining.key true b) with
      | .lt => alone '1' (joining.shown (some a) none) ++ lines joining bound as (b :: bs)
      | .gt => alone '2' (joining.shown none (some b)) ++ lines joining bound (a :: as) bs
      | .eq =>
        let text := joining.key false a
        let groupA := (a :: as).takeWhile fun line => joining.key false line = text
        let groupB := (b :: bs).takeWhile fun line => joining.key true line = text
        let pairs := if joining.paired then
          groupA.flatMap fun a => groupB.map fun b => joining.shown (some a) (some b) else []
        pairs ++ lines joining bound ((a :: as).drop groupA.length) ((b :: bs).drop groupB.length)

end Joining

def join : Tool Unit := do
  let (options, names) ← options "izĆŃĤ" "12aejotv"
    [("ignore-case", 'i'), ("check-order", 'Ć'), ("nocheck-order", 'Ń'), ("header", 'Ĥ'),
      ("zero-terminated", 'z')] 1
  let (one, two) ← match names with
    | [] => misused "missing operand" 1
    | [one] => misused s!"missing operand after {Quoting.always one}" 1
    | [one, two] => pure (one, two)
    | _ :: _ :: extra :: _ => misused s!"extra operand {Quoting.always extra}" 1
  let field (letter : Char) : Tool Nat := do
    match (options.last? letter).or (options.last? 'j') with
    | none => return 1
    | some text =>
      match number? text with
      | some 0 => refuse s!"invalid field number: {Quoting.text text}" 1
      | some n => return n
      | none => refuse s!"invalid field number: {Quoting.text text}" 1
  let fields := (← field '1', ← field '2')
  let texts (letter : Char) : List (List Char) := (options.filter (·.1 == letter)).map (·.2)
  let layout? ← match texts 'o' with
    | [] => pure none
    | found =>
      let parts := found.flatMap fun text =>
        (Text.fields ',' (text.map fun c => if c = ' ' then ',' else c)).filter (· ≠ [])
      let layout ← parts.mapM fun part => do
        match part with
        | ['0'] => return none
        | '1' :: '.' :: digits => return some (false, (number? digits).getD 1)
        | '2' :: '.' :: digits => return some (true, (number? digits).getD 1)
        | _ => refuse s!"invalid file number in field spec: {Quoting.text part}" 1
      pure (some layout)
  let separator? ← match options.last? 't' with
    | none => pure none
    | some [] => pure (some '\n')
    | some [c] => pure (some c)
    | some ['\\', '0'] => pure (some '\x00')
    | some text => refuse s!"multi-character tab {Quoting.text text}" 1
  let joining : Joining :=
    { separator?, fields, caseless := options.has 'i'
      alone := (texts 'a' ++ texts 'v').flatten, paired := texts 'v' = []
      empty := (options.last? 'e').getD [], layout? }
  let ending := if options.has 'z' then '\x00' else '\n'
  let lists ← [one, two].mapM fun name => do
    match ← readNamed name with
    | .ok octets => return (name, Octets.piecesBy ending octets)
    | .error failure => refuse (plainly name failure) 1
  let split := lists.map fun (_, lines) => lines.map (joinFields separator?)
  let (as, bs) := (split.headD [], (split.drop 1).headD [])
  let found := joining.lines (as.length + bs.length + 1) as bs
  print (found.flatMap (· ++ [ending]))
  if !options.has 'Ń' then
    let mut disordered := false
    for ((name, lines), second) in lists.zip ([false, true] : List Bool) do
      let keys := lines.map fun line => joining.key second (joinFields separator? line)
      let bad := ((keys.zip (keys.drop 1)).zip ((lines.drop 1).zipIdx 2)).find? fun ((a, b), _) =>
        compareOctets a b == .gt
      match bad with
      | some (_, line, n) =>
        complain s!"{String.ofList name}:{n}: is not sorted: {String.ofList line}" 1
        disordered := true
      | none => pure ()
    if disordered && !options.has 'Ć' then complain "input is not in sorted order" 1

end Proctor.Machine.Tool

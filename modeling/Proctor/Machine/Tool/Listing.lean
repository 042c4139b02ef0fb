import Proctor.Machine.Tool.Basic
import Proctor.Machine.Wildcard

/-! The tool that lists what lies in directories. -/
namespace Proctor.Machine

/-! ### Permissions -/

def Content.letter (content : Content) : Char :=
  match content with
  | .directory => 'd'
  | .link _ => 'l'
  | .pipe => 'p'
  | .file _ => '-'
  | .program _ => '-'
  | _ => 'c'

def Node.permissions (node : Node) : List Char :=
  let bit (n : Nat) : Bool := node.mode / Nat.pow 2 n % 2 = 1
  let run (allowed special : Bool) (both only : Char) : Char :=
    if special then (if allowed then both else only) else if allowed then 'x' else '-'
  let show3 (n : Nat) (last : Char) : List Char :=
    [if bit (n + 2) then 'r' else '-', if bit (n + 1) then 'w' else '-', last]
  node.content.letter :: (show3 6 (run (bit 6) (bit 11) 's' 'S') ++
    show3 3 (run (bit 3) (bit 10) 's' 'S') ++ show3 0 (run (bit 0) (bit 9) 't' 'T'))

def Files.linkCount (files : Files) (place : Place) (node : Node) : Nat :=
  if node.content.isDirectory then
    2 + ((files.namesAt place).filter fun name =>
      (files.content? (place ++ [name])).any Content.isDirectory).length
  else 1

def Node.blocks (node : Node) : Nat :=
  match node.content with
  | .directory => 4
  | .file octets => (octets.length + 4095) / 4096 * 4
  | .program _ => 64
  | _ => 0

/-! ### Listings -/

/-- What is listed: its name, where it lies and what it is. -/
structure Listed where
  name : List Char
  place : Place
  node : Node

structure Listing where
  files : Files
  options : Tool.Options
  long : Bool
  owner : Bool
  group : Bool
  numeric : Bool

namespace Listing

def has (listing : Listing) (letter : Char) : Bool := listing.options.has letter

def shownName (listing : Listing) (name : List Char) : List Char :=
  if listing.has 'Q' then
    '"' :: name.flatMap (fun c =>
      if c = '"' || c = '\\' then ['\\', c] else if Quoting.isHidden c then Quoting.escaped c else [c])
      ++ ['"']
  else if listing.has 'b' then
    name.flatMap fun c =>
      if c = ' ' || c = '\\' then ['\\', c] else if Quoting.isHidden c then Quoting.escaped c else [c]
  else if listing.has 'q' then name.map fun c => if Quoting.isHidden c then '?' else c
  else name

def mark (listing : Listing) (node : Node) : List Char :=
  let all := listing.has 'F'
  let kinds := all || listing.has 'Ť'
  match node.content with
  | .directory => if kinds || listing.has 'p' then ['/'] else []
  | .link _ => if kinds then ['@'] else []
  | .pipe => if kinds then ['|'] else []
  | .file _ => if all && node.mode &&& 0o111 ≠ 0 then ['*'] else []
  | .program _ => if all then ['*'] else []
  | _ => []

def humanSize (octets : Nat) : List Char :=
  let units := ['K', 'M', 'G', 'T']
  let rec walk : List Char → Nat → List Char
    | [], _ => digitsOf 10 octets
    | unit :: others, size =>
      if octets < size * 10 then
        let tenths := (octets * 10 + size - 1) / size
        if tenths < 100 then digitsOf 10 (tenths / 10) ++ '.' :: digitsOf 10 (tenths % 10) ++ [unit]
        else digitsOf 10 ((octets + size - 1) / size) ++ [unit]
      else if octets < size * 1024 then digitsOf 10 ((octets + size - 1) / size) ++ [unit]
      else walk others (size * 1024)
  if octets < 1024 then digitsOf 10 octets else walk units 1024

def size (listing : Listing) (octets : Nat) : List Char :=
  if listing.has 'h' then humanSize octets else digitsOf 10 octets

def space (listing : Listing) (node : Node) : List Char :=
  if listing.has 'h' then (if node.blocks = 0 then ['0'] else humanSize (node.blocks * 1024))
  else digitsOf 10 node.blocks

/-- The parts of a line before the name, each with whether it stands at the right of its column. -/
def details (listing : Listing) (listed : Listed) : List (List Char × Bool) :=
  let node := listed.node
  let who := if listing.numeric then ['0'] else "root".toList
  (if listing.has 'i' then [(digitsOf 10 (listed.place.flatten.length + 100), true)] else []) ++
    (if listing.has 's' then [(listing.space node, true)] else []) ++
    if listing.long then
      [(node.permissions, false),
        (digitsOf 10 (listing.files.linkCount listed.place node), true)] ++
        (if listing.owner then [(who, false)] else []) ++
        (if listing.group then [(who, false)] else []) ++
        [(if node.content.isDevice then "1, 3".toList else listing.size node.size, true),
          ("Jan  1 00:00".toList, false)]
    else []

def lines (listing : Listing) (all : List Listed) : List (List Char) :=
  let rows := all.map fun listed => (listed, listing.details listed)
  let widths := rows.foldl (fun widths (_, cells) =>
    cells.zipIdx.map fun ((text, _), i) => max text.length (widths.getD i 0)) ([] : List Nat)
  rows.map fun (listed, cells) =>
    let start := cells.zipIdx.flatMap fun ((text, right), i) =>
      let width := widths.getD i 0
      (if right then Tool.rightAligned width text else Tool.leftAligned width text) ++ [' ']
    let target := match listed.node.content with
      | .link target =>
        if listing.long then
          let found? := (listing.files.node? listed.place.dropLast).bind fun _ =>
            (({ listing.files with current := listed.place.dropLast }).find target).toOption
          " -> ".toList ++ listing.shownName target ++ (found?.map listing.mark).getD []
        else listing.mark listed.node
      | _ => listing.mark listed.node
    start ++ listing.shownName listed.name ++ target

def before (listing : Listing) (a b : Listed) : Bool :=
  let byName := !Octets.before b.name a.name
  let ending (name : List Char) : List Char :=
    match Text.cutLast? '.' name with
    | some (_, rest) => '.' :: rest
    | none => []
  match listing.options.lastOf? "StUfXv" with
  | some 'S' => if a.node.size = b.node.size then byName else b.node.size < a.node.size
  | some 't' =>
    if a.node.modified = b.node.modified then byName else b.node.modified < a.node.modified
  | some 'X' =>
    if ending a.name = ending b.name then byName else !Octets.before (ending b.name) (ending a.name)
  | some 'U' => true
  | some 'f' => true
  | _ => byName

def sorted (listing : Listing) (all : List Listed) : List Listed :=
  let all := all.mergeSort listing.before
  let all := if listing.has 'r' then all.reverse else all
  if listing.has 'Ğ' then
    all.filter (·.node.content.isDirectory) ++ all.filter fun listed => !listed.node.content.isDirectory
  else all

def contents (listing : Listing) (place : Place) : List Listed :=
  let files := listing.files
  let names := (files.namesAt place).filter fun name =>
    (name.head? ≠ some '.' || listing.has 'a' || listing.has 'A' || listing.has 'f') &&
      !(listing.options.any fun (letter, pattern) => letter == 'I' && Wildcard.fits (Wildcard.ofPlain pattern) name)
  let dots : List (List Char × Place) :=
    if listing.has 'a' || listing.has 'f' then [(['.'], place), (['.', '.'], place.dropLast)] else []
  let found := (dots ++ names.map fun name => (name, place ++ [name])).filterMap fun (name, place) =>
    (files.node? place).map fun node =>
      let node := if listing.has 'L' then (files.find (Files.pathOf place)).toOption.getD node else node
      ({ name, place, node } : Listed)
  listing.sorted found

def display (listing : Listing) (all : List Listed) : Tool Unit := do
  if listing.has 'm' then
    if all ≠ [] then Tool.printLine (", ".toList.intercalate (listing.lines all))
  else (listing.lines all).forM Tool.printLine

/-- Prints what lies in directories, which are given with their names, and in those below them. The
number bounds the directories; `first` holds before the first one. -/
def displayDirectories (listing : Listing) (titled : Bool) :
    Nat → Bool → List (List Char × Place) → Tool Unit
  | 0, _, _ => return
  | _, _, [] => return
  | bound + 1, first, (name, place) :: others => do
    let all := listing.contents place
    if titled then Tool.printLine ((if first then [] else ['\n']) ++ listing.shownName name ++ [':'])
    if listing.long || listing.has 's' then
      let sum := all.foldl (fun sum listed => sum + listed.node.blocks) 0
      let shown := if listing.has 'h' && sum ≠ 0 then humanSize (sum * 1024) else digitsOf 10 sum
      Tool.printLine ("total ".toList ++ shown)
    listing.display all
    let below := if listing.has 'R' then all.filterMap fun listed =>
        if listed.node.content.isDirectory && listed.name ≠ ['.'] && listed.name ≠ ['.', '.'] then
          let start := if name.getLast? = some '/' then name else name ++ ['/']
          some (start ++ listed.name, listed.place)
        else none
      else []
    displayDirectories listing titled bound false (below ++ others)

end Listing

namespace Tool

def listingOptions : List (String × Char) :=
  [("all", 'a'), ("almost-all", 'A'), ("escape", 'b'), ("directory", 'd'), ("classify", 'F'),
    ("file-type", 'Ť'), ("no-group", 'G'), ("human-readable", 'h'), ("inode", 'i'), ("ignore", 'I'),
    ("hide", 'I'), ("kibibytes", 'k'), ("dereference", 'L'), ("numeric-uid-gid", 'n'), ("literal", 'N'),
    ("hide-control-chars", 'q'), ("quote-name", 'Q'), ("reverse", 'r'), ("recursive", 'R'), ("size", 's'),
    ("group-directories-first", 'Ğ'), ("color", 'Č'), ("sort", 'Ś'), ("time", 'Ŧ'), ("width", 'w'),
    ("ignore-backups", 'B'), ("dereference-command-line", 'H'), ("full-time", 'l'), ("zero", 'Ż')]

def orderLetters : List (String × Char) :=
  [("size", 'S'), ("time", 't'), ("none", 'U'), ("name", 'Ń'), ("extension", 'X'), ("version", 'v')]

def ls : Tool Unit := do
  let (options, names) ← options "1aAbBcCdfFgGhHiklLmnNopqQrRsStuUvxXŤĞČ" "IwTŚŦČ" listingOptions 2
  let options : Options := options.map fun (letter, value) =>
    if letter = 'Ś' then ((orderLetters.lookup (String.ofList value)).getD 'Ń', []) else (letter, value)
  let long := options.any fun (letter, _) => "lngo".toList.contains letter
  let call ← call
  let files ← files
  let listing : Listing :=
    { files, options, long
      owner := !options.has 'g', group := !(options.has 'o' || options.has 'G')
      numeric := options.has 'n' }
  let names := if names = [] then [['.']] else names
  let still := options.has 'd' || options.has 'F' || long
  let found : List Listed ← names.filterMapM fun name => do
    let own := nodeAt call files false name
    let node? : Except Failure Node := match nodeAt call files true name with
      | .ok node => if options.has 'L' || (!still && node.content.isDirectory) then .ok node else own
      | .error failure => if options.has 'L' then .error failure else own
    match node? with
    | .ok node =>
      let place := ((files.locate (!still) name).toOption).getD []
      return some { name, place, node }
    | .error failure =>
      complain s!"cannot access {Quoting.always name}: {failure.reason}" 2
      return none
  let isListed (listed : Listed) : Bool := listed.node.content.isDirectory && !options.has 'd'
  let singles := listing.sorted (found.filter fun listed => !isListed listed)
  let directories := listing.sorted (found.filter isListed)
  listing.display singles
  if singles ≠ [] && directories ≠ [] then print ['\n']
  let titled := 1 < names.length || options.has 'R' || singles ≠ []
  listing.displayDirectories titled (files.nodes.length + directories.length + 1) true
    (directories.map fun listed => (listed.name, listed.place))

end Tool
end Proctor.Machine

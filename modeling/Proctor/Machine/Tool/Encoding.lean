import Proctor.Machine.Tool.Basic

/-! The tools that spell octets with other characters: letters that stand for some bits each, and listings
of numbers. -/
namespace Proctor.Machine

/-! ### Bits as letters -/

/-- A way to spell octets: letters for some bits each, in groups that are filled up with equals signs. -/
structure Lettering where
  letters : List Char
  bits : Nat
  octets : Nat
  size : Nat

namespace Lettering

def upper : List Char := "ABCDEFGHIJKLMNOPQRSTUVWXYZ".toList

def ofSix : Lettering :=
  ⟨upper ++ "abcdefghijklmnopqrstuvwxyz0123456789+/".toList, 6, 3, 4⟩

def ofFive : Lettering := ⟨upper ++ "234567".toList, 5, 5, 8⟩

def group (way : Lettering) (octets : List Char) : List Char :=
  let number := octets.foldl (fun n c => n * 256 + c.toNat) 0
  let count := (octets.length * 8 + way.bits - 1) / way.bits
  let value := number * Nat.pow 2 (count * way.bits - octets.length * 8)
  let letters := (List.range count).map fun i =>
    (way.letters[value / Nat.pow 2 ((count - 1 - i) * way.bits) % Nat.pow 2 way.bits]?).getD '='
  letters ++ List.replicate (way.size - count) '='

/-- The pieces of a text that have some length; the last one may be shorter. -/
def pieces (size : Nat) (text : List Char) : List (List Char) :=
  let (found, current, _) := text.foldl (fun (found, current, count) c =>
    if count + 1 = size then ((c :: current).reverse :: found, [], 0)
    else (found, c :: current, count + 1)) (([] : List (List Char)), ([] : List Char), 0)
  ((if current = [] then [] else [current.reverse]) ++ found).reverse

def encode (way : Lettering) (octets : List Char) : List Char :=
  (pieces way.octets octets).flatMap way.group

def ungroup (way : Lettering) (text : List Char) : List Char × Bool :=
  let letters := text.takeWhile way.letters.contains
  let number := letters.foldl (fun n c => n * Nat.pow 2 way.bits + way.letters.idxOf c) 0
  let count := letters.length * way.bits / 8
  let octets := (List.range count).map fun i =>
    Octets.char (number / Nat.pow 2 (letters.length * way.bits - (i + 1) * 8))
  let fits := letters.length * way.bits - count * 8 < way.bits && 0 < count
  (octets, text.length = way.size && fits && (text.drop letters.length).all (· == '='))

/-- The octets that letters spell up to the first group that is not as it should be, and whether there
is none. -/
def decode (way : Lettering) (text : List Char) : List Char × Bool :=
  let (found, good) := (pieces way.size text).foldl (fun (found, good) piece =>
    if good then
      let (octets, good) := way.ungroup piece
      (octets :: found, good)
    else (found, good)) (([] : List (List Char)), true)
  (found.reverse.flatten, good)

end Lettering

namespace Tool

def lettered (way : Lettering) : Tool Unit := do
  let (options, names) ← options "di" "w" [("decode", 'd'), ("ignore-garbage", 'i'), ("wrap", 'w')] 1
  let widths ← (options.filter (·.1 == 'w')).mapM fun (_, text) => do
    match number? text with
    | some width => pure width
    | none => refuse s!"invalid wrap size: {Quoting.text text}" 1
  let width := widths.getLast?.getD 76
  let name ← match names with
    | [] => pure ['-']
    | [name] => pure name
    | _ :: other :: _ => misused s!"extra operand {Quoting.text other}" 1
  match ← readNamed name with
  | .error .isDirectory => refuse "read error: Is a directory" 1
  | .error failure => refuse (plainly name failure) 1
  | .ok octets =>
    if options.has 'd' then
      let kept := octets.filter fun c =>
        c ≠ '\n' && (!options.has 'i' || way.letters.contains c || c == '=')
      let (found, good) := way.decode kept
      print found
      if !good then refuse "invalid input" 1
    else
      let letters := way.encode octets
      if width = 0 then print letters
      else print ((Lettering.pieces width letters).flatMap (· ++ ['\n']))

def base64 : Tool Unit := lettered .ofSix

def base32 : Tool Unit := lettered .ofFive

/-! ### Listings -/

/-- How the octets of a block are listed: as names or characters, or as numbers of some size. -/
structure Field where
  kind : Char
  size : Nat
  trailed : Bool

def characterNames : List String :=
  ["nul", "soh", "stx", "etx", "eot", "enq", "ack", "bel", "bs", "ht", "nl", "vt", "ff", "cr", "so", "si",
    "dle", "dc1", "dc2", "dc3", "dc4", "nak", "syn", "etb", "can", "em", "sub", "esc", "fs", "gs", "rs",
    "us", "sp"]

namespace Field

def width (field : Field) : Nat :=
  let bits := field.size * 8
  match field.kind with
  | 'o' => (bits + 2) / 3
  | 'x' => field.size * 2
  | 'u' => (digitsOf 10 (Nat.pow 2 bits - 1)).length
  | 'd' => (digitsOf 10 (Nat.pow 2 (bits - 1))).length + 1
  | _ => 3

def spell (field : Field) (octets : List Char) : List Char :=
  let number := octets.foldr (fun c n => n * 256 + c.toNat) 0
  match field.kind with
  | 'o' => padded field.width (digitsOf 8 number)
  | 'x' => padded field.width (digitsOf 16 number)
  | 'u' => digitsOf 10 number
  | 'd' =>
    let half := Nat.pow 2 (field.size * 8 - 1)
    if number < half then digitsOf 10 number else '-' :: digitsOf 10 (2 * half - number)
  | 'a' =>
    let n := number % 128
    if n = 127 then "del".toList
    else match characterNames[n]? with
      | some name => name.toList
      | none => [Char.ofNat n]
  | _ =>
    let c := Octets.char number
    if c = '\x00' then ['\\', '0']
    else match Quoting.escapes.lookup c with
      | some letter => ['\\', letter]
      | none => if ' ' ≤ c && c ≤ '~' then [c] else padded 3 (digitsOf 8 number)

/-- The line of a block; `total` is the width that all lines share, and `columns` the size of a full
block. -/
def line (field : Field) (reversed : Bool) (columns total : Nat) (block : List Char) : List Char :=
  let count := columns / field.size
  let pad := total - field.width * count
  let parts := Lettering.pieces field.size block
  let shown := parts.zipIdx.flatMap fun (part, i) =>
    let part := part ++ List.replicate (field.size - part.length) '\x00'
    let before := pad * (count - i) / count
    let after := pad * (count - i - 1) / count
    let text := field.spell (if reversed then part.reverse else part)
    rightAligned (before - after + field.width) text
  if field.trailed then
    let blanks := List.replicate (total - shown.length) ' '
    let seen := block.map fun c => if ' ' ≤ c && c ≤ '~' then c else '.'
    shown ++ blanks ++ "  >".toList ++ seen ++ ['<']
  else shown

end Field

def fieldSizes : List (Char × Nat) := [('C', 1), ('S', 2), ('I', 4), ('L', 8)]

/-- The fields that a text such as `x1c` names. The number bounds them. -/
def fieldsOf (whole : List Char) : Nat → List Char → Except String (List Field)
  | 0, _ => .ok []
  | _, [] => .ok []
  | bound + 1, kind :: rest => do
    let (size, rest) ←
      if "ac".toList.contains kind then pure (1, rest)
      else if "doux".toList.contains kind then
        let digits := rest.takeWhile isDecimalDigit
        match digits, rest with
        | [], c :: others =>
          match fieldSizes.lookup c with
          | some size => pure (size, others)
          | none => pure (4, rest)
        | [], [] => pure (4, rest)
        | digits, _ =>
          let size := ofDigits 10 digits
          if ! [1, 2, 4, 8].contains size then
            throw s!"invalid type string {Quoting.text whole};\nthis system doesn't provide a {size}-byte integral type"
          pure (size, rest.drop digits.length)
      else throw s!"invalid character {Quoting.text [kind]} in type string {Quoting.text whole}"
    let trailed := rest.head? = some 'z'
    return ⟨kind, size, trailed⟩ :: (← fieldsOf whole bound (if trailed then rest.drop 1 else rest))

/-- The place that an old way of writing names: in octal, unless a point follows. -/
def oldOffset? (text : List Char) : Option Nat :=
  let digits := if text.head? = some '+' then text.drop 1 else text
  let (digits, factor) := if digits.getLast? = some 'b' then (digits.dropLast, 512) else (digits, 1)
  let (base, digits) := match digits with
    | '0' :: 'x' :: rest => (16, rest)
    | digits => if digits.getLast? = some '.' then (10, digits.dropLast) else (8, digits)
  if digits ≠ [] && digits.all fun c => (digitIn? base c).isSome then
    some (ofDigits base digits * factor)
  else none

/-- The lines of blocks from a place on. A block that is like the one before is told by a star. -/
def listedBlocks (fields : List Field) (reversed every : Bool) (columns : Nat)
    (address : Nat → List Char) (start : Nat) (octets : List Char) : List (List Char) :=
  let total := fields.foldl (fun most field => max most ((field.width + 1) * (columns / field.size))) 0
  let (found, _, _, _) := (Lettering.pieces columns octets).foldl
    (fun (found, place, before?, starred) block =>
      if !every && before? = some block && block.length = columns then
        (if starred then found else ['*'] :: found, place + block.length, before?, true)
      else
        let label := address place
        let lines := fields.zipIdx.map fun (field, i) =>
          (if i = 0 then label else List.replicate label.length ' ') ++
            field.line reversed columns total block
        (lines.reverse ++ found, place + block.length, some block, false))
    (([] : List (List Char)), start, (none : Option (List Char)), false)
  found.reverse

def od : Tool Unit := do
  let (options, names) ← options "abcdfhilosvxw" "AjNStwĘ" [("skip-bytes", 'j'), ("address-radix", 'A'),
    ("read-bytes", 'N'), ("format", 't'), ("output-duplicates", 'v'), ("strings", 'S'),
    ("width", 'w'), ("endian", 'Ę')] 1
  let radix ← match (options.last? 'A').bind List.head? with
    | none => pure 'o'
    | some c =>
      if "doxn".toList.contains c then pure c
      else refuse s!"invalid output address radix '{c}'; it must be one character from [doxn]" 1
  let counted (letter : Char) : Tool (Option Nat) := do
    match options.last? letter with
    | none => return none
    | some text =>
      match sized? text with
      | some n => return some n
      | none => refuse s!"invalid -{letter} argument {Quoting.text text}" 1
  let skipped? ← counted 'j'
  let most? ← counted 'N'
  let short := [('a', "a"), ('b', "o1"), ('c', "c"), ('d', "u2"), ('h', "x2"), ('i', "d4"), ('l', "d8"),
    ('o', "o2"), ('s', "d2"), ('x', "x2")]
  let fields ← options.flatMapM fun (letter, value) => do
    let text? := if letter = 't' then some value else (short.lookup letter).map String.toList
    match text? with
    | none => return []
    | some text =>
      match fieldsOf text (text.length + 1) text with
      | .ok fields => return fields
      | .error message => refuse message 1
  let fields := if fields = [] then [⟨'o', 2, false⟩] else fields
  let modern := options.any fun (c, _) => "AjNtvSw".toList.contains c
  let (names, skipped) := match names with
    | [text] =>
      if !modern && text.head? = some '+' then
        match oldOffset? text with
        | some n => ([], n)
        | none => (names, 0)
      else (names, skipped?.getD 0)
    | [name, text] =>
      if !modern && (text.head?.any fun c => c == '+' || isDecimalDigit c) then
        match oldOffset? text with
        | some n => ([name], n)
        | none => (names, 0)
      else (names, skipped?.getD 0)
    | names => (names, skipped?.getD 0)
  let step := fields.foldl (fun step field => max step field.size) 1
  let columns ← match options.last? 'w' with
    | none => pure 16
    | some [] => pure 32
    | some text =>
      let width := (number? text).getD 0
      if width = 0 || width % step ≠ 0 then
        warn s!"od: warning: invalid width {width}; using {step} instead\n"
        pure step
      else pure width
  let found ← someSources (most?.map (· + skipped)) names plainly 1
  let files ← files
  if found = [] && !(names.any files.exists?) then stop
  let octets := found.flatMap (·.2)
  if octets.length < skipped then refuse "cannot skip past end of combined input" 1
  let octets := (octets.drop skipped)
  let octets := match most? with
    | some most => octets.take most
    | none => octets
  let address (place : Nat) : List Char :=
    match radix with
    | 'n' => []
    | 'x' => padded 6 (digitsOf 16 place)
    | 'd' => padded 7 (digitsOf 10 place)
    | _ => padded 7 (digitsOf 8 place)
  let reversed := options.last? 'Ę' = some "big".toList
  (listedBlocks fields reversed (options.has 'v') columns address skipped octets).forM printLine
  if radix ≠ 'n' then printLine (address (skipped + octets.length))

end Tool
end Proctor.Machine

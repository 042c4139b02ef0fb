import Proctor.Machine.Tool.Basic

/-! The tools that sum up what files hold in a few octets. -/
namespace Proctor.Machine

/-! ### Blocks -/

namespace Digest

/-- Octets filled up to whole blocks: a one bit, zeros, and the number of bits in `wide` octets. -/
def filled (block wide : Nat) (big : Bool) (octets : List UInt8) : Array UInt8 :=
  let length := octets.length
  let zeros := (block - (length + 1 + wide) % block) % block
  let bits := length * 8
  let count := (List.range wide).map fun i => UInt8.ofNat (bits / Nat.pow 256 i)
  (octets ++ 0x80 :: List.replicate zeros 0 ++ if big then count.reverse else count).toArray

/-- The number that some octets at a place spell, the greatest part first if `big` holds. -/
def wordAt (octets : Array UInt8) (big : Bool) (place size : Nat) : Nat :=
  (List.range size).foldl (fun n i =>
    let i := if big then i else size - 1 - i
    n * 256 + (octets.getD (place + i) 0).toNat) 0

def digitsOf (big : Bool) (size n : Nat) : List Char :=
  let octets := (List.range size).map fun i => n / Nat.pow 256 i % 256
  let octets := if big then octets.reverse else octets
  octets.flatMap fun n => [Nat.digitChar (n / 16), Nat.digitChar (n % 16)]

/-- The greatest number whose power is not above another one, by its bits from one on. -/
def root (power n : Nat) : Nat → Nat → Nat
  | 0, found => found
  | bit + 1, found =>
    let next := found + Nat.pow 2 bit
    root power n bit (if Nat.pow next power ≤ n then next else found)

def primes (count : Nat) : List Nat :=
  let found := (List.range 420).filter fun n =>
    2 ≤ n && (List.range n).all fun d => d < 2 || n % d ≠ 0
  found.take count

def rootBits (power bits count : Nat) : List Nat :=
  (primes count).map fun p => root power (p * Nat.pow 2 (power * bits)) (bits + 5) 0 % Nat.pow 2 bits

/-! ### Digests of 32 bits at a time -/

def turned (x : UInt32) (n : Nat) : UInt32 :=
  (x <<< UInt32.ofNat n) ||| (x >>> UInt32.ofNat (32 - n))

def sines : Array UInt32 :=
  ((List.range 64).map fun i =>
    UInt32.ofNat ((Float.abs (Float.sin (i + 1 : Nat).toFloat) * 4294967296).floor.toUInt64.toNat)).toArray

def turns5 : Array Nat := #[7, 12, 17, 22, 5, 9, 14, 20, 4, 11, 16, 23, 6, 10, 15, 21]

def step5 (octets : Array UInt8) (place : Nat) (state : List UInt32) : List UInt32 :=
  match state with
  | [a₀, b₀, c₀, d₀] =>
    let words := ((List.range 16).map fun i =>
      UInt32.ofNat (wordAt octets false (place + 4 * i) 4)).toArray
    let (a, b, c, d) := (List.range 64).foldl (fun (a, b, c, d) i =>
      let (f, g) := match i / 16 with
        | 0 => ((b &&& c) ||| (~~~b &&& d), i)
        | 1 => ((d &&& b) ||| (~~~d &&& c), (5 * i + 1) % 16)
        | 2 => (b ^^^ c ^^^ d, (3 * i + 5) % 16)
        | _ => (c ^^^ (b ||| ~~~d), 7 * i % 16)
      let sum := a + f + sines.getD i 0 + words.getD g 0
      (d, b + turned sum (turns5.getD (i / 16 * 4 + i % 4) 0), b, c)) (a₀, b₀, c₀, d₀)
    [a₀ + a, b₀ + b, c₀ + c, d₀ + d]
  | state => state

def step1 (octets : Array UInt8) (place : Nat) (state : List UInt32) : List UInt32 :=
  match state with
  | [a₀, b₀, c₀, d₀, e₀] =>
    let words := (List.range 80).foldl (fun (words : Array UInt32) i =>
      words.push (if i < 16 then UInt32.ofNat (wordAt octets true (place + 4 * i) 4)
        else turned (words.getD (i - 3) 0 ^^^ words.getD (i - 8) 0 ^^^ words.getD (i - 14) 0 ^^^
          words.getD (i - 16) 0) 1)) #[]
    let (a, b, c, d, e) := (List.range 80).foldl (fun (a, b, c, d, e) i =>
      let (f, k) := match i / 20 with
        | 0 => ((b &&& c) ||| (~~~b &&& d), (0x5a827999 : UInt32))
        | 1 => (b ^^^ c ^^^ d, 0x6ed9eba1)
        | 2 => ((b &&& c) ||| (b &&& d) ||| (c &&& d), 0x8f1bbcdc)
        | _ => (b ^^^ c ^^^ d, 0xca62c1d6)
      (turned a 5 + f + e + k + words.getD i 0, a, turned b 30, c, d)) (a₀, b₀, c₀, d₀, e₀)
    [a₀ + a, b₀ + b, c₀ + c, d₀ + d, e₀ + e]
  | state => state

def start5 : List UInt32 := [0x67452301, 0xefcdab89, 0x98badcfe, 0x10325476]

def start1 : List UInt32 := start5 ++ [0xc3d2e1f0]

def run {α : Type} (block : Nat) (step : Array UInt8 → Nat → List α → List α) (octets : Array UInt8)
    (state : List α) : List α :=
  (List.range (octets.size / block)).foldl (fun state i => step octets (block * i) state) state

def md5 (octets : List UInt8) : List Char :=
  (run 64 step5 (filled 64 8 false octets) start5).flatMap fun x => digitsOf false 4 x.toNat

def sha1 (octets : List UInt8) : List Char :=
  (run 64 step1 (filled 64 8 true octets) start1).flatMap fun x => digitsOf true 4 x.toNat

/-! ### Digests of eight words -/

/-- How a digest of eight words mixes: the bits of a word, the constants of the rounds, and by how many
bits words turn and move. -/
structure Mixing where
  bits : Nat
  constants : Array Nat
  /-- By how many bits words turn for the schedule, of which the last number is a move. -/
  low : Nat × Nat × Nat
  high : Nat × Nat × Nat
  /-- By how many bits the first and the fifth word turn in a round. -/
  first : Nat × Nat × Nat
  fifth : Nat × Nat × Nat

namespace Mixing

def size (mixing : Mixing) : Nat := Nat.pow 2 mixing.bits

def right (mixing : Mixing) (x n : Nat) : Nat :=
  (x >>> n) ||| (x <<< (mixing.bits - n) % mixing.size)

def turnedThree (mixing : Mixing) (x : Nat) (by' : Nat × Nat × Nat) : Nat :=
  mixing.right x by'.1 ^^^ mixing.right x by'.2.1 ^^^ mixing.right x by'.2.2

def movedThree (mixing : Mixing) (x : Nat) (by' : Nat × Nat × Nat) : Nat :=
  mixing.right x by'.1 ^^^ mixing.right x by'.2.1 ^^^ (x >>> by'.2.2)

def step (mixing : Mixing) (octets : Array UInt8) (place : Nat) (state : List Nat) : List Nat :=
  let width := mixing.bits / 8
  let all := mixing.size - 1
  let words := (List.range mixing.constants.size).foldl (fun (words : Array Nat) i =>
    words.push (if i < 16 then wordAt octets true (place + width * i) width
      else
        (mixing.movedThree (words.getD (i - 2) 0) mixing.high + words.getD (i - 7) 0 +
          mixing.movedThree (words.getD (i - 15) 0) mixing.low + words.getD (i - 16) 0) %
            mixing.size)) #[]
  let mixed := (List.range mixing.constants.size).foldl (fun state i =>
    match state with
    | [a, b, c, d, e, f, g, h] =>
      let choice := (e &&& f) ^^^ ((e ^^^ all) &&& g)
      let one := h + mixing.turnedThree e mixing.fifth + choice + mixing.constants.getD i 0 +
        words.getD i 0
      let majority := (a &&& b) ^^^ (a &&& c) ^^^ (b &&& c)
      let two := mixing.turnedThree a mixing.first + majority
      [(one + two) % mixing.size, a, b, c, (d + one) % mixing.size, e, f, g]
    | state => state) state
  List.zipWith (fun x y => (x + y) % mixing.size) state mixed

def short : Mixing :=
  ⟨32, (rootBits 3 32 64).toArray, (7, 18, 3), (17, 19, 10), (2, 13, 22), (6, 11, 25)⟩

def long : Mixing :=
  ⟨64, (rootBits 3 64 80).toArray, (1, 8, 7), (19, 61, 6), (28, 34, 39), (14, 18, 41)⟩

def digest (mixing : Mixing) (start : List Nat) (digits : Nat) (octets : List UInt8) : List Char :=
  let width := mixing.bits / 8
  let filled := filled (16 * width) (2 * width) true octets
  ((run (16 * width) mixing.step filled start).flatMap (Digest.digitsOf true width)).take digits

end Mixing

def sha256 (octets : List UInt8) : List Char :=
  Mixing.short.digest (rootBits 2 32 8) 64 octets

def sha224 (octets : List UInt8) : List Char :=
  Mixing.short.digest (((rootBits 2 64 16).drop 8).map (· % Nat.pow 2 32)) 56 octets

def sha512 (octets : List UInt8) : List Char :=
  Mixing.long.digest (rootBits 2 64 8) 128 octets

def sha384 (octets : List UInt8) : List Char :=
  Mixing.long.digest ((rootBits 2 64 16).drop 8) 96 octets

/-! ### Sums -/

def remainderStep (sum : UInt32) (octet : UInt8) : UInt32 :=
  let mixed := ((sum >>> 24) ^^^ octet.toUInt32) <<< 24
  (List.range 8).foldl (fun (x : UInt32) _ =>
    if x &&& 0x80000000 ≠ 0 then (x <<< 1) ^^^ 0x04c11db7 else x <<< 1) mixed ^^^ (sum <<< 8)

def lengthOctets : Nat → Nat → List UInt8
  | 0, _ => []
  | bound + 1, n => if n = 0 then [] else UInt8.ofNat n :: lengthOctets bound (n / 256)

def remainder (octets : List UInt8) : Nat :=
  (~~~((octets ++ lengthOctets 8 octets.length).foldl remainderStep 0)).toNat

def turningSum (octets : List UInt8) : Nat :=
  octets.foldl (fun sum octet => (sum / 2 + sum % 2 * 32768 + octet.toNat) % 65536) 0

def foldedSum (octets : List UInt8) : Nat :=
  let sum := octets.foldl (fun sum octet => sum + octet.toNat) 0
  let r := sum % 65536 + sum % 4294967296 / 65536
  r % 65536 + r / 65536

end Digest

/-! ### Tools -/

namespace Tool

def digestName (name : List Char) : Bool × List Char :=
  let escapes := [('\\', '\\'), ('\n', 'n'), ('\r', 'r')]
  (name.any fun c => (escapes.lookup c).isSome,
    name.flatMap fun c => match escapes.lookup c with
      | some letter => ['\\', letter]
      | none => [c])

def digestLine? (length : Nat) (line : List Char) : Option (List Char × List Char) :=
  let line := if line.head? = some '\\' then line.tail else line
  let digest := line.takeWhile isHexadecimalDigit
  match line.drop digest.length with
  | ' ' :: _ :: name =>
    if digest.length = length && name ≠ [] then some (digest.map Char.toLower, name) else none
  | _ => none
where
  isHexadecimalDigit (c : Char) : Bool :=
    isDecimalDigit c || ('a' ≤ c && c ≤ 'f') || ('A' ≤ c && c ≤ 'F')

def checkDigests (options : Options) (digest : List UInt8 → List Char) (length : Nat)
    (name : List Char) : Tool Unit := do
  let shown := if name = ['-'] then "'standard input'" else Quoting.ifNeeded name
  match ← readNamed name with
  | .error failure => complain s!"{shown}: {failure.reason}" 1
  | .ok octets =>
    let lines := Octets.lines octets
    let found := lines.filterMap (digestLine? length)
    if found = [] then complain s!"{shown}: no properly formatted checksum lines found" 1
    else
      let quiet := options.has 'Š'
      let (wrong, missing) ← found.foldlM (fun (wrong, missing) (expected, name) => do
        match ← readNamed name with
        | .error failure =>
          complain (plainly name failure) 1
          if !quiet then printLine (name ++ ": FAILED open or read".toList)
          return (wrong, missing + 1)
        | .ok octets =>
          if digest (Octets.toBytes octets) = expected then
            if !quiet && !options.has 'q' then printLine (name ++ ": OK".toList)
            return (wrong, missing)
          else
            if !quiet then printLine (name ++ ": FAILED".toList)
            return (wrong + 1, missing)) (0, 0)
      let warning (n : Nat) (one many : String) : Tool Unit := do
        if 0 < n then
          fail 1
          if !quiet then complain s!"WARNING: {n} {if n = 1 then one else many}" 1
      let bad := lines.length - found.length
      if 0 < bad && !quiet then
        let lines := if bad = 1 then "line is" else "lines are"
        complain s!"WARNING: {bad} {lines} improperly formatted" 0
      warning missing "listed file could not be read" "listed files could not be read"
      warning wrong "computed checksum did NOT match" "computed checksums did NOT match"

def digests (tag : String) (digest : List UInt8 → List Char) (length : Nat) : Tool Unit := do
  let (options, names) ← options "bctwz" ""
    [("binary", 'b'), ("check", 'c'), ("text", 't'), ("warn", 'w'), ("zero", 'z'), ("tag", 'Ţ'),
      ("status", 'Š'), ("quiet", 'q'), ("strict", 'Ś'), ("ignore-missing", 'İ')] 1
  let names := if names = [] then [['-']] else names
  if options.has 'c' then names.forM (checkDigests options digest length)
  else
    names.forM fun name => do
      match ← readNamed name with
      | .error failure => complain (plainly name failure) 1
      | .ok octets =>
        let found := digest (Octets.toBytes octets)
        let finish := if options.has 'z' then '\x00' else '\n'
        let (escaped, shown) := if options.has 'z' then (false, name) else digestName name
        let start := if escaped then ['\\'] else []
        if options.has 'Ţ' then
          print (start ++ s!"{tag} ({String.ofList shown}) = ".toList ++ found ++ [finish])
        else
          let mark := if options.has 'b' then '*' else ' '
          print (start ++ found ++ [' ', mark] ++ shown ++ [finish])

def md5sum : Tool Unit := digests "MD5" Digest.md5 32

def sha1sum : Tool Unit := digests "SHA1" Digest.sha1 40

def sha224sum : Tool Unit := digests "SHA224" Digest.sha224 56

def sha256sum : Tool Unit := digests "SHA256" Digest.sha256 64

def sha384sum : Tool Unit := digests "SHA384" Digest.sha384 96

def sha512sum : Tool Unit := digests "SHA512" Digest.sha512 128

def sums (names : List (List Char)) (shown : List UInt8 → Bool → List Char) : Tool Unit := do
  let all := if names = [] then [['-']] else names
  all.forM fun name => do
    match ← readNamed name with
    | .error failure => complain (plainly name failure) 1
    | .ok octets =>
      let named := names ≠ []
      printLine (shown (Octets.toBytes octets) named ++ if named then ' ' :: name else [])

def cksum : Tool Unit := do
  let (options, names) ← options "bcwz" "a"
    [("algorithm", 'a'), ("check", 'c'), ("zero", 'z'), ("untagged", 'ū'), ("tag", 'Ţ')] 1
  let kinds := [("md5", "MD5", Digest.md5), ("sha1", "SHA1", Digest.sha1),
    ("sha224", "SHA224", Digest.sha224), ("sha256", "SHA256", Digest.sha256),
    ("sha384", "SHA384", Digest.sha384), ("sha512", "SHA512", Digest.sha512)]
  let wanted := ((options.last? 'a').map String.ofList).getD "crc"
  match kinds.find? fun (name, _) => name = wanted with
  | some (_, tag, digest) =>
    let names := if names = [] then [['-']] else names
    names.forM fun name => do
      match ← readNamed name with
      | .error failure => complain (plainly name failure) 1
      | .ok octets =>
        let found := digest (Octets.toBytes octets)
        if options.has 'ū' then printLine (found ++ "  ".toList ++ name)
        else printLine (s!"{tag} ({String.ofList name}) = ".toList ++ found)
  | none =>
    sums names fun octets _ =>
      digitsOf 10 (Digest.remainder octets) ++ ' ' :: digitsOf 10 octets.length

def sum : Tool Unit := do
  let (options, names) ← options "rs" "" [("sysv", 's')] 1
  if options.lastOf? "rs" = some 's' then
    sums names fun octets _ =>
      digitsOf 10 (Digest.foldedSum octets) ++ ' ' :: digitsOf 10 ((octets.length + 511) / 512)
  else
    sums names fun octets _ =>
      padded 5 (digitsOf 10 (Digest.turningSum octets)) ++ ' ' ::
        rightAligned 5 (digitsOf 10 ((octets.length + 1023) / 1024))

end Tool
end Proctor.Machine

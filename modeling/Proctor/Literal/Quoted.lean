import Proctor.Literal.LexFault
import Proctor.Text.Blank
import Proctor.Text.Utf8

/-! Strings and byte strings in literal text: the two quotes, single or threefold, the letters
before a quote, raw strings, and escapes. -/
namespace Proctor.Literal

structure Style where
  bytes : Bool
  raw : Bool
deriving DecidableEq, Repr

def Style.ofName? (name : List Char) : Option Style :=
  match Text.lowerAscii name with
  | ['u'] => some ⟨false, false⟩
  | ['b'] => some ⟨true, false⟩
  | ['r'] => some ⟨false, true⟩
  | ['b', 'r'] => some ⟨true, true⟩
  | ['r', 'b'] => some ⟨true, true⟩
  | _ => none

/-- One step of the value of a string: a character of the source, or the code that an escape
denotes. -/
inductive Piece where
  | char (c : Char)
  | code (n : Nat)
deriving DecidableEq, Repr

/-- The character of a piece in a text; a code that is no character is replaced. -/
def Piece.toChar : Piece → Char
  | .char c => c
  | .code n => if n.isValidChar then Char.ofNat n else Text.Utf8.replacement

def Piece.toBytes : Piece → List UInt8
  | .char c => String.utf8EncodeChar c
  | .code n => [UInt8.ofNat n]

inductive Escape where
  | code (n : Nat)
  /-- No escape: the backslash and the character stand for themselves. -/
  | unknown (c : Char)
  /-- A newline that the backslash hides. -/
  | continued
  | invalid (fault : LexFault)
  | unfinished
deriving DecidableEq, Repr

def hexDigits : Nat → Nat → Cursor → Option Nat × Cursor
  | 0, value, cursor => (some value, cursor)
  | count + 1, value, cursor =>
    match cursor.peek?.bind digitValue? with
    | some digit => hexDigits count (value * 16 + digit) cursor.next
    | none => (none, cursor)

def octalDigits : Nat → Nat → Cursor → Nat × Cursor
  | 0, value, cursor => (value, cursor)
  | count + 1, value, cursor =>
    match cursor.peek?.bind (digitIn? 8) with
    | some digit => octalDigits count (value * 8 + digit) cursor.next
    | none => (value, cursor)

def isHighSurrogate (n : Nat) : Bool := 0xd800 ≤ n && n ≤ 0xdbff

def isLowSurrogate (n : Nat) : Bool := 0xdc00 ≤ n && n ≤ 0xdfff

def lowSurrogate? (cursor : Cursor) : Option Nat :=
  match cursor.rest with
  | '\\' :: 'u' :: _ => (hexDigits 4 0 (cursor.skip 2)).1.filter isLowSurrogate
  | _ => none

def pairCode (high low : Nat) : Nat := 0x10000 + (high - 0xd800) * 0x400 + (low - 0xdc00)

/-- The code of a four-digit escape after its digits. A pair of surrogates is one code; a surrogate
without its partner is replaced. -/
def shortCode (value : Nat) (cursor : Cursor) : Nat × Cursor :=
  if isHighSurrogate value then
    match lowSurrogate? cursor with
    | some low => (pairCode value low, cursor.skip 6)
    | none => (Text.Utf8.replacement.toNat, cursor)
  else if isLowSurrogate value then (Text.Utf8.replacement.toNat, cursor)
  else (value, cursor)

def simpleEscapes : List (Char × Nat) :=
  [('n', 0x0a), ('t', 0x09), ('r', 0x0d), ('a', 0x07), ('b', 0x08), ('f', 0x0c), ('v', 0x0b),
    ('\\', 0x5c), ('\'', 0x27), ('"', 0x22), ('/', 0x2f)]

def scanEscape (bytes : Bool) (cursor : Cursor) : Escape × Cursor :=
  match cursor.peek? with
  | none => (.unfinished, cursor)
  | some c =>
    let after := cursor.next
    match simpleEscapes.lookup c, digitIn? 8 c with
    | some code, _ => (.code code, after)
    | none, some digit =>
      let (value, after) := octalDigits 2 digit after
      if bytes && 0xff < value then (.invalid (.octalRange value), after) else (.code value, after)
    | none, none =>
      if c = '\n' then (.continued, after)
      else if c = 'x' then
        match hexDigits 2 0 after with
        | (some value, after) => (.code value, after)
        | (none, after) => (.invalid .hexDigits, after)
      else if c = 'u' && !bytes then
        match hexDigits 4 0 after with
        | (some value, after) =>
          let (code, after) := shortCode value after
          (.code code, after)
        | (none, after) => (.invalid .shortDigits, after)
      else if c = 'U' && !bytes then
        match hexDigits 8 0 after with
        | (some value, after) =>
          if value.isValidChar then (.code value, after) else (.invalid (.codePoint value), after)
        | (none, after) => (.invalid .longDigits, after)
      else (.unknown c, after)

structure Body where
  pieces : List Piece
  faults : List (LexFault × Nat)
  after : Cursor
deriving DecidableEq, Repr

namespace Body

def closed (after : Cursor) : Body := ⟨[], [], after⟩

def broken (fault : LexFault) (cursor : Cursor) : Body := ⟨[], [(fault, cursor.offset)], cursor⟩

def prepend (pieces : List Piece) (body : Body) : Body :=
  { body with pieces := pieces ++ body.pieces }

def report (fault : LexFault) (offset : Nat) (body : Body) : Body :=
  { body with faults := (fault, offset) :: body.faults }

end Body

def scanBody (quote : Char) (triple : Bool) (style : Style) : Nat → Cursor → Body
  | 0, cursor => .broken .unterminated cursor
  | steps + 1, cursor =>
    match cursor.rest with
    | [] => .broken .unterminated cursor
    | c :: rest =>
      if c = quote then
        if !triple then .closed cursor.next
        else if rest.take 2 = [quote, quote] then .closed (cursor.skip 3)
        -- Only three quotes close a long string; one or two belong to its body.
        else if rest.head? = some quote then
          (scanBody quote triple style steps (cursor.skip 2)).prepend [.char quote, .char quote]
        else (scanBody quote triple style steps cursor.next).prepend [.char quote]
      else if c = '\n' && !triple then .broken .newlineInString cursor
      else if c = '\\' && style.raw then
        -- A raw backslash shields a quote or a backslash behind it, and both stay.
        match rest with
        | d :: _ =>
          if d = quote ∨ d = '\\' then
            (scanBody quote triple style steps (cursor.skip 2)).prepend [.char '\\', .char d]
          else (scanBody quote triple style steps cursor.next).prepend [.char '\\']
        | [] => (scanBody quote triple style steps cursor.next).prepend [.char '\\']
      else if c = '\\' then
        match scanEscape style.bytes cursor.next with
        | (.code n, after) => (scanBody quote triple style steps after).prepend [.code n]
        | (.unknown d, after) =>
          (scanBody quote triple style steps after).prepend [.char '\\', .char d]
        | (.continued, after) => scanBody quote triple style steps after
        | (.invalid fault, after) =>
          (scanBody quote triple style steps after).report fault after.offset
        | (.unfinished, after) => .broken .unterminatedEscape after
      else (scanBody quote triple style steps cursor.next).prepend [.char c]

/-- The string whose opening quote stands before the cursor. A string with faults is a token all
the same. -/
def scanString (quote : Char) (style : Style) (cursor : Cursor) : Scan :=
  let triple := cursor.rest.take 2 == [quote, quote]
  let start := if triple then cursor.skip 2 else cursor
  let body := scanBody quote triple style (start.rest.length + 1) start
  let kind : Kind :=
    if style.bytes then .bytes (body.pieces.flatMap Piece.toBytes)
    else .text (String.ofList (body.pieces.map Piece.toChar))
  ⟨some kind, body.faults, body.after⟩

end Proctor.Literal

/-! UTF-8: the bytes of a text, the text of bytes that may be malformed, and the test for
well-formed bytes. -/
namespace Proctor.Text.Utf8

def replacement : Char := '\ufffd'

def encode (text : List Char) : List UInt8 := text.flatMap String.utf8EncodeChar

def size (text : List Char) : Nat := text.foldl (fun n c => n + c.utf8Size) 0

def width (b : UInt8) : Nat :=
  if b < 0x80 then 1
  else if b < 0xc2 then 0
  else if b < 0xe0 then 2
  else if b < 0xf0 then 3
  else if b < 0xf5 then 4
  else 0

def isContinuation (b : UInt8) : Bool := 0x80 ≤ b && b < 0xc0

/-- Whether `c` may be the second byte after the first byte `b`: the ranges leave out overlong
forms, surrogates and code points past the last plane. -/
def follows (b c : UInt8) : Bool :=
  if b = 0xe0 then 0xa0 ≤ c && c < 0xc0
  else if b = 0xed then 0x80 ≤ c && c < 0xa0
  else if b = 0xf0 then 0x90 ≤ c && c < 0xc0
  else if b = 0xf4 then 0x80 ≤ c && c < 0x90
  else isContinuation c

def assemble (w : Nat) (b : UInt8) (tail : List UInt8) : Char :=
  let lead := if w = 1 then b.toNat else b.toNat % Nat.pow 2 (7 - w)
  Char.ofNat (tail.foldl (fun n c => n * 64 + c.toNat % 64) lead)

/-- Decodes bytes; each longest piece that starts a character but does not complete it, and each
byte that starts none, becomes one replacement character. -/
def decodeLossy : List UInt8 → List Char
  | [] => []
  | b :: rest =>
    if width b = 1 then assemble 1 b [] :: decodeLossy rest
    else if width b = 0 then replacement :: decodeLossy rest
    else
      match rest with
      | [] => [replacement]
      | c :: rest₁ =>
        if !follows b c then replacement :: decodeLossy (c :: rest₁)
        else if width b = 2 then assemble 2 b [c] :: decodeLossy rest₁
        else
          match rest₁ with
          | [] => [replacement]
          | d :: rest₂ =>
            if !isContinuation d then replacement :: decodeLossy (d :: rest₂)
            else if width b = 3 then assemble 3 b [c, d] :: decodeLossy rest₂
            else
              match rest₂ with
              | [] => [replacement]
              | e :: rest₃ =>
                if !isContinuation e then replacement :: decodeLossy (e :: rest₃)
                else assemble 4 b [c, d, e] :: decodeLossy rest₃

def decode? (bytes : List UInt8) : Option (List Char) :=
  let text := decodeLossy bytes
  if encode text = bytes then some text else none

end Proctor.Text.Utf8

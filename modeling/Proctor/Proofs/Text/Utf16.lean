import Proctor.Text.Utf8
import Mathlib

/-! UTF-16: the characters that code units stand for, of which some may lack their partners. -/
namespace Proctor.Text.Utf16

def IsHigh (unit : UInt16) : Prop := 0xd800 ≤ unit ∧ unit ≤ 0xdbff

def IsLow (unit : UInt16) : Prop := 0xdc00 ≤ unit ∧ unit ≤ 0xdfff

instance : DecidablePred IsHigh := fun unit => inferInstanceAs (Decidable (0xd800 ≤ unit ∧ unit ≤ 0xdbff))

instance : DecidablePred IsLow := fun unit => inferInstanceAs (Decidable (0xdc00 ≤ unit ∧ unit ≤ 0xdfff))

def pair (high low : UInt16) : Char :=
  Char.ofNat (0x10000 + (high.toNat - 0xd800) * 0x400 + (low.toNat - 0xdc00))

def alone (unit : UInt16) : Char :=
  if IsHigh unit ∨ IsLow unit then Utf8.replacement else Char.ofNat unit.toNat

def decodeLossy : List UInt16 → List Char
  | [] => []
  | [unit] => [alone unit]
  | unit :: next :: rest =>
    if IsHigh unit ∧ IsLow next then pair unit next :: decodeLossy rest
    else alone unit :: decodeLossy (next :: rest)

example : decodeLossy [0xd83d, 0xd83d, 0xde00, 0xdc00, 0x41] = ['\ufffd', '😀', '\ufffd', 'A'] := by decide

theorem decodeLossy_pair (high low : UInt16) (rest : List UInt16) (pairs : IsHigh high ∧ IsLow low) :
    decodeLossy (high :: low :: rest) = pair high low :: decodeLossy rest := by
  rw [decodeLossy,if_pos pairs]

theorem decodeLossy_alone (unit : UInt16) (rest : List UInt16)
    (single : ∀ next ∈ rest.head?, ¬ (IsHigh unit ∧ IsLow next)) :
    decodeLossy (unit :: rest) = alone unit :: decodeLossy rest := by
  cases rest with
  | nil => rfl
  | cons next rest => rw [decodeLossy,if_neg (single next rfl)]

end Proctor.Text.Utf16

import Proctor.Json.Reader
import Proctor.Proofs.Number.Layout
import Mathlib

/-! The grammar of JSON texts, with the value that each derivation denotes. Objects keep every member of
their texts, and a derivation has room for so many arrays and objects that are open at once. -/
namespace Proctor.Json.Grammar

def Blank (gaps : List Char) : Prop := ∀ c ∈ gaps, isSpace c = true

theorem blank_nil : Blank [] := by simp [Blank]

theorem blank_append (front back : List Char) (first : Blank front) (second : Blank back) :
    Blank (front ++ back) :=
  List.forall_mem_append.mpr ⟨first,second⟩

/-! ### Strings -/

def simpleEscapes : List (Char × Char) :=
  [('"', '"'), ('\\', '\\'), ('/', '/'), ('b', '\x08'), ('f', '\x0c'), ('n', '\n'), ('r', '\r'),
    ('t', '\t')]

inductive Character : List Char → Char → Prop
  | verbatim (c : Char) (noQuote : c ≠ '"') (noBackslash : c ≠ '\\') (printable : 0x20 ≤ c.toNat) :
      Character [c] c
  | simple (letter c : Char) (known : (letter, c) ∈ simpleEscapes) :
      Character ['\\', letter] c
  | short (digits : List Char) (n : Nat) (hex : Hex 4 digits n) (alone : n < 0xd800 ∨ 0xdfff < n) :
      Character ('\\' :: 'u' :: digits) (Char.ofNat n)
  | pair (digits others : List Char) (high low : Nat) (first : Hex 4 digits high)
      (second : Hex 4 others low) (isHigh : 0xd800 ≤ high ∧ high ≤ 0xdbff)
      (isLow : 0xdc00 ≤ low ∧ low ≤ 0xdfff) :
      Character ('\\' :: 'u' :: digits ++ '\\' :: 'u' :: others)
        (Char.ofNat (0x10000 + (high - 0xd800) * 0x400 + (low - 0xdc00)))

inductive Characters : List Char → List Char → Prop
  | nil : Characters [] []
  | cons (text : List Char) (c : Char) (others rest : List Char) (first : Character text c)
      (tail : Characters others rest) : Characters (text ++ others) (c :: rest)

/-! ### Numbers -/

/-- The whole part of a number: a zero, or digits that do not start with one. -/
structure Whole (text : List Char) : Prop where
  digits : Digits text
  noZero : text.head? = some '0' → text = ['0']

/-- A number without its sign, and whether it is written as an integer. -/
inductive Magnitude (text : List Char) : Decimal → Bool → Prop
  | integral (whole : Whole text) : Magnitude text ⟨text, [], 0⟩ true
  | written (d : Decimal) (written : Written text d) (whole : Whole d.whole) : Magnitude text d false

/-! ### Values -/

inductive Scalar (round : Rounding) : List Char → Json → Prop
  | null : Scalar round ['n', 'u', 'l', 'l'] .null
  | true : Scalar round ['t', 'r', 'u', 'e'] (.bool true)
  | false : Scalar round ['f', 'a', 'l', 's', 'e'] (.bool false)
  | number (negative : Bool) (text : List Char) (d : Decimal) (integral : Bool) (v : Json)
      (magnitude : Magnitude text d integral)
      (valued : Numeral.value round ⟨negative, d, integral⟩ = .ok v) :
      Scalar round (withSign negative text) v
  | string (body characters : List Char) (inside : Characters body characters) :
      Scalar round ('"' :: body ++ ['"']) (.string (String.ofList characters))

section Parts
variable {α : Type}

/-- What follows a part: more of them, each after a comma, with blanks between. -/
inductive Others (One : List Char → α → Prop) : List Char → List α → Prop
  | none (gaps : List Char) (blank : Blank gaps) : Others One gaps []
  | more (before after text : List Char) (a : α) (others : List Char) (rest : List α)
      (blankBefore : Blank before) (blankAfter : Blank after) (next : One text a)
      (tail : Others One others rest) :
      Others One (before ++ ',' :: (after ++ text ++ others)) (a :: rest)

inductive Parts (One : List Char → α → Prop) : List Char → List α → Prop
  | none (gaps : List Char) (blank : Blank gaps) : Parts One gaps []
  | some (before text : List Char) (a : α) (others : List Char) (rest : List α)
      (blank : Blank before) (first : One text a) (tail : Others One others rest) :
      Parts One (before ++ text ++ others) (a :: rest)

inductive Member (One : List Char → α → Prop) : List Char → String × α → Prop
  | pair (body characters before after text : List Char) (a : α)
      (name : Characters body characters) (blankBefore : Blank before) (blankAfter : Blank after)
      (content : One text a) :
      Member One ('"' :: body ++ '"' :: (before ++ ':' :: (after ++ text)))
        (String.ofList characters, a)

end Parts

/-- A value that opens something, with `One` for the values in it. -/
inductive Container (One : List Char → Json → Prop) : List Char → Json → Prop
  | array (inner : List Char) (items : List Json) (inside : Parts One inner items) :
      Container One ('[' :: inner ++ [']']) (.array items)
  | object (inner : List Char) (members : List (String × Json))
      (inside : Parts (Member One) inner members) :
      Container One ('\x7b' :: inner ++ ['\x7d']) (.object members)

/-- A value in which at most `room` containers are open at once. -/
def Value (round : Rounding) : Nat → List Char → Json → Prop
  | 0 => Scalar round
  | room + 1 => fun text v => Scalar round text v ∨ Container (Value round room) text v

theorem value_of_scalar (round : Rounding) (room : Nat) (text : List Char) (v : Json)
    (scalar : Scalar round text v) : Value round room text v := by
  cases room with
  | zero => exact scalar
  | succ room => exact .inl scalar

end Proctor.Json.Grammar

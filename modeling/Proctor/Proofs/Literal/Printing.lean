import Proctor.Proofs.Literal.Fits
import Proctor.Proofs.Literal.Strings
import Proctor.Proofs.Number.Layout
import Mathlib

/-! The forms in which an interpreter prints literals. A literal has several: either quote may stand
around a text, and a character may stand for itself or as the escape of its code. -/
namespace Proctor.Literal
open Json (joined)

/-! ### Characters and bytes -/

def shortLetter? (quote c : Char) : Option Char :=
  if c = '\\' ∨ c = quote then some c
  else if c = '\n' then some 'n'
  else if c = '\r' then some 'r'
  else if c = '\t' then some 't'
  else none

def codeForm (n : Nat) : Char × Nat :=
  if n < 0x100 then ('x', 2) else if n < 0x10000 then ('u', 4) else ('U', 8)

/-- The forms of a character between quotes. -/
inductive Shown (quote c : Char) : List Char → Prop
  | short (letter : Char) (special : shortLetter? quote c = some letter) : Shown quote c ['\\', letter]
  | verbatim (ordinary : shortLetter? quote c = none) (printable : 0x20 ≤ c.toNat ∧ c.toNat ≠ 0x7f) :
      Shown quote c [c]
  | code (ordinary : shortLetter? quote c = none) (digits : List Char)
      (hex : Hex (codeForm c.toNat).2 digits c.toNat) :
      Shown quote c ('\\' :: (codeForm c.toNat).1 :: digits)

/-- The form of a byte between quotes; only the case of the digits is open. -/
inductive ShownByte (quote : Char) (b : UInt8) : List Char → Prop
  | short (letter : Char) (special : shortLetter? quote (Char.ofNat b.toNat) = some letter) :
      ShownByte quote b ['\\', letter]
  | verbatim (ordinary : shortLetter? quote (Char.ofNat b.toNat) = none)
      (printable : 0x20 ≤ b.toNat ∧ b.toNat ≤ 0x7e) : ShownByte quote b [Char.ofNat b.toNat]
  | code (ordinary : shortLetter? quote (Char.ofNat b.toNat) = none)
      (unprintable : ¬ (0x20 ≤ b.toNat ∧ b.toNat ≤ 0x7e)) (digits : List Char)
      (hex : Hex 2 digits b.toNat) : ShownByte quote b ('\\' :: 'x' :: digits)

/-! ### Literals -/

/-- The forms of a literal. Items and entries are listed with their texts. -/
inductive Prints : Literal → List Char → Prop
  | null : Prints .null ['N', 'o', 'n', 'e']
  | true : Prints (.bool true) ['T', 'r', 'u', 'e']
  | false : Prints (.bool false) ['F', 'a', 'l', 's', 'e']
  | int (n : Int) : Prints (.int n) (withSign (n < 0) (digitsOf 10 n.natAbs))
  | finite (x : Binary64) (finite : x.isFinite = true) (text : List Char) (d : Decimal)
      (written : Written text d) (nearest : d.nearest false = { x with negative := false }) :
      Prints (.float x) (withSign x.negative text)
  | infinity (negative : Bool) :
      Prints (.float (.infinity negative)) (withSign negative ['i', 'n', 'f'])
  | nan (x : Binary64) (isNaN : x.isNaN = true) : Prints (.float x) ['n', 'a', 'n']
  | text (quote : Char) (known : isQuote quote = true) (parts : List (Char × List Char))
      (each : ∀ part ∈ parts, Shown quote part.1 part.2) :
      Prints (.text (String.ofList (parts.map (·.1)))) (quote :: parts.flatMap (·.2) ++ [quote])
  | bytes (quote : Char) (known : isQuote quote = true) (parts : List (UInt8 × List Char))
      (each : ∀ part ∈ parts, ShownByte quote part.1 part.2) :
      Prints (.bytes (parts.map (·.1))) ('b' :: quote :: parts.flatMap (·.2) ++ [quote])
  | list (parts : List (Literal × List Char)) (each : ∀ part ∈ parts, Prints part.1 part.2) :
      Prints (.list (parts.map (·.1))) ('[' :: joined [',', ' '] (parts.map (·.2)) ++ [']'])
  | unit : Prints (.tuple []) ['(', ')']
  | single (a : Literal) (text : List Char) (item : Prints a text) :
      Prints (.tuple [a]) ('(' :: text ++ [',', ')'])
  | tuple (parts : List (Literal × List Char)) (several : 2 ≤ parts.length)
      (each : ∀ part ∈ parts, Prints part.1 part.2) :
      Prints (.tuple (parts.map (·.1))) ('(' :: joined [',', ' '] (parts.map (·.2)) ++ [')'])
  | emptySet : Prints (.set []) ['s', 'e', 't', '(', ')']
  | set (parts : List (Literal × List Char)) (some : parts ≠ [])
      (each : ∀ part ∈ parts, Prints part.1 part.2) :
      Prints (.set (parts.map (·.1)))
        ('\x7b' :: joined [',', ' '] (parts.map (·.2)) ++ ['\x7d'])
  | dict (parts : List ((Literal × List Char) × (Literal × List Char)))
      (keys : ∀ part ∈ parts, Prints part.1.1 part.1.2)
      (contents : ∀ part ∈ parts, Prints part.2.1 part.2.2) :
      Prints (.dict (parts.map fun part => (part.1.1, part.2.1)))
        ('\x7b' :: joined [',', ' '] (parts.map fun part => part.1.2 ++ [':', ' '] ++ part.2.2) ++
          ['\x7d'])

/-! ### Every literal has a form -/

private theorem codeForm_digits (n : Nat) (small : n < 16 ^ 8) : ∃ digits, Hex (codeForm n).2 digits n := by
  unfold codeForm
  split
  · exact ⟨_,hex_padded 2 n (by decide) (by omega)⟩
  split
  · exact ⟨_,hex_padded 4 n (by decide) (by omega)⟩
  · exact ⟨_,hex_padded 8 n (by decide) small⟩

private theorem shown_total (quote c : Char) : ∃ text, Shown quote c text := by
  cases special : shortLetter? quote c with
  | some letter => exact ⟨_,.short letter special⟩
  | none =>
    have bounded : c.toNat < 16 ^ 8 := by
      rcases c.valid with low | high
      · exact Nat.lt_trans low (by decide)
      · exact Nat.lt_trans high.2 (by decide)
    obtain ⟨digits,hex⟩ := codeForm_digits c.toNat bounded
    exact ⟨_,.code special digits hex⟩

private theorem shownByte_total (quote : Char) (b : UInt8) : ∃ text, ShownByte quote b text := by
  cases special : shortLetter? quote (Char.ofNat b.toNat) with
  | some letter => exact ⟨_,.short letter special⟩
  | none =>
    by_cases printable : 0x20 ≤ b.toNat ∧ b.toNat ≤ 0x7e
    · exact ⟨_,.verbatim special printable⟩
    · exact ⟨_,.code special printable _ (hex_padded 2 b.toNat (by decide) b.toNat_lt)⟩

private theorem float_total (x : Binary64) : ∃ text, Prints (.float x) text := by
  by_cases finite : x.isFinite = true
  · obtain ⟨d,written,nearest⟩ := x.interchange_written finite
    exact ⟨_,.finite x finite _ d written nearest⟩
  by_cases isNaN : x.isNaN = true
  · exact ⟨_,.nan x isNaN⟩
  · have infinite : x = .infinity x.negative := by
      obtain ⟨negative,exponent,fraction⟩ := x
      have top : exponent.val = 2047 := by
        simp only [Binary64.isFinite,decide_eq_true_eq] at finite
        omega
      have none : fraction.val = 0 := by
        simpa [Binary64.isNaN,top] using isNaN
      obtain rfl : exponent = 2047 := Fin.ext top
      obtain rfl : fraction = 0 := Fin.ext none
      rfl
    rw [infinite]
    exact ⟨_,.infinity _⟩

private theorem parts_total (items : List Literal) (each : ∀ item ∈ items, ∃ text, Prints item text) :
    ∃ parts : List (Literal × List Char), parts.map (·.1) = items ∧
      ∀ part ∈ parts, Prints part.1 part.2 := by
  choose! text prints using each
  refine ⟨items.map fun item => (item, text item),by simp [Function.comp_def],?_⟩
  intro part member
  obtain ⟨item,isItem,rfl⟩ := List.mem_map.mp member
  exact prints item isItem

theorem prints_total (room : Nat) (a : Literal) (fits : Fits room a) : ∃ text, Prints a text := by
  induction fits with
  | null => exact ⟨_,.null⟩
  | bool _ b => cases b with
    | true => exact ⟨_,.true⟩
    | false => exact ⟨_,.false⟩
  | int _ n => exact ⟨_,.int n⟩
  | float _ x => exact float_total x
  | text _ value =>
    choose form shown using shown_total '\''
    have prints := Prints.text '\'' rfl (value.toList.map fun c => (c, form c)) (by simp [shown])
    simp only [List.map_map,Function.comp_def,List.map_id'] at prints
    rw [String.ofList_toList] at prints
    exact ⟨_,prints⟩
  | bytes _ value =>
    choose form shown using shownByte_total '\''
    have prints := Prints.bytes '\'' rfl (value.map fun b => (b, form b)) (by simp [shown])
    simp only [List.map_map,Function.comp_def,List.map_id'] at prints
    exact ⟨_,prints⟩
  | list _ items _ ih =>
    obtain ⟨parts,rfl,each⟩ := parts_total items ih
    exact ⟨_,.list parts each⟩
  | tuple _ items _ ih =>
    obtain ⟨parts,rfl,each⟩ := parts_total items ih
    match parts, each with
    | [], _ => exact ⟨_,.unit⟩
    | [part], each => exact ⟨_,.single part.1 part.2 (each part (by simp))⟩
    | first :: second :: others, each => exact ⟨_,.tuple (first :: second :: others) (by simp) each⟩
  | set _ items _ ih =>
    obtain ⟨parts,rfl,each⟩ := parts_total items ih
    cases parts with
    | nil => exact ⟨_,.emptySet⟩
    | cons part parts => exact ⟨_,.set (part :: parts) (by simp) each⟩
  | dict _ entries _ _ keys contents =>
    choose! keyText keyPrints using keys
    choose! text prints using contents
    have whole := Prints.dict (entries.map fun entry => ((entry.1, keyText entry), (entry.2, text entry)))
      (List.forall_mem_map.mpr keyPrints) (List.forall_mem_map.mpr prints)
    simp only [List.map_map,Function.comp_def,Prod.mk.eta,List.map_id'] at whole
    exact ⟨_,whole⟩

end Proctor.Literal

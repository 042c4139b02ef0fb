import Proctor.Proofs.Literal.Context
import Mathlib

/-! The codes of escapes need no repair. In a text each of them is that of a character, among bytes each is a byte, and
words of 32 bits are wide enough to compute them. -/
namespace Proctor.Literal
open Cursor

/-! ### Ranges of codes -/

/-- The code fits what it is put into: it is a byte among bytes, and a character in a text. -/
def Suits (bytes : Bool) (code : Nat) : Prop := if bytes then code ≤ 0xff else code.isValidChar

private theorem suits_byte (bytes : Bool) (code : Nat) (small : code ≤ 0xff) : Suits bytes code := by
  cases bytes with
  | true => exact small
  | false => exact .inl (by omega)

private theorem simpleEscapes_small (c : Char) (code : Nat) (known : simpleEscapes.lookup c = some code) :
    code ≤ 0xff := by
  have all : ∀ entry ∈ simpleEscapes, entry.2 ≤ 0xff := by decide
  obtain ⟨front,others,same,-⟩ := List.lookup_eq_some_iff.mp known
  exact all (c, code) (by simp [same])

private theorem digitIn_lt {base digit : Nat} {c : Char} (isDigit : digitIn? base c = some digit) :
    digit < base := by
  obtain ⟨-,small⟩ := Option.filter_eq_some_iff.mp isDigit
  exact of_decide_eq_true small

private theorem octalDigits_lt (count value : Nat) (cursor : Cursor) :
    (octalDigits count value cursor).1 < (value + 1) * 8 ^ count := by
  induction count generalizing value cursor with
  | zero => simp [octalDigits]
  | succ count ih =>
    unfold octalDigits
    split
    · next digit isDigit =>
      obtain ⟨c,-,digit8⟩ := Option.bind_eq_some_iff.mp isDigit
      have small := digitIn_lt digit8
      calc
        _ < (value * 8 + digit + 1) * 8 ^ count := ih _ _
        _ ≤ (value + 1) * 8 * 8 ^ count := Nat.mul_le_mul_right _ (by omega)
        _ = (value + 1) * 8 ^ (count + 1) := by ring
    · exact Nat.lt_of_lt_of_le (Nat.lt_succ_self value) (Nat.le_mul_of_pos_right _ (by positivity))

private theorem hexDigits_lt {count n : Nat} {cursor after : Cursor}
    (read : hexDigits count 0 cursor = (some n, after)) :
    n < 16 ^ count := by
  obtain ⟨digits,length,hex,-,number⟩ := hexDigits_some read
  exact Hex.lt ⟨length,hex,number⟩

private theorem lowSurrogate_low {cursor : Cursor} {low : Nat} (found : lowSurrogate? cursor = some low) :
    isLowSurrogate low = true := ((lowSurrogate_iff cursor low).mp found).1

/-- Whatever follows a unit, what it comes to is a character: one that lacks its partner is replaced. -/
theorem shortCode_valid (unit : Nat) (small : unit < 0x10000) (cursor : Cursor) :
    (shortCode unit cursor).1.isValidChar := by
  unfold shortCode
  split
  · next isHigh =>
    split
    · next low found => exact pairCode_valid unit low isHigh (lowSurrogate_low found)
    · exact Text.Utf8.replacement.valid
  next noHigh =>
  split
  · exact Text.Utf8.replacement.valid
  next noLow =>
  simp only [isHighSurrogate,isLowSurrogate,Bool.and_eq_true,decide_eq_true_eq] at noHigh noLow
  unfold Nat.isValidChar
  omega

private theorem Escape.Reads.suits {bytes : Bool} {cursor after : Cursor} {code : Nat}
    (reads : Escape.Reads bytes cursor (.code code) after) : Suits bytes code := by
  cases reads with
  | simple c n first known => exact suits_byte bytes code (simpleEscapes_small c code known)
  | octal c digit n after first plain isDigit read small =>
    cases bytes with
    | true => exact small rfl
    | false =>
      have bound := octalDigits_lt 2 digit cursor.next
      have digit8 := digitIn_lt isDigit
      rw [read] at bound
      exact .inl (by omega)
  | byte n after first read => exact suits_byte bytes code (Nat.le_of_lt_succ (hexDigits_lt read))
  | short unit n stop after first text read coded =>
    have valid := shortCode_valid unit (hexDigits_lt read) stop
    rw [coded] at valid
    rw [text]
    exact valid
  | long n after first text read scalar =>
    rw [text]
    exact scalar

private theorem scanEscape_suits {bytes : Bool} {cursor after : Cursor} {code : Nat}
    (read : scanEscape bytes cursor = (.code code, after)) : Suits bytes code :=
  (scanEscape_sound read nofun).suits

private def AllSuit (bytes : Bool) (pieces : List Piece) : Prop := ∀ code, .code code ∈ pieces → Suits bytes code

theorem AllSuit.before {bytes : Bool} {pieces others : List Piece} (later : AllSuit bytes others)
    (first : AllSuit bytes pieces) : AllSuit bytes (pieces ++ others) := by
  intro code inside
  rcases List.mem_append.mp inside with here | there
  · exact first code here
  · exact later code there

private theorem scanBody_suits (quote : Char) (triple : Bool) (style : Style) (steps : Nat) (cursor : Cursor) :
    AllSuit style.bytes (scanBody quote triple style steps cursor).pieces := by
  have none : AllSuit style.bytes [] := fun _ => nofun
  induction steps generalizing cursor with
  | zero => exact none
  | succ steps ih =>
    have turn := scanBody_turn quote triple style steps cursor
    generalize scanBody quote triple style (steps + 1) cursor = body at turn ⊢
    cases turn with
    | closed after _ => exact none
    | broken fault stop _ => exact none
    | went pieces middle _ coded => exact (ih middle).before fun n inside => scanEscape_suits (coded n inside)
    | reported fault middle _ => exact ih middle

/-! ### Words of 32 bits -/

namespace Word

/-- The word that an operation comes to, if the operation on integers comes to the same. -/
def checked (word : UInt32) (number : Int) : Option UInt32 := if word.toNat = number then some word else none

def ofNat? (n : Nat) : Option UInt32 := checked (UInt32.ofNat n) n

def add? (a b : UInt32) : Option UInt32 := checked (a + b) (a.toNat + b.toNat)

def sub? (a b : UInt32) : Option UInt32 := checked (a - b) (a.toNat - b.toNat)

def mul? (a b : UInt32) : Option UInt32 := checked (a * b) (a.toNat * b.toNat)

def shiftLeft? (a places : UInt32) : Option UInt32 := checked (a <<< places) (a.toNat * 2 ^ places.toNat)

def snoc? (base value : UInt32) (digit : Nat) : Option UInt32 := do
  add? (← mul? value base) (← ofNat? digit)

def hexDigits : Nat → UInt32 → Cursor → Option (Option UInt32 × Cursor)
  | 0, value, cursor => some (some value, cursor)
  | count + 1, value, cursor =>
    match cursor.peek?.bind digitValue? with
    | some digit => do hexDigits count (← snoc? 16 value digit) cursor.next
    | none => some (none, cursor)

def octalDigits : Nat → UInt32 → Cursor → Option (UInt32 × Cursor)
  | 0, value, cursor => some (value, cursor)
  | count + 1, value, cursor =>
    match cursor.peek?.bind (digitIn? 8) with
    | some digit => do octalDigits count (← snoc? 8 value digit) cursor.next
    | none => some (value, cursor)

def lowSurrogate? (cursor : Cursor) : Option (Option UInt32) :=
  match cursor.rest with
  | '\\' :: 'u' :: _ => do
    let (low?, _) ← hexDigits 4 0 (cursor.skip 2)
    some (low?.filter fun low => isLowSurrogate low.toNat)
  | _ => some none

def pairCode (high low : UInt32) : Option UInt32 := do
  let upper ← shiftLeft? (← sub? high 0xd800) 10
  add? (← add? 0x10000 upper) (← sub? low 0xdc00)

def shortCode (unit : UInt32) (cursor : Cursor) : Option (UInt32 × Cursor) :=
  if isHighSurrogate unit.toNat then do
    match ← lowSurrogate? cursor with
    | some low => some (← pairCode unit low, cursor.skip 6)
    | none => some (Text.Utf8.replacement.val, cursor)
  else if isLowSurrogate unit.toNat then some (Text.Utf8.replacement.val, cursor)
  else some (unit, cursor)

def scanEscape (bytes : Bool) (cursor : Cursor) : Option (Escape × Cursor) :=
  match cursor.peek? with
  | none => some (.unfinished, cursor)
  | some c =>
    match simpleEscapes.lookup c, digitIn? 8 c with
    | some code, _ => some (.code code, cursor.next)
    | none, some digit => do
      let (value, after) ← octalDigits 2 (← ofNat? digit) cursor.next
      if bytes && 0xff < value.toNat then some (.invalid (.octalRange value.toNat), after)
      else some (.code value.toNat, after)
    | none, none =>
      if c = '\n' then some (.continued, cursor.next)
      else if c = 'x' then do
        match ← hexDigits 2 0 cursor.next with
        | (some value, after) => some (.code value.toNat, after)
        | (none, after) => some (.invalid .hexDigits, after)
      else if c = 'u' && !bytes then do
        match ← hexDigits 4 0 cursor.next with
        | (some unit, stop) => do
          let (code, after) ← shortCode unit stop
          some (.code code.toNat, after)
        | (none, after) => some (.invalid .shortDigits, after)
      else if c = 'U' && !bytes then do
        match ← hexDigits 8 0 cursor.next with
        | (some value, after) =>
          if value.toNat.isValidChar then some (.code value.toNat, after)
          else some (.invalid (.codePoint value.toNat), after)
        | (none, after) => some (.invalid .longDigits, after)
      else some (.unknown c, cursor.next)

/-! ### Words are wide enough -/

private theorem checked_of_mod (word : UInt32) (n : Nat) (fits : n < UInt32.size)
    (wraps : word.toNat = n % UInt32.size) :
    ∃ found, checked word n = some found ∧ found.toNat = n := by
  have same : word.toNat = n := by rw [wraps,Nat.mod_eq_of_lt fits]
  exact ⟨word,by simp [checked,same],same⟩

private theorem ofNat_fits (n : Nat) (fits : n < UInt32.size) : ∃ word, ofNat? n = some word ∧ word.toNat = n :=
  checked_of_mod _ n fits (UInt32.toNat_ofNat' ..)

private theorem add_fits (a b : UInt32) (fits : a.toNat + b.toNat < UInt32.size) :
    ∃ sum, add? a b = some sum ∧ sum.toNat = a.toNat + b.toNat := by
  have wraps := checked_of_mod (a + b) _ fits (UInt32.toNat_add a b)
  rwa [Nat.cast_add] at wraps

private theorem mul_fits (a b : UInt32) (fits : a.toNat * b.toNat < UInt32.size) :
    ∃ product, mul? a b = some product ∧ product.toNat = a.toNat * b.toNat := by
  have wraps := checked_of_mod (a * b) _ fits (UInt32.toNat_mul a b)
  rwa [Nat.cast_mul] at wraps

private theorem sub_fits (a b : UInt32) (least : b.toNat ≤ a.toNat) :
    ∃ difference, sub? a b = some difference ∧ difference.toNat = a.toNat - b.toNat := by
  have same : (a - b).toNat = a.toNat - b.toNat := UInt32.toNat_sub_of_le a b least
  refine ⟨a - b,?_,same⟩
  rw [sub?,checked,if_pos]
  rw [same,Nat.cast_sub least]

private theorem shiftLeft_fits (a places : UInt32) (few : places.toNat < 32)
    (fits : a.toNat * 2 ^ places.toNat < UInt32.size) :
    ∃ shifted, shiftLeft? a places = some shifted ∧ shifted.toNat = a.toNat * 2 ^ places.toNat := by
  have wraps := checked_of_mod (a <<< places) _ fits (by
    rw [UInt32.toNat_shiftLeft,Nat.mod_eq_of_lt few,Nat.shiftLeft_eq])
  rwa [Nat.cast_mul,Nat.cast_pow] at wraps

private theorem snoc_fits (base value : UInt32) (digit : Nat) (small : digit < base.toNat)
    (room : (value.toNat + 1) * base.toNat ≤ UInt32.size) :
    ∃ next, snoc? base value digit = some next ∧ next.toNat = value.toNat * base.toNat + digit := by
  rw [Nat.add_one_mul] at room
  obtain ⟨shifted,multiplied,isShifted⟩ := mul_fits value base (by omega)
  obtain ⟨last,isWord,isLast⟩ := ofNat_fits digit (by omega)
  obtain ⟨next,added,isNext⟩ := add_fits shifted last (by omega)
  refine ⟨next,?_,by rw [isNext,isShifted,isLast]⟩
  simp only [snoc?,multiplied,isWord,Option.bind_eq_bind,Option.bind_some,added]

private theorem snoc_room (base value : UInt32) (digit count : Nat) (small : digit < base.toNat)
    (room : (value.toNat + 1) * base.toNat ^ (count + 1) ≤ UInt32.size) :
    ∃ next, snoc? base value digit = some next ∧ next.toNat = value.toNat * base.toNat + digit ∧
      (next.toNat + 1) * base.toNat ^ count ≤ UInt32.size := by
  have positive : 0 < base.toNat ^ count := Nat.pow_pos (Nat.zero_lt_of_lt small)
  rw [Nat.pow_succ',← Nat.mul_assoc] at room
  obtain ⟨next,appended,isNext⟩ := snoc_fits base value digit small
    (Nat.le_trans (Nat.le_mul_of_pos_right _ positive) room)
  have below : next.toNat + 1 ≤ (value.toNat + 1) * base.toNat := by
    rw [isNext,Nat.add_one_mul]
    omega
  exact ⟨next,appended,isNext,Nat.le_trans (Nat.mul_le_mul_right _ below) room⟩

private theorem hexDigits_fits (count : Nat) (value : UInt32) (cursor : Cursor)
    (room : (value.toNat + 1) * 16 ^ count ≤ UInt32.size) : ∃ found? after,
      hexDigits count value cursor = some (found?, after) ∧
        Literal.hexDigits count value.toNat cursor = (found?.map UInt32.toNat, after) := by
  induction count generalizing value cursor with
  | zero => exact ⟨some value,cursor,rfl,rfl⟩
  | succ count ih =>
    unfold hexDigits Literal.hexDigits
    cases shown : cursor.peek?.bind digitValue? with
    | none => exact ⟨none,cursor,rfl,rfl⟩
    | some digit =>
      obtain ⟨c,-,isDigit⟩ := Option.bind_eq_some_iff.mp shown
      have small := digitValue_lt c
      rw [isDigit,Option.getD_some] at small
      obtain ⟨next,appended,isNext,later⟩ := snoc_room 16 value digit count small room
      change next.toNat = value.toNat * 16 + digit at isNext
      obtain ⟨found?,after,ran,same⟩ := ih next cursor.next later
      rw [isNext] at same
      refine ⟨found?,after,?_,same⟩
      simp only [appended,Option.bind_eq_bind,Option.bind_some,ran]

private theorem octalDigits_fits (count : Nat) (value : UInt32) (cursor : Cursor)
    (room : (value.toNat + 1) * 8 ^ count ≤ UInt32.size) : ∃ found after,
      octalDigits count value cursor = some (found, after) ∧
        Literal.octalDigits count value.toNat cursor = (found.toNat, after) := by
  induction count generalizing value cursor with
  | zero => exact ⟨value,cursor,rfl,rfl⟩
  | succ count ih =>
    unfold octalDigits Literal.octalDigits
    cases shown : cursor.peek?.bind (digitIn? 8) with
    | none => exact ⟨value,cursor,rfl,rfl⟩
    | some digit =>
      obtain ⟨c,-,isDigit⟩ := Option.bind_eq_some_iff.mp shown
      obtain ⟨next,appended,isNext,later⟩ := snoc_room 8 value digit count (digitIn_lt isDigit) room
      change next.toNat = value.toNat * 8 + digit at isNext
      obtain ⟨found,after,ran,same⟩ := ih next cursor.next later
      rw [isNext] at same
      refine ⟨found,after,?_,same⟩
      simp only [appended,Option.bind_eq_bind,Option.bind_some,ran]

private theorem lowSurrogate_fits (cursor : Cursor) : ∃ low?, lowSurrogate? cursor = some low? ∧
    Literal.lowSurrogate? cursor = low?.map UInt32.toNat := by
  by_cases announced : ∃ more, cursor.rest = '\\' :: 'u' :: more
  · obtain ⟨more,here⟩ := announced
    obtain ⟨found?,after,ran,same⟩ := hexDigits_fits 4 0 (cursor.skip 2) (by decide)
    change Literal.hexDigits 4 0 (cursor.skip 2) = _ at same
    refine ⟨found?.filter fun low => isLowSurrogate low.toNat,?_,?_⟩
    · simp only [lowSurrogate?,here,ran,Option.bind_eq_bind,Option.bind_some]
    · simp only [Literal.lowSurrogate?,here,same,Option.filter_map,Function.comp_def]
  · refine ⟨none,?_,?_⟩
    · unfold lowSurrogate?
      split
      · next more here => exact absurd ⟨more,here⟩ announced
      · rfl
    · unfold Literal.lowSurrogate?
      split
      · next more here => exact absurd ⟨more,here⟩ announced
      · rfl

/-- The arithmetic of pairs stays among the words: neither difference is negative. -/
theorem pairCode_fits (high low : UInt32) (isHigh : isHighSurrogate high.toNat = true)
    (isLow : isLowSurrogate low.toNat = true) :
    ∃ code, pairCode high low = some code ∧ code.toNat = Literal.pairCode high.toNat low.toNat := by
  simp only [isHighSurrogate,isLowSurrogate,Bool.and_eq_true,decide_eq_true_eq] at isHigh isLow
  obtain ⟨first,reduced,isFirst⟩ := sub_fits high 0xd800 isHigh.1
  obtain ⟨last,lowered,isLast⟩ := sub_fits low 0xdc00 isLow.1
  change first.toNat = high.toNat - 0xd800 at isFirst
  change last.toNat = low.toNat - 0xdc00 at isLast
  obtain ⟨upper,shifted,isUpper⟩ := shiftLeft_fits first 10 (by decide) (by
    change first.toNat * 0x400 < 0x100000000
    omega)
  change upper.toNat = first.toNat * 0x400 at isUpper
  obtain ⟨base,raised,isBase⟩ := add_fits 0x10000 upper (by
    change 0x10000 + upper.toNat < 0x100000000
    omega)
  change base.toNat = 0x10000 + upper.toNat at isBase
  obtain ⟨code,added,isCode⟩ := add_fits base last (by
    change base.toNat + last.toNat < 0x100000000
    omega)
  refine ⟨code,?_,by rw [isCode,isBase,isUpper,isFirst,isLast]; rfl⟩
  simp only [pairCode,reduced,shifted,raised,lowered,Option.bind_eq_bind,Option.bind_some,added]

private theorem shortCode_fits (unit : UInt32) (cursor : Cursor) : ∃ code after,
    shortCode unit cursor = some (code, after) ∧ Literal.shortCode unit.toNat cursor = (code.toNat, after) := by
  unfold shortCode Literal.shortCode
  split
  · next isHigh =>
    obtain ⟨low?,found,same⟩ := lowSurrogate_fits cursor
    rw [same]
    cases low? with
    | none => exact ⟨_,cursor,by simp only [found,Option.bind_eq_bind,Option.bind_some],rfl⟩
    | some low =>
      obtain ⟨code,paired,isCode⟩ := pairCode_fits unit low isHigh (lowSurrogate_low same)
      refine ⟨code,cursor.skip 6,?_,by rw [isCode]; rfl⟩
      simp only [found,paired,Option.bind_eq_bind,Option.bind_some]
  split
  · exact ⟨_,cursor,rfl,rfl⟩
  · exact ⟨unit,cursor,rfl,rfl⟩

private theorem scanEscape_fits (bytes : Bool) (cursor : Cursor) :
    scanEscape bytes cursor = some (Literal.scanEscape bytes cursor) := by
  unfold scanEscape Literal.scanEscape
  cases cursor.peek? with
  | none => rfl
  | some c =>
    dsimp only
    cases simpleEscapes.lookup c with
    | some code => rfl
    | none =>
      cases octal : digitIn? 8 c with
      | some digit =>
        have small := digitIn_lt octal
        obtain ⟨first,isWord,isFirst⟩ := ofNat_fits digit (by
          change digit < 0x100000000
          omega)
        obtain ⟨value,after,ran,same⟩ := octalDigits_fits 2 first cursor.next (by
          change (first.toNat + 1) * 64 ≤ 0x100000000
          omega)
        rw [isFirst] at same
        simp only [isWord,ran,same,Option.bind_eq_bind,Option.bind_some]
        split <;> rfl
      | none =>
        dsimp only
        split
        · rfl
        split
        · obtain ⟨found?,after,ran,same⟩ := hexDigits_fits 2 0 cursor.next (by decide)
          change Literal.hexDigits 2 0 cursor.next = _ at same
          simp only [ran,same,Option.bind_eq_bind,Option.bind_some]
          cases found? <;> rfl
        split
        · obtain ⟨found?,stop,ran,same⟩ := hexDigits_fits 4 0 cursor.next (by decide)
          change Literal.hexDigits 4 0 cursor.next = _ at same
          simp only [ran,same,Option.bind_eq_bind,Option.bind_some]
          cases found? with
          | none => rfl
          | some unit =>
            obtain ⟨code,after,coded,isCode⟩ := shortCode_fits unit stop
            simp only [coded,isCode,Option.map_some,Option.bind_some]
        split
        · obtain ⟨found?,after,ran,same⟩ := hexDigits_fits 8 0 cursor.next (by decide)
          change Literal.hexDigits 8 0 cursor.next = _ at same
          simp only [ran,same,Option.bind_eq_bind,Option.bind_some]
          cases found? with
          | none => rfl
          | some value =>
            dsimp only [Option.map_some]
            split <;> rfl
        · rfl

end Word

/-- No code of an escape needs repair, wherever it stands in a string. In a text it is that of a character, so that none
is replaced; among bytes it is a byte, so that nothing of it is lost. Whatever stands behind a backslash, words of 32
bits come to the same escape, with no operation that leaves them. -/
theorem escapes_unrepaired (quote : Char) (triple : Bool) (style : Style) (steps : Nat) (cursor : Cursor) :
    (∀ code, .code code ∈ (scanBody quote triple style steps cursor).pieces →
      if style.bytes then code ≤ 0xff ∧ (Piece.code code).toBytes.map UInt8.toNat = [code]
      else code.isValidChar ∧ (Piece.code code).toChar.toNat = code) ∧
    ∀ (bytes : Bool) (place : Cursor), Word.scanEscape bytes place = some (scanEscape bytes place) := by
  refine ⟨fun code inside => ?_,Word.scanEscape_fits⟩
  have suits := scanBody_suits quote triple style steps cursor code inside
  unfold Suits at suits
  split at suits
  · next isByte =>
    rw [if_pos isByte]
    have kept : (UInt8.ofNat code).toNat = code := Nat.mod_eq_of_lt (Nat.lt_succ_of_le suits)
    exact ⟨suits,by rw [Piece.toBytes,List.map_singleton,kept]⟩
  · next isText =>
    rw [if_neg isText]
    refine ⟨suits,?_⟩
    rw [Piece.toChar,if_pos suits,Char.toNat_ofNat,if_pos suits]

/-- In a text a pair of units, the largest octal escape and half a pair; the largest bytes, behind one too large. -/
theorem widest_unrepaired :
    let text : List Char := ['\\', 'u', 'd', 'b', 'f', 'f', '\\', 'u', 'd', 'f', 'f', 'f', '\\', '7', '7', '7',
      '\\', 'u', 'd', 'c', '0', '0', '"']
    let bytes : List Char := ['\\', '4', '0', '0', '\\', 'x', 'f', 'f', '\\', '3', '7', '7', '"']
    ((scanBody '"' false ⟨false, false⟩ 30 ⟨0, text⟩).pieces = [.code 0x10ffff, .code 0o777, .code 0xfffd] ∧
      (Nat.isValidChar 0x10ffff ∧ (Piece.code 0x10ffff).toChar.toNat = 0x10ffff)) ∧
    ((scanBody '"' false ⟨true, false⟩ 30 ⟨0, bytes⟩).pieces = [.code 0xff, .code 0xff] ∧
      (0xff ≤ 0xff ∧ (Piece.code 0xff).toBytes.map UInt8.toNat = [0xff])) ∧
    Word.scanEscape false ⟨1, text.tail⟩ = some (scanEscape false ⟨1, text.tail⟩) := by
  intro text bytes
  have ofText : (scanBody '"' false ⟨false, false⟩ 30 ⟨0, text⟩).pieces =
      [.code 0x10ffff, .code 0o777, .code 0xfffd] := rfl
  have ofBytes : (scanBody '"' false ⟨true, false⟩ 30 ⟨0, bytes⟩).pieces = [.code 0xff, .code 0xff] := rfl
  obtain ⟨characters,words⟩ := escapes_unrepaired '"' false ⟨false, false⟩ 30 ⟨0, text⟩
  obtain ⟨narrowed,-⟩ := escapes_unrepaired '"' false ⟨true, false⟩ 30 ⟨0, bytes⟩
  refine ⟨⟨ofText,characters 0x10ffff ?_⟩,⟨ofBytes,narrowed 0xff ?_⟩,words false _⟩
  · rw [ofText]
    exact List.mem_cons_self
  · rw [ofBytes]
    exact List.mem_cons_self

end Proctor.Literal

import Proctor.Proofs.Literal.Context
import Proctor.Proofs.Literal.RoundTrip
import Proctor.Proofs.Text.Utf16
import Mathlib

/-! Four-digit escapes one after another denote code units of UTF-16: pairs of them are taken together wherever
they stand, and what lacks its partner is replaced. -/
namespace Proctor.Literal
open Cursor
open Text.Utf16 (IsHigh IsLow pair alone decodeLossy decodeLossy_pair decodeLossy_alone)

/-! ### Units -/

private theorem isHighSurrogate_iff (unit : UInt16) : isHighSurrogate unit.toNat = true ↔ IsHigh unit := by
  simp [isHighSurrogate,IsHigh,UInt16.le_iff_toNat_le]

private theorem isLowSurrogate_iff (unit : UInt16) : isLowSurrogate unit.toNat = true ↔ IsLow unit := by
  simp [isLowSurrogate,IsLow,UInt16.le_iff_toNat_le]

private theorem pairCode_toChar (high low : UInt16) (pairs : IsHigh high ∧ IsLow low) :
    (Piece.code (pairCode high.toNat low.toNat)).toChar = pair high low := by
  have valid := pairCode_valid _ _ ((isHighSurrogate_iff high).mpr pairs.1) ((isLowSurrogate_iff low).mpr pairs.2)
  rw [Piece.toChar,if_pos valid]
  rfl

private def aloneCode (n : Nat) : Nat :=
  if isHighSurrogate n ∨ isLowSurrogate n then Text.Utf8.replacement.toNat else n

private theorem aloneCode_toChar (unit : UInt16) : (Piece.code (aloneCode unit.toNat)).toChar = alone unit := by
  simp only [aloneCode,alone,isHighSurrogate_iff,isLowSurrogate_iff]
  split
  · rfl
  · next plain =>
    have small := unit.toNat_lt
    have valid : unit.toNat.isValidChar := by
      simp only [IsHigh,IsLow,UInt16.le_iff_toNat_le] at plain
      simp at plain
      unfold Nat.isValidChar
      omega
    rw [Piece.toChar,if_pos valid]

/-! ### Escapes -/

def escapesText (parts : List (UInt16 × List Char)) : List Char := parts.flatMap fun part => '\\' :: 'u' :: part.2

def quotes (quote : Char) (triple : Bool) : List Char := List.replicate (if triple then 3 else 1) quote

variable {quote : Char} {triple : Bool}

theorem quotes_cons (quote : Char) (triple : Bool) (rest : List Char) :
    ∃ more, quotes quote triple ++ rest = quote :: more := by
  cases triple <;> exact ⟨_,rfl⟩

private theorem escapesText_head (noSlash : quote ≠ '\\') (parts : List (UInt16 × List Char))
    (spelled : ∀ part ∈ parts, Hex 4 part.2 part.1.toNat) (rest digits more : List Char) (n : Nat) (hex : Hex 4 digits n)
    (shown : escapesText parts ++ (quotes quote triple ++ rest) = '\\' :: 'u' :: digits ++ more) :
    ∃ part ∈ parts.head?, part.1.toNat = n := by
  cases parts with
  | nil =>
    obtain ⟨others,same⟩ := quotes_cons quote triple rest
    rw [escapesText,List.flatMap_nil,List.nil_append,same] at shown
    exact absurd (List.cons.inj shown).1 noSlash
  | cons part parts =>
    have first := spelled part List.mem_cons_self
    simp only [escapesText,List.flatMap_cons,List.cons_append,List.append_assoc,List.cons.injEq,true_and] at shown
    obtain ⟨same,_⟩ := List.append_inj shown (by rw [first.length,hex.length])
    exact ⟨part,rfl,by rw [← first.value,same,hex.value]⟩

private theorem scanEscape_alone (digits rest : List Char) (n : Nat) (hex : Hex 4 digits n) (cursor : Cursor)
    (here : cursor.rest = 'u' :: digits ++ rest)
    (single : ∀ low others more, isHighSurrogate n = true → isLowSurrogate low = true → Hex 4 others low →
      rest ≠ '\\' :: 'u' :: others ++ more) :
    ∃ after, after.rest = rest ∧ scanEscape false cursor = (.code (aloneCode n), after) := by
  obtain ⟨after,stopped,read⟩ := scanEscape_short digits rest n hex cursor here
  refine ⟨after,stopped,?_⟩
  rw [read]
  by_cases high : isHighSurrogate n = true
  · have none : lowSurrogate? after = none := by
      by_contra found
      obtain ⟨low,isLow⟩ := Option.ne_none_iff_exists'.mp found
      obtain ⟨known,others,more,second,there⟩ := (lowSurrogate_iff after low).mp isLow
      exact single low others more high known second (stopped ▸ there)
    simp [shortCode,aloneCode,high,none]
  · by_cases low : isLowSurrogate n = true
    · simp [shortCode,aloneCode,high,low]
    · simp [shortCode,aloneCode,high,low]

/-! ### Bodies of escapes -/

/-- From every place at the escapes on, a body up to the closing quotes denotes what the units stand for. -/
def Decodes (quote : Char) (triple : Bool) (rest : List Char) (parts : List (UInt16 × List Char)) : Prop :=
  ∀ cursor : Cursor, cursor.rest = escapesText parts ++ (quotes quote triple ++ rest) → ∃ pieces after,
    after.rest = rest ∧ pieces.map Piece.toChar = decodeLossy (parts.map (·.1)) ∧
      Body.Whole quote triple plain cursor pieces after

private theorem decodes_nil (quote : Char) (triple : Bool) (rest : List Char) : Decodes quote triple rest
    [] := by
  intro cursor here
  cases triple with
  | false =>
    exact ⟨[],cursor.next,rest_next quote rest cursor here,rfl,.ends _ _ (.one cursor rest here)⟩
  | true =>
    exact ⟨[],cursor.skip 3,rest_skip [quote, quote, quote] rest cursor here,rfl,
      .ends _ _ (.three cursor rest here)⟩

theorem Decodes.escape {rest text : List Char} {cursor after : Cursor} {n : Nat} {c : Char}
    {parts : List (UInt16 × List Char)} (decodes : Decodes quote triple rest parts)
    (here : cursor.rest = '\\' :: text) (read : scanEscape false cursor.next = (.code n, after))
    (stopped : after.rest = escapesText parts ++ (quotes quote triple ++ rest)) (denotes : (Piece.code n).toChar = c) :
    ∃ pieces final, final.rest = rest ∧ pieces.map Piece.toChar = c :: decodeLossy (parts.map (·.1)) ∧
      Body.Whole quote triple plain cursor pieces final := by
  obtain ⟨pieces,final,ended,same,whole⟩ := decodes after stopped
  have first : Body.Step quote triple plain cursor [.code n] after :=
    .escape cursor after (.code n) [.code n] text here rfl read rfl
  exact ⟨[.code n] ++ pieces,final,ended,by simp [denotes,same],.step cursor after final _ pieces first whole⟩

theorem Decodes.alone (noSlash : quote ≠ '\\') {rest : List Char} {part : UInt16 × List Char}
    {parts : List (UInt16 × List Char)} (decodes : Decodes quote triple rest parts)
    (spelled : ∀ other ∈ part :: parts, Hex 4 other.2 other.1.toNat)
    (single : ∀ next ∈ parts.head?, ¬ (IsHigh part.1 ∧ IsLow next.1)) : Decodes quote triple rest (part :: parts) := by
  intro cursor here
  obtain ⟨first,others⟩ := List.forall_mem_cons.mp spelled
  simp only [escapesText,List.flatMap_cons,List.cons_append,List.append_assoc] at here
  obtain ⟨after,stopped,read⟩ := scanEscape_alone part.2 _ _ first cursor.next (rest_next '\\' _ cursor here) (by
    intro low digits more high isLow second shown
    obtain ⟨next,head,value⟩ := escapesText_head noSlash parts others rest digits more low second shown
    rw [← value] at isLow
    exact single next head ⟨(isHighSurrogate_iff part.1).mp high,(isLowSurrogate_iff next.1).mp isLow⟩)
  rw [List.map_cons,decodeLossy_alone part.1 _ (by simpa [List.head?_map] using single)]
  exact decodes.escape here read stopped (aloneCode_toChar part.1)

theorem Decodes.pair {rest : List Char} {high low : UInt16 × List Char} {parts : List (UInt16 × List Char)}
    (decodes : Decodes quote triple rest parts) (first : Hex 4 high.2 high.1.toNat) (second : Hex 4 low.2 low.1.toNat)
    (pairs : IsHigh high.1 ∧ IsLow low.1) : Decodes quote triple rest (high :: low :: parts) := by
  intro cursor here
  simp only [escapesText,List.flatMap_cons,List.cons_append,List.append_assoc] at here
  have escapes := escapes_pair high.2 low.2 _ _ first second ((isHighSurrogate_iff _).mpr pairs.1)
    ((isLowSurrogate_iff _).mpr pairs.2)
  obtain ⟨after,stopped,read⟩ := escapes _ cursor.next (by simpa using rest_next '\\' _ cursor here)
  rw [List.map_cons,List.map_cons,decodeLossy_pair _ _ _ pairs]
  exact decodes.escape here read stopped (pairCode_toChar high.1 low.1 pairs)

/-- Wherever the escapes stand, pairs of them are taken together. -/
theorem decodes_all (noSlash : quote ≠ '\\') (rest : List Char) (parts : List (UInt16 × List Char))
    (spelled : ∀ part ∈ parts, Hex 4 part.2 part.1.toNat) : Decodes quote triple rest parts := by
  -- By one unit or two: behind a pair both are gone, and a unit alone leaves the next one free to make a pair.
  induction parts using List.twoStepInduction with
  | nil => exact decodes_nil quote triple rest
  | singleton part => exact (decodes_nil quote triple rest).alone noSlash spelled (by simp)
  | cons_cons first second parts later next =>
    obtain ⟨one,others⟩ := List.forall_mem_cons.mp spelled
    obtain ⟨two,more⟩ := List.forall_mem_cons.mp others
    by_cases pairs : IsHigh first.1 ∧ IsLow second.1
    · exact (later more).pair one two pairs
    · exact (next second others).alone noSlash spelled (by simpa using pairs)

/-! ### Strings of escapes -/

/-- After the first quote of a string of escapes the others are passed, if there are any. -/
theorem opens_escapes (known : isQuote quote = true) (parts : List (UInt16 × List Char)) (rest : List Char)
    (delimited : Delimited rest) (cursor : Cursor)
    (here : quote :: cursor.rest = quotes quote triple ++ (escapesText parts ++ (quotes quote triple ++ rest))) :
    ∃ start, Body.Opens quote cursor triple start ∧
      start.rest = escapesText parts ++ (quotes quote triple ++ rest) := by
  obtain ⟨apart,_,_,_,noSlash⟩ := quote_apart quote known
  cases triple with
  | false =>
    have single : cursor.rest = escapesText parts ++ quote :: rest := (List.cons.inj here).2
    -- What comes first is an escape, or the closing quote with no third one behind it.
    refine ⟨cursor,.one cursor ?_,single⟩
    rw [single]
    cases parts with
    | nil =>
      cases rest with
      | nil => simp [escapesText]
      | cons c rest =>
        have other : c ≠ quote := by
          rintro rfl
          exact apart (delimited c rfl)
        simp [escapesText,other]
    | cons part parts => simp [escapesText,noSlash.symm]
  | true =>
    have three : cursor.rest = quote :: quote :: (escapesText parts ++ (quotes quote true ++ rest)) :=
      (List.cons.inj here).2
    exact ⟨cursor.skip 2,.three cursor _ three,rest_skip [quote, quote] _ cursor three⟩

section
variable (known : isQuote quote = true) (parts : List (UInt16 × List Char))
  (spelled : ∀ part ∈ parts, Hex 4 part.2 part.1.toNat)
include known spelled

private theorem scanString_escapes (triple : Bool) (rest : List Char) (delimited : Delimited rest)
    (cursor : Cursor)
    (here : quote :: cursor.rest = quotes quote triple ++ (escapesText parts ++ (quotes quote triple ++ rest))) :
    Reads (scanString quote plain cursor) (.text (String.ofList (decodeLossy (parts.map (·.1))))) rest := by
  obtain ⟨start,opens,there⟩ := opens_escapes known parts rest delimited cursor here
  obtain ⟨pieces,after,stopped,value,whole⟩ :=
    decodes_all (quote_apart quote known).2.2.2.2 rest parts spelled start there
  rw [scanString_complete known opens whole,← stopped,← value]
  exact reads_token _ after

private theorem printed_escapes (triple : Bool) (letters : List Char)
    (announced : letters ∈ [[], ['u'], ['U']]) :
    Printed (letters ++ quotes quote triple ++ escapesText parts ++ quotes quote triple)
      [.text (String.ofList (decodeLossy (parts.map (·.1))))] := by
  intro rest others delimited lexes
  obtain ⟨text,opening⟩ := quotes_cons quote triple (escapesText parts ++ quotes quote triple)
  have reads (cursor : Cursor) (here : cursor.rest = text ++ rest) :=
    scanString_escapes known parts spelled triple rest delimited cursor (by
      rw [here,← List.cons_append,← opening]
      simp)
  have whole : letters ++ quotes quote triple ++ escapesText parts ++ quotes quote triple = letters ++ quote :: text := by
    rw [List.append_assoc,List.append_assoc,opening]
  rw [whole]
  simp only [List.mem_cons,List.not_mem_nil,or_false] at announced
  rcases announced with rfl | rfl | rfl
  · exact lexes_quoted known text reads lexes
  · exact lexes_lettered known text 'u' plain rfl ⟨rfl,rfl⟩ ⟨rfl,rfl,rfl,rfl⟩ reads lexes
  · exact lexes_lettered known text 'U' plain rfl ⟨rfl,rfl⟩ ⟨rfl,rfl,rfl,rfl⟩ reads lexes

end

/-- A string whose body is the escapes of code units denotes the text that the units stand for, with either quote,
one of them or three, and with or without the letter that announces a text. -/
theorem escapes_decoded (letters : List Char) (announced : letters ∈ [[], ['u'], ['U']]) (quote : Char)
    (known : quote = '"' ∨ quote = '\'') (triple : Bool) (parts : List (UInt16 × List Char))
    (spelled : ∀ part ∈ parts, Hex 4 part.2 part.1.toNat) :
    let source := String.ofList (letters ++ quotes quote triple ++ escapesText parts ++ quotes quote triple)
    let value := String.ofList (decodeLossy (parts.map (·.1)))
    (∃ tokens, lex source = .ok tokens ∧ Parser.kinds tokens = [.text value, .finish]) ∧
      ofSource source = .ok (.text value) := by
  intro source value
  have isQuote : isQuote quote = true := by rcases known with rfl | rfl <;> rfl
  have printed := printed_escapes isQuote parts spelled triple letters announced
  have back := readsBack_scalar maxNesting _ _ _ printed (Grammar.scalar_text value)
  exact ⟨lex_of_printed _ _ printed,ofSource_of_readsBack _ _ back⟩

/-- A high unit, a pair, a low unit and a high one before three quotes. -/
theorem broken_pairs_decoded :
    let parts : List (UInt16 × List Char) := [(0xd83d, ['d', '8', '3', 'd']), (0xd83d, ['D', '8', '3', 'D']),
      (0xde00, ['d', 'E', '0', '0']), (0xdc00, ['d', 'c', '0', '0']), (0xd800, ['D', '8', '0', '0'])]
    let source := String.ofList (['U'] ++ quotes '\'' true ++ escapesText parts ++ quotes '\'' true)
    (∀ part ∈ parts, Hex 4 part.2 part.1.toNat) ∧
      (∃ tokens, lex source = .ok tokens ∧
        Parser.kinds tokens = [.text (String.ofList ['\ufffd', '😀', '\ufffd', '\ufffd']), .finish]) ∧
      ofSource source = .ok (.text (String.ofList ['\ufffd', '😀', '\ufffd', '\ufffd'])) := by
  intro parts source
  have spelled : ∀ part ∈ parts, Hex 4 part.2 part.1.toNat := by decide
  have value : decodeLossy (parts.map (·.1)) = ['\ufffd', '😀', '\ufffd', '\ufffd'] := by decide
  obtain ⟨tokens,literal⟩ := escapes_decoded ['U'] (by decide) '\'' (.inr rfl) true parts spelled
  rw [value] at tokens literal
  exact ⟨spelled,tokens,literal⟩

end Proctor.Literal

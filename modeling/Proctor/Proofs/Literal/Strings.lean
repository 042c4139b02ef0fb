import Proctor.Proofs.Literal.Lexing
import Mathlib

/-! Quoted texts are cut as one string token: escape after escape, piece after piece. A text in JSON
quotes is such a string, whose pieces give the text back. -/
namespace Proctor.Literal
open Json (escaped quote)

/-! ### Hexadecimal digits -/

private theorem hexDigits_read (digits rest : List Char) (value : Nat) (cursor : Cursor)
    (here : cursor.rest = digits ++ rest) (hex : ∀ c ∈ digits, (digitValue? c).isSome) :
    ∃ after, after.rest = rest ∧ hexDigits digits.length value cursor =
      (some (digits.foldl (fun n c => n * 16 + (digitValue? c).getD 0) value), after) := by
  induction digits generalizing value cursor with
  | nil => exact ⟨cursor,here,rfl⟩
  | cons c digits ih =>
    obtain ⟨digit,isDigit⟩ := Option.isSome_iff_exists.mp (hex c (by simp))
    obtain ⟨after,rest_eq,same⟩ := ih (value * 16 + digit) cursor.next
      (Cursor.rest_next c _ cursor here) fun d member => hex d (List.mem_cons_of_mem _ member)
    refine ⟨after,rest_eq,?_⟩
    have first : cursor.peek?.bind digitValue? = some digit := by
      simp [Cursor.peek?,here,isDigit]
    simp only [List.length_cons,hexDigits,first,same,List.foldl_cons,isDigit,Option.getD_some]

theorem hexDigits_spelled {count n : Nat} {digits : List Char} (spelled : Hex count digits n) (rest : List Char)
    (cursor : Cursor) (here : cursor.rest = digits ++ rest) :
    ∃ after, after.rest = rest ∧ hexDigits count 0 cursor = (some n, after) := by
  obtain ⟨rfl,hex,rfl⟩ := spelled
  exact hexDigits_read digits rest 0 cursor here hex

/-! ### Escapes -/

/-- After a backslash, and whatever follows it, a text is the escape of the given code. -/
def Escapes (bytes : Bool) (text : List Char) (n : Nat) : Prop :=
  ∀ (rest : List Char) (cursor : Cursor), cursor.rest = text ++ rest →
    ∃ after, after.rest = rest ∧ scanEscape bytes cursor = (.code n, after)

theorem escapes_simple (bytes : Bool) (letter : Char) (n : Nat)
    (known : simpleEscapes.lookup letter = some n) : Escapes bytes [letter] n := by
  intro rest cursor here
  refine ⟨cursor.next,Cursor.rest_next letter rest cursor here,?_⟩
  have first : cursor.peek? = some letter := by simp [Cursor.peek?,here]
  unfold scanEscape
  simp only [first,known]

theorem escapes_byte (bytes : Bool) (digits : List Char) (n : Nat) (hex : Hex 2 digits n) :
    Escapes bytes ('x' :: digits) n := by
  intro rest cursor here
  obtain ⟨after,rest_eq,read⟩ := hexDigits_spelled hex rest cursor.next (Cursor.rest_next 'x' _ cursor here)
  refine ⟨after,rest_eq,?_⟩
  have first : cursor.peek? = some 'x' := by simp [Cursor.peek?,here]
  unfold scanEscape
  rw [first]
  simp only [show simpleEscapes.lookup 'x' = none from rfl,show digitIn? 8 'x' = none from rfl,
    show ¬ 'x' = '\n' by decide,↓reduceIte,read]

theorem scanEscape_short (digits rest : List Char) (value : Nat) (hex : Hex 4 digits value)
    (cursor : Cursor) (here : cursor.rest = 'u' :: digits ++ rest) :
    ∃ after, after.rest = rest ∧
      scanEscape false cursor = (.code (shortCode value after).1, (shortCode value after).2) := by
  obtain ⟨after,rest_eq,read⟩ := hexDigits_spelled hex rest cursor.next (Cursor.rest_next 'u' _ cursor here)
  refine ⟨after,rest_eq,?_⟩
  have first : cursor.peek? = some 'u' := by simp [Cursor.peek?,here]
  unfold scanEscape
  rw [first]
  simp only [show simpleEscapes.lookup 'u' = none from rfl,show digitIn? 8 'u' = none from rfl,
    show ¬ 'u' = '\n' by decide,show ¬ 'u' = 'x' by decide,↓reduceIte,Bool.not_false,Bool.and_true,
    decide_true,read]

theorem escapes_short (digits : List Char) (n : Nat) (hex : Hex 4 digits n)
    (alone : isHighSurrogate n = false ∧ isLowSurrogate n = false) :
    Escapes false ('u' :: digits) n := by
  intro rest cursor here
  obtain ⟨after,rest_eq,read⟩ := scanEscape_short digits rest n hex cursor here
  have whole : shortCode n after = (n, after) := by
    simp only [shortCode,alone,Bool.false_eq_true,↓reduceIte]
  exact ⟨after,rest_eq,by rw [read,whole]⟩

theorem escapes_pair (digits others : List Char) (high low : Nat) (first : Hex 4 digits high)
    (second : Hex 4 others low) (isHigh : isHighSurrogate high = true)
    (isLow : isLowSurrogate low = true) :
    Escapes false ('u' :: digits ++ '\\' :: 'u' :: others) (pairCode high low) := by
  intro rest cursor here
  obtain ⟨after,rest_eq,read⟩ := scanEscape_short digits ('\\' :: 'u' :: others ++ rest) high first
    cursor (by simpa using here)
  obtain ⟨_,_,lowRead⟩ := hexDigits_spelled second rest (after.skip 2)
    (Cursor.rest_skip ['\\', 'u'] _ after rest_eq)
  have partner : lowSurrogate? after = some low := by
    unfold lowSurrogate?
    rw [rest_eq]
    simp only [List.cons_append,lowRead,Option.filter_some,isLow,↓reduceIte]
  have whole : shortCode high after = (pairCode high low, after.skip 6) := by
    simp only [shortCode,isHigh,↓reduceIte,partner]
  have six : (('\\' :: 'u' :: others).length) = 6 := by simp [second.length]
  refine ⟨after.skip 6,?_,by rw [read,whole]⟩
  rw [← six]
  exact Cursor.rest_skip _ rest after rest_eq

theorem escapes_long (digits : List Char) (n : Nat) (hex : Hex 8 digits n) (valid : n.isValidChar) :
    Escapes false ('U' :: digits) n := by
  intro rest cursor here
  obtain ⟨after,rest_eq,read⟩ := hexDigits_spelled hex rest cursor.next (Cursor.rest_next 'U' _ cursor here)
  refine ⟨after,rest_eq,?_⟩
  have first : cursor.peek? = some 'U' := by simp [Cursor.peek?,here]
  unfold scanEscape
  rw [first]
  simp only [show simpleEscapes.lookup 'U' = none from rfl,show digitIn? 8 'U' = none from rfl,
    show ¬ 'U' = '\n' by decide,show ¬ 'U' = 'x' by decide,show ¬ 'U' = 'u' by decide,decide_false,
    ↓reduceIte,Bool.not_false,Bool.and_true,decide_true,read,valid,Bool.false_eq_true]

/-! ### Pieces -/

/-- Between quotes, and whatever follows it, a text is one piece of a string. It does not start with
the quote. -/
structure IsPiece (quote : Char) (style : Style) (text : List Char) (piece : Piece) : Prop where
  starts : ∃ first others, text = first :: others ∧ first ≠ quote
  reads : ∀ (rest : List Char) (steps : Nat) (cursor : Cursor), cursor.rest = text ++ rest →
    ∃ after, after.rest = rest ∧ scanBody quote false style (steps + 1) cursor =
      (scanBody quote false style steps after).prepend [piece]

theorem isPiece_verbatim (quote c : Char) (style : Style)
    (plain : c ≠ quote ∧ c ≠ '\\' ∧ c ≠ '\n') : IsPiece quote style [c] (.char c) := by
  obtain ⟨noQuote,noBackslash,noNewline⟩ := plain
  refine ⟨⟨c,[],rfl,noQuote⟩,?_⟩
  intro rest steps cursor here
  refine ⟨cursor.next,Cursor.rest_next c rest cursor here,?_⟩
  simp [scanBody,here,noQuote,noBackslash,noNewline]

theorem isPiece_escape (quote : Char) (style : Style) (text : List Char) (n : Nat)
    (noBackslash : quote ≠ '\\') (cooked : style.raw = false) (escapes : Escapes style.bytes text n) :
    IsPiece quote style ('\\' :: text) (.code n) := by
  refine ⟨⟨'\\',text,rfl,noBackslash.symm⟩,?_⟩
  intro rest steps cursor here
  obtain ⟨after,rest_eq,read⟩ := escapes rest cursor.next (Cursor.rest_next '\\' _ cursor here)
  refine ⟨after,rest_eq,?_⟩
  simp only [List.cons_append] at here
  simp only [scanBody,here,noBackslash.symm,show ¬ '\\' = '\n' by decide,decide_false,decide_true,
    cooked,Bool.false_and,Bool.and_false,Bool.false_eq_true,↓reduceIte,read]

inductive ArePieces (quote : Char) (style : Style) : List Char → List Piece → Prop
  | nil : ArePieces quote style [] []
  | cons (text : List Char) (piece : Piece) (others : List Char) (rest : List Piece)
      (first : IsPiece quote style text piece) (tail : ArePieces quote style others rest) :
      ArePieces quote style (text ++ others) (piece :: rest)

theorem arePieces_flatMap {α β : Type} (quote : Char) (style : Style) (text : α → List Char)
    (denotes : Piece → β) (value : α → β) (parts : List α) (each : ∀ part ∈ parts, ∃ piece,
      denotes piece = value part ∧ IsPiece quote style (text part) piece) :
    ∃ pieces, pieces.map denotes = parts.map value ∧
      ArePieces quote style (parts.flatMap text) pieces := by
  induction parts with
  | nil => exact ⟨[],rfl,.nil⟩
  | cons part parts ih =>
    obtain ⟨piece,same,first⟩ := each part (by simp)
    obtain ⟨pieces,others,tail⟩ := ih fun other member => each other (List.mem_cons_of_mem _ member)
    exact ⟨piece :: pieces,by simp [same,others],.cons _ _ _ _ first tail⟩

/-! ### Bodies -/

/-- A body has the given pieces, without faults, and ends before the given text. -/
structure Spells (body : Body) (pieces : List Piece) (rest : List Char) : Prop where
  pieces : body.pieces = pieces
  clean : body.faults = []
  after : body.after.rest = rest

private theorem scanBody_pieces (quote : Char) (style : Style) (text : List Char) (pieces : List Piece)
    (are : ArePieces quote style text pieces) (rest : List Char) (steps : Nat) (cursor : Cursor)
    (here : cursor.rest = text ++ quote :: rest) (enough : text.length < steps) :
    Spells (scanBody quote false style steps cursor) pieces rest := by
  induction are generalizing steps cursor with
  | nil =>
    cases steps with
    | zero => simp at enough
    | succ steps =>
      have closed : scanBody quote false style (steps + 1) cursor = .closed cursor.next := by
        simp [scanBody,here]
      rw [closed]
      exact ⟨rfl,rfl,Cursor.rest_next quote rest cursor here⟩
  | cons text piece others pieces first tail ih =>
    cases steps with
    | zero => simp at enough
    | succ steps =>
      obtain ⟨c,more,rfl,_⟩ := first.starts
      rw [List.append_assoc] at here
      obtain ⟨after,rest_eq,step⟩ := first.reads _ steps cursor here
      have shorter : others.length < steps := by
        simp only [List.cons_append,List.length_cons,List.length_append] at enough
        omega
      obtain ⟨same,clean,stopped⟩ := ih steps after rest_eq shorter
      rw [step]
      exact ⟨by simp [Body.prepend,same],clean,stopped⟩

/-! ### Strings -/

def Style.kind (style : Style) (pieces : List Piece) : Kind :=
  if style.bytes then .bytes (pieces.flatMap Piece.toBytes)
  else .text (String.ofList (pieces.map Piece.toChar))

def plain : Style := ⟨false, false⟩

/-- The opening quote of a string is a single one, also where the string is empty. -/
theorem not_triple (quote : Char) (style : Style) (text : List Char) (pieces : List Piece)
    (are : ArePieces quote style text pieces) (rest : List Char) (apart : quote ∉ delimiters)
    (delimited : Delimited rest) : ((text ++ quote :: rest).take 2 == [quote, quote]) = false := by
  cases are with
  | nil =>
    cases rest with
    | nil => simp
    | cons c rest =>
      have other : c ≠ quote := by
        rintro rfl
        exact apart (delimited c (by simp))
      simp [other]
  | cons text piece others pieces first tail =>
    obtain ⟨c,more,rfl,other⟩ := first.starts
    simp [other]

private theorem scanString_reads (quote : Char) (style : Style) (text : List Char) (pieces : List Piece)
    (are : ArePieces quote style text pieces) (rest : List Char) (apart : quote ∉ delimiters)
    (delimited : Delimited rest) (cursor : Cursor) (here : cursor.rest = text ++ quote :: rest) :
    Reads (scanString quote style cursor) (style.kind pieces) rest := by
  have single := not_triple quote style text pieces are rest apart delimited
  obtain ⟨same,clean,after⟩ := scanBody_pieces quote style text pieces are rest
    (cursor.rest.length + 1) cursor here (by simp only [here,List.length_append]; omega)
  rw [← here] at single
  unfold scanString
  simp only [single,Bool.false_eq_true,↓reduceIte]
  exact ⟨by rw [same]; rfl,clean,after⟩

theorem quote_apart (quote : Char) (known : isQuote quote = true) :
    quote ∉ delimiters ∧ isGap quote = false ∧ Mark.ofChar? quote = none ∧ isNamePart quote = false ∧
      quote ≠ '\\' := by
  simp only [isQuote,Bool.or_eq_true,beq_iff_eq] at known
  rcases known with rfl | rfl <;> exact ⟨by simp [delimiters],rfl,rfl,by decide,by decide⟩

section
variable {quote : Char} (known : isQuote quote = true) (text : List Char) {rest : List Char} {kind : Kind}
  {others : List Kind}
include known

theorem lexes_quoted
    (reads : ∀ cursor : Cursor, cursor.rest = text ++ rest → Reads (scanString quote plain cursor) kind rest)
    (lexes : Lexes rest others) : Lexes (quote :: text ++ rest) (kind :: others) := by
  obtain ⟨_,noGap,noMark,_⟩ := quote_apart quote known
  apply lexes_token quote text rest kind others noGap _ lexes
  intro offset
  simp only [scanToken,noMark,known,↓reduceIte]
  exact reads _ (by simp [Cursor.next])

theorem lexes_lettered (letter : Char) (style : Style) (spelled : Style.ofName? [letter] = some style)
    (starts : isNameStart letter = true ∧ isNamePart letter = true)
    (solid : isGap letter = false ∧ Mark.ofChar? letter = none ∧ isQuote letter = false ∧
      isDecimalDigit letter = false)
    (reads : ∀ cursor : Cursor, cursor.rest = text ++ rest → Reads (scanString quote style cursor) kind rest)
    (lexes : Lexes rest others) : Lexes (letter :: quote :: text ++ rest) (kind :: others) := by
  obtain ⟨_,_,_,noName,_⟩ := quote_apart quote known
  obtain ⟨noGap,noMark,noQuote,noDigit⟩ := solid
  apply lexes_token letter (quote :: text) rest kind others noGap _ lexes
  intro offset
  let cursor : Cursor := ⟨offset, letter :: (quote :: text) ++ rest⟩
  have inside : ∀ c ∈ [letter], isNamePart c = true := by simpa using starts.2
  have stops : ∀ c ∈ (quote :: text ++ rest).head?, isNamePart c = false := by
    rintro c ⟨⟩
    exact noName
  have run := Cursor.run_eq isNamePart [letter] (quote :: text ++ rest) cursor rfl inside stops
  have passed := Cursor.rest_pass isNamePart [letter] (quote :: text ++ rest) cursor rfl inside stops
  have next : (cursor.pass isNamePart).peek?.filter isQuote = some quote := by
    simp [Cursor.peek?,passed,known]
  simp only [scanToken,noMark,noQuote,noDigit,starts.1,Bool.false_eq_true,↓reduceIte,scanName]
  rw [run,next,spelled]
  exact reads _ (Cursor.rest_next quote _ _ passed)

end

theorem lexes_string (quote : Char) (known : isQuote quote = true) (text : List Char)
    (pieces : List Piece) (are : ArePieces quote plain text pieces) (rest : List Char)
    (others : List Kind) (delimited : Delimited rest) (lexes : Lexes rest others) :
    Lexes (quote :: text ++ quote :: rest)
      (.text (String.ofList (pieces.map Piece.toChar)) :: others) := by
  have apart := (quote_apart quote known).1
  have string := lexes_quoted known (text ++ [quote]) (fun cursor here =>
    scanString_reads quote plain text pieces are rest apart delimited cursor (by simpa using here)) lexes
  simpa [Style.kind,plain] using string

theorem lexes_bytes (quote : Char) (known : isQuote quote = true) (text : List Char)
    (pieces : List Piece) (are : ArePieces quote ⟨true, false⟩ text pieces) (rest : List Char)
    (others : List Kind) (delimited : Delimited rest) (lexes : Lexes rest others) :
    Lexes ('b' :: quote :: text ++ quote :: rest)
      (.bytes (pieces.flatMap Piece.toBytes) :: others) := by
  have apart := (quote_apart quote known).1
  have string := lexes_lettered known (text ++ [quote]) 'b' ⟨true, false⟩ rfl ⟨rfl,rfl⟩ ⟨rfl,rfl,rfl,rfl⟩
    (fun cursor here =>
      scanString_reads quote _ text pieces are rest apart delimited cursor (by simpa using here)) lexes
  simpa [Style.kind] using string

/-! ### JSON quotes -/

private theorem isPiece_escaped (c : Char) : ∃ piece, piece.toChar = c ∧ IsPiece '"' plain
    (escaped c) piece := by
  have escape (letter : Char) (n : Nat) (known : simpleEscapes.lookup letter = some n) :
      IsPiece '"' plain ['\\', letter] (.code n) :=
    isPiece_escape '"' plain [letter] n (by decide) rfl (escapes_simple false letter n known)
  unfold escaped
  split
  · next same => exact ⟨_,by rw [same]; rfl,escape '"' 0x22 rfl⟩
  split
  · next same => exact ⟨_,by rw [same]; rfl,escape '\\' 0x5c rfl⟩
  split
  · next same => exact ⟨_,by rw [same]; rfl,escape 'b' 0x08 rfl⟩
  split
  · next same => exact ⟨_,by rw [same]; rfl,escape 't' 0x09 rfl⟩
  split
  · next same => exact ⟨_,by rw [same]; rfl,escape 'n' 0x0a rfl⟩
  split
  · next same => exact ⟨_,by rw [same]; rfl,escape 'f' 0x0c rfl⟩
  split
  · next same => exact ⟨_,by rw [same]; rfl,escape 'r' 0x0d rfl⟩
  split
  · next control =>
    have alone : isHighSurrogate c.toNat = false ∧ isLowSurrogate c.toNat = false := by
      constructor
      · simp [isHighSurrogate]; omega
      · simp [isLowSurrogate]; omega
    have valid : c.toNat.isValidChar := .inl (by omega)
    refine ⟨.code c.toNat,by simp only [Piece.toChar,valid,↓reduceIte,Char.ofNat_toNat],?_⟩
    exact isPiece_escape '"' plain _ _ (by decide) rfl
      (escapes_short _ _ (hex_padded 4 c.toNat (by decide) (by omega)) alone)
  · next noQuote noBackslash _ _ noNewline _ _ _ =>
    exact ⟨.char c,rfl,isPiece_verbatim '"' c plain ⟨noQuote,noBackslash,noNewline⟩⟩

theorem lexes_quote (text : String) (rest : List Char) (others : List Kind)
    (delimited : Delimited rest) (lexes : Lexes rest others) :
    Lexes (quote text ++ rest) (.text text :: others) := by
  obtain ⟨pieces,same,are⟩ := arePieces_flatMap '"' plain escaped Piece.toChar id text.toList
    fun c _ => isPiece_escaped c
  have string := lexes_string '"' rfl _ pieces are rest others delimited lexes
  rw [same,List.map_id,String.ofList_toList] at string
  simpa only [quote,List.append_assoc,List.cons_append,List.nil_append] using string

end Proctor.Literal

import Proctor.Proofs.Literal.Moving
import Proctor.Proofs.Literal.Strings
import Mathlib

/-! The escapes of strings, and their bodies, step by step up to the closing quotes: the scanner takes exactly
these. -/
namespace Proctor.Literal
open Cursor

/-! ### Escapes -/

def Escape.pieces? : Escape → Option (List Piece)
  | .code n => some [.code n]
  | .unknown c => some [.char '\\', .char c]
  | .continued => some []
  | .invalid _ => none
  | .unfinished => none

/-- The escapes that are not refused, after their slash. -/
inductive Escape.Reads (bytes : Bool) (cursor : Cursor) : Escape → Cursor → Prop
  | simple (c : Char) (n : Nat) (first : cursor.peek? = some c) (known : simpleEscapes.lookup c = some n) :
      Reads bytes cursor (.code n) cursor.next
  | octal (c : Char) (digit n : Nat) (after : Cursor) (first : cursor.peek? = some c)
      (plain : simpleEscapes.lookup c = none) (isDigit : digitIn? 8 c = some digit)
      (read : octalDigits 2 digit cursor.next = (n, after)) (small : bytes = true → n ≤ 0xff) :
      Reads bytes cursor (.code n) after
  | continued (first : cursor.peek? = some '\n') : Reads bytes cursor .continued cursor.next
  | byte (n : Nat) (after : Cursor) (first : cursor.peek? = some 'x')
      (read : hexDigits 2 0 cursor.next = (some n, after)) : Reads bytes cursor (.code n) after
  | short (unit n : Nat) (stop after : Cursor) (first : cursor.peek? = some 'u') (text : bytes = false)
      (read : hexDigits 4 0 cursor.next = (some unit, stop)) (coded : shortCode unit stop = (n, after)) :
      Reads bytes cursor (.code n) after
  | long (n : Nat) (after : Cursor) (first : cursor.peek? = some 'U') (text : bytes = false)
      (read : hexDigits 8 0 cursor.next = (some n, after)) (scalar : n.isValidChar) :
      Reads bytes cursor (.code n) after
  | unknown (c : Char) (first : cursor.peek? = some c)
      (plain : simpleEscapes.lookup c = none ∧ digitIn? 8 c = none ∧ c ≠ '\n' ∧ c ≠ 'x')
      (text : bytes = false → c ≠ 'u' ∧ c ≠ 'U') : Reads bytes cursor (.unknown c) cursor.next

section
variable {bytes : Bool} {cursor after : Cursor} {escape : Escape}

theorem scanEscape_sound (read : scanEscape bytes cursor = (escape, after)) (valid : escape.pieces? ≠ none) :
    Escape.Reads bytes cursor escape after := by
  unfold scanEscape at read
  split at read
  · cases read
    exact absurd rfl valid
  next c first =>
  dsimp only at read
  split at read
  · next known =>
    cases read
    exact .simple c _ first known
  · next digit plain isDigit =>
    split at read
    · cases read
      exact absurd rfl valid
    · next small =>
      cases read
      exact .octal c digit _ _ first plain isDigit rfl (by simpa using small)
  next plain noDigit =>
  split at read
  · next newline =>
    cases read
    exact .continued (newline ▸ first)
  next noNewline =>
  split at read
  · next byte =>
    split at read
    · next digits =>
      cases read
      exact .byte _ _ (byte ▸ first) digits
    · cases read
      exact absurd rfl valid
  next noByte =>
  split at read
  · next short =>
    obtain ⟨rfl,text⟩ : c = 'u' ∧ bytes = false := by simpa using short
    split at read
    · next digits =>
      cases read
      exact .short _ _ _ _ first text digits rfl
    · cases read
      exact absurd rfl valid
  next noShort =>
  split at read
  · next long =>
    obtain ⟨rfl,text⟩ : c = 'U' ∧ bytes = false := by simpa using long
    split at read
    · next digits =>
      split at read
      · next scalar =>
        cases read
        exact .long _ _ first text digits scalar
      · cases read
        exact absurd rfl valid
    · cases read
      exact absurd rfl valid
  next noLong =>
  cases read
  refine .unknown c first ⟨plain,noDigit,noNewline,noByte⟩ fun text => ⟨?_,?_⟩
  · simpa [text] using noShort
  · simpa [text] using noLong

theorem scanEscape_complete (reads : Escape.Reads bytes cursor escape after) :
    scanEscape bytes cursor = (escape, after) := by
  have letters : ∀ c ∈ ['\n', 'x', 'u', 'U'], simpleEscapes.lookup c = none ∧ digitIn? 8 c = none := by
    simp [simpleEscapes,digitIn?,digitValue?]
  cases reads with
  | simple c n first known => simp [scanEscape,first,known]
  | octal c digit n _ first plain isDigit read small =>
    have inside : (bytes && decide (0xff < n)) = false := by simpa using small
    simp [scanEscape,first,plain,isDigit,read,inside]
  | continued first => simp [scanEscape,first,letters]
  | byte n _ first read => simp [scanEscape,first,letters,read]
  | short unit n stop _ first text read coded => simp [scanEscape,first,letters,text,read,coded]
  | long n _ first text read scalar => simp [scanEscape,first,letters,text,read,scalar]
  | unknown c first plain text =>
    obtain ⟨noName,noDigit,noNewline,noByte⟩ := plain
    cases bytes with
    | false => simp [scanEscape,first,noName,noDigit,noNewline,noByte,text rfl]
    | true => simp [scanEscape,first,noName,noDigit,noNewline,noByte]

end

/-! ### Steps -/

/-- One step inside a string: the place before it, the pieces it denotes and the place after it. -/
inductive Body.Step (quote : Char) (triple : Bool) (style : Style) : Cursor → List Piece → Cursor → Prop
  | char (cursor : Cursor) (c : Char) (text : List Char) (here : cursor.rest = c :: text) (apart : c ≠ quote)
      (plain : c ≠ '\\') (line : c = '\n' → triple = true) : Step quote triple style cursor [.char c] cursor.next
  | quote (cursor : Cursor) (text : List Char) (here : cursor.rest = quote :: text) (long : triple = true)
      (one : text.head? ≠ some quote) : Step quote triple style cursor [.char quote] cursor.next
  | quotes (cursor : Cursor) (text : List Char) (here : cursor.rest = quote :: quote :: text)
      (long : triple = true) (two : text.head? ≠ some quote) :
      Step quote triple style cursor [.char quote, .char quote] (cursor.skip 2)
  | rawPair (cursor : Cursor) (c : Char) (text : List Char) (here : cursor.rest = '\\' :: c :: text)
      (raw : style.raw = true) (special : c = quote ∨ c = '\\') :
      Step quote triple style cursor [.char '\\', .char c] (cursor.skip 2)
  | raw (cursor : Cursor) (text : List Char) (here : cursor.rest = '\\' :: text) (raw : style.raw = true)
      (plain : ∀ c ∈ text.head?, ¬ (c = quote ∨ c = '\\')) : Step quote triple style cursor [.char '\\'] cursor.next
  | escape (cursor after : Cursor) (escape : Escape) (pieces : List Piece) (text : List Char)
      (here : cursor.rest = '\\' :: text) (cooked : style.raw = false)
      (read : scanEscape style.bytes cursor.next = (escape, after)) (valid : escape.pieces? = some pieces) :
      Step quote triple style cursor pieces after

inductive Body.Ends (quote : Char) : Bool → Cursor → Cursor → Prop
  | one (cursor : Cursor) (text : List Char) (here : cursor.rest = quote :: text) :
      Ends quote false cursor cursor.next
  | three (cursor : Cursor) (text : List Char) (here : cursor.rest = quote :: quote :: quote :: text) :
      Ends quote true cursor (cursor.skip 3)

inductive Body.Whole (quote : Char) (triple : Bool) (style : Style) : Cursor → List Piece → Cursor → Prop
  | ends (cursor after : Cursor) (closed : Body.Ends quote triple cursor after) :
      Whole quote triple style cursor [] after
  | step (cursor middle after : Cursor) (pieces others : List Piece)
      (first : Body.Step quote triple style cursor pieces middle)
      (tail : Whole quote triple style middle others after) :
      Whole quote triple style cursor (pieces ++ others) after

variable {quote : Char} {triple : Bool} {style : Style} {cursor middle after : Cursor} {pieces : List Piece}

theorem Cursor.Ahead.shorter (ahead : cursor.next.Ahead after) (some : cursor.rest ≠ []) :
    after.rest.length < cursor.rest.length := by
  obtain ⟨used,passed⟩ := ahead
  obtain ⟨c,text,here⟩ := List.exists_cons_of_ne_nil some
  have rest := passed.rest
  rw [rest_next c text cursor here] at rest
  rw [here,rest,List.length_cons,List.length_append]
  omega

theorem Body.Step.ahead (step : Body.Step quote triple style cursor pieces middle) :
    cursor.next.Ahead middle ∧ cursor.rest ≠ [] := by
  cases step with
  | char c text here | quote text here | raw text here => exact ⟨.refl _,by simp [here]⟩
  | quotes text here | rawPair c text here => exact ⟨ahead_next cursor.next,by simp [here]⟩
  | escape after escape pieces text here cooked read =>
    have passed := scanEscape_ahead style.bytes cursor.next
    rw [read] at passed
    exact ⟨(ahead_next cursor.next).trans passed,by simp [here]⟩

theorem Body.Ends.ahead (ends : Body.Ends quote triple cursor after) : cursor.next.Ahead after := by
  cases ends with
  | one => exact .refl _
  | three => exact ahead_skip cursor.next 2

theorem Body.Whole.ahead (whole : Body.Whole quote triple style cursor pieces after) :
    cursor.next.Ahead after := by
  induction whole with
  | ends cursor after closed => exact closed.ahead
  | step cursor middle after pieces others first _ ih =>
    exact first.ahead.1.trans ((ahead_next middle).trans ih)

/-! ### What the scanner takes -/

private theorem scanBody_ends (steps : Nat) (ends : Body.Ends quote triple cursor after) :
    scanBody quote triple style (steps + 1) cursor = .closed after := by
  cases ends with
  | one _ text here => simp [scanBody,here]
  | three _ text here => simp [scanBody,here]

private theorem scanBody_step (known : isQuote quote = true) (steps : Nat)
    (step : Body.Step quote triple style cursor pieces middle) :
    scanBody quote triple style (steps + 1) cursor =
      (scanBody quote triple style steps middle).prepend pieces := by
  have apart : '\\' ≠ quote := (quote_apart quote known).2.2.2.2.symm
  cases step with
  | char c text here different plain line =>
    have inside : ¬ (c = '\n' ∧ triple = false) := by
      rintro ⟨newline,short⟩
      simp [line newline] at short
    simp [scanBody,here,different,plain,inside]
  | quote text here long one =>
    have fewer : text.take 2 ≠ [quote, quote] := fun two => one (by
      rw [← List.take_append_drop 2 text,two]
      rfl)
    simp [scanBody,here,long,one,fewer]
  | quotes text here long two =>
    have fewer : text.take 1 ≠ [quote] := fun one => two (by
      rw [← List.take_append_drop 1 text,one]
      rfl)
    simp [scanBody,here,long,fewer]
  | rawPair c text here raw special => simp [scanBody,here,apart,raw,special]
  | raw text here raw plain =>
    cases text with
    | nil => simp [scanBody,here,apart,raw]
    | cons c text => simp [scanBody,here,apart,raw,plain c rfl]
  | escape after escape pieces text here cooked read valid =>
    cases escape <;> cases valid <;> simp [scanBody,here,apart,cooked,read,Body.prepend]

private theorem scanBody_cases (quote : Char) (triple : Bool) (style : Style) (steps : Nat)
    (cursor : Cursor) :
    (∃ after, Body.Ends quote triple cursor after) ∨
    (∃ pieces middle, Body.Step quote triple style cursor pieces middle) ∨
    (scanBody quote triple style (steps + 1) cursor).faults ≠ [] := by
  unfold scanBody
  split
  · exact .inr (.inr (List.cons_ne_nil _ _))
  next c text here =>
  split
  · next isQuote =>
    subst isQuote
    split
    · next short =>
      obtain rfl : triple = false := by simpa using short
      exact .inl ⟨_,.one cursor text here⟩
    next long =>
    obtain rfl : triple = true := by simpa using long
    split
    · next three =>
      refine .inl ⟨_,.three cursor (text.drop 2) ?_⟩
      rw [here,← List.take_append_drop 2 text,three]
      rfl
    next fewer =>
    split
    · next two =>
      obtain ⟨text,rfl⟩ := List.head?_eq_some_iff.mp two
      refine .inr (.inl ⟨_,_,.quotes cursor text here rfl fun third => fewer ?_⟩)
      obtain ⟨text,rfl⟩ := List.head?_eq_some_iff.mp third
      rfl
    · next one => exact .inr (.inl ⟨_,_,.quote cursor text here rfl one⟩)
  next ordinary =>
  split
  · exact .inr (.inr (List.cons_ne_nil _ _))
  next line =>
  split
  · next rawSlash =>
    simp only [Bool.and_eq_true,decide_eq_true_eq] at rawSlash
    obtain ⟨rfl,raw⟩ := rawSlash
    refine .inr (.inl ?_)
    by_cases special : ∃ d ∈ text.head?, d = quote ∨ d = '\\'
    · obtain ⟨d,first,special⟩ := special
      obtain ⟨more,rfl⟩ := List.head?_eq_some_iff.mp first
      exact ⟨_,_,.rawPair cursor d more here raw special⟩
    · exact ⟨_,_,.raw cursor text here raw fun d first is => special ⟨d,first,is⟩⟩
  next noRaw =>
  split
  · next slash =>
    subst slash
    have cooked : style.raw = false := by simpa using noRaw
    split
    · next n after read => exact .inr (.inl ⟨_,_,.escape cursor after _ _ text here cooked read rfl⟩)
    · next d after read => exact .inr (.inl ⟨_,_,.escape cursor after _ _ text here cooked read rfl⟩)
    · next after read => exact .inr (.inl ⟨_,_,.escape cursor after _ _ text here cooked read rfl⟩)
    · exact .inr (.inr (List.cons_ne_nil _ _))
    · exact .inr (.inr (List.cons_ne_nil _ _))
  · next plain =>
    refine .inr (.inl ⟨_,_,.char cursor c text here ordinary plain fun newline => ?_⟩)
    simpa [newline] using line

private theorem scanBody_sound (known : isQuote quote = true) (steps : Nat)
    (clean : (scanBody quote triple style steps cursor).faults = []) :
    Body.Whole quote triple style cursor (scanBody quote triple style steps cursor).pieces
      (scanBody quote triple style steps cursor).after := by
  induction steps generalizing cursor with
  | zero => cases clean
  | succ steps ih =>
    rcases scanBody_cases quote triple style steps cursor with ⟨after,ends⟩ | ⟨pieces,middle,step⟩ | faulty
    · rw [scanBody_ends steps ends]
      exact .ends cursor after ends
    · rw [scanBody_step known steps step] at clean ⊢
      exact .step cursor middle _ pieces _ step (ih clean)
    · exact absurd clean faulty

private theorem scanBody_complete (known : isQuote quote = true) (steps : Nat)
    (whole : Body.Whole quote triple style cursor pieces after) (enough : cursor.rest.length < steps) :
    scanBody quote triple style steps cursor = ⟨pieces, [], after⟩ := by
  induction whole generalizing steps with
  | ends cursor after ends =>
    obtain ⟨steps,rfl⟩ : ∃ n, steps = n + 1 := ⟨steps - 1,by omega⟩
    exact scanBody_ends steps ends
  | step cursor middle after pieces others first tail ih =>
    obtain ⟨steps,rfl⟩ : ∃ n, steps = n + 1 := ⟨steps - 1,by omega⟩
    -- The step passes a character, so that one less is enough behind it.
    have shorter : middle.rest.length < steps := by
      have less := first.ahead.1.shorter first.ahead.2
      omega
    rw [scanBody_step known steps first,ih steps shorter]
    rfl

/-! ### Strings -/

/-- The quotes that open a string after its first one: two more of them, or none. -/
inductive Body.Opens (quote : Char) : Cursor → Bool → Cursor → Prop
  | one (cursor : Cursor) (fewer : cursor.rest.take 2 ≠ [quote, quote]) : Opens quote cursor false cursor
  | three (cursor : Cursor) (text : List Char) (here : cursor.rest = quote :: quote :: text) :
      Opens quote cursor true (cursor.skip 2)

variable {start : Cursor}

theorem opens_exists (quote : Char) (cursor : Cursor) : ∃ triple start, Body.Opens quote cursor triple start := by
  by_cases three : cursor.rest.take 2 = [quote, quote]
  · refine ⟨true,_,.three cursor (cursor.rest.drop 2) ?_⟩
    have parts := List.take_append_drop 2 cursor.rest
    rw [three] at parts
    exact parts.symm
  · exact ⟨false,_,.one cursor three⟩

private theorem scanString_eq (style : Style) (opens : Body.Opens quote cursor triple start) :
    let body := scanBody quote triple style (start.rest.length + 1) start
    scanString quote style cursor = ⟨some (style.kind body.pieces), body.faults, body.after⟩ := by
  cases opens with
  | one fewer =>
    have single : (cursor.rest.take 2 == [quote, quote]) = false := by simpa using fewer
    simp only [scanString,single,Bool.false_eq_true,↓reduceIte]
    rfl
  | three text here =>
    have triple : (cursor.rest.take 2 == [quote, quote]) = true := by simp [here]
    simp only [scanString,triple,↓reduceIte]
    rfl

theorem scanString_sound (known : isQuote quote = true) (opens : Body.Opens quote cursor triple start)
    (clean : (scanString quote style cursor).faults = []) : ∃ pieces after,
      Body.Whole quote triple style start pieces after ∧
        scanString quote style cursor = .token (style.kind pieces) after := by
  rw [scanString_eq style opens] at clean ⊢
  dsimp only at clean
  refine ⟨_,_,scanBody_sound known _ clean,?_⟩
  rw [Scan.token,clean]

theorem scanString_complete (known : isQuote quote = true) (opens : Body.Opens quote cursor triple start)
    (whole : Body.Whole quote triple style start pieces after) :
    scanString quote style cursor = .token (style.kind pieces) after := by
  rw [scanString_eq style opens,scanBody_complete known _ whole (Nat.lt_succ_self _)]
  rfl

end Proctor.Literal

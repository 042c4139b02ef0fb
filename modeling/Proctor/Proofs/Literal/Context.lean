import Proctor.Proofs.Literal.Bodies
import Proctor.Proofs.Literal.Printed
import Mathlib

/-! A token is told by its own characters: a scanner that stops before one text stops in the same way before
every other text that starts with a delimiter. -/
namespace Proctor.Literal

namespace Cursor

/-! ### Places before different texts -/

private theorem rest_next_eq (cursor : Cursor) : cursor.next.rest = cursor.rest.tail := by
  unfold next
  split
  · next ended => simp [ended]
  · next c rest here => simp [here]

private theorem rest_skip_eq (cursor : Cursor) (n : Nat) : (cursor.skip n).rest = cursor.rest.drop n := by
  induction n generalizing cursor with
  | zero => rfl
  | succ n ih => rw [skip,ih cursor.next,rest_next_eq,List.drop_tail]

private theorem rest_pass_eq (cursor : Cursor) (p : Char → Bool) :
    (cursor.pass p).rest = cursor.rest.dropWhile p := by
  rw [pass,rest_skip_eq,run]
  nth_rewrite 2 [← List.takeWhile_append_dropWhile (p := p) (l := cursor.rest)]
  exact List.drop_left

theorem Ahead.behind {start stop : Cursor} {rest : List Char} (ahead : start.Ahead stop)
    (behind : rest <:+ stop.rest) : rest <:+ start.rest := by
  obtain ⟨used,passes⟩ := ahead
  rw [passes.rest]
  exact behind.trans (List.suffix_append used _)

def Beside (rest other : List Char) (cursor twin : Cursor) : Prop :=
  ∃ front, cursor.rest = front ++ rest ∧ twin.rest = front ++ other

section
variable {rest other : List Char} {cursor twin : Cursor}

theorem Beside.skip (beside : Beside rest other cursor twin) (front text : List Char)
    (here : cursor.rest = front ++ text) (behind : rest <:+ (cursor.skip front.length).rest) :
    twin.rest = front ++ (twin.skip front.length).rest ∧
      Beside rest other (cursor.skip front.length) (twin.skip front.length) := by
  obtain ⟨whole,one,same⟩ := beside
  rw [rest_skip front text cursor here] at behind
  obtain ⟨others,rfl⟩ := behind
  rw [here,← List.append_assoc,List.append_cancel_right_eq] at one
  rw [← one,List.append_assoc] at same
  have there := rest_skip front (others ++ other) twin same
  exact ⟨by rw [there,same],others,rest_skip front _ cursor here,there⟩

theorem Beside.next (beside : Beside rest other cursor twin) (c : Char) (text : List Char)
    (here : cursor.rest = c :: text) (behind : rest <:+ cursor.next.rest) :
    twin.rest = c :: twin.next.rest ∧ Beside rest other cursor.next twin.next :=
  beside.skip [c] text here behind

theorem Beside.sees (delimited : Delimited other) (beside : Beside rest other cursor twin)
    (shown more : List Char) (there : twin.rest = shown ++ more) (solid : ∀ c ∈ shown, c ∉ delimiters) :
    ∃ others, cursor.rest = shown ++ others := by
  obtain ⟨front,here,same⟩ := beside
  rw [there] at same
  -- What reaches into the other text would show the delimiter that stands first there.
  rcases List.append_eq_append_iff.mp same with ⟨others,rfl,_⟩ | ⟨extra,rfl,beyond⟩
  · exact ⟨others ++ rest,by rw [here,List.append_assoc]⟩
  · cases extra with
    | nil => exact ⟨rest,by simpa using here⟩
    | cons c extra =>
      have delimiter := delimited c (by simp [beyond])
      exact absurd delimiter (solid c (by simp))

theorem Beside.first (delimited : Delimited other) (beside : Beside rest other cursor twin) (c : Char)
    (solid : c ∉ delimiters) (there : twin.rest.head? = some c) : cursor.rest.head? = some c := by
  obtain ⟨more,shown⟩ := List.head?_eq_some_iff.mp there
  obtain ⟨others,here⟩ := beside.sees delimited [c] more shown (by simpa using solid)
  rw [here]
  rfl

theorem Beside.stops {α : Type} (delimited : Delimited other) (beside : Beside rest other cursor twin)
    (f : Char → Option α) (outside : ∀ c ∈ delimiters, f c = none) (stopped : cursor.peek?.bind f = none) :
    twin.peek?.bind f = none := by
  cases there : twin.rest with
  | nil => simp [peek?,there]
  | cons c more =>
    have shown : twin.peek?.bind f = f c := by simp [peek?,there]
    rw [shown]
    by_cases delimiter : c ∈ delimiters
    · exact outside c delimiter
    · obtain ⟨others,here⟩ := beside.sees delimited [c] more there (by simpa using delimiter)
      simpa [peek?,here] using stopped

theorem Beside.reads {α : Type} (beside : Beside rest other cursor twin) (f : Char → Option α) {a : α}
    (read : cursor.peek?.bind f = some a) (behind : rest <:+ cursor.next.rest) :
    twin.peek?.bind f = some a ∧ Beside rest other cursor.next twin.next := by
  cases here : cursor.rest with
  | nil => simp [peek?,here] at read
  | cons c more =>
    obtain ⟨there,next⟩ := beside.next c more here behind
    refine ⟨?_,next⟩
    simpa [peek?,here,there] using read

theorem Beside.pass (delimited : Delimited other) (beside : Beside rest other cursor twin) (p : Char → Bool)
    (outside : ∀ c ∈ delimiters, p c = false) (behind : rest <:+ (cursor.pass p).rest) :
    twin.run p = cursor.run p ∧ Beside rest other (cursor.pass p) (twin.pass p) := by
  have whole : cursor.rest = cursor.run p ++ (cursor.pass p).rest := by
    rw [rest_pass_eq,run,List.takeWhile_append_dropWhile]
  obtain ⟨there,passed⟩ := beside.skip (cursor.run p) _ whole behind
  have ended : (cursor.pass p).peek?.bind (Option.guard p) = none := by
    have stopped := List.head?_dropWhile_not p cursor.rest
    rw [peek?,rest_pass_eq]
    cases first : (cursor.rest.dropWhile p).head? with
    | none => rfl
    | some c => simpa [first,Option.guard] using stopped
  have stops : ∀ c ∈ (twin.skip (cursor.run p).length).rest.head?, p c = false := by
    have stopped := passed.stops delimited _ (fun c inside => by simp [Option.guard,outside c inside]) ended
    intro c first
    simpa [peek?,Option.mem_def.mp first,Option.guard] using stopped
  have run : twin.run p = cursor.run p :=
    run_eq p _ _ twin there (fun c inside => List.mem_takeWhile_imp inside) stops
  refine ⟨run,?_⟩
  simpa only [Cursor.pass,run] using passed

end

end Cursor

open Cursor

variable {rest other : List Char} {cursor twin : Cursor}

/-! ### Escapes -/

private theorem digitValue_delimiter : ∀ c ∈ delimiters, digitValue? c = none := by simp
    [delimiters,digitValue?]

private theorem hexDigits_again (beside : Beside rest other cursor twin) {count value n : Nat} {after : Cursor}
    (read : hexDigits count value cursor = (some n, after)) (behind : rest <:+ after.rest) :
    ∃ twinAfter, hexDigits count value twin = (some n, twinAfter) ∧ Beside rest other after twinAfter := by
  induction count generalizing value cursor twin with
  | zero =>
    cases read
    exact ⟨twin,rfl,beside⟩
  | succ count ih =>
    unfold hexDigits at read
    split at read
    · next digit isDigit =>
      have ahead := hexDigits_ahead count (value * 16 + digit) cursor.next
      rw [read] at ahead
      obtain ⟨same,next⟩ := beside.reads digitValue? isDigit (ahead.behind behind)
      obtain ⟨twinAfter,again,stopped⟩ := ih next read
      exact ⟨twinAfter,by rw [hexDigits,same]; exact again,stopped⟩
    · cases read

private theorem octalDigits_again (delimited : Delimited other) (beside : Beside rest other cursor twin)
    {count value n : Nat} {after : Cursor} (read : octalDigits count value cursor = (n, after))
    (behind : rest <:+ after.rest) :
    ∃ twinAfter, octalDigits count value twin = (n, twinAfter) ∧ Beside rest other after twinAfter := by
  induction count generalizing value cursor twin with
  | zero =>
    cases read
    exact ⟨twin,rfl,beside⟩
  | succ count ih =>
    unfold octalDigits at read
    split at read
    · next digit isDigit =>
      have ahead := octalDigits_ahead count (value * 8 + digit) cursor.next
      rw [read] at ahead
      obtain ⟨same,next⟩ := beside.reads (digitIn? 8) isDigit (ahead.behind behind)
      obtain ⟨twinAfter,again,stopped⟩ := ih next read
      exact ⟨twinAfter,by rw [octalDigits,same]; exact again,stopped⟩
    · next noDigit =>
      cases read
      have outside : ∀ c ∈ delimiters, digitIn? 8 c = none := fun c inside => by
        simp [digitIn?,digitValue_delimiter c inside]
      exact ⟨twin,by rw [octalDigits,beside.stops delimited (digitIn? 8) outside noDigit],beside⟩

theorem hexDigits_some {count value n : Nat} {after : Cursor}
    (read : hexDigits count value cursor = (some n, after)) : ∃ digits,
      digits.length = count ∧ (∀ c ∈ digits, (digitValue? c).isSome) ∧ cursor.rest = digits ++ after.rest ∧
        digits.foldl (fun n c => n * 16 + (digitValue? c).getD 0) value = n := by
  induction count generalizing value cursor with
  | zero =>
    cases read
    exact ⟨[],rfl,by simp,rfl,rfl⟩
  | succ count ih =>
    unfold hexDigits at read
    split at read
    · next digit isDigit =>
      obtain ⟨digits,length,hex,same,number⟩ := ih read
      cases here : cursor.rest with
      | nil => simp [peek?,here] at isDigit
      | cons c more =>
        have isHex : digitValue? c = some digit := by simpa [peek?,here] using isDigit
        rw [rest_next c more cursor here] at same
        exact ⟨c :: digits,by simp [length],by simpa [isHex] using hex,by simp [same],by simpa [isHex] using number⟩
    · cases read

theorem lowSurrogate_iff (cursor : Cursor) (low : Nat) : lowSurrogate? cursor = some low ↔
    isLowSurrogate low = true ∧
      ∃ digits more, Hex 4 digits low ∧ cursor.rest = '\\' :: 'u' :: digits ++ more := by
  constructor
  · intro found
    unfold lowSurrogate? at found
    split at found
    · next more here =>
      obtain ⟨read,isLow⟩ := Option.filter_eq_some_iff.mp found
      have moved : (cursor.skip 2).rest = more := by rw [rest_skip_eq,here]; rfl
      obtain ⟨digits,length,hex,same,number⟩ := hexDigits_some (Prod.ext read rfl)
      rw [moved] at same
      exact ⟨isLow,digits,_,⟨length,hex,number⟩,by rw [here,same]; rfl⟩
    · cases found
  · rintro ⟨isLow,digits,more,hex,here⟩
    have moved : (cursor.skip 2).rest = digits ++ more := by rw [rest_skip_eq,here]; rfl
    obtain ⟨after,_,read⟩ := hexDigits_spelled hex more (cursor.skip 2) moved
    unfold lowSurrogate?
    rw [here]
    simp only [List.cons_append,read,Option.filter,isLow,↓reduceIte]

theorem pairCode_valid (high low : Nat) (isHigh : isHighSurrogate high = true) (isLow : isLowSurrogate low = true) :
    (pairCode high low).isValidChar := by
  simp only [isHighSurrogate,isLowSurrogate,Bool.and_eq_true,decide_eq_true_eq] at isHigh isLow
  refine .inr ⟨?_,?_⟩ <;> unfold pairCode <;> omega

private theorem escape_solid (digits : List Char) (hex : ∀ c ∈ digits, (digitValue? c).isSome) :
    ∀ c ∈ '\\' :: 'u' :: digits, c ∉ delimiters := by
  refine List.forall_mem_cons.mpr ⟨by decide,List.forall_mem_cons.mpr ⟨by decide,fun c inside delimiter => ?_⟩⟩
  have digit := hex c inside
  rw [digitValue_delimiter c delimiter] at digit
  cases digit

private theorem shortCode_again (delimited : Delimited other) (beside : Beside rest other cursor twin)
    {value n : Nat} {after : Cursor} (read : shortCode value cursor = (n, after)) (behind : rest <:+ after.rest) :
    ∃ twinAfter, shortCode value twin = (n, twinAfter) ∧ Beside rest other after twinAfter := by
  unfold shortCode at read
  split at read
  · next high =>
    split at read
    · next low isLow =>
      obtain ⟨rfl,rfl⟩ := Prod.mk.inj read
      obtain ⟨known,digits,more,hex,here⟩ := (lowSurrogate_iff cursor low).mp isLow
      have six : ('\\' :: 'u' :: digits).length = 6 := by simp [hex.length]
      obtain ⟨there,passed⟩ := beside.skip _ more here (by rw [six]; exact behind)
      rw [six] at passed
      have found : lowSurrogate? twin = some low := (lowSurrogate_iff twin low).mpr ⟨known,digits,_,hex,there⟩
      exact ⟨_,by simp only [shortCode,high,↓reduceIte,found],passed⟩
    · next noLow =>
      cases read
      -- A low surrogate has no delimiter in it, so that one shown at the other place stands at the first.
      have none : lowSurrogate? twin = none := by
        by_contra found
        obtain ⟨low,isLow⟩ := Option.ne_none_iff_exists'.mp found
        obtain ⟨known,digits,more,hex,there⟩ := (lowSurrogate_iff twin low).mp isLow
        obtain ⟨others,here⟩ := beside.sees delimited _ more there (escape_solid digits hex.hex)
        rw [(lowSurrogate_iff cursor low).mpr ⟨known,digits,others,hex,here⟩] at noLow
        cases noLow
      exact ⟨twin,by simp only [shortCode,high,↓reduceIte,none],beside⟩
  · next noHigh =>
    split at read
    · next low =>
      cases read
      exact ⟨twin,by simp only [shortCode,noHigh,Bool.false_eq_true,↓reduceIte,low],beside⟩
    · next noLow =>
      cases read
      exact ⟨twin,by simp only [shortCode,noHigh,Bool.false_eq_true,↓reduceIte,noLow],beside⟩

private theorem scanEscape_again (delimited : Delimited other) (beside : Beside rest other cursor twin)
    {bytes : Bool}
    {escape : Escape} {after : Cursor} (read : scanEscape bytes cursor = (escape, after)) (valid : escape.pieces? ≠ none)
    (behind : rest <:+ after.rest) :
    ∃ twinAfter, scanEscape bytes twin = (escape, twinAfter) ∧ Beside rest other after twinAfter := by
  have ahead := scanEscape_ahead bytes cursor
  rw [read] at ahead
  have reads := scanEscape_sound read valid
  -- The character that names the escape is shown at both places.
  have shown (c : Char) (first : cursor.peek? = some c) :
      twin.peek? = some c ∧ Beside rest other cursor.next twin.next := by
    simpa using beside.reads some (by simpa using first) (ahead.behind behind)
  cases reads with
  | simple c n first known =>
    obtain ⟨same,next⟩ := shown c first
    exact ⟨_,scanEscape_complete (.simple c n same known),next⟩
  | octal c digit n _ first plain isDigit digits small =>
    obtain ⟨same,next⟩ := shown c first
    obtain ⟨twinAfter,again,stopped⟩ := octalDigits_again delimited next digits behind
    exact ⟨twinAfter,scanEscape_complete (.octal c digit n _ same plain isDigit again small),stopped⟩
  | continued first =>
    obtain ⟨same,next⟩ := shown _ first
    exact ⟨_,scanEscape_complete (.continued same),next⟩
  | byte n _ first digits =>
    obtain ⟨same,next⟩ := shown _ first
    obtain ⟨twinAfter,again,stopped⟩ := hexDigits_again next digits behind
    exact ⟨twinAfter,scanEscape_complete (.byte n _ same again),stopped⟩
  | short unit n stop _ first text digits coded =>
    obtain ⟨same,next⟩ := shown _ first
    have moved := shortCode_ahead unit stop
    rw [coded] at moved
    obtain ⟨twinStop,again,stopped⟩ := hexDigits_again next digits (moved.behind behind)
    obtain ⟨twinAfter,code,finished⟩ := shortCode_again delimited stopped coded behind
    exact ⟨twinAfter,scanEscape_complete (.short unit n _ _ same text again code),finished⟩
  | long n _ first text digits scalar =>
    obtain ⟨same,next⟩ := shown _ first
    obtain ⟨twinAfter,again,stopped⟩ := hexDigits_again next digits behind
    exact ⟨twinAfter,scanEscape_complete (.long n _ same text again scalar),stopped⟩
  | unknown c first plain text =>
    obtain ⟨same,next⟩ := shown c first
    exact ⟨_,scanEscape_complete (.unknown c same plain text),next⟩

/-! ### Strings -/

theorem Body.Step.again (delimited : Delimited other) {quote : Char} (apart : quote ∉ delimiters) {triple : Bool}
    {style : Style} (beside : Beside rest other cursor twin) {pieces : List Piece} {middle : Cursor}
    (step : Body.Step quote triple style cursor pieces middle) (behind : rest <:+ middle.rest) :
    ∃ twinMiddle, Body.Step quote triple style twin pieces twinMiddle ∧
      Beside rest other middle twinMiddle := by
  cases step with
  | char c text here different plain line =>
    obtain ⟨there,next⟩ := beside.next c text here behind
    exact ⟨_,.char twin c _ there different plain line,next⟩
  | quote text here long one =>
    obtain ⟨there,next⟩ := beside.next quote text here behind
    refine ⟨_,.quote twin _ there long fun second => one ?_,next⟩
    rw [← rest_next quote text cursor here]
    exact next.first delimited quote apart second
  | quotes text here long two =>
    obtain ⟨there,passed⟩ := beside.skip [quote, quote] text here behind
    refine ⟨_,.quotes twin _ there long fun third => two ?_,passed⟩
    rw [← rest_skip [quote, quote] text cursor here]
    exact passed.first delimited quote apart third
  | rawPair c text here raw special =>
    obtain ⟨there,passed⟩ := beside.skip ['\\', c] text here behind
    exact ⟨_,.rawPair twin c _ there raw special,passed⟩
  | raw text here raw plain =>
    obtain ⟨there,next⟩ := beside.next '\\' text here behind
    refine ⟨_,.raw twin _ there raw fun c second special => plain c ?_ special,next⟩
    have solid : c ∉ delimiters := by
      rcases special with rfl | rfl
      · exact apart
      · decide
    rw [← rest_next '\\' text cursor here]
    exact next.first delimited c solid second
  | escape after escape pieces text here cooked read valid =>
    have passed := scanEscape_ahead style.bytes cursor.next
    rw [read] at passed
    obtain ⟨there,next⟩ := beside.next '\\' text here (((ahead_next _).trans passed).behind behind)
    obtain ⟨twinAfter,again,stopped⟩ := scanEscape_again delimited next read (by simp [valid]) behind
    exact ⟨_,.escape twin _ escape pieces _ there cooked again valid,stopped⟩

theorem Body.Ends.again {quote : Char} {triple : Bool} {after : Cursor} (beside : Beside rest other cursor twin)
    (ends : Body.Ends quote triple cursor after) (behind : rest <:+ after.rest) :
    ∃ twinAfter, Body.Ends quote triple twin twinAfter ∧ Beside rest other after twinAfter := by
  cases ends with
  | one _ text here =>
    obtain ⟨there,next⟩ := beside.next quote text here behind
    exact ⟨_,.one twin _ there,next⟩
  | three _ text here =>
    obtain ⟨there,passed⟩ := beside.skip [quote, quote, quote] text here behind
    exact ⟨_,.three twin _ there,passed⟩

theorem Body.Whole.again (delimited : Delimited other) {quote : Char} (apart : quote ∉ delimiters) {triple : Bool}
    {style : Style} {pieces : List Piece} {after : Cursor} (beside : Beside rest other cursor twin)
    (whole : Body.Whole quote triple style cursor pieces after) (behind : rest <:+ after.rest) :
    ∃ twinAfter, Body.Whole quote triple style twin pieces twinAfter ∧ Beside rest other after twinAfter := by
  induction whole generalizing twin with
  | ends cursor after closed =>
    obtain ⟨twinAfter,again,stopped⟩ := closed.again beside behind
    exact ⟨_,.ends _ _ again,stopped⟩
  | step cursor middle after pieces others first tail ih =>
    -- The body ends before the text, and so does each step of it.
    have passed := (ahead_next middle).trans tail.ahead
    obtain ⟨twinMiddle,again,moved⟩ := first.again delimited apart beside (passed.behind behind)
    obtain ⟨twinAfter,others_again,stopped⟩ := ih moved behind
    exact ⟨_,.step _ _ _ _ _ again others_again,stopped⟩

theorem Body.Opens.again (delimited : Delimited other) {quote : Char} (apart : quote ∉ delimiters) {triple : Bool}
    {start : Cursor} (beside : Beside rest other cursor twin) (opens : Body.Opens quote cursor triple start)
    (behind : rest <:+ start.rest) :
    ∃ twinStart, Body.Opens quote twin triple twinStart ∧ Beside rest other start twinStart := by
  cases opens with
  | one fewer =>
    refine ⟨twin,.one twin fun three => fewer ?_,beside⟩
    have shown := List.take_append_drop 2 twin.rest
    rw [three] at shown
    obtain ⟨others,here⟩ := beside.sees delimited [quote, quote] _ shown.symm (by simpa using apart)
    rw [here]
    rfl
  | three text here =>
    obtain ⟨there,passed⟩ := beside.skip [quote, quote] text here behind
    exact ⟨_,.three twin _ there,passed⟩

/-- If the first scan finds no fault and stops before its text, the second finds the same and stops before its own. -/
def Scan.Again (rest other : List Char) (scan twin : Scan) : Prop :=
  scan.faults = [] → rest <:+ scan.after.rest →
    twin.kind? = scan.kind? ∧ twin.faults = [] ∧ Beside rest other scan.after twin.after

private theorem scanString_again (delimited : Delimited other) (quote : Char) (known : isQuote quote = true)
    (style : Style) (beside : Beside rest other cursor twin) :
    Scan.Again rest other (scanString quote style cursor) (scanString quote style twin) := by
  intro clean behind
  have apart := (quote_apart quote known).1
  obtain ⟨triple,start,opens⟩ := opens_exists quote cursor
  obtain ⟨pieces,after,whole,same⟩ := scanString_sound known opens clean
  rw [same] at behind ⊢
  have passed := (ahead_next start).trans whole.ahead
  obtain ⟨twinStart,opens_again,opened⟩ := opens.again delimited apart beside (passed.behind behind)
  obtain ⟨twinAfter,whole_again,closed⟩ := whole.again delimited apart opened behind
  rw [scanString_complete known opens_again whole_again]
  exact ⟨rfl,rfl,closed⟩

/-! ### Numbers -/

theorem isDigitOr_delimiter (base : Nat) : ∀ c ∈ delimiters, isDigitOr base c = false := by
  intro c inside
  have noSeparator : c ≠ '_' := by
    rintro rfl
    simp [delimiters] at inside
  simp [isDigitOr,noSeparator,digitIn?,digitValue_delimiter c inside]

private theorem finishNumber_clean (kind : Kind) (clean : (finishNumber kind cursor).faults = []) (c : Char)
    (first : cursor.rest.head? = some c) : ¬ (c = 'j' ∨ c = 'J') := by
  intro imaginary
  have shown : cursor.peek? = some c := first
  simp [finishNumber,shown,imaginary,Scan.fault] at clean

private theorem finishNumber_plain (kind : Kind)
    (plain : ∀ c, cursor.rest.head? = some c → ¬ (c = 'j' ∨ c = 'J')) :
    finishNumber kind cursor = .token kind cursor := by
  unfold finishNumber
  split
  · next c first => exact if_neg (plain c first)
  · rfl

private theorem finishNumber_again (delimited : Delimited other) (kind : Kind)
    (beside : Beside rest other cursor twin) :
    Scan.Again rest other (finishNumber kind cursor) (finishNumber kind twin) := by
  intro clean _
  have plain := finishNumber_clean kind clean
  have twinPlain (c : Char) (first : twin.rest.head? = some c) : ¬ (c = 'j' ∨ c = 'J') := by
    intro imaginary
    have solid : c ∉ delimiters := by rcases imaginary with rfl | rfl <;> decide
    exact plain c (beside.first delimited c solid first) imaginary
  rw [finishNumber_plain kind plain,finishNumber_plain kind twinPlain]
  exact ⟨rfl,rfl,beside⟩

private theorem scanRadix_again (delimited : Delimited other) (start twinStart : Cursor) (base : Nat)
    (beside : Beside rest other cursor twin) :
    Scan.Again rest other (scanRadix start cursor base) (scanRadix twinStart twin base) := by
  intro clean behind
  have stopped : (scanRadix start cursor base).after = cursor.pass (isDigitOr base) := by
    unfold scanRadix
    dsimp only
    repeat' split
    all_goals rfl
  rw [stopped] at behind
  obtain ⟨run,passed⟩ := beside.pass delimited (isDigitOr base) (isDigitOr_delimiter base) behind
  unfold scanRadix at clean ⊢
  rw [run]
  dsimp only at clean ⊢
  split at clean
  · cases clean
  next some =>
  split at clean
  · next small =>
    rw [if_neg some,if_pos small,if_neg some,if_pos small]
    exact ⟨rfl,rfl,passed⟩
  · cases clean

private theorem fractionAt_again (delimited : Delimited other) (beside : Beside rest other cursor twin)
    {fraction? : Option (List Char)} {after : Cursor} (read : fractionAt cursor = (fraction?, after))
    (behind : rest <:+ after.rest) :
    ∃ twinAfter, fractionAt twin = (fraction?, twinAfter) ∧ Beside rest other after twinAfter := by
  by_cases point : ∃ c text, cursor.rest = '.' :: c :: text ∧ isDecimalDigit c = true
  · obtain ⟨c,text,here,digit⟩ := point
    have next := rest_next '.' (c :: text) cursor here
    simp only [fractionAt,here,digit,↓reduceIte,Prod.mk.injEq] at read
    obtain ⟨rfl,rfl⟩ := read
    have first := ahead_pass_first cursor.next (isDigitOr 10) c text next (digit_inside c digit)
    obtain ⟨there,moved⟩ := beside.skip ['.', c] text here (first.behind behind)
    obtain ⟨_,dot⟩ := beside.next '.' _ here (((ahead_next _).trans first).behind behind)
    obtain ⟨run,passed⟩ := dot.pass delimited _ (isDigitOr_delimiter 10) behind
    refine ⟨_,?_,passed⟩
    simp only [fractionAt,there,List.cons_append,digit,↓reduceIte,run]
  · have whole {place : Cursor} (noPoint : ¬ ∃ c text, place.rest = '.' :: c :: text ∧ isDecimalDigit c = true) :
        fractionAt place = (none, place) := by
      unfold fractionAt
      split
      · next c text here => exact if_neg fun digit => noPoint ⟨c,text,here,digit⟩
      · rfl
    rw [whole point] at read
    cases read
    refine ⟨twin,whole ?_,beside⟩
    rintro ⟨c,text,there,digit⟩
    have solid : c ∉ delimiters := fun inside => by
      have outside := isDigitOr_delimiter 10 c inside
      rw [digit_inside c digit] at outside
      cases outside
    have shown : ∀ d ∈ ['.', c], d ∉ delimiters := by
      simpa [solid] using (by decide : '.' ∉ delimiters)
    obtain ⟨others,here⟩ := beside.sees delimited ['.', c] text there shown
    exact point ⟨c,others,here,digit⟩

private theorem exponentMark_again (delimited : Delimited other) (beside : Beside rest other cursor twin)
    {mark : List Char} {negative : Bool} {after : Cursor}
    (read : exponentMark? cursor = some (mark, negative, after)) (behind : rest <:+ after.rest) :
    ∃ twinAfter, exponentMark? twin = some (mark, negative, twinAfter) ∧ Beside rest other after twinAfter := by
  unfold exponentMark? at read
  split at read
  · next c text here =>
    split at read
    · next letter =>
      split at read
      · next more =>
        cases read
        obtain ⟨there,passed⟩ := beside.skip [c, '-'] more here behind
        exact ⟨_,by simp [exponentMark?,there,letter],passed⟩
      · next more =>
        cases read
        obtain ⟨there,passed⟩ := beside.skip [c, '+'] more here behind
        exact ⟨_,by simp [exponentMark?,there,letter],passed⟩
      · next noMinus noPlus =>
        cases read
        obtain ⟨there,next⟩ := beside.next c text here behind
        have same (d : Char) (more : List Char) (solid : d ∉ delimiters) (shown : twin.next.rest = d :: more) :
            ∃ others, text = d :: others := by
          rw [← rest_next c text cursor here]
          exact List.head?_eq_some_iff.mp (next.first delimited d solid (by rw [shown]; rfl))
        refine ⟨_,?_,next⟩
        unfold exponentMark?
        rw [there]
        simp only [letter,↓reduceIte]
        split
        · next more shown =>
          obtain ⟨others,minus⟩ := same '-' more (by decide) shown
          exact absurd minus (noMinus others)
        · next more shown =>
          obtain ⟨others,plus⟩ := same '+' more (by decide) shown
          exact absurd plus (noPlus others)
        · rfl
    · cases read
  · cases read

private theorem exponentMark_none_again (delimited : Delimited other) (beside : Beside rest other cursor twin)
    (read : exponentMark? cursor = none) : exponentMark? twin = none := by
  refine exponentMark_none twin fun c first => ?_
  by_contra letter
  have isMark : c = 'e' ∨ c = 'E' := by tauto
  have solid : c ∉ delimiters := by rcases isMark with rfl | rfl <;> decide
  obtain ⟨text,here⟩ := List.head?_eq_some_iff.mp (beside.first delimited c solid first)
  rw [exponentMark?,here] at read
  simp only [isMark,↓reduceIte] at read
  split at read <;> cases read

private def plainKind (whole : List Char) (fraction? : Option (List Char)) : Kind :=
  if fraction?.isNone ∧ ofDigits 10 whole ≤ maxInt then .int (ofDigits 10 whole)
  else .float (Decimal.nearest false ⟨whole, fraction?.getD [], 0⟩)

private theorem scanDecimal_plain {fraction? : Option (List Char)} {stop : Cursor}
    (point : fractionAt (cursor.pass (isDigitOr 10)) = (fraction?, stop)) (unmarked : exponentMark? stop = none) :
    scanDecimal cursor = finishNumber (plainKind (bareDigits (cursor.run (isDigitOr 10))) fraction?) stop := by
  simp only [scanDecimal,point,unmarked,plainKind]
  split <;> rfl

def scaled (whole : List Char) (fraction? : Option (List Char)) (negative : Bool) (power : List Char) : Kind :=
  let n : Int := ofDigits 10 (bareDigits power)
  .float (Decimal.nearest false ⟨whole, fraction?.getD [], if negative then -n else n⟩)

private theorem scanDecimal_scaled {fraction? : Option (List Char)} {stop power : Cursor} {mark : List Char}
    {negative : Bool} (point : fractionAt (cursor.pass (isDigitOr 10)) = (fraction?, stop))
    (marked : exponentMark? stop = some (mark, negative, power))
    {d : Char} (first : power.peek? = some d) (digit : isDecimalDigit d = true) :
    scanDecimal cursor = finishNumber
      (scaled (bareDigits (cursor.run (isDigitOr 10))) fraction? negative (power.run (isDigitOr 10)))
      (power.pass (isDigitOr 10)) := by
  simp only [scanDecimal,point,marked,first,Option.filter,digit,↓reduceIte,Option.isNone_some,Bool.false_eq_true]
  rfl

private theorem scanDecimal_again (delimited : Delimited other) (beside : Beside rest other cursor twin) :
    Scan.Again rest other (scanDecimal cursor) (scanDecimal twin) := by
  intro clean behind
  have separate := isDigitOr_delimiter 10
  have passed := (scanDecimal_moves cursor).ahead.behind behind
  obtain ⟨run,start⟩ := beside.pass delimited (isDigitOr 10) separate passed
  rcases point : fractionAt (cursor.pass (isDigitOr 10)) with ⟨fraction?,stop⟩
  rcases marked : exponentMark? stop with _ | ⟨mark,negative,power⟩
  · rw [scanDecimal_plain point marked] at clean behind ⊢
    obtain ⟨twinStop,pointed,stopped⟩ :=
      fractionAt_again delimited start point ((finishNumber_moves _ stop).ahead.behind behind)
    rw [scanDecimal_plain pointed (exponentMark_none_again delimited stopped marked),run]
    exact finishNumber_again delimited _ stopped clean behind
  · obtain ⟨d,first,digit⟩ : ∃ d, power.peek? = some d ∧ isDecimalDigit d = true := by
      by_contra missing
      have noDigit : power.peek?.filter isDecimalDigit = none := by simpa using missing
      simp only [scanDecimal,point,marked,noDigit,Option.isNone_none,↓reduceIte] at clean
      cases clean
    rw [scanDecimal_scaled point marked first digit] at clean behind ⊢
    -- From the back: the text is behind the power of ten, so behind its mark, so behind the fraction.
    have ended := (finishNumber_moves _ _).ahead.behind behind
    have begun := (ahead_pass power _).behind ended
    obtain ⟨twinStop,pointed,stopped⟩ := fractionAt_again delimited start point
      ((exponentMark_ahead stop power mark negative marked).behind begun)
    obtain ⟨twinPower,marked_again,powered⟩ := exponentMark_again delimited stopped marked begun
    obtain ⟨exponent,finished⟩ := powered.pass delimited (isDigitOr 10) separate ended
    obtain ⟨text,here⟩ := List.head?_eq_some_iff.mp first
    have moved := ahead_pass_first power (isDigitOr 10) d text here (digit_inside d digit)
    have there := (powered.next d text here (moved.behind ended)).1
    have twinFirst : twinPower.peek? = some d := by simp [peek?,there]
    rw [scanDecimal_scaled pointed marked_again twinFirst digit,run,exponent]
    exact finishNumber_again delimited _ finished clean behind

private theorem radix_solid (c : Char) (base : Nat) (announced : radix? c = some base) : c ∉ delimiters := by
  intro inside
  have plain := delimited_radix [c] (delimited_cons c [] inside) c rfl
  rw [announced] at plain
  cases plain

def Announces (cursor : Cursor) (base : Nat) : Prop :=
  ∃ c text, cursor.rest = '0' :: c :: text ∧ radix? c = some base

theorem scanNumber_radix {base : Nat} (announces : Announces cursor base) :
    scanNumber cursor = scanRadix cursor (cursor.skip 2) base := by
  obtain ⟨c,text,here,announced⟩ := announces
  simp only [scanNumber,here,announced]

private theorem scanNumber_decimal (plain : ∀ base, ¬ Announces cursor base) : scanNumber cursor =
    scanDecimal cursor := by
  unfold scanNumber
  split
  · next c text here =>
    cases announced : radix? c with
    | none => rfl
    | some base => exact absurd ⟨c,text,here,announced⟩ (plain base)
  · rfl

private theorem scanNumber_again (delimited : Delimited other) (beside : Beside rest other cursor twin) :
    Scan.Again rest other (scanNumber cursor) (scanNumber twin) := by
  intro clean behind
  by_cases radix : ∃ base, Announces cursor base
  · obtain ⟨base,c,text,here,announced⟩ := radix
    rw [scanNumber_radix ⟨c,text,here,announced⟩] at clean behind ⊢
    obtain ⟨there,passed⟩ := beside.skip ['0', c] text here ((scanRadix_moves _ _ base).ahead.behind behind)
    rw [scanNumber_radix ⟨c,_,there,announced⟩]
    exact scanRadix_again delimited cursor twin base passed clean behind
  · have plain : ∀ base, ¬ Announces cursor base := not_exists.mp radix
    have twinPlain (base : Nat) : ¬ Announces twin base := by
      rintro ⟨c,text,there,announced⟩
      have solid : ∀ d ∈ ['0', c], d ∉ delimiters := by
        simpa [radix_solid c base announced] using (by decide : '0' ∉ delimiters)
      obtain ⟨others,here⟩ := beside.sees delimited ['0', c] text there solid
      exact plain base ⟨c,others,here,announced⟩
    rw [scanNumber_decimal plain] at clean behind ⊢
    rw [scanNumber_decimal twinPlain]
    exact scanDecimal_again delimited beside clean behind

/-! ### Tokens -/

private theorem isNamePart_outside : ∀ c ∈ delimiters, isNamePart c = false := fun c inside =>
  isNamePart_delimiter [c] (delimited_cons c [] inside) c rfl

theorem scanName_string {quote : Char} {style : Style} (follows : (cursor.pass isNamePart).rest.head? = some quote)
    (known : isQuote quote = true) (spelled : Style.ofName? (cursor.run isNamePart) = some style) :
    scanName cursor = scanString quote style (cursor.pass isNamePart).next := by
  have first : (cursor.pass isNamePart).peek?.filter isQuote = some quote := by
    rw [peek?,follows,Option.filter,if_pos known]
  simp only [scanName,first,spelled]

private theorem scanName_word (apart : ∀ quote style, (cursor.pass isNamePart).rest.head? = some quote →
      isQuote quote = true → Style.ofName? (cursor.run isNamePart) ≠ some style) :
    scanName cursor = .token ((Kind.keyword? (String.ofList (cursor.run isNamePart))).getD
      (.ident (String.ofList (cursor.run isNamePart)))) (cursor.pass isNamePart) := by
  unfold scanName
  dsimp only
  split
  · next quote style follows spelled =>
    obtain ⟨first,known⟩ := Option.filter_eq_some_iff.mp follows
    exact absurd spelled (apart quote style first known)
  · rfl

private theorem scanName_again (delimited : Delimited other) (beside : Beside rest other cursor twin) :
    Scan.Again rest other (scanName cursor) (scanName twin) := by
  intro clean behind
  by_cases string : ∃ quote style, (cursor.pass isNamePart).rest.head? = some quote ∧ isQuote quote = true ∧
      Style.ofName? (cursor.run isNamePart) = some style
  · obtain ⟨quote,style,follows,known,spelled⟩ := string
    rw [scanName_string follows known spelled] at clean behind ⊢
    have inside := (scanString_moves quote style _).ahead.behind behind
    obtain ⟨run,passed⟩ := beside.pass delimited isNamePart isNamePart_outside ((ahead_next _).behind inside)
    obtain ⟨text,here⟩ := List.head?_eq_some_iff.mp follows
    obtain ⟨there,next⟩ := passed.next quote text here inside
    rw [scanName_string (by rw [there]; rfl) known (run ▸ spelled)]
    exact scanString_again delimited quote known style next clean behind
  · have apart (quote : Char) (style : Style) (follows : (cursor.pass isNamePart).rest.head? = some quote)
        (known : isQuote quote = true) : Style.ofName? (cursor.run isNamePart) ≠ some style :=
      fun spelled => string ⟨quote,style,follows,known,spelled⟩
    rw [scanName_word apart] at behind ⊢
    obtain ⟨run,passed⟩ := beside.pass delimited isNamePart isNamePart_outside behind
    have twinApart (quote : Char) (style : Style) (follows : (twin.pass isNamePart).rest.head? = some quote)
        (known : isQuote quote = true) : Style.ofName? (twin.run isNamePart) ≠ some style := by
      rw [run]
      exact apart quote style (passed.first delimited quote (quote_apart quote known).1 follows) known
    rw [scanName_word twinApart,run]
    exact ⟨rfl,rfl,passed⟩

/-- A token that is read without faults before one text is read before every text that starts with a delimiter. -/
theorem scanToken_again (delimited : Delimited other) (beside : Beside rest other cursor twin) (c : Char)
    (text : List Char) (here : cursor.rest = c :: text) :
    Scan.Again rest other (scanToken cursor c) (scanToken twin c) := by
  unfold scanToken
  split
  · intro _ behind
    exact ⟨rfl,rfl,(beside.next c text here behind).2⟩
  split
  · next known =>
    intro clean behind
    have next := (beside.next c text here ((scanString_moves c _ cursor.next).ahead.behind behind)).2
    exact scanString_again delimited c known _ next clean behind
  split
  · exact scanNumber_again delimited beside
  split
  · exact scanName_again delimited beside
  · rintro ⟨⟩

end Proctor.Literal

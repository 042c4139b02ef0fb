import Proctor.Proofs.Literal.Spacing
import Proctor.Proofs.Literal.Surrogates
import Mathlib

/-! Raw strings stand for themselves: what is between the quotes of one is its value, and the quotes that close it
are the first that no unpaired backslash precedes. -/
namespace Proctor.Literal
open Text (lowerAscii)
open Text.Utf8 (encode)
open Cursor

/-! ### Backslashes -/

/-- An odd number of backslashes ends the text, so that its last one is paired with none before it. -/
def Unpaired (text : List Char) : Prop := Odd (text.rtakeWhile (· = '\\')).length

private theorem unpaired_nil : ¬ Unpaired [] := by simp [Unpaired]

private theorem unpaired_slash (text : List Char) : Unpaired (text ++ ['\\']) ↔ ¬ Unpaired text := by
  rw [Unpaired,List.rtakeWhile_concat_pos _ _ _ (by simp),List.length_append,List.length_singleton,Nat.odd_add_one]
  rfl

private theorem unpaired_other (text : List Char) (c : Char) (other : c ≠ '\\') : ¬ Unpaired (text ++ [c]) := by
  rw [Unpaired,List.rtakeWhile_concat_neg _ _ _ (by simpa using other)]
  simp

private theorem unpaired_append (front text : List Char) (paired : ¬ Unpaired front) :
    Unpaired (front ++ text) ↔ Unpaired text := by
  induction text using List.reverseRecOn with
  | nil =>
    rw [List.append_nil]
    exact iff_of_false paired unpaired_nil
  | append_singleton text c ih =>
    rw [← List.append_assoc]
    by_cases slash : c = '\\'
    · rw [slash,unpaired_slash,unpaired_slash,ih]
    · have left := unpaired_other (front ++ text) c slash
      have right := unpaired_other text c slash
      exact iff_of_false left right

/-! ### Closing quotes -/

/-- The delimiter after the body is the first one there that no unpaired backslash precedes. -/
structure ClosesFirst (delimiter body : List Char) : Prop where
  paired : ¬ Unpaired body
  first : ∀ before, before.length < body.length → before ++ delimiter <+: body ++ delimiter → Unpaired before

private theorem closesFirst_nil (delimiter : List Char) : ClosesFirst delimiter [] where
  paired := unpaired_nil
  first _ shorter := absurd shorter (Nat.not_lt_zero _)

/-- More text in front changes nothing if it holds no delimiter of its own and pairs its backslashes. -/
theorem ClosesFirst.after {delimiter body : List Char} (closes : ClosesFirst delimiter body) (front : List Char)
    (same : ∀ before, before ++ delimiter <+: body ++ delimiter → (Unpaired (front ++ before) ↔ Unpaired before))
    (inside : ∀ before, before.length < front.length → before ++ delimiter <+: front ++ (body ++ delimiter) →
      Unpaired before) : ClosesFirst delimiter (front ++ body) where
  paired := by
    rw [same body List.prefix_rfl]
    exact closes.paired
  first before shorter occurs := by
    rw [List.append_assoc] at occurs
    rcases Nat.lt_or_ge before.length front.length with less | past
    · exact inside before less occurs
    · -- The delimiter starts behind the front, so that the place before it is one in the body.
      have within : front <+: before :=
        List.prefix_of_prefix_length_le (List.prefix_append front _) ((List.prefix_append before _).trans occurs) past
      obtain ⟨others,rfl⟩ := within
      rw [List.append_assoc,List.prefix_append_right_inj] at occurs
      rw [same others occurs]
      rw [List.length_append,List.length_append] at shorter
      exact closes.first others (by omega) occurs

/-! ### Bodies -/

section
variable {quote : Char} {triple : Bool} {style : Style} {cursor middle after : Cursor} {pieces : List Piece}

private theorem not_quotes {c : Char} (apart : c ≠ quote) (rest : List Char) :
    ¬ quotes quote triple <+: c :: rest := by
  obtain ⟨more,same⟩ := quotes_cons quote triple []
  rw [List.append_nil] at same
  rw [same,List.cons_prefix_cons]
  rintro ⟨rfl,_⟩
  exact apart rfl

private theorem closesFirst_char {c : Char} {body : List Char} (apart : c ≠ quote) (plain : c ≠ '\\')
    (closes : ClosesFirst (quotes quote triple) body) : ClosesFirst (quotes quote triple) ([c] ++ body) := by
  have paired : ¬ Unpaired [c] := unpaired_other [] c plain
  refine closes.after [c] (fun before _ => unpaired_append [c] before paired) fun before shorter occurs => ?_
  obtain rfl := List.length_eq_zero_iff.mp (Nat.lt_one_iff.mp shorter)
  exact absurd occurs (not_quotes apart _)

private theorem first_char (quote : Char) (triple : Bool) (body rest : List Char) :
    ∃ c more, body ++ quotes quote triple = c :: more ∧ (body ++ (quotes quote triple ++ rest)).head? = some c := by
  cases body with
  | nil =>
    obtain ⟨more,same⟩ := quotes_cons quote triple []
    obtain ⟨others,shown⟩ := quotes_cons quote triple rest
    rw [List.append_nil] at same
    exact ⟨quote,more,same,by rw [List.nil_append,shown,List.head?_cons]⟩
  | cons c body => exact ⟨c,_,rfl,rfl⟩

private theorem closesFirst_quotes {body rest : List Char} (noSlash : quote ≠ '\\') (count : Nat)
    (few : count < 3)
    (ends : (body ++ (quotes quote true ++ rest)).head? ≠ some quote) (closes : ClosesFirst (quotes quote true) body) :
    ClosesFirst (quotes quote true) (List.replicate count quote ++ body) := by
  have paired : ¬ Unpaired (List.replicate count quote) := by
    cases count with
    | zero => exact unpaired_nil
    | succ count =>
      rw [List.replicate_succ']
      exact unpaired_other _ quote noSlash
  refine closes.after _ (fun before _ => unpaired_append _ before paired) fun before shorter occurs => ?_
  -- The delimiter would reach behind these quotes, where another character stands.
  obtain ⟨more,reached⟩ := occurs
  obtain ⟨c,others,shown,first⟩ := first_char quote true body rest
  have other : c ≠ quote := fun same => ends (same ▸ first)
  rw [List.length_replicate] at shorter
  obtain ⟨extra,size⟩ := Nat.exists_eq_add_of_lt shorter
  have behind := congrArg (List.drop count) reached
  rw [List.drop_left' List.length_replicate,shown,List.append_assoc,size,Nat.add_assoc,
    List.drop_length_add_append] at behind
  have one : extra = 0 ∨ extra = 1 := by omega
  rcases one with rfl | rfl
  · exact absurd (List.cons.inj behind).1.symm other
  · exact absurd (List.cons.inj behind).1.symm other

private theorem closesFirst_slash {body rest : List Char} (noSlash : quote ≠ '\\')
    (plain : ∀ c ∈ (body ++ (quotes quote triple ++ rest)).head?, ¬ (c = quote ∨ c = '\\'))
    (closes : ClosesFirst (quotes quote triple) body) : ClosesFirst (quotes quote triple) (['\\'] ++ body) := by
  obtain ⟨c,others,shown,first⟩ := first_char quote triple body rest
  obtain ⟨apart,noOther⟩ := not_or.mp (plain c first)
  refine closes.after ['\\'] (fun before occurs => ?_) fun before shorter occurs => ?_
  · rw [shown] at occurs
    cases before with
    | nil => exact absurd occurs (not_quotes apart _)
    | cons d before =>
      obtain rfl : d = c := (List.cons_prefix_cons.mp occurs).1
      have pair := unpaired_append ['\\', d] before (unpaired_other ['\\'] d noOther)
      have single := unpaired_append [d] before (unpaired_other [] d noOther)
      exact pair.trans single.symm
  · obtain rfl := List.length_eq_zero_iff.mp (Nat.lt_one_iff.mp shorter)
    exact absurd occurs (not_quotes noSlash.symm _)

private theorem closesFirst_pair {c : Char} {body : List Char} (noSlash : quote ≠ '\\')
    (special : c = quote ∨ c = '\\')
    (closes : ClosesFirst (quotes quote triple) body) : ClosesFirst (quotes quote triple) (['\\', c] ++ body) := by
  have alone : Unpaired ['\\'] := (unpaired_slash []).mpr unpaired_nil
  have paired : ¬ Unpaired ['\\', c] := by
    rcases special with rfl | rfl
    · exact unpaired_other ['\\'] c noSlash
    · exact fun odd => (unpaired_slash ['\\']).mp odd alone
  refine closes.after _ (fun before _ => unpaired_append _ before paired) fun before shorter occurs => ?_
  cases before with
  | nil => exact absurd occurs (not_quotes noSlash.symm _)
  | cons d before =>
    obtain rfl := List.length_eq_zero_iff.mp (Nat.lt_one_iff.mp (Nat.lt_of_succ_lt_succ shorter))
    obtain rfl : d = '\\' := (List.cons_prefix_cons.mp occurs).1
    exact alone

/-- A step in a raw string takes its characters as they are, and passes no delimiter. -/
theorem step_verbatim (noSlash : quote ≠ '\\') (raw : style.raw = true)
    (step : Body.Step quote triple style cursor pieces middle) : ∃ front,
      cursor.rest = front ++ middle.rest ∧ pieces = front.map .char ∧
        ∀ body rest, middle.rest = body ++ (quotes quote triple ++ rest) →
          ClosesFirst (quotes quote triple) body → ClosesFirst (quotes quote triple) (front ++ body) := by
  cases step with
  | char c text here apart plain line =>
    refine ⟨[c],(cursor.passes_next c text here).rest,rfl,fun body rest _ closes => ?_⟩
    exact closesFirst_char apart plain closes
  | quote text here long one =>
    subst long
    have after := rest_next quote text cursor here
    refine ⟨[quote],by rw [here,after]; rfl,rfl,fun body rest shown closes => ?_⟩
    rw [← after,shown] at one
    exact closesFirst_quotes noSlash 1 (by omega) one closes
  | quotes text here long two =>
    subst long
    have after : (cursor.skip 2).rest = text := rest_skip [quote, quote] text cursor here
    refine ⟨[quote, quote],by rw [here,after]; rfl,rfl,fun body rest shown closes => ?_⟩
    rw [← after] at two
    exact closesFirst_quotes noSlash 2 (by omega) (shown ▸ two) closes
  | rawPair c text here _ special =>
    have after : (cursor.skip 2).rest = text := rest_skip ['\\', c] text cursor here
    refine ⟨['\\', c],by rw [here,after]; rfl,rfl,fun body rest _ closes => ?_⟩
    exact closesFirst_pair noSlash special closes
  | raw text here _ plain =>
    have after := rest_next '\\' text cursor here
    refine ⟨['\\'],by rw [here,after]; rfl,rfl,fun body rest shown closes => ?_⟩
    rw [← after,shown] at plain
    exact closesFirst_slash noSlash plain closes
  | escape after escape pieces text here cooked => exact absurd raw (by simp [cooked])

/-- The body of a raw string is its value, and is closed by the first delimiter that can close it. -/
theorem whole_verbatim (noSlash : quote ≠ '\\') (raw : style.raw = true)
    (whole : Body.Whole quote triple style cursor pieces after) : ∃ body,
      cursor.rest = body ++ (quotes quote triple ++ after.rest) ∧ pieces = body.map .char ∧
        ClosesFirst (quotes quote triple) body := by
  induction whole with
  | ends cursor after closed =>
    refine ⟨[],?_,rfl,closesFirst_nil _⟩
    cases closed with
    | one _ text here =>
      rw [here,rest_next quote text cursor here]
      rfl
    | three _ text here =>
      have last : (cursor.skip 3).rest = text := rest_skip [quote, quote, quote] text cursor here
      rw [here,last]
      rfl
  | step cursor middle after pieces others first _ ih =>
    obtain ⟨body,shown,rfl,closes⟩ := ih
    obtain ⟨front,taken,rfl,passes⟩ := step_verbatim noSlash raw first
    refine ⟨front ++ body,?_,List.map_append.symm,passes body _ shown closes⟩
    rw [taken,shown,List.append_assoc]

end

/-! ### Letters before the quotes -/

private theorem scanToken_letter (cursor : Cursor) (c : Char) (letter : c.isAlpha = true) :
    scanToken cursor c = scanName cursor := by
  have apart (d : Char) (sign : d.isAlpha = false) : d ≠ c := by
    rintro rfl
    rw [letter] at sign
    cases sign
  have noMark : Mark.ofChar? c = none := by
    refine List.find?_eq_none.mpr fun mark _ same => apart mark.char ?_ (by simpa using same)
    cases mark <;> decide
  have noQuote : isQuote c = false := by
    simp [isQuote,(apart '"' (by decide)).symm,(apart '\'' (by decide)).symm]
  have noDigit : isDecimalDigit c = false := by
    simp only [Char.isAlpha,Char.isUpper,Char.isLower,isDecimalDigit,Char.le_def,UInt32.le_iff_toNat_le] at letter ⊢
    simp at letter ⊢
    omega
  have starts : isNameStart c = true := by simp [isNameStart,letter]
  simp [scanToken,noMark,noQuote,noDigit,starts]

private theorem scanToken_announced {letters text : List Char} {quote c : Char} {style : Style}
    {cursor : Cursor}
    (here : cursor.rest = letters ++ quote :: text) (first : letters.head? = some c)
    (alpha : ∀ d ∈ letters, d.isAlpha = true) (spelled : Style.ofName? letters = some style)
    (known : isQuote quote = true) : ∃ opened : Cursor, opened.rest = text ∧
      scanToken cursor c = scanString quote style opened := by
  have inside : ∀ d ∈ letters, isNamePart d = true := fun d member => by
    simp [isNamePart,Char.isAlphanum,alpha d member]
  have stops : ∀ d ∈ (quote :: text).head?, isNamePart d = false := by
    rintro d ⟨⟩
    exact (quote_apart quote known).2.2.2.1
  have run := run_eq isNamePart letters (quote :: text) cursor here inside stops
  have passed := rest_pass isNamePart letters (quote :: text) cursor here inside stops
  refine ⟨_,rest_next quote text _ passed,?_⟩
  rw [scanToken_letter cursor c (alpha c (List.mem_of_head? first))]
  exact scanName_string (by rw [passed,List.head?_cons]) known (run ▸ spelled)

private theorem raw_letters (letters : List Char)
    (announced : lowerAscii letters ∈ [['r'], ['b', 'r'], ['r', 'b']]) :
    letters ≠ [] ∧ (∀ c ∈ letters, c.isAlpha = true) ∧
      Style.ofName? letters = some ⟨decide ('b' ∈ lowerAscii letters), true⟩ := by
  refine ⟨?_,?_,?_⟩
  · rintro rfl
    exact absurd announced (by decide)
  · intro c member
    have all : ∀ spelling ∈ [['r'], ['b', 'r'], ['r', 'b']], ∀ d ∈ spelling, d.isAlpha = true := by simp
    rw [← Char.isAlpha_toLower_eq_isAlpha]
    exact all _ announced _ (List.mem_map_of_mem member)
  · unfold Style.ofName?
    simp only [List.mem_cons,List.not_mem_nil,or_false] at announced
    rcases announced with same | same | same <;> rw [same] <;> rfl

/-! ### Sources -/

private theorem opens_quotes {quote : Char} {triple : Bool} {cursor start : Cursor}
    (opens : Body.Opens quote cursor triple start) :
    quote :: cursor.rest = quotes quote triple ++ start.rest ∧ (triple = true ↔ [quote, quote] <+: cursor.rest) := by
  cases opens with
  | one fewer =>
    refine ⟨rfl,iff_of_false (by simp) fun two => fewer ?_⟩
    exact (List.prefix_iff_eq_take.mp two).symm
  | three text here =>
    have after : (cursor.skip 2).rest = text := rest_skip [quote, quote] text cursor here
    rw [here,after]
    exact ⟨rfl,iff_of_true rfl (List.prefix_append [quote, quote] text)⟩

private theorem kind_verbatim (bytes raw : Bool) (body : List Char) : Style.kind ⟨bytes, raw⟩ (body.map .char) =
    if bytes then .bytes (encode body) else .text (String.ofList body) := by
  simp [Style.kind,encode,List.flatMap_map,Piece.toBytes,Piece.toChar,Function.comp_def]

/-- Whatever an accepted source writes as a raw string, with its letters in any case and one quote or three, denotes
just what is between its quotes, as characters or as their bytes; the closing quotes are the first that no unpaired
backslash precedes. -/
theorem raw_string_verbatim (source : String) (tokens : List Token) (cut : lex source = .ok tokens) (token : Token)
    (inside : token ∈ tokens) (letters : List Char) (quote : Char) (text : List Char)
    (announced : lowerAscii letters ∈ [['r'], ['b', 'r'], ['r', 'b']]) (known : quote = '"' ∨ quote = '\'')
    (written : (token.span.text source).toList = letters ++ quote :: text) :
    ∃ triple body, (triple = true ↔ [quote, quote] <+: text) ∧
      quote :: text = quotes quote triple ++ body ++ quotes quote triple ∧
      token.what = (if 'b' ∈ lowerAscii letters then .bytes (encode body) else .text (String.ofList body)) ∧
      ClosesFirst (quotes quote triple) body := by
  have isQuote : isQuote quote = true := by rcases known with rfl | rfl <;> rfl
  have noSlash := (quote_apart quote isQuote).2.2.2.2
  obtain ⟨letter,alpha,spelled⟩ := raw_letters letters announced
  rcases (lex_cut source tokens cut).read source [] ⟨rfl,rfl⟩ token inside with
    ⟨_,empty⟩ | ⟨start,after,c,word,passed,_,read,shown⟩
  · rw [empty] at written
    simp at written
  rw [shown] at written
  have here : start.rest = letters ++ quote :: (text ++ after.rest) := by
    rw [passed.rest,written,List.append_assoc,List.cons_append]
  have first : letters.head? = some c := by
    rw [← List.head?_append_of_ne_nil letters letter,← written,List.head?_cons]
  obtain ⟨opened,stands,scanned⟩ := scanToken_announced here first alpha spelled isQuote
  obtain ⟨triple,inner,opens⟩ := opens_exists quote opened
  rw [read] at scanned
  obtain ⟨pieces,stop,whole,same⟩ := scanString_sound isQuote opens (by rw [← scanned]; rfl)
  obtain ⟨body,closed,rfl,closes⟩ := whole_verbatim noSlash rfl whole
  obtain ⟨opening,threefold⟩ := opens_quotes opens
  obtain ⟨isKind,-,rfl⟩ := Scan.mk.inj (scanned.trans same)
  -- The characters of the token are those up to the closing quotes, since both end at the same place.
  have whole : quote :: text = quotes quote triple ++ body ++ quotes quote triple := by
    rw [stands,closed,← List.cons_append] at opening
    refine List.append_cancel_right (opening.trans ?_)
    simp only [List.append_assoc]
  refine ⟨triple,body,⟨?_,fun two => ?_⟩,whole,?_,closes⟩
  · rintro rfl
    exact ⟨body ++ quotes quote true,(List.cons.inj whole).2.symm⟩
  · rw [threefold,stands]
    exact two.trans (List.prefix_append text _)
  · rw [kind_verbatim] at isKind
    simpa using Option.some.inj isKind

/-- Neither two quotes close three, nor a quote that a backslash precedes and two more. -/
theorem raw_bytes_verbatim :
    let body := ['a', '\'', '\'', '\n', '\\', '\'', 'é', '\\', '\\']
    let text := ['\'', '\''] ++ body ++ ['\'', '\'', '\'']
    let source := String.ofList (['R', 'b', '\''] ++ text)
    let token : Token := ⟨.bytes (encode body), ⟨0, 18⟩⟩
    lex source = .ok [token, ⟨.finish, ⟨18, 18⟩⟩] ∧ lowerAscii ['R', 'b'] = ['r', 'b'] ∧
      (token.span.text source).toList = ['R', 'b'] ++ '\'' :: text ∧ ClosesFirst ['\'', '\'', '\''] body := by
  intro body text source token
  have cut : lex source = .ok [token, ⟨.finish, ⟨18, 18⟩⟩] := by
    unfold lex
    rw [String.toList_ofList]
    rfl
  have lower : lowerAscii ['R', 'b'] = ['r', 'b'] := by decide
  have written : (token.span.text source).toList = ['R', 'b'] ++ '\'' :: text := by
    refine Eq.trans ?_ (String.toList_ofList)
    have same : source.toList = [] ++ (['R', 'b', '\''] ++ text) ++ [] := by
      rw [List.append_nil,List.nil_append,String.toList_ofList]
    exact congrArg String.toList (text_eq source [] (['R', 'b', '\''] ++ text) [] same)
  obtain ⟨triple,other,threefold,whole,_,closes⟩ := raw_string_verbatim source _ cut token List.mem_cons_self
    ['R', 'b'] '\'' text (by rw [lower]; decide) (.inr rfl) written
  obtain rfl : triple = true := threefold.mpr ⟨_,rfl⟩
  obtain rfl : other = body := List.append_cancel_left (List.append_cancel_right whole.symm)
  exact ⟨cut,lower,written,closes⟩

end Proctor.Literal

import Proctor.Proofs.Json.Parts
import Mathlib

/-! Readers of JSON follow the grammar: whatever they take from a text is derivable. -/
namespace Proctor.Json
open Grammar State

def Took {α : Type} (One : List Char → α → Prop) (text : List Char) (a : α) (rest : List Char) : Prop :=
  ∃ before used, Blank before ∧ text = before ++ used ++ rest ∧ One used a

/-- Whatever the reader takes from a text that starts in one of the given ways is derivable. -/
def Sound {α : Type} (Starts : Char → Prop) (p : Reader α) (One : List Char → α → Prop) : Prop :=
  ∀ c others a rest, Starts c → p (c :: others) = .ok (a, rest) → Took One (c :: others) a rest

/-! ### Words -/

private theorem word_ok (letters text rest : List Char) (done : Unit)
    (taken : word letters text = .ok (done, rest)) : text = letters ++ rest := by
  induction letters generalizing text with
  | nil => cases taken; rfl
  | cons letter letters ih =>
    cases text with
    | nil => cases taken
    | cons c text =>
      simp only [word] at taken
      split at taken
      · next same => rw [same,ih text taken]; rfl
      · cases taken

/-! ### Numbers -/

private theorem digitRun_eq (text : List Char) :
    (digitRun text).1 ++ (digitRun text).2 = text ∧ ∀ c ∈ (digitRun text).1, isDecimalDigit c = true :=
  ⟨List.takeWhile_append_dropWhile,fun _ member => List.mem_takeWhile_imp member⟩

private theorem wholePart_ok (text digits rest : List Char) (taken : wholePart text = .ok (digits, rest)) :
    text = digits ++ rest ∧ Whole digits := by
  have zero : Whole ['0'] := ⟨⟨by simp,by simp [isDecimalDigit]⟩,fun _ => rfl⟩
  unfold wholePart at taken
  split at taken
  · cases taken
  · split at taken
    · split at taken
      · cases taken
      · cases taken; exact ⟨rfl,zero⟩
    · cases taken; exact ⟨rfl,zero⟩
  · next c others noZero =>
    split at taken
    · next digit =>
      obtain ⟨whole,all⟩ := digitRun_eq (c :: others)
      cases taken
      have front : (List.takeWhile isDecimalDigit (c :: others)).head? = some c := by simp [digit]
      refine ⟨whole.symm,⟨?_,all⟩,?_⟩
      · intro none
        rw [none] at front
        cases front
      · intro isZero
        rw [front] at isZero
        cases isZero
        exact absurd rfl noZero
    · cases taken

private theorem someDigits_ok (text digits rest : List Char) (taken : someDigits text = .ok (digits, rest)) :
    text = digits ++ rest ∧ Digits digits := by
  obtain ⟨whole,all⟩ := digitRun_eq text
  unfold someDigits at taken
  generalize digitRun text = run at *
  obtain ⟨front,left⟩ := run
  cases front with
  | nil => cases text <;> cases taken
  | cons c front =>
    cases taken
    exact ⟨whole.symm,by simp,all⟩

private theorem fractionPart_ok (text rest : List Char) (fraction? : Option (List Char))
    (taken : fractionPart text = .ok (fraction?, rest)) :
    (fraction? = none ∧ text = rest) ∨
      ∃ digits, fraction? = some digits ∧ Digits digits ∧ text = '.' :: digits ++ rest := by
  unfold fractionPart at taken
  split at taken
  · next others =>
    cases run : someDigits others with
    | error fault => simp [run,Except.map] at taken
    | ok pair =>
      obtain ⟨digits,left⟩ := pair
      simp only [run,Except.map] at taken
      cases taken
      obtain ⟨rfl,some⟩ := someDigits_ok _ _ _ run
      exact .inr ⟨digits,rfl,some,rfl⟩
  · cases taken
    exact .inl ⟨rfl,rfl⟩

private theorem exponentDigits_ok (text rest : List Char) (negative : Bool) (exponent? : Option Int)
    (taken : ((someDigits text).map fun (digits, rest) =>
      ((some (if negative then -(ofDigits 10 digits : Int) else ofDigits 10 digits), rest) :
        Option Int × List Char)) = .ok (exponent?, rest)) :
    ∃ digits, Digits digits ∧ text = digits ++ rest ∧
      exponent? = some (if negative then -(ofDigits 10 digits : Int) else ofDigits 10 digits) := by
  cases run : someDigits text with
  | error fault => simp [run,Except.map] at taken
  | ok pair =>
    obtain ⟨digits,left⟩ := pair
    simp only [run,Except.map] at taken
    cases taken
    obtain ⟨rfl,some⟩ := someDigits_ok _ _ _ run
    exact ⟨digits,some,rfl,rfl⟩

private theorem exponentPart_ok (text rest : List Char) (exponent? : Option Int)
    (taken : exponentPart text = .ok (exponent?, rest)) :
    (exponent? = none ∧ text = rest) ∨
      ∃ e used, exponent? = some e ∧ Exponent used e ∧ text = used ++ rest := by
  unfold exponentPart at taken
  split at taken
  case h_1 others | h_2 others =>
    refine .inr ?_
    dsimp only at taken
    split at taken
    · next later =>
      obtain ⟨digits,some,rfl,rfl⟩ := exponentDigits_ok _ rest true exponent? taken
      exact ⟨_,_,rfl,.minus _ (by simp) digits some,rfl⟩
    · next later =>
      obtain ⟨digits,some,rfl,rfl⟩ := exponentDigits_ok _ rest false exponent? taken
      exact ⟨_,_,rfl,.plus _ (by simp) digits some,rfl⟩
    · obtain ⟨digits,some,rfl,rfl⟩ := exponentDigits_ok _ rest false exponent? taken
      exact ⟨_,_,rfl,.bare _ (by simp) digits some,rfl⟩
  · cases taken
    exact .inl ⟨rfl,rfl⟩

private theorem numeral_ok (negative : Bool) (text rest : List Char) (n : Numeral)
    (taken : numeral negative text = .ok (n, rest)) :
    ∃ used, text = used ++ rest ∧ n.negative = negative ∧ Magnitude used n.decimal n.integral := by
  unfold numeral at taken
  rw [bind_ok] at taken
  obtain ⟨whole,_,wholeRead,taken⟩ := taken
  rw [bind_ok] at taken
  obtain ⟨fraction?,_,fractionRead,taken⟩ := taken
  rw [bind_ok] at taken
  obtain ⟨exponent?,_,exponentRead,taken⟩ := taken
  cases taken
  obtain ⟨rfl,isWhole⟩ := wholePart_ok _ _ _ wholeRead
  rcases fractionPart_ok _ _ _ fractionRead with ⟨rfl,rfl⟩ | ⟨fraction,rfl,some,rfl⟩ <;>
    rcases exponentPart_ok _ _ _ exponentRead with ⟨rfl,rfl⟩ | ⟨e,marked,rfl,isExponent,rfl⟩
  · exact ⟨whole,rfl,rfl,.integral isWhole⟩
  · exact ⟨_,(List.append_assoc _ _ _).symm,rfl,
      .written _ (.exponent whole marked e isWhole.digits isExponent) isWhole⟩
  · exact ⟨_,(List.append_assoc _ _ _).symm,rfl,
      .written _ (.fraction whole fraction isWhole.digits some) isWhole⟩
  · exact ⟨_,by simp,rfl,.written _ (.both whole fraction marked e isWhole.digits some isExponent)
      isWhole⟩

private theorem number_numeral (round : Rounding) (c : Char) (others rest : List Char) (v : Json)
    (taken : number round c (c :: others) = .ok (v, rest)) :
    ∃ n, numeral (c = '-') (if c = '-' then others else c :: others) = .ok (n, rest) ∧
      n.value round = .ok v := by
  unfold number at taken
  by_cases minus : c = '-'
  · rw [if_pos minus,bind_ok] at taken
    obtain ⟨_,_,advanced,taken⟩ := taken
    cases advanced
    rw [bind_ok] at taken
    obtain ⟨n,after,read,taken⟩ := taken
    cases valued : n.value round with
    | error fault => simp [valued] at taken
    | ok w =>
      simp only [valued,pure_run,Except.ok.injEq,Prod.mk.injEq] at taken
      obtain ⟨rfl,rfl⟩ := taken
      exact ⟨n,by rwa [if_pos minus],valued⟩
  · rw [if_neg minus,bind_ok] at taken
    obtain ⟨n,after,read,taken⟩ := taken
    cases valued : n.value round with
    | error fault => simp [valued] at taken
    | ok w =>
      simp only [valued,pure_run,Except.ok.injEq,Prod.mk.injEq] at taken
      obtain ⟨rfl,rfl⟩ := taken
      exact ⟨n,by rwa [if_neg minus],valued⟩

private theorem number_ok (round : Rounding) (c : Char) (others rest : List Char) (v : Json)
    (taken : number round c (c :: others) = .ok (v, rest)) :
    ∃ used, c :: others = used ++ rest ∧ Scalar round used v := by
  obtain ⟨n,read,valued⟩ := number_numeral round c others rest v taken
  obtain ⟨used,same,sign,magnitude⟩ := numeral_ok _ _ _ n read
  refine ⟨withSign n.negative used,?_,.number n.negative used n.decimal n.integral v magnitude valued⟩
  by_cases minus : c = '-'
  · rw [if_pos minus] at same
    simp [sign,minus,withSign,same]
  · rw [if_neg minus] at same
    simp [sign,minus,withSign,same]

/-! ### Strings -/

private theorem hexQuad_ok (text rest : List Char) (n : Nat) (taken : hexQuad text = .ok (n, rest)) :
    ∃ digits, text = digits ++ rest ∧ Hex 4 digits n := by
  unfold hexQuad at taken
  split at taken
  · next a b c d others =>
    split at taken
    · next w x y z first second third fourth =>
      cases taken
      refine ⟨[a, b, c, d],rfl,rfl,?_,?_⟩
      · simp [first,second,third,fourth]
      · simp [ofDigits,first,second,third,fourth]
    · cases taken
  · split at taken <;> cases taken

private theorem unicodeEscape_ok (text rest : List Char) (c : Char)
    (taken : unicodeEscape text = .ok (c, rest)) :
    ∃ used, text = used ++ rest ∧ Character ('\\' :: 'u' :: used) c := by
  unfold unicodeEscape at taken
  rw [bind_ok] at taken
  obtain ⟨first,left,firstRead,taken⟩ := taken
  obtain ⟨digits,rfl,firstHex⟩ := hexQuad_ok _ _ _ firstRead
  split at taken
  · cases taken
  next noLow =>
  split at taken
  · next alone =>
    cases taken
    exact ⟨digits,rfl,.short digits first firstHex (by omega)⟩
  next isHigh =>
  rw [bind_ok] at taken
  obtain ⟨_,afterSlash,slash,taken⟩ := taken
  rw [bind_ok] at taken
  obtain ⟨_,afterLetter,letter,taken⟩ := taken
  rw [bind_ok] at taken
  obtain ⟨second,_,secondRead,taken⟩ := taken
  obtain ⟨others,rfl,secondHex⟩ := hexQuad_ok _ _ _ secondRead
  split at taken
  · cases taken
  next isLow =>
  simp only [pure_run,Except.ok.injEq,Prod.mk.injEq] at taken
  obtain ⟨rfl,rfl⟩ := taken
  have expected (d : Char) (text after : List Char) (done : Unit)
      (taken : expectInString d text = .ok (done, after)) : text = d :: after := by
    unfold expectInString at taken
    split at taken
    · cases taken
    · split at taken
      · next same => cases taken; rw [same]
      · cases taken
  have slashed := expected '\\' left _ _ slash
  have lettered := expected 'u' afterSlash _ _ letter
  subst slashed lettered
  exact ⟨digits ++ '\\' :: 'u' :: others,by simp,
    .pair digits others first second firstHex secondHex (by omega) (by omega)⟩

private theorem escape_ok (text rest : List Char) (c : Char) (taken : escape text = .ok (c, rest)) :
    ∃ used, text = used ++ rest ∧ Character ('\\' :: used) c := by
  unfold escape at taken
  split at taken
  · cases taken
  next letter others =>
  split at taken
  case h_9 =>
    obtain ⟨used,rfl,character⟩ := unicodeEscape_ok _ _ _ taken
    exact ⟨'u' :: used,rfl,character⟩
  case h_10 => cases taken
  all_goals
    cases taken
    exact ⟨_,rfl,.simple _ _ (by simp [simpleEscapes])⟩

private theorem stringBody_ok (bound : Nat) (text characters rest : List Char)
    (taken : stringBody bound text = .ok (characters, rest)) :
    ∃ body, text = body ++ '"' :: rest ∧ Characters body characters := by
  induction bound generalizing text characters with
  | zero => cases taken
  | succ bound ih =>
    -- One character is read, and then the others.
    have continued (c : Char) (used left : List Char) (character : Character used c)
        (taken : (do
          let (others, rest) ← stringBody bound left
          return (c :: others, rest) : Except Fault (List Char × List Char)) =
            .ok (characters, rest)) :
        ∃ body, used ++ left = body ++ '"' :: rest ∧ Characters body characters := by
      cases read : stringBody bound left with
      | error fault => rw [read] at taken; cases taken
      | ok pair =>
        obtain ⟨others,after⟩ := pair
        rw [read] at taken
        cases taken
        obtain ⟨body,rfl,tail⟩ := ih left others read
        exact ⟨used ++ body,(List.append_assoc _ _ _).symm,.cons used c body others character tail⟩
    unfold stringBody at taken
    dsimp only at taken
    split at taken
    · cases taken
    · cases taken
      exact ⟨[],rfl,.nil⟩
    · next others =>
      cases read : escape others with
      | error fault => rw [read] at taken; cases taken
      | ok pair =>
        obtain ⟨c,left⟩ := pair
        rw [read] at taken
        obtain ⟨used,rfl,character⟩ := escape_ok others left c read
        exact continued c ('\\' :: used) left character taken
    · next c others noQuote noBackslash =>
      split at taken
      · cases taken
      · next printable =>
        exact continued c [c] others
          (.verbatim c noQuote noBackslash (Nat.le_of_not_lt printable)) taken

theorem stringToken_ok (others rest : List Char) (value : String)
    (taken : stringToken ('"' :: others) = .ok (value, rest)) : ∃ body characters,
      others = body ++ '"' :: rest ∧ Characters body characters ∧
        value = String.ofList characters := by
  unfold stringToken at taken
  cases read : stringBody ('"' :: others).length others with
  | error fault => simp only [List.tail_cons,read] at taken; cases taken
  | ok pair =>
    obtain ⟨characters,after⟩ := pair
    simp only [List.tail_cons,read] at taken
    cases taken
    obtain ⟨body,same,inside⟩ := stringBody_ok _ _ _ _ read
    exact ⟨body,characters,same,inside,rfl⟩

/-! ### Lists and objects -/

section Loop
variable {α : Type} {next : Bool → Reader Bool} {close : Char} {Starts : Char → Prop}
variable {part : Reader α} {One : List Char → α → Prop}

private theorem loop_others (separates : Separates next close Starts) (sound : Sound Starts part One)
    (fault : Fault) (bound : Nat) (text rest : List Char) (found : List α)
    (taken : loop next part fault bound false text = .ok (found, rest)) :
    ∃ used, text = used ++ rest ∧ rest.head? = some close ∧ Others One used found := by
  induction bound generalizing text found with
  | zero => cases taken
  | succ bound ih =>
    unfold loop at taken
    rw [bind_ok] at taken
    obtain ⟨more,_,asked,taken⟩ := taken
    obtain ⟨gaps,blank,c,head,shape⟩ := separates.later_ok _ _ _ asked
    cases more with
    | false =>
      obtain ⟨rfl,rfl⟩ := shape
      cases taken
      exact ⟨gaps,rfl,head,.none gaps blank⟩
    | true =>
      obtain ⟨starts,after,blankAfter,rfl⟩ := shape
      obtain ⟨others,rfl⟩ := head_some head
      rw [if_pos rfl,bind_ok] at taken
      obtain ⟨a,_,read,taken⟩ := taken
      rw [bind_ok] at taken
      obtain ⟨found,_,continued,taken⟩ := taken
      cases taken
      obtain ⟨before,used,blankBefore,same,one⟩ := sound c others a _ starts read
      obtain ⟨more,rfl,closed,tail⟩ := ih _ _ continued
      rw [same]
      refine ⟨_,?_,closed,.more gaps (after ++ before) used a more found blank
        (blank_append _ _ blankAfter blankBefore) one tail⟩
      simp

theorem loop_parts (separates : Separates next close Starts) (sound : Sound Starts part One)
    (fault : Fault) (bound : Nat) (text rest : List Char) (found : List α)
    (taken : loop next part fault bound true text = .ok (found, rest)) :
    ∃ used, text = used ++ rest ∧ rest.head? = some close ∧ Parts One used found := by
  cases bound with
  | zero => cases taken
  | succ bound =>
    unfold loop at taken
    rw [bind_ok] at taken
    obtain ⟨more,_,asked,taken⟩ := taken
    obtain ⟨gaps,blank,rfl,c,head,shape⟩ := separates.first_ok _ _ _ asked
    cases more with
    | false =>
      subst shape
      cases taken
      exact ⟨gaps,rfl,head,.none gaps blank⟩
    | true =>
      obtain ⟨others,rfl⟩ := head_some head
      rw [if_pos rfl,bind_ok] at taken
      obtain ⟨a,_,read,taken⟩ := taken
      rw [bind_ok] at taken
      obtain ⟨found,_,continued,taken⟩ := taken
      cases taken
      obtain ⟨before,used,blankBefore,same,one⟩ := sound c others a _ shape read
      obtain ⟨more,rfl,closed,tail⟩ := loop_others separates sound fault _ _ _ _ continued
      rw [same]
      exact ⟨_,by simp,closed,.some (gaps ++ before) used a more found
        (blank_append _ _ blank blankBefore) one tail⟩

end Loop

private theorem colon_ok (text rest : List Char) (done : Unit) (taken : colon text = .ok (done, rest)) :
    ∃ gaps, Blank gaps ∧ text = gaps ++ ':' :: rest := by
  unfold colon at taken
  obtain ⟨gaps,c?,_,blank,rfl,head,-,taken⟩ := peek_bind taken
  split at taken
  · cases taken
  · obtain ⟨others,rfl⟩ := head_some head
    cases taken
    exact ⟨gaps,blank,rfl⟩
  · cases taken

private theorem member_sound {α : Type} (value : Reader α) (One : List Char → α → Prop)
    (sound : ∀ text a rest, value text = .ok (a, rest) → Took One text a rest) :
    Sound (· = '"') (member value) (Member One) := by
  rintro c others ⟨name,a⟩ rest rfl taken
  unfold member at taken
  rw [bind_ok] at taken
  obtain ⟨name,_,named,taken⟩ := taken
  rw [bind_ok] at taken
  obtain ⟨_,_,divided,taken⟩ := taken
  rw [bind_ok] at taken
  obtain ⟨a,_,valued,taken⟩ := taken
  cases taken
  obtain ⟨body,characters,rfl,inside,rfl⟩ := stringToken_ok _ _ _ named
  obtain ⟨gaps,blank,rfl⟩ := colon_ok _ _ _ divided
  obtain ⟨before,used,blankBefore,rfl,one⟩ := sound _ _ _ valued
  exact ⟨[],_,blank_nil,by simp,.pair body characters gaps before used a inside blank blankBefore one⟩

theorem endList_ok (rest after : List Char) (done : Unit) (head : rest.head? = some ']')
    (taken : endList rest = .ok (done, after)) : rest = ']' :: after := by
  obtain ⟨others,rfl⟩ := head_some head
  cases (endList_close [] others blank_nil).symm.trans taken
  rfl

private theorem endObject_ok (rest after : List Char) (done : Unit) (head : rest.head? = some '\x7d')
    (taken : endObject rest = .ok (done, after)) : rest = '\x7d' :: after := by
  obtain ⟨others,rfl⟩ := head_some head
  cases (endObject_close [] others blank_nil).symm.trans taken
  rfl

/-! ### Values -/

theorem valueWith_sound (round : Rounding) (inner : Char → Reader Json)
    (Inside : List Char → Json → Prop) (inside : ∀ c others v rest, (c = '[' ∨ c = '\x7b') →
      inner c (c :: others) = .ok (v, rest) → ∃ used, c :: others = used ++ rest ∧ Inside used v)
    (text : List Char) (v : Json) (rest : List Char)
    (taken : valueWith round inner text = .ok (v, rest)) :
    Took (fun used v => Scalar round used v ∨ Inside used v) text v rest := by
  unfold valueWith at taken
  obtain ⟨gaps,c?,_,blank,rfl,head,-,taken⟩ := peek_bind taken
  refine ⟨gaps,?_⟩
  have found (used left : List Char) (a : Json) (same : left = used ++ rest)
      (one : Scalar round used a ∨ Inside used a) : ∃ used, Blank gaps ∧
        gaps ++ left = gaps ++ used ++ rest ∧ (Scalar round used a ∨ Inside used a) :=
    ⟨used,blank,by rw [same,List.append_assoc],one⟩
  split at taken
  · cases taken
  case h_2 | h_3 | h_4 =>
    obtain ⟨others,rfl⟩ := head_some head
    rw [bind_of_ok _ _ _ _ _ (advance_cons _ others),bind_ok] at taken
    obtain ⟨_,_,spelled,taken⟩ := taken
    cases taken
    have same := word_ok _ _ _ _ spelled
    subst same
    first
      | exact found _ _ _ rfl (.inl .null)
      | exact found _ _ _ rfl (.inl .true)
      | exact found _ _ _ rfl (.inl .false)
  · obtain ⟨others,rfl⟩ := head_some head
    rw [bind_ok] at taken
    obtain ⟨name,_,read,taken⟩ := taken
    cases taken
    obtain ⟨body,characters,rfl,string,rfl⟩ := stringToken_ok _ _ _ read
    exact found ('"' :: body ++ ['"']) _ _ (by simp) (.inl (.string body characters string))
  · next c _ _ _ _ =>
    obtain ⟨others,rfl⟩ := head_some head
    split at taken
    · obtain ⟨used,same,scalar⟩ := number_ok round c others rest v taken
      exact found used _ v same (.inl scalar)
    split at taken
    · next opens =>
      obtain ⟨used,same,one⟩ := inside c others v rest (by simpa using opens) taken
      exact found used _ v same (.inr one)
    · cases taken

theorem value_sound (round : Rounding) (room : Nat) (text : List Char) (v : Json) (rest : List Char)
    (taken : value round room text = .ok (v, rest)) : Took (Value round room) text v rest := by
  induction room generalizing text v rest with
  | zero =>
    obtain ⟨before,used,blank,same,one⟩ :=
      valueWith_sound round _ (fun _ _ => False) (by rintro c others v rest _ ⟨⟩) text v rest taken
    exact ⟨before,used,blank,same,one.resolve_right id⟩
  | succ room ih =>
    have anywhere (Starts : Char → Prop) : Sound Starts (value round room) (Value round room) :=
      fun c others a rest _ read => ih _ _ _ read
    apply valueWith_sound round _ (Container (Value round room)) _ text v rest taken
    rintro c others v rest opens taken
    rw [bind_of_ok _ _ _ _ _ (advance_cons c others)] at taken
    rcases opens with rfl | rfl
    · rw [if_pos rfl,bind_ok] at taken
      obtain ⟨bound,_,bounded,taken⟩ := taken
      cases bounded
      rw [items_eq_loop,bind_ok] at taken
      obtain ⟨found,_,read,taken⟩ := taken
      rw [bind_ok] at taken
      obtain ⟨_,_,ended,taken⟩ := taken
      cases taken
      obtain ⟨used,rfl,head,parts⟩ := loop_parts separates_items (anywhere _) _ _ _ _ _ read
      have closed := endList_ok _ _ _ head ended
      exact ⟨'[' :: used ++ [']'],by simp [closed],.array used found parts⟩
    · rw [if_neg (by decide),bind_ok] at taken
      obtain ⟨bound,_,bounded,taken⟩ := taken
      cases bounded
      rw [members_eq_loop,bind_ok] at taken
      obtain ⟨found,_,read,taken⟩ := taken
      rw [bind_ok] at taken
      obtain ⟨_,_,ended,taken⟩ := taken
      cases taken
      obtain ⟨used,rfl,head,parts⟩ :=
        loop_parts separates_names (member_sound _ _ ih) _ _ _ _ _ read
      have closed := endObject_ok _ _ _ head ended
      exact ⟨'\x7b' :: used ++ ['\x7d'],by simp [closed],.object used found parts⟩

/-! ### Whole texts -/

theorem readAll_ok {α : Type} (reader : Reader α) (text : String) (a : α)
    (read : readAll reader text = .ok a) :
    ∃ rest, reader text.toList = .ok (a, rest) ∧ Blank rest := by
  unfold readAll at read
  split at read
  · cases read
  · next b _ run =>
    cases read
    rw [bind_ok] at run
    obtain ⟨b,rest,taken,run⟩ := run
    obtain ⟨gaps,c?,_,blank,rfl,head,-,run⟩ := peek_bind run
    cases run
    rw [List.head?_eq_none_iff.mp head,List.append_nil] at taken
    exact ⟨gaps,taken,blank⟩
  · cases read

theorem read_sound (round : Rounding) (text : String) (v : Json) (read : Json.read round text = .ok v) :
    ∃ before used after w, Blank before ∧ Blank after ∧ text.toList = before ++ used ++ after ∧
      Value round maxOpen used w ∧ v = w.settle := by
  unfold Json.read at read
  cases all : readAll (value round maxOpen) text with
  | error fault => rw [all] at read; cases read
  | ok w =>
    rw [all] at read
    cases read
    obtain ⟨after,taken,blankAfter⟩ := readAll_ok _ text w all
    obtain ⟨before,used,blank,same,derived⟩ := value_sound round maxOpen _ w after taken
    exact ⟨before,used,after,w,blank,blankAfter,same,derived,rfl⟩

end Proctor.Json

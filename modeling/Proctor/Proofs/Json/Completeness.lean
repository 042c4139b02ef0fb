import Proctor.Proofs.Json.Parts
import Mathlib

/-! Readers of JSON take whatever the grammar derives, up to a delimiter. -/
namespace Proctor.Json
open Grammar State
open Literal (Delimited delimiters delimited_cons)

/-- The reader takes whatever is derivable, before a delimiter. -/
def Complete {α : Type} (p : Reader α) (One : List Char → α → Prop) : Prop :=
  ∀ used a rest, One used a → Delimited rest → p (used ++ rest) = .ok (a, rest)

/-! ### Numbers -/

private theorem delimited_number (rest : List Char) (delimited : Delimited rest) :
    ∀ c ∈ rest.head?, isDecimalDigit c = false ∧ c ≠ '.' ∧ c ≠ 'e' ∧ c ≠ 'E' := by
  intro c first
  have plain : ∀ d ∈ delimiters, isDecimalDigit d = false ∧ d ≠ '.' ∧ d ≠ 'e' ∧ d ≠ 'E' := by
    simp [delimiters,isDecimalDigit]
  exact plain c (delimited c first)

private theorem digitRun_complete (digits rest : List Char) (all : ∀ c ∈ digits, isDecimalDigit c = true)
    (stops : ∀ c ∈ rest.head?, isDecimalDigit c = false) :
    digitRun (digits ++ rest) = (digits, rest) := by
  unfold digitRun
  rw [List.takeWhile_append_of_pos all,List.dropWhile_append_of_pos all]
  cases rest with
  | nil => simp
  | cons c rest => simp [stops c (by simp)]

private theorem wholePart_complete (digits rest : List Char) (whole : Whole digits)
    (stops : ∀ c ∈ rest.head?, isDecimalDigit c = false) :
    wholePart (digits ++ rest) = .ok (digits, rest) := by
  cases digits with
  | nil => exact absurd rfl whole.digits.1
  | cons first digits =>
    have digit := whole.digits.2 first (by simp)
    by_cases zero : first = '0'
    · subst zero
      obtain rfl : digits = [] := by simpa using whole.noZero rfl
      cases rest with
      | nil => rfl
      | cons c rest => simp [wholePart,stops c (by simp)]
    · have run := digitRun_complete (first :: digits) rest whole.digits.2 stops
      simp only [List.cons_append] at run
      simp [wholePart,digit,run]

private theorem someDigits_complete (digits rest : List Char) (some : Digits digits)
    (stops : ∀ c ∈ rest.head?, isDecimalDigit c = false) :
    someDigits (digits ++ rest) = .ok (digits, rest) := by
  unfold someDigits
  rw [digitRun_complete digits rest some.2 stops]
  cases digits with
  | nil => exact absurd rfl some.1
  | cons c digits => rfl

private theorem fractionPart_none (rest : List Char) (noPoint : ∀ c ∈ rest.head?, c ≠ '.') :
    fractionPart rest = .ok (none, rest) := by
  unfold fractionPart
  split
  · next others => exact absurd rfl (noPoint '.' (by simp))
  · rfl

private theorem fractionPart_some (digits rest : List Char) (present : Digits digits)
    (stops : ∀ c ∈ rest.head?, isDecimalDigit c = false) :
    fractionPart ('.' :: digits ++ rest) = .ok (some digits, rest) := by
  simp only [List.cons_append,fractionPart,someDigits_complete digits rest present stops,Except.map]

private theorem exponentPart_none (rest : List Char) (noMark : ∀ c ∈ rest.head?, c ≠ 'e' ∧ c ≠ 'E') :
    exponentPart rest = .ok (none, rest) := by
  unfold exponentPart
  split
  · next others => exact absurd rfl (noMark 'e' (by simp)).1
  · next others => exact absurd rfl (noMark 'E' (by simp)).2
  · rfl

private theorem exponentPart_some (text : List Char) (e : Int) (marked : Exponent text e) (rest : List Char)
    (stops : ∀ c ∈ rest.head?, isDecimalDigit c = false) :
    exponentPart (text ++ rest) = .ok (some e, rest) := by
  cases marked with
  | bare mark isMark digits some =>
    have read := someDigits_complete digits rest some stops
    cases digits with
    | nil => exact absurd rfl some.1
    | cons first digits =>
      have digit := some.2 first (by simp)
      have noMinus : first ≠ '-' := by rintro rfl; simp [isDecimalDigit] at digit
      have noPlus : first ≠ '+' := by rintro rfl; simp [isDecimalDigit] at digit
      simp only [List.cons_append] at read
      rcases isMark with rfl | rfl <;> simp [exponentPart,noMinus,noPlus,read,Except.map]
  | plus mark isMark digits some =>
    have read := someDigits_complete digits rest some stops
    rcases isMark with rfl | rfl <;> simp [exponentPart,read,Except.map]
  | minus mark isMark digits some =>
    have read := someDigits_complete digits rest some stops
    rcases isMark with rfl | rfl <;> simp [exponentPart,read,Except.map]

private theorem exponent_starts (text : List Char) (e : Int) (marked : Exponent text e) (rest : List Char) :
    ∀ c ∈ (text ++ rest).head?, isDecimalDigit c = false ∧ c ≠ '.' := by
  have known (mark : Char) (isMark : mark = 'e' ∨ mark = 'E') :
      isDecimalDigit mark = false ∧ mark ≠ '.' := by
    rcases isMark with rfl | rfl <;> decide
  intro c first
  cases marked with
  | bare mark isMark | plus mark isMark | minus mark isMark =>
    obtain rfl : mark = c := by simpa using first
    exact known mark isMark

theorem numeral_complete (negative : Bool) (text : List Char) (d : Decimal) (integral : Bool)
    (magnitude : Magnitude text d integral) (rest : List Char) (delimited : Delimited rest) :
    numeral negative (text ++ rest) = .ok (⟨negative, d, integral⟩, rest) := by
  have ends := delimited_number rest delimited
  have noDigit := fun c first => (ends c first).1
  have noPoint := fun c first => (ends c first).2.1
  have noMark := fun c first => (ends c first).2.2
  unfold numeral
  cases magnitude with
  | integral whole =>
    rw [bind_of_ok _ _ _ _ _ (wholePart_complete text rest whole noDigit),
      bind_of_ok _ _ _ _ _ (fractionPart_none rest noPoint),
      bind_of_ok _ _ _ _ _ (exponentPart_none rest noMark)]
    rfl
  | written d written isWhole =>
    cases written with
    | fraction whole fraction first second =>
      rw [List.append_assoc,bind_of_ok _ _ _ _ _
          (wholePart_complete whole _ isWhole (by rintro c ⟨⟩; rfl)),
        bind_of_ok _ _ _ _ _ (fractionPart_some fraction rest second noDigit),
        bind_of_ok _ _ _ _ _ (exponentPart_none rest noMark)]
      rfl
    | exponent whole text e first marked =>
      have starts := exponent_starts text e marked rest
      rw [List.append_assoc,bind_of_ok _ _ _ _ _
          (wholePart_complete whole _ isWhole fun c first => (starts c first).1),
        bind_of_ok _ _ _ _ _ (fractionPart_none _ fun c first => (starts c first).2),
        bind_of_ok _ _ _ _ _ (exponentPart_some text e marked rest noDigit)]
      rfl
    | both whole fraction text e first second marked =>
      have starts := exponent_starts text e marked rest
      rw [List.append_assoc,List.append_assoc,bind_of_ok _ _ _ _ _
          (wholePart_complete whole _ isWhole (by rintro c ⟨⟩; rfl)),
        bind_of_ok _ _ _ _ _ (fractionPart_some fraction _ second fun c first => (starts c first).1),
        bind_of_ok _ _ _ _ _ (exponentPart_some text e marked rest noDigit)]
      rfl

private theorem magnitude_head (text : List Char) (d : Decimal) (integral : Bool)
    (magnitude : Magnitude text d integral) :
    ∃ c others, text = c :: others ∧ isDecimalDigit c = true := by
  have whole (digits : List Char) (some : Digits digits) (rest : List Char) :
      ∃ c others, digits ++ rest = c :: others ∧ isDecimalDigit c = true := by
    cases digits with
    | nil => exact absurd rfl some.1
    | cons c digits => exact ⟨c,_,rfl,some.2 c (by simp)⟩
  cases magnitude with
  | integral isWhole => simpa using whole text isWhole.digits []
  | written d written isWhole =>
    cases written with
    | fraction front fraction first second => exact whole front first _
    | exponent front text e first marked => exact whole front first _
    | both front fraction text e first second marked =>
      rw [List.append_assoc]
      exact whole front first _

theorem number_complete (round : Rounding) (negative : Bool) (text : List Char) (d : Decimal)
    (integral : Bool) (v : Json) (magnitude : Magnitude text d integral)
    (valued : Numeral.value round ⟨negative, d, integral⟩ = .ok v) (rest : List Char)
    (delimited : Delimited rest) : ∃ c others, withSign negative text = c :: others ∧
      (c = '-' ∨ isDecimalDigit c = true) ∧ number round c (c :: others ++ rest) = .ok (v, rest) := by
  have read := numeral_complete negative text d integral magnitude rest delimited
  cases negative with
  | true =>
    refine ⟨'-',text,rfl,.inl rfl,?_⟩
    unfold number
    rw [if_pos rfl,List.cons_append,bind_of_ok _ _ _ _ _ (advance_cons '-' _),decide_eq_true rfl]
    change (numeral true >>= _) _ = _
    rw [bind_of_ok _ _ _ _ _ read]
    simp only [valued]
    rfl
  | false =>
    obtain ⟨c,others,rfl,digit⟩ := magnitude_head text d integral magnitude
    have noMinus : c ≠ '-' := by rintro rfl; simp [isDecimalDigit] at digit
    refine ⟨c,others,rfl,.inr digit,?_⟩
    unfold number
    rw [if_neg noMinus,decide_eq_false noMinus]
    change (numeral false >>= _) _ = _
    rw [bind_of_ok _ _ _ _ _ read]
    simp only [valued]
    rfl

/-! ### Strings -/

private theorem hexQuad_complete (digits rest : List Char) (n : Nat) (hex : Hex 4 digits n) :
    hexQuad (digits ++ rest) = .ok (n, rest) := by
  obtain ⟨length,all,rfl⟩ := hex
  obtain ⟨a,b,c,d,rfl⟩ := List.length_eq_four.mp length
  simp only [List.mem_cons,List.not_mem_nil,or_false,forall_eq_or_imp,forall_eq] at all
  obtain ⟨first,second,third,fourth⟩ := all
  obtain ⟨w,isW⟩ := Option.isSome_iff_exists.mp first
  obtain ⟨x,isX⟩ := Option.isSome_iff_exists.mp second
  obtain ⟨y,isY⟩ := Option.isSome_iff_exists.mp third
  obtain ⟨z,isZ⟩ := Option.isSome_iff_exists.mp fourth
  simp [hexQuad,ofDigits,isW,isX,isY,isZ]

private theorem unicodeEscape_short (digits rest : List Char) (n : Nat) (hex : Hex 4 digits n)
    (alone : n < 0xd800 ∨ 0xdfff < n) : unicodeEscape (digits ++ rest) = .ok (Char.ofNat n, rest) := by
  have noLow : ¬ (0xdc00 ≤ n ∧ n ≤ 0xdfff) := by omega
  have noHigh : n < 0xd800 ∨ 0xdbff < n := by omega
  unfold unicodeEscape
  rw [bind_of_ok _ _ _ _ _ (hexQuad_complete digits rest n hex)]
  simp only [if_neg noLow,if_pos noHigh]
  rfl

private theorem unicodeEscape_pair (digits others rest : List Char) (high low : Nat) (first : Hex 4 digits high)
    (second : Hex 4 others low) (isHigh : 0xd800 ≤ high ∧ high ≤ 0xdbff)
    (isLow : 0xdc00 ≤ low ∧ low ≤ 0xdfff) :
    unicodeEscape (digits ++ '\\' :: 'u' :: others ++ rest) =
      .ok (Char.ofNat (0x10000 + (high - 0xd800) * 0x400 + (low - 0xdc00)), rest) := by
  have noLow : ¬ (0xdc00 ≤ high ∧ high ≤ 0xdfff) := by omega
  have noShort : ¬ (high < 0xd800 ∨ 0xdbff < high) := by omega
  have paired : ¬ (low < 0xdc00 ∨ 0xdfff < low) := by omega
  have expected (c : Char) (text : List Char) : expectInString c (c :: text) = .ok ((), text) := by
    simp [expectInString]
  unfold unicodeEscape
  rw [List.append_assoc,bind_of_ok _ _ _ _ _ (hexQuad_complete digits _ high first)]
  simp only [if_neg noLow,if_neg noShort,List.cons_append]
  rw [bind_of_ok _ _ _ _ _ (expected '\\' _),bind_of_ok _ _ _ _ _ (expected 'u' _),
    bind_of_ok _ _ _ _ _ (hexQuad_complete others rest low second)]
  simp only [if_neg paired]
  rfl

private theorem stringBody_character (text : List Char) (c : Char) (character : Character text c)
    (left others rest : List Char) (bound : Nat) (read : stringBody bound left = .ok (others, rest)) :
    stringBody (bound + 1) (text ++ left) = .ok (c :: others, rest) := by
  have escaped (used : List Char) (escapes : escape (used ++ left) = .ok (c, left)) :
      stringBody (bound + 1) ('\\' :: used ++ left) = .ok (c :: others, rest) := by
    simp only [List.cons_append,stringBody,escapes]
    change (stringBody bound left >>= _) = _
    rw [read]
    rfl
  cases character with
  | verbatim c noQuote noBackslash printable =>
    have noControl : ¬ c.toNat < 0x20 := Nat.not_lt.mpr printable
    simp [stringBody,noControl,read]
  | simple letter c known =>
    apply escaped [letter]
    simp only [simpleEscapes,List.mem_cons,Prod.mk.injEq,List.not_mem_nil,or_false] at known
    rcases known with ⟨rfl,rfl⟩ | ⟨rfl,rfl⟩ | ⟨rfl,rfl⟩ | ⟨rfl,rfl⟩ | ⟨rfl,rfl⟩ | ⟨rfl,rfl⟩ |
      ⟨rfl,rfl⟩ | ⟨rfl,rfl⟩ <;> rfl
  | short digits n hex alone =>
    apply escaped ('u' :: digits)
    exact unicodeEscape_short digits left n hex alone
  | pair digits others high low first second isHigh isLow =>
    apply escaped ('u' :: digits ++ '\\' :: 'u' :: others)
    exact unicodeEscape_pair digits others left high low first second isHigh isLow

private theorem character_length (text : List Char) (c : Char) (character : Character text c) :
    0 < text.length := by
  cases character <;> simp

private theorem stringBody_complete (body characters : List Char) (inside : Characters body characters)
    (rest : List Char) (bound : Nat) (enough : body.length < bound) :
    stringBody bound (body ++ '"' :: rest) = .ok (characters, rest) := by
  induction inside generalizing bound with
  | nil =>
    cases bound with
    | zero => simp at enough
    | succ bound => rfl
  | cons text c others characters first tail ih =>
    cases bound with
    | zero => simp at enough
    | succ bound =>
      have longer := character_length text c first
      rw [List.length_append] at enough
      rw [List.append_assoc]
      exact stringBody_character text c first _ _ rest bound (ih bound (by omega))

theorem stringToken_complete (body characters rest : List Char) (inside : Characters body characters) :
    stringToken ('"' :: body ++ '"' :: rest) = .ok (String.ofList characters, rest) := by
  unfold stringToken
  rw [List.cons_append,List.tail_cons,stringBody_complete body characters inside rest _ (by simp)]
  rfl

/-! ### Lists and objects -/

theorem others_delimits {α : Type} {One : List Char → α → Prop} (text : List Char) (found : List α)
    (others : Others One text found) (rest : List Char) (delimited : Delimited rest) :
    Delimited (text ++ rest) := by
  cases others with
  | none gaps blank => exact delimited_blank text rest blank delimited
  | more before after text a others rest blankBefore =>
    rw [List.append_assoc]
    exact delimited_blank before _ blankBefore (delimited_cons ',' _ (by simp [delimiters]))

section Loop
variable {α : Type} {next : Bool → Reader Bool} {close : Char} {Starts : Char → Prop}
variable {part : Reader α} {One : List Char → α → Prop}

def Headed (One : List Char → α → Prop) (Starts : Char → Prop) : Prop :=
  ∀ text a, One text a → ∃ c others, text = c :: others ∧ Starts c

private theorem others_length (text : List Char) (found : List α) (others : Others One text found) :
    found.length ≤ text.length := by
  induction others with
  | none gaps blank => simp
  | more before after text a others rest _ _ next tail ih =>
    simp only [List.length_append,List.length_cons]
    omega

theorem parts_length (headed : Headed One Starts) (text : List Char) (found : List α)
    (parts : Parts One text found) : found.length ≤ text.length := by
  cases parts with
  | none gaps blank => simp
  | some before text a others rest blank first tail =>
    obtain ⟨c,more,rfl,_⟩ := headed text a first
    have shorter := others_length _ _ tail
    simp only [List.length_append,List.length_cons]
    omega

variable (separates : Separates next close Starts) (complete : Complete part One)
variable (headed : Headed One Starts) (closes : close ∈ delimiters) (fault : Fault)
include separates complete headed closes

private theorem loop_later (text : List Char) (found : List α) (others : Others One text found) (bound : Nat)
    (enough : found.length < bound) (rest : List Char) :
    loop next part fault bound false (text ++ close :: rest) = .ok (found, close :: rest) := by
  induction others generalizing bound with
  | none gaps blank =>
    cases bound with
    | zero => simp at enough
    | succ bound =>
      unfold loop
      rw [bind_of_ok _ _ _ _ _ (separates.ends false gaps rest blank)]
      rfl
  | more before after text a others found blankBefore blankAfter one tail ih =>
    cases bound with
    | zero => simp at enough
    | succ bound =>
      obtain ⟨c,more,rfl,starts⟩ := headed text a one
      have delimited := others_delimits _ _ tail _ (delimited_cons close rest closes)
      have asked := separates.later before after c (more ++ (others ++ close :: rest)) blankBefore
        blankAfter starts
      have read := complete (c :: more) a _ one delimited
      unfold loop
      simp only [List.append_assoc,List.cons_append] at asked read ⊢
      rw [bind_of_ok _ _ _ _ _ asked,if_pos rfl,bind_of_ok _ _ _ _ _ read,
        bind_of_ok _ _ _ _ _ (ih bound (by simpa using enough))]
      rfl

theorem loop_complete (text : List Char) (found : List α) (parts : Parts One text found) (bound : Nat)
    (enough : found.length < bound) (rest : List Char) :
    loop next part fault bound true (text ++ close :: rest) = .ok (found, close :: rest) := by
  cases bound with
  | zero => simp at enough
  | succ bound =>
    cases parts with
    | none gaps blank =>
      unfold loop
      rw [bind_of_ok _ _ _ _ _ (separates.ends true _ rest blank)]
      rfl
    | some before text a others found blank one tail =>
      obtain ⟨c,more,rfl,starts⟩ := headed text a one
      have delimited := others_delimits _ _ tail _ (delimited_cons close rest closes)
      have asked := separates.first before c (more ++ (others ++ close :: rest)) blank starts
      have read := complete (c :: more) a _ one delimited
      unfold loop
      simp only [List.append_assoc,List.cons_append] at asked read ⊢
      rw [bind_of_ok _ _ _ _ _ asked,if_pos rfl,bind_of_ok _ _ _ _ _ read,
        bind_of_ok _ _ _ _ _ (loop_later separates complete headed closes fault others found tail bound
          (by simpa using enough) rest)]
      rfl

end Loop

theorem member_complete {α : Type} (value : Reader α) (One : List Char → α → Prop)
    (complete : ∀ before used a rest, Blank before → One used a → Delimited rest →
      value (before ++ used ++ rest) = .ok (a, rest)) : Complete (member value) (Member One) := by
  rintro _ _ rest (⟨body,characters,before,after,text,a,name,blankBefore,blankAfter,content⟩) delimited
  have named := stringToken_complete body characters (before ++ ':' :: (after ++ text ++ rest)) name
  unfold member
  simp only [List.append_assoc,List.cons_append] at named ⊢
  rw [bind_of_ok _ _ _ _ _ named,bind_of_ok _ _ _ _ _ (colon_close before _ blankBefore),
    ← List.append_assoc,bind_of_ok _ _ _ _ _ (complete after text a rest blankAfter content delimited)]
  rfl

theorem member_headed {α : Type} (One : List Char → α → Prop) : Headed (Member One) (· = '"') := by
  rintro _ _ ⟨body,characters,before,after,text,a,name,blankBefore,blankAfter,content⟩
  exact ⟨'"',_,rfl,rfl⟩

/-! ### Values -/

private theorem digit_ne (c d : Char) (digit : isDecimalDigit c = true) (outside : isDecimalDigit d = false) :
    c ≠ d := by
  rintro rfl
  rw [digit] at outside
  cases outside

private theorem digit_solid (c : Char) (digit : isDecimalDigit c = true) : isSpace c = false := by
  simp [isSpace,digit_ne c ' ' digit rfl,digit_ne c '\n' digit rfl,digit_ne c '\t' digit rfl,
    digit_ne c '\r' digit rfl]

theorem scalar_headed (round : Rounding) : Headed (Scalar round) StartsItem := by
  intro text v scalar
  cases scalar with
  | null => exact ⟨'n',_,rfl,rfl,by decide⟩
  | true => exact ⟨'t',_,rfl,rfl,by decide⟩
  | false => exact ⟨'f',_,rfl,rfl,by decide⟩
  | string body characters inside => exact ⟨'"',_,rfl,rfl,by decide⟩
  | number negative text d integral v magnitude valued =>
    cases negative with
    | true => exact ⟨'-',text,rfl,rfl,by decide⟩
    | false =>
      obtain ⟨c,others,rfl,digit⟩ := magnitude_head text d integral magnitude
      exact ⟨c,others,rfl,digit_solid c digit,digit_ne c ']' digit rfl⟩

theorem value_headed (round : Rounding) (room : Nat) : Headed (Value round room) StartsItem := by
  cases room with
  | zero => exact scalar_headed round
  | succ room =>
    rintro text v (scalar | container)
    · exact scalar_headed round text v scalar
    · cases container with
      | array inner items inside => exact ⟨'[',_,rfl,rfl,by decide⟩
      | object inner members inside => exact ⟨'\x7b',_,rfl,rfl,by decide⟩

theorem valueWith_number (round : Rounding) (inner : Char → Reader Json) (before others : List Char)
    (c : Char) (blank : Blank before) (numeric : c = '-' ∨ isDecimalDigit c = true) :
    valueWith round inner (before ++ c :: others) = number round c (c :: others) := by
  unfold valueWith
  rcases numeric with rfl | digit
  · rw [bind_of_ok _ _ _ _ _ (peek_cons before others '-' blank rfl)]
    rfl
  · rw [bind_of_ok _ _ _ _ _ (peek_cons before others c blank (digit_solid c digit))]
    simp [digit_ne c 'n' digit rfl,digit_ne c 't' digit rfl,digit_ne c 'f' digit rfl,
      digit_ne c '"' digit rfl,digit]

private theorem valueWith_scalar (round : Rounding) (inner : Char → Reader Json) (before used : List Char)
    (v : Json) (rest : List Char) (blank : Blank before) (scalar : Scalar round used v)
    (delimited : Delimited rest) : valueWith round inner (before ++ used ++ rest) = .ok (v, rest) := by
  rw [List.append_assoc]
  cases scalar with
  | null =>
    unfold valueWith
    rw [List.cons_append,bind_of_ok _ _ _ _ _ (peek_cons before _ 'n' blank rfl)]
    rfl
  | true =>
    unfold valueWith
    rw [List.cons_append,bind_of_ok _ _ _ _ _ (peek_cons before _ 't' blank rfl)]
    rfl
  | false =>
    unfold valueWith
    rw [List.cons_append,bind_of_ok _ _ _ _ _ (peek_cons before _ 'f' blank rfl)]
    rfl
  | string body characters inside =>
    have read := stringToken_complete body characters rest inside
    unfold valueWith
    simp only [List.append_assoc,List.cons_append,List.nil_append] at read ⊢
    rw [bind_of_ok _ _ _ _ _ (peek_cons before _ '"' blank rfl)]
    change (stringToken >>= _) _ = _
    rw [bind_of_ok _ _ _ _ _ read]
    rfl
  | number negative text d integral v magnitude valued =>
    obtain ⟨c,others,same,numeric,read⟩ :=
      number_complete round negative text d integral v magnitude valued rest delimited
    rw [same,List.cons_append,valueWith_number round inner before _ c blank numeric]
    exact read

theorem valueWith_opening (round : Rounding) (inner : Char → Reader Json) (before others : List Char)
    (c : Char) (blank : Blank before) (opens : c = '[' ∨ c = '\x7b') :
    valueWith round inner (before ++ c :: others) = inner c (c :: others) := by
  unfold valueWith
  rcases opens with rfl | rfl
  · rw [bind_of_ok _ _ _ _ _ (peek_cons before others '[' blank rfl)]
    rfl
  · rw [bind_of_ok _ _ _ _ _ (peek_cons before others '\x7b' blank rfl)]
    rfl

theorem value_complete (round : Rounding) (room : Nat) (before used : List Char) (v : Json)
    (rest : List Char) (blank : Blank before) (derived : Value round room used v)
    (delimited : Delimited rest) : value round room (before ++ used ++ rest) = .ok (v, rest) := by
  induction room generalizing before used v rest with
  | zero => exact valueWith_scalar round _ before used v rest blank derived delimited
  | succ room ih =>
    rcases derived with scalar | container
    · exact valueWith_scalar round _ before used v rest blank scalar delimited
    have complete : Complete (value round room) (Value round room) :=
      fun used a rest one delimited => ih [] used a rest blank_nil one delimited
    unfold value
    cases container with
    | array inner found inside =>
      have enough := parts_length (value_headed round room) inner found inside
      have read := loop_complete separates_items complete (value_headed round room)
        (by simp [delimiters]) .endOfList inner found inside ((inner ++ ']' :: rest).length + 1)
        (by simp only [List.length_append]; omega) rest
      rw [← items_eq_loop] at read
      simp only [List.append_assoc,List.cons_append,List.nil_append]
      rw [valueWith_opening round _ before _ '[' blank (.inl rfl),
        bind_of_ok _ _ _ _ _ (advance_cons '[' _),if_pos rfl,bind_of_ok _ _ _ _ _ rfl,
        bind_of_ok _ _ _ _ _ read]
      exact bind_of_ok _ _ _ _ _ (endList_close [] rest blank_nil)
    | object inner found inside =>
      have enough := parts_length (member_headed (Value round room)) inner found inside
      have read := loop_complete separates_names (member_complete _ _ ih) (member_headed _)
        (by simp [delimiters]) .endOfObject inner found inside ((inner ++ '\x7d' :: rest).length + 1)
        (by simp only [List.length_append]; omega) rest
      rw [← members_eq_loop] at read
      simp only [List.append_assoc,List.cons_append,List.nil_append]
      rw [valueWith_opening round _ before _ '\x7b' blank (.inr rfl),
        bind_of_ok _ _ _ _ _ (advance_cons '\x7b' _),if_neg (by decide),bind_of_ok _ _ _ _ _ rfl,
        bind_of_ok _ _ _ _ _ read]
      exact bind_of_ok _ _ _ _ _ (endObject_close [] rest blank_nil)

/-! ### Whole texts -/

theorem readAll_complete {α : Type} (reader : Reader α) (text : String) (a : α) (rest : List Char)
    (taken : reader text.toList = .ok (a, rest)) (blank : Blank rest) : readAll reader text = .ok a := by
  unfold readAll
  rw [bind_of_ok _ _ _ _ _ taken,bind_of_ok _ _ _ _ _ (peek_blank rest blank)]
  rfl

end Proctor.Json

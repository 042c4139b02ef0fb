import Proctor.Proofs.Literal.Context
import Proctor.Proofs.Literal.RoundTrip
import Proctor.Proofs.Number.Range
import Mathlib

/-! Integers in literal text, of any length and in four bases: those that 64 bits hold are exact, with any
signs in front, and decimal ones are never refused for their size. -/
namespace Proctor.Literal
open Cursor

/-! ### The texts of integers -/

/-- Digits of a base with separators anywhere among them, and the number they spell. -/
inductive Spelled (base : Nat) : List Char → Nat → Prop
  | nil : Spelled base [] 0
  | separator (text : List Char) (n : Nat) (front : Spelled base text n) : Spelled base (text ++ ['_']) n
  | digit (text : List Char) (n : Nat) (c : Char) (d : Nat) (front : Spelled base text n)
      (value : digitIn? base c = some d) : Spelled base (text ++ [c]) (n * base + d)

def bases : List (Char × Nat) := [('x', 16), ('X', 16), ('o', 8), ('O', 8), ('b', 2), ('B', 2)]

/-- The text of an integer without a sign, and its value. -/
inductive IntegerText : List Char → Nat → Prop
  | decimal (first : Char) (more : List Char) (n : Nat) (digit : isDecimalDigit first = true)
      (spelled : Spelled 10 (first :: more) n) : IntegerText (first :: more) n
  | based (letter : Char) (base : Nat) (digits : List Char) (n : Nat) (known : (letter, base) ∈ bases)
      (spelled : Spelled base digits n) (some : ∃ c ∈ digits, c ≠ '_') :
      IntegerText ('0' :: letter :: digits) n

private theorem bare_of_digit (c : Char) (d : Nat) (digit : digitValue? c = some d) : c ≠ '_' := by
  rintro rfl
  cases digit

private theorem bareDigits_snoc (text : List Char) (c : Char) (bare : c ≠ '_') :
    bareDigits (text ++ [c]) = bareDigits text ++ [c] := by
  simp [bareDigits,bare]

private theorem spelled_iff (base : Nat) (text : List Char) (n : Nat) : Spelled base text n ↔
    (∀ c ∈ text, isDigitOr base c = true) ∧ ofDigits base (bareDigits text) = n := by
  constructor
  · intro spelled
    induction spelled with
    | nil => exact ⟨by simp,rfl⟩
    | separator text n _ ih =>
      refine ⟨List.forall_mem_append.mpr ⟨ih.1,by simp [isDigitOr]⟩,?_⟩
      rw [bareDigits,List.filter_append]
      simpa [bareDigits] using ih.2
    | digit text n c d _ value ih =>
      obtain ⟨isDigit,_⟩ := Option.filter_eq_some_iff.mp value
      refine ⟨List.forall_mem_append.mpr ⟨ih.1,by simp [isDigitOr,value]⟩,?_⟩
      rw [bareDigits_snoc text c (bare_of_digit c d isDigit),ofDigits_snoc,ih.2,isDigit,Option.getD_some]
  · rintro ⟨inside,rfl⟩
    induction text using List.reverseRecOn with
    | nil => exact .nil
    | append_singleton text c ih =>
      obtain ⟨front,last⟩ := List.forall_mem_append.mp inside
      by_cases separator : c = '_'
      · subst separator
        have bare : bareDigits (text ++ ['_']) = bareDigits text := by simp [bareDigits]
        rw [bare]
        exact .separator text _ (ih front)
      · obtain ⟨d,value⟩ : ∃ d, digitIn? base c = some d := by
          simpa [isDigitOr,separator,Option.isSome_iff_exists] using last c (by simp)
        rw [bareDigits_snoc text c separator,ofDigits_snoc,(Option.filter_eq_some_iff.mp value).1,Option.getD_some]
        exact .digit text _ c d (ih front) value

instance (base : Nat) (text : List Char) (n : Nat) : Decidable (Spelled base text n) :=
  decidable_of_iff (text.all (isDigitOr base) = true ∧ ofDigits base (bareDigits text) = n) (by
    rw [List.all_eq_true,spelled_iff])

/-! ### Their tokens -/

private def sized (n : Nat) : Kind := if n ≤ maxInt then .int n else .float (.ofNat n)

private theorem wholeKind_eq (digits : List Char) : wholeKind digits = sized (ofDigits 10 digits) := by
  have nearest : Decimal.nearest false ⟨digits, [], 0⟩ = .ofNat (ofDigits 10 digits) := by
    simp [Decimal.nearest,Binary64.ofDecimal_nat]
  rw [wholeKind,sized,nearest]

private theorem printed_decimal (first : Char) (more : List Char) (n : Nat)
    (digit : isDecimalDigit first = true)
    (spelled : Spelled 10 (first :: more) n) : Printed (first :: more) [sized n] := by
  obtain ⟨inside,value⟩ := (spelled_iff _ _ _).mp spelled
  intro rest others delimited lexes
  have whole := lexes_whole first more rest digit (List.forall_mem_cons.mp inside).2 others delimited lexes
  rwa [wholeKind_eq,value] at whole

private theorem radix_bases (letter : Char) (base : Nat) (known : (letter, base) ∈ bases) : radix? letter =
    some base := by
  simp only [bases,List.mem_cons,Prod.mk.injEq,List.not_mem_nil,or_false] at known
  rcases known with ⟨rfl,rfl⟩ | ⟨rfl,rfl⟩ | ⟨rfl,rfl⟩ | ⟨rfl,rfl⟩ | ⟨rfl,rfl⟩ | ⟨rfl,rfl⟩ <;> rfl

section
variable {letter : Char} {base n : Nat} {digits : List Char} (known : (letter, base) ∈ bases)
  (spelled : Spelled base digits n) (some : ∃ c ∈ digits, c ≠ '_')
include known spelled some

/-- After the prefix of a base an integer that is too large is refused. -/
theorem scanToken_based (rest : List Char) (delimited : Delimited rest) (cursor : Cursor)
    (here : cursor.rest = '0' :: letter :: digits ++ rest) : ∃ after, after.rest = rest ∧
      scanToken cursor '0' = if n ≤ maxInt then .token (.int n) after
        else .fault (.intTooLarge ('0' :: letter :: digits)) after := by
  obtain ⟨inside,value⟩ := (spelled_iff _ _ _).mp spelled
  have start : (cursor.skip 2).rest = digits ++ rest := rest_skip ['0', letter] _ cursor (by simpa using here)
  have stops := delimited.stops _ (isDigitOr_delimiter base)
  have run := run_eq _ digits rest (cursor.skip 2) start inside stops
  have after := rest_pass _ digits rest (cursor.skip 2) start inside stops
  have bare : bareDigits digits ≠ [] := by
    obtain ⟨c,member,digit⟩ := some
    exact List.ne_nil_of_mem (List.mem_filter.mpr ⟨member,by simpa using digit⟩)
  have number : scanToken cursor '0' = scanRadix cursor (cursor.skip 2) base :=
    scanNumber_radix ⟨letter,digits ++ rest,by simpa using here,radix_bases letter base known⟩
  have source := upTo_eq ('0' :: letter :: digits) rest cursor _ here after
  refine ⟨_,after,?_⟩
  simp only [number,scanRadix,run,bare,↓reduceIte,value,source]

private theorem printed_based (small : n ≤ maxInt) : Printed ('0' :: letter :: digits) [.int n] := by
  intro rest others delimited lexes
  refine lexes_token '0' (letter :: digits) rest (.int n) others rfl (fun offset => ?_) lexes
  obtain ⟨after,stopped,read⟩ := scanToken_based known spelled some rest delimited ⟨offset, _⟩ rfl
  rw [read,if_pos small,← stopped]
  exact reads_token _ after

end

/-! ### Their values -/

/-- A natural number as JSON: itself if 64 bits hold it, else the nearest double, whose name stands for it
beyond the range of doubles. -/
def numberJson (n : Nat) : Json :=
  if n < 2 ^ 64 then .int n else if n < Binary64.overflow then .float (.ofNat n) else .string "inf"

private theorem floatJson_ofNat (n : Nat) :
    floatJson (.ofNat n) = if n < Binary64.overflow then .float (.ofNat n) else .string "inf" := by
  split
  · next small => rw [floatJson,if_pos (Binary64.ofNat_finite n small)]
  · next large =>
    rw [Binary64.ofNat_infinite n (Nat.not_lt.mp large)]
    rfl

private theorem intJson_nat (n : Nat) : intJson n = numberJson n := by
  have double : Binary64.ofInt n = .ofNat n := by
    simp [Binary64.ofInt,Binary64.ofNat,not_lt.mpr (Int.natCast_nonneg n)]
  rw [intJson,double,floatJson_ofNat,numberJson]
  by_cases small : n < 2 ^ 64
  · rw [if_pos small,if_pos (by omega)]
  · rw [if_neg small,if_neg (by omega)]

private theorem sized_numeral (n : Nat) : ∃ a, Grammar.Numeral (sized n) a ∧ a.toJson = numberJson n := by
  unfold sized
  split
  · exact ⟨.int n,.int n,by rw [toJson,intJson_nat]⟩
  · next large =>
    have wide : ¬ n < 2 ^ 64 := by
      unfold maxInt at large
      omega
    exact ⟨.float (.ofNat n),.float _,by rw [toJson,floatJson_ofNat,numberJson,if_neg wide]⟩

private theorem jsonOfSource_of_readsBack (text : List Char) (a : Literal)
    (back : ReadsBack maxNesting text a) :
    jsonOfSource (String.ofList text) = .ok a.toJson := by
  rw [jsonOfSource,ofSource_of_readsBack text a back]
  rfl

/-! ### Signed integers -/

private theorem printed_integer (text : List Char) (n : Nat) (integer : IntegerText text n)
    (small : n ≤ maxInt) :
    Printed text [.int n] := by
  cases integer with
  | decimal first more _ digit spelled =>
    have whole := printed_decimal first more n digit spelled
    rwa [sized,if_pos small] at whole
  | based letter base digits _ known spelled some => exact printed_based known spelled some small

private theorem signed_int (signs : List Mark) (n : Nat) :
    Grammar.signed signs (.int n) = .int ((-1) ^ signs.count .minus * n) := by
  unfold Grammar.signed
  split
  · next odd =>
    have small : -(n : Int) ≤ maxInt := by omega
    rw [(Nat.odd_iff.mpr odd).neg_one_pow,Grammar.opposite,if_pos small,neg_one_mul]
  · next even => rw [(Nat.not_odd_iff_even.mp (mt Nat.odd_iff.mp even)).neg_one_pow,one_mul]

/-- An integer in any base, after any signs, is exact if 64 bits hold it, with or without a sign. -/
theorem signed_integer_exact (signs : List Mark) (inside : ∀ sign ∈ signs, sign = .plus ∨ sign = .minus)
    (text : List Char) (n : Nat) (integer : IntegerText text n) (low : -2 ^ 63 ≤ (-1) ^ signs.count .minus * (n : Int))
    (high : (-1) ^ signs.count .minus * (n : Int) < 2 ^ 64) :
    jsonOfSource (String.ofList (signs.map Mark.char ++ text)) = .ok (.int ((-1) ^ signs.count .minus * n)) := by
  -- What 64 bits hold is far from what a token does not keep exact.
  have small : n ≤ maxInt := by
    unfold maxInt
    rcases neg_one_pow_eq_or Int (signs.count .minus) with even | odd
    · rw [even] at high
      omega
    · rw [odd] at low
      omega
  have printed := printed_signs signs text _ (printed_integer text n integer small)
  have scalar := Grammar.Scalar.number signs inside (.int n) (.int n) (.int n)
  rw [signed_int] at scalar
  rw [jsonOfSource_of_readsBack _ _ (readsBack_scalar _ _ _ _ printed scalar),toJson,intJson,
    if_pos ⟨by omega,by omega⟩]

/-- The least integer of 64 bits, with two signs, a large letter before its digits and separators among them. -/
theorem least_integer_exact :
    let signs : List Mark := [.minus, .plus]
    let text := ['0', 'X', '_', '8', '0', '0', '0', '_', '0', '0', '0', '0', '_', '0', '0', '0', '0', '_', '0', '0',
      '0', '0', '_']
    IntegerText text (2 ^ 63) ∧ -2 ^ 63 ≤ (-1) ^ signs.count .minus * ((2 ^ 63 : Nat) : Int) ∧
      jsonOfSource (String.ofList (signs.map Mark.char ++ text)) = .ok (.int (-2 ^ 63)) := by
  intro signs text
  have integer : IntegerText text (2 ^ 63) := .based 'X' 16 _ _ (by decide) (by decide) ⟨'8',by decide,by decide⟩
  exact ⟨integer,by decide,signed_integer_exact signs (by decide) text (2 ^ 63) integer (by decide) (by decide)⟩

/-! ### Integers of any size -/

def Prefixed (text : List Char) : Prop := ∃ pair ∈ bases, text.take 2 = ['0', pair.1]

private theorem not_prefixed (first : Char) (more : List Char) (n : Nat)
    (spelled : Spelled 10 (first :: more) n) :
    ¬ Prefixed (first :: more) := by
  rintro ⟨⟨letter,base⟩,known,starts⟩
  obtain ⟨inside,_⟩ := (spelled_iff _ _ _).mp spelled
  -- The letter of a base is no decimal digit.
  have announced := radix_bases letter base known
  have plain := radix_of_digit letter (inside letter (List.mem_of_mem_take (i := 2) (by simp [starts])))
  rw [plain] at announced
  cases announced

private theorem lex_fault (c : Char) (text : List Char) (fault : LexFault) (after : Cursor)
    (solid : isGap c = false)
    (read : scanToken ⟨0, c :: text⟩ c = .fault fault after) (ended : after.rest = []) :
    lex (String.ofList (c :: text)) =
      .error [⟨fault, ⟨0, (String.ofList (c :: text)).utf8ByteSize⟩⟩] := by
  have first := passes_next ⟨0, c :: text⟩ c text rfl
  obtain ⟨⟨used,moved⟩,-⟩ := scanToken_moves ⟨0, c :: text⟩ c text rfl
  rw [read] at moved
  have passed := first.trans moved
  have whole : c :: text = [c] ++ used := by simpa [Scan.fault,ended] using passed.rest
  have stop : after.offset = (String.ofList (c :: text)).utf8ByteSize := by
    rw [Text.Utf8.utf8ByteSize_eq,whole,← Nat.zero_add (Text.Utf8.encode _).length]
    exact passed.offset
  have finished (steps : Nat) : scanAll steps after = ([⟨.finish, ⟨after.offset, after.offset⟩⟩], []) := by
    cases steps <;> simp [scanAll,ended]
  unfold lex
  rw [String.toList_ofList]
  simp [scanAll,solid,read,Scan.fault,finished,stop]

private theorem le_maxInt (n : Nat) : n ≤ maxInt ↔ n < 2 ^ 127 := by
  unfold maxInt
  omega

private theorem read_of_sized (text : List Char) (n : Nat) (printed : Printed text [sized n]) :
    (∃ tokens, lex (String.ofList text) = .ok tokens ∧
      Parser.kinds tokens = [if n < 2 ^ 127 then .int n else .float (.ofNat n), .finish]) ∧
    jsonOfSource (String.ofList text) = .ok (numberJson n) := by
  constructor
  · obtain ⟨tokens,cut,same⟩ := lex_of_printed text _ printed
    refine ⟨tokens,cut,?_⟩
    rw [same,sized,if_congr (le_maxInt n) rfl rfl]
    rfl
  · obtain ⟨a,numeral,value⟩ := sized_numeral n
    have back := readsBack_scalar maxNesting text _ _ printed (.number [] (by simp) _ a numeral)
    rw [jsonOfSource_of_readsBack text _ back,← value]
    rfl

/-- An integer of any size is one number token, and its JSON value a number, or its name beyond the range of
doubles; only after the prefix of a base an integer that does not stay exact is refused. -/
theorem integer_of_any_size (text : List Char) (n : Nat) (integer : IntegerText text n) :
    (Prefixed text ∧ 2 ^ 127 ≤ n →
      lex (String.ofList text) = .error [⟨.intTooLarge text, ⟨0, (String.ofList text).utf8ByteSize⟩⟩]) ∧
    (¬ (Prefixed text ∧ 2 ^ 127 ≤ n) →
      (∃ tokens, lex (String.ofList text) = .ok tokens ∧
        Parser.kinds tokens = [if n < 2 ^ 127 then .int n else .float (.ofNat n), .finish]) ∧
      jsonOfSource (String.ofList text) = .ok (numberJson n)) := by
  cases integer with
  | decimal first more _ digit spelled =>
    have plain := not_prefixed first more n spelled
    exact ⟨fun refused => absurd refused.1 plain,fun _ => read_of_sized _ n (printed_decimal first more n digit spelled)⟩
  | based letter base digits _ known spelled some =>
    constructor
    · rintro ⟨-,large⟩
      obtain ⟨after,ended,read⟩ := scanToken_based known spelled some [] delimited_nil
        ⟨0, '0' :: letter :: digits⟩ (by simp)
      rw [if_neg (mt (le_maxInt n).mp (Nat.not_lt.mpr large))] at read
      exact lex_fault '0' _ _ after rfl read ended
    · intro kept
      have prefixed : Prefixed ('0' :: letter :: digits) := ⟨(letter, base),known,rfl⟩
      have small : n < 2 ^ 127 := not_le.mp fun large => kept ⟨prefixed,large⟩
      have fits := (le_maxInt n).mpr small
      refine read_of_sized _ n ?_
      rw [sized,if_pos fits]
      exact printed_based known spelled some fits

/-- The first decimal integer that does not stay exact becomes a double. -/
theorem large_decimal_read :
    let text := ['1', '7', '0', '1', '4', '1', '1', '8', '3', '4', '6', '0', '4', '6', '9', '2', '3', '1', '7', '3',
      '1', '6', '8', '7', '3', '0', '3', '7', '1', '5', '8', '8', '4', '1', '0', '5', '7', '2', '8']
    IntegerText text (2 ^ 127) ∧
      (∃ tokens, lex (String.ofList text) = .ok tokens ∧
        Parser.kinds tokens = [.float ⟨false, 1150, 0⟩, .finish]) ∧
      jsonOfSource (String.ofList text) = .ok (.float ⟨false, 1150, 0⟩) := by
  intro text
  have integer : IntegerText text (2 ^ 127) := .decimal '1' _ _ rfl (by decide)
  have plain : ¬ Prefixed text := not_prefixed '1' _ (2 ^ 127) (by decide)
  obtain ⟨tokens,value⟩ := (integer_of_any_size text (2 ^ 127) integer).2 fun refused => plain refused.1
  have double : Binary64.ofNat (2 ^ 127) = ⟨false, 1150, 0⟩ := by decide
  have inside : 2 ^ 127 < Binary64.overflow :=
    (Nat.pow_lt_pow_right (by decide) (by decide)).trans_le ((Binary64.pow_le_overflow 128).mpr (by decide))
  rw [if_neg (by decide),double] at tokens
  rw [numberJson,if_neg (by decide),if_pos inside,double] at value
  exact ⟨integer,tokens,value⟩

/-- The same integer in hexadecimal digits is refused. -/
theorem large_hexadecimal_refused :
    let text := '0' :: 'x' :: '8' :: List.replicate 31 '0'
    IntegerText text (2 ^ 127) ∧ lex (String.ofList text) = .error [⟨.intTooLarge text, ⟨0, 34⟩⟩] := by
  intro text
  refine ⟨.based 'x' 16 _ _ (by decide) (by decide) ⟨'8',by decide,by decide⟩,?_⟩
  unfold lex
  rw [String.toList_ofList]
  rfl

end Proctor.Literal

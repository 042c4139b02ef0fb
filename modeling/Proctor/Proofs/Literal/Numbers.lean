import Proctor.Proofs.Literal.Printed
import Proctor.Proofs.Number.Layout
import Mathlib

/-! Numerals before a delimiter are cut as one number token: integers as themselves, and the other texts
of decimal numbers as the nearest double. -/
namespace Proctor.Literal

/-! ### Runs of digits -/

theorem digit_inside (c : Char) (digit : isDecimalDigit c = true) : isDigitOr 10 c = true := by
  have bounds : '0' ≤ c ∧ c ≤ '9' := by simpa [isDecimalDigit] using digit
  have small : c.toNat - 48 < 10 := by
    have : c.toNat ≤ '9'.toNat := bounds.2
    simp only [Char.reduceToNat] at this
    omega
  simp [isDigitOr,digitIn?,digitValue?,bounds,Option.filter,small]

private theorem bareDigits_eq (digits : List Char) (all : ∀ c ∈ digits, isDecimalDigit c = true) :
    bareDigits digits = digits := by
  apply List.filter_eq_self.mpr
  intro c member
  have digit := all c member
  simp only [bne_iff_ne,ne_eq]
  rintro rfl
  simp [isDecimalDigit] at digit

private theorem digits_read (digits rest : List Char) (cursor : Cursor)
    (here : cursor.rest = digits ++ rest) (all : ∀ c ∈ digits, isDecimalDigit c = true)
    (stops : ∀ c ∈ rest.head?, isDigitOr 10 c = false) :
    bareDigits (cursor.run (isDigitOr 10)) = digits ∧ (cursor.pass (isDigitOr 10)).rest = rest := by
  have inside : ∀ c ∈ digits, isDigitOr 10 c = true := fun c member => digit_inside c (all c member)
  rw [Cursor.run_eq _ digits rest cursor here inside stops,bareDigits_eq digits all]
  exact ⟨rfl,Cursor.rest_pass _ digits rest cursor here inside stops⟩

/-! ### Parts of a number -/

private theorem fractionAt_none (cursor : Cursor) (noPoint : ∀ c ∈ cursor.rest.head?, c ≠ '.') :
    fractionAt cursor = (none, cursor) := by
  unfold fractionAt
  split
  · next c rest here => exact absurd rfl (noPoint '.' (by simp [here]))
  · rfl

private theorem fractionAt_some (fraction rest : List Char) (cursor : Cursor)
    (here : cursor.rest = '.' :: fraction ++ rest) (digits : Digits fraction)
    (stops : ∀ c ∈ rest.head?, isDigitOr 10 c = false) :
    ∃ after, after.rest = rest ∧ fractionAt cursor = (some fraction, after) := by
  obtain ⟨read,after⟩ := digits_read fraction rest cursor.next
    (Cursor.rest_next '.' _ cursor here) digits.2 stops
  refine ⟨_,after,?_⟩
  cases fraction with
  | nil => exact absurd rfl digits.1
  | cons c fraction =>
    unfold fractionAt
    rw [here]
    simp only [List.cons_append,digits.2 c (by simp),↓reduceIte,read]

theorem exponentMark_none (cursor : Cursor) (noMark : ∀ c ∈ cursor.rest.head?, c ≠ 'e' ∧ c ≠ 'E') :
    exponentMark? cursor = none := by
  unfold exponentMark?
  split
  · next c rest here =>
    have other := noMark c (by simp [here])
    rw [if_neg (by tauto)]
  · rfl

private theorem exponentMark_some (text : List Char) (e : Int) (marked : Exponent text e) (rest : List Char)
    (cursor : Cursor) (here : cursor.rest = text ++ rest) : ∃ mark negative digits after,
      Digits digits ∧ after.rest = digits ++ rest ∧
        exponentMark? cursor = some (mark, negative, after) ∧
          (if negative then -(ofDigits 10 digits : Int) else ofDigits 10 digits) = e := by
  unfold exponentMark?
  rw [here]
  cases marked with
  | bare mark isMark digits some =>
    cases digits with
    | nil => exact absurd rfl some.1
    | cons first digits =>
      have digit := some.2 first (by simp)
      have noMinus : first ≠ '-' := by rintro rfl; simp [isDecimalDigit] at digit
      have noPlus : first ≠ '+' := by rintro rfl; simp [isDecimalDigit] at digit
      refine ⟨['e'],false,first :: digits,cursor.next,some,Cursor.rest_next mark _ cursor here,?_,by simp⟩
      simp [isMark,noMinus,noPlus]
  | plus mark isMark digits some =>
    refine ⟨['e', '+'],false,digits,cursor.skip 2,some,
      Cursor.rest_skip [mark, '+'] _ cursor (by simpa using here),?_,by simp⟩
    simp [isMark]
  | minus mark isMark digits some =>
    refine ⟨['e', '-'],true,digits,cursor.skip 2,some,
      Cursor.rest_skip [mark, '-'] _ cursor (by simpa using here),?_,by simp⟩
    simp [isMark]

private theorem exponent_head (text : List Char) (e : Int) (marked : Exponent text e) (rest : List Char) :
    ∀ c ∈ (text ++ rest).head?, c ≠ '.' ∧ isDigitOr 10 c = false ∧ radix? c = none := by
  have known (mark : Char) (isMark : mark = 'e' ∨ mark = 'E') :
      mark ≠ '.' ∧ isDigitOr 10 mark = false ∧ radix? mark = none := by
    rcases isMark with rfl | rfl <;> decide
  intro c first
  cases marked with
  | bare mark isMark | plus mark isMark | minus mark isMark =>
    obtain rfl : mark = c := by simpa using first
    exact known mark isMark

private theorem finishNumber_token (kind : Kind) (cursor : Cursor) (delimited : Delimited cursor.rest) :
    finishNumber kind cursor = .token kind cursor := by
  unfold finishNumber
  split
  · next c first =>
    have other : ¬ (c = 'j' ∨ c = 'J') := by
      rintro (rfl | rfl)
      · simpa [delimiters] using delimited 'j' first
      · simpa [delimiters] using delimited 'J' first
    rw [if_neg other]
  · rfl

private theorem delimited_digits (rest : List Char) (delimited : Delimited rest) :
    ∀ c ∈ rest.head?, isDigitOr 10 c = false :=
  delimited.stops _ (by simp [delimiters,isDigitOr,digitIn?,digitValue?])

private theorem delimited_other (rest : List Char) (delimited : Delimited rest) :
    ∀ c ∈ rest.head?, c ≠ '.' ∧ c ≠ 'e' ∧ c ≠ 'E' := by
  intro c first
  have member := delimited c first
  refine ⟨?_,?_,?_⟩ <;> (rintro rfl; simp [delimiters] at member)

/-! ### Whole numbers -/

def wholeKind (whole : List Char) : Kind :=
  if ofDigits 10 whole ≤ maxInt then .int (ofDigits 10 whole)
  else .float (Decimal.nearest false ⟨whole, [], 0⟩)

private theorem scanDecimal_whole (whole rest : List Char) (inside : ∀ c ∈ whole, isDigitOr 10 c = true)
    (cursor : Cursor) (here : cursor.rest = whole ++ rest) (delimited : Delimited rest) :
    Reads (scanDecimal cursor) (wholeKind (bareDigits whole)) rest := by
  have stops := delimited_digits rest delimited
  have read := Cursor.run_eq _ whole rest cursor here inside stops
  have after := Cursor.rest_pass _ whole rest cursor here inside stops
  have other := delimited_other rest delimited
  have finished (kind : Kind) : finishNumber kind (cursor.pass (isDigitOr 10)) =
      .token kind (cursor.pass (isDigitOr 10)) :=
    finishNumber_token _ _ (by rw [after]; exact delimited)
  unfold scanDecimal
  simp only [read,fractionAt_none _ (by rw [after]; exact fun c first => (other c first).1),
    exponentMark_none _ (by rw [after]; exact fun c first => (other c first).2),
    Option.isNone_none,true_and,Option.getD_none,finished]
  unfold wholeKind
  split <;> exact ⟨rfl,rfl,after⟩

private theorem scanDecimal_exponent (whole fraction : List Char) (fraction? : Option (List Char))
    (text : List Char) (e : Int) (marked : Exponent text e) (rest : List Char) (cursor point : Cursor)
    (read : bareDigits (cursor.run (isDigitOr 10)) = whole)
    (divided : fractionAt (cursor.pass (isDigitOr 10)) = (fraction?, point))
    (fraction_eq : fraction?.getD [] = fraction) (there : point.rest = text ++ rest)
    (delimited : Delimited rest) :
    Reads (scanDecimal cursor) (.float (Decimal.nearest false ⟨whole, fraction, e⟩)) rest := by
  obtain ⟨mark,negative,digits,start,some,start_eq,found,value⟩ :=
    exponentMark_some text e marked rest point there
  obtain ⟨exponent,after⟩ := digits_read _ rest start start_eq some.2
    (delimited_digits rest delimited)
  have digit : (start.peek?.filter isDecimalDigit).isNone = false := by
    unfold Cursor.peek?
    rw [start_eq]
    cases digits with
    | nil => exact absurd rfl some.1
    | cons c digits => simp [some.2 c (by simp)]
  unfold scanDecimal
  simp only [read,divided,found,digit,Bool.false_eq_true,↓reduceIte,exponent,value,fraction_eq]
  rw [finishNumber_token _ _ (by rw [after]; exact delimited)]
  exact ⟨rfl,rfl,after⟩

private theorem scanDecimal_written (text rest : List Char) (d : Decimal) (written : Written text d)
    (cursor : Cursor) (here : cursor.rest = text ++ rest) (delimited : Delimited rest) :
    Reads (scanDecimal cursor) (.float (d.nearest false)) rest := by
  cases written with
  | fraction whole fraction first second =>
    obtain ⟨read,after⟩ := digits_read whole ('.' :: fraction ++ rest) cursor (by simpa using here)
      first.2 (by rintro c ⟨⟩; rfl)
    obtain ⟨point,point_eq,divided⟩ := fractionAt_some fraction rest _ after second
      (delimited_digits rest delimited)
    have other := delimited_other rest delimited
    unfold scanDecimal
    simp only [read,divided,
      exponentMark_none point (by rw [point_eq]; exact fun c first => (other c first).2),
      Option.isNone_some,Bool.false_eq_true,false_and,↓reduceIte,Option.getD_some]
    rw [finishNumber_token _ _ (by rw [point_eq]; exact delimited)]
    exact ⟨rfl,rfl,point_eq⟩
  | exponent whole text e first marked =>
    have head := exponent_head text e marked rest
    obtain ⟨read,after⟩ := digits_read whole (text ++ rest) cursor (by simpa using here)
      first.2 fun c member => (head c member).2.1
    exact scanDecimal_exponent whole [] none text e marked rest cursor _ read
      (fractionAt_none _ (by rw [after]; exact fun c member => (head c member).1)) rfl after delimited
  | both whole fraction text e first second marked =>
    have head := exponent_head text e marked rest
    obtain ⟨read,after⟩ := digits_read whole ('.' :: fraction ++ (text ++ rest)) cursor
      (by simpa using here) first.2 (by rintro c ⟨⟩; rfl)
    obtain ⟨point,point_eq,divided⟩ := fractionAt_some fraction _ _ after second
      fun c member => (head c member).2.1
    exact scanDecimal_exponent whole fraction _ text e marked rest cursor point read divided rfl
      point_eq delimited

/-! ### Tokens -/

/-- Where no base is announced a number is decimal. -/
theorem scanNumber_eq (cursor : Cursor) (decimal : ∀ c ∈ cursor.rest.tail.head?, radix? c = none) :
    scanNumber cursor = scanDecimal cursor := by
  unfold scanNumber
  split
  · next c rest here => rw [decimal c (by simp [here])]
  · rfl

theorem radix_of_digit (c : Char) (digit : isDigitOr 10 c = true) : radix? c = none := by
  unfold radix?
  repeat rw [if_neg (by rintro (rfl | rfl) <;> revert digit <;> decide)]

private theorem second_decimal (whole rest : List Char) (some : whole ≠ [])
    (inside : ∀ c ∈ whole, isDigitOr 10 c = true) (next : ∀ c ∈ rest.head?, radix? c = none) :
    ∀ c ∈ (whole ++ rest).tail.head?, radix? c = none := by
  cases whole with
  | nil => exact absurd rfl some
  | cons first whole =>
    cases whole with
    | nil => exact next
    | cons second whole =>
      rintro c ⟨⟩
      exact radix_of_digit second (inside second (by simp))

theorem delimited_radix (rest : List Char) (delimited : Delimited rest) :
    ∀ c ∈ rest.head?, radix? c = none := by
  intro c first
  have plain : ∀ d ∈ delimiters, radix? d = none := by simp [delimiters,radix?]
  exact plain c (delimited c first)

private theorem lexes_number (first : Char) (text rest : List Char) (kind : Kind) (others : List Kind)
    (digit : isDecimalDigit first = true)
    (decimal : ∀ c ∈ (text ++ rest).head?, radix? c = none)
    (reads : ∀ offset, Reads (scanDecimal ⟨offset, first :: text ++ rest⟩) kind rest)
    (lexes : Lexes rest others) : Lexes (first :: text ++ rest) (kind :: others) := by
  have other (c : Char) (outside : isDecimalDigit c = false) : first ≠ c := by
    rintro rfl
    simp [digit] at outside
  have solid : isGap first = false ∧ Mark.ofChar? first = none ∧ isQuote first = false := by
    refine ⟨?_,?_,?_⟩
    · simp [isGap,other ' ' rfl,other '\t' rfl,other '\n' rfl,other '\r' rfl,other '\x0c' rfl]
    · apply List.find?_eq_none.mpr
      intro mark _
      have apart := other mark.char (by cases mark <;> rfl)
      simpa using apart.symm
    · simp [isQuote,other '"' rfl,other '\'' rfl]
  apply lexes_token first text rest kind others solid.1 _ lexes
  intro offset
  simp only [scanToken,solid.2,digit,Bool.false_eq_true,↓reduceIte]
  rw [scanNumber_eq _ (by simpa using decimal)]
  exact reads offset

theorem lexes_whole (first : Char) (more rest : List Char) (digit : isDecimalDigit first = true)
    (inside : ∀ c ∈ more, isDigitOr 10 c = true) (others : List Kind) (delimited : Delimited rest)
    (lexes : Lexes rest others) :
    Lexes (first :: more ++ rest) (wholeKind (bareDigits (first :: more)) :: others) := by
  have all : ∀ c ∈ first :: more, isDigitOr 10 c = true :=
    List.forall_mem_cons.mpr ⟨digit_inside first digit,inside⟩
  have second := second_decimal _ rest (List.cons_ne_nil first more) all (delimited_radix rest delimited)
  exact lexes_number first more rest _ others digit second
    (fun offset => scanDecimal_whole (first :: more) rest all ⟨offset, _⟩ rfl delimited) lexes

private theorem lexes_written (text rest : List Char) (d : Decimal) (written : Written text d)
    (others : List Kind) (delimited : Delimited rest) (lexes : Lexes rest others) :
    Lexes (text ++ rest) (.float (d.nearest false) :: others) := by
  have reads (offset : Nat) := scanDecimal_written text rest d written ⟨offset, _⟩ rfl delimited
  have split : ∃ whole more, text = whole ++ more ∧ Digits whole ∧
      ∀ c ∈ (more ++ rest).head?, radix? c = none := by
    cases written with
    | fraction whole fraction first second => exact ⟨whole,_,rfl,first,by rintro c ⟨⟩; rfl⟩
    | exponent whole text e first marked =>
      exact ⟨whole,_,rfl,first,fun c member => (exponent_head text e marked rest c member).2.2⟩
    | both whole fraction text e first second =>
      exact ⟨whole,_,List.append_assoc _ _ _,first,by rintro c ⟨⟩; rfl⟩
  obtain ⟨whole,more,rfl,digits,next⟩ := split
  have second := second_decimal whole (more ++ rest) digits.1
    (fun c member => digit_inside c (digits.2 c member)) next
  cases whole with
  | nil => exact absurd rfl digits.1
  | cons first whole =>
    rw [← List.append_assoc] at second
    exact lexes_number first (whole ++ more) rest _ others (digits.2 first (by simp)) second reads lexes

theorem printed_whole (digits : List Char) (some : Digits digits) : Printed digits [wholeKind digits] := by
  intro rest others delimited lexes
  cases digits with
  | nil => exact absurd rfl some.1
  | cons first more =>
    have whole := lexes_whole first more rest (some.2 first (by simp))
      (fun c member => digit_inside c (some.2 c (List.mem_cons_of_mem first member))) others delimited lexes
    rwa [bareDigits_eq _ some.2] at whole

theorem printed_nat (n : Nat) (exact : n ≤ maxInt) : Printed (digitsOf 10 n) [.int n] := by
  have whole := printed_whole _ (digits_digitsOf n)
  rwa [wholeKind,ofDigits_digitsOf 10 n (by decide) (by decide),if_pos exact] at whole

theorem printed_written (text : List Char) (d : Decimal) (written : Written text d) :
    Printed text [.float (d.nearest false)] :=
  fun rest others delimited lexes => lexes_written text rest d written others delimited lexes

end Proctor.Literal

import Proctor.Proofs.Json.Soundness
import Proctor.Proofs.Literal.Fits
import Proctor.Proofs.Literal.Numbers
import Proctor.Proofs.Literal.Printed
import Proctor.Proofs.Literal.Strings
import Proctor.Literal.Diagnostic
import Mathlib

/-! Literals are a superset of JSON: every JSON text is read as a literal, which has the same value. Only
a minus zero that is written as an integer loses its sign. -/
namespace Proctor.Json
open Grammar
open Literal (Kind Mark Printed Delimited Lexes IsPiece ArePieces Escapes Piece plain isGap delimiters
  delimited_cons)
open Literal.Grammar (sign opposite)

/-! ### Strings -/

private theorem isPiece_character (text : List Char) (c : Char) (character : Character text c) :
    ∃ piece, piece.toChar = c ∧ IsPiece '"' plain text piece := by
  have escape (text : List Char) (n : Nat) (escapes : Escapes false text n) :
      IsPiece '"' plain ('\\' :: text) (.code n) :=
    Literal.isPiece_escape '"' plain text n (by decide) rfl escapes
  have valued (n : Nat) (valid : n.isValidChar) : (Piece.code n).toChar = Char.ofNat n := by
    simp only [Piece.toChar,valid,↓reduceIte]
  cases character with
  | verbatim c noQuote noBackslash printable =>
    have noNewline : c ≠ '\n' := by
      rintro rfl
      simp at printable
    exact ⟨.char c,rfl,Literal.isPiece_verbatim '"' c plain ⟨noQuote,noBackslash,noNewline⟩⟩
  | simple letter c known =>
    have code : Literal.simpleEscapes.lookup letter = some c.toNat := by
      simp only [simpleEscapes,List.mem_cons,Prod.mk.injEq,List.not_mem_nil,or_false] at known
      rcases known with ⟨rfl,rfl⟩ | ⟨rfl,rfl⟩ | ⟨rfl,rfl⟩ | ⟨rfl,rfl⟩ | ⟨rfl,rfl⟩ | ⟨rfl,rfl⟩ |
        ⟨rfl,rfl⟩ | ⟨rfl,rfl⟩ <;> rfl
    refine ⟨.code c.toNat,?_,escape [letter] _ (Literal.escapes_simple false letter _ code)⟩
    exact (valued c.toNat c.valid).trans (Char.ofNat_toNat c)
  | short digits n hex alone =>
    have small := hex.lt
    refine ⟨.code n,valued n ?_,escape _ _ (Literal.escapes_short digits n hex ?_)⟩
    · rcases alone with low | high
      · exact .inl low
      · exact .inr ⟨high,by omega⟩
    · simp only [Literal.isHighSurrogate,Literal.isLowSurrogate,Bool.and_eq_false_iff,
        decide_eq_false_iff_not]
      omega
  | pair digits others high low first second isHigh isLow =>
    have valid : (Literal.pairCode high low).isValidChar := by
      refine .inr ⟨?_,?_⟩ <;> (unfold Literal.pairCode; omega)
    refine ⟨_,valued _ valid,escape _ _
      (Literal.escapes_pair digits others high low first second ?_ ?_)⟩
    · simp [Literal.isHighSurrogate,isHigh]
    · simp [Literal.isLowSurrogate,isLow]

private theorem arePieces_characters (body characters : List Char) (inside : Characters body characters) :
    ∃ pieces, pieces.map Piece.toChar = characters ∧ ArePieces '"' plain body pieces := by
  induction inside with
  | nil => exact ⟨[],rfl,.nil⟩
  | cons text c others rest first tail ih =>
    obtain ⟨piece,same,isPiece⟩ := isPiece_character text c first
    obtain ⟨pieces,rfl,are⟩ := ih
    exact ⟨piece :: pieces,by simp [same],.cons _ _ _ _ isPiece are⟩

private theorem printed_characters (body characters : List Char) (inside : Characters body characters) :
    Printed ('"' :: body ++ ['"']) [.text (String.ofList characters)] := by
  obtain ⟨pieces,rfl,are⟩ := arePieces_characters body characters inside
  intro rest others delimited lexes
  have string := Literal.lexes_string '"' rfl body pieces are rest others delimited lexes
  simpa only [List.append_assoc,List.cons_append,List.nil_append] using string

/-! ### Agreement -/

/-- The same value, but that minus zeros may be integers where that is allowed. -/
inductive Agrees (zeros : Prop) : Json → Json → Prop
  | same (v : Json) : Agrees zeros v v
  | zero (allowed : zeros) : Agrees zeros (.int 0) (.float (.zero true))
  | array (items others : List Json) (length : items.length = others.length)
      (each : ∀ pair ∈ items.zip others, Agrees zeros pair.1 pair.2) :
      Agrees zeros (.array items) (.array others)
  | object (members others : List (String × Json))
      (names : OrderedMap.keys members = OrderedMap.keys others)
      (each : ∀ pair ∈ members.zip others, Agrees zeros pair.1.2 pair.2.2) :
      Agrees zeros (.object members) (.object others)

theorem Agrees.mono {zeros more : Prop} (wider : zeros → more) {v w : Json} (agrees : Agrees zeros v w) :
    Agrees more v w := by
  induction agrees with
  | same v => exact .same v
  | zero allowed => exact .zero (wider allowed)
  | array items others length _ ih => exact .array items others length ih
  | object members others names _ ih => exact .object members others names ih

theorem Agrees.eq {zeros : Prop} (none : ¬ zeros) {v w : Json} (agrees : Agrees zeros v w) : v = w := by
  induction agrees with
  | same v => rfl
  | zero allowed => exact absurd allowed none
  | array items others length _ ih =>
    congr 1
    apply List.ext_getElem length
    intro i left right
    exact ih (items[i],others[i]) (List.mem_iff_getElem.mpr ⟨i,by simp [left,right],by simp⟩)
  | object members others names _ ih =>
    have length : members.length = others.length := by
      simpa only [OrderedMap.keys,List.length_map] using congrArg List.length names
    congr 1
    apply List.ext_getElem length
    intro i left right
    apply Prod.ext
    · have name := List.getElem_of_eq names (by simpa [OrderedMap.keys] using left)
      simpa only [OrderedMap.keys,List.getElem_map] using name
    · exact ih (members[i],others[i]) (List.mem_iff_getElem.mpr ⟨i,by simp [left,right],by simp⟩)

/-! ### Numbers -/

private theorem numeral_value (n : Numeral) (v : Json) (valued : n.value nearest = .ok v) :
    (n.integral = true ∧ n.negative = false ∧ ofDigits 10 n.decimal.whole ≤ maxUnsigned ∧
      v = .int (ofDigits 10 n.decimal.whole)) ∨
    (n.integral = true ∧ n.negative = true ∧ ofDigits 10 n.decimal.whole ≤ 9223372036854775808 ∧
      v = .int (-ofDigits 10 n.decimal.whole)) ∨
    (v = .float (n.decimal.nearest n.negative) ∧ (n.decimal.nearest n.negative).isFinite = true ∧
      (n.integral = true → if n.negative
        then ofDigits 10 n.decimal.whole = 0 ∨ 9223372036854775808 < ofDigits 10 n.decimal.whole
        else maxUnsigned < ofDigits 10 n.decimal.whole)) := by
  have double (found : Except Fault Json) (same : found = .ok v)
      (finite : ∀ x, nearest n.negative n.decimal = some x → found = .ok (.float x))
      (outOfRange : nearest n.negative n.decimal = none → found = .error .numberOutOfRange) :
      v = .float (n.decimal.nearest n.negative) ∧ (n.decimal.nearest n.negative).isFinite = true := by
    by_cases rounds : (n.decimal.nearest n.negative).isFinite = true
    · rw [finite (n.decimal.nearest n.negative) (by simp [nearest,rounds])] at same
      exact ⟨(Except.ok.inj same).symm,rounds⟩
    · rw [outOfRange (by simp [nearest,rounds])] at same
      cases same
  unfold Numeral.value at valued
  dsimp only at valued
  split at valued
  · next integral =>
    split at valued
    · next bounds =>
      simp only [Bool.and_eq_true,Bool.not_eq_true',decide_eq_true_eq] at bounds
      exact .inl ⟨integral,bounds.1,bounds.2,(Except.ok.inj valued).symm⟩
    next unbounded =>
    split at valued
    · next bounds =>
      simp only [Bool.and_eq_true,decide_eq_true_eq] at bounds
      exact .inr (.inl ⟨integral,bounds.1.1,bounds.2,(Except.ok.inj valued).symm⟩)
    · next beyond =>
      obtain ⟨same,finite⟩ := double _ valued (fun x rounded => by rw [rounded])
        (fun rounded => by rw [rounded])
      refine .inr (.inr ⟨same,finite,fun _ => ?_⟩)
      cases sign : n.negative with
      | false => simpa [sign] using unbounded
      | true =>
        simp only [sign,Bool.true_and,Bool.and_eq_true,decide_eq_true_eq,not_and,not_le] at beyond
        by_cases zero : ofDigits 10 n.decimal.whole = 0
        · exact .inl zero
        · exact .inr (beyond zero)
  · next noInteger =>
    obtain ⟨same,finite⟩ := double _ valued (fun x rounded => by rw [rounded])
      (fun rounded => by rw [rounded])
    exact .inr (.inr ⟨same,finite,fun integral => absurd integral noInteger⟩)

private theorem nearest_signed (negative : Bool) (d : Decimal) :
    (if negative then (d.nearest false).neg else d.nearest false) = d.nearest negative := by
  cases negative with
  | false => rfl
  | true => exact Binary64.neg_ofDecimal _ _ _

private theorem nearest_whole (negative : Bool) (digits : List Char) (positive : 0 < ofDigits 10 digits)
    (exact : ofDigits 10 digits ≤ Literal.maxInt) :
    Decimal.nearest negative ⟨digits, [], 0⟩ = .ofRatio negative (ofDigits 10 digits) 1 := by
  have places : (digitsOf 10 (ofDigits 10 digits)).length ≤ 400 := by
    by_contra long
    have large := pow_digits_le _ positive
    have power : 10 ^ 40 ≤ 10 ^ ((digitsOf 10 (ofDigits 10 digits)).length - 1) :=
      Nat.pow_le_pow_right (by decide) (by omega)
    unfold Literal.maxInt at exact
    omega
  have notAbove : ¬ (400 : Int) < (digitsOf 10 (ofDigits 10 digits)).length := by omega
  have notBelow : ¬ ((digitsOf 10 (ofDigits 10 digits)).length : Int) < -400 := by omega
  simp [Decimal.nearest,Binary64.ofDecimal,positive.ne',notAbove,notBelow]

private theorem intJson_beyond (negative : Bool) (m : Nat)
    (large : if negative then 9223372036854775808 < m else maxUnsigned < m) :
    Literal.intJson (if negative then -m else m) = Literal.floatJson (.ofRatio negative m 1) := by
  unfold maxUnsigned at large
  cases negative with
  | false =>
    have isPositive : ¬ (m : Int) < 0 := by omega
    rw [if_neg (by decide)] at large ⊢
    rw [Literal.intJson,if_neg (by omega),Binary64.ofInt,decide_eq_false isPositive,Int.natAbs_natCast]
  | true =>
    have isNegative : -(m : Int) < 0 := by
      rw [if_pos rfl] at large
      omega
    rw [if_pos rfl] at large ⊢
    rw [Literal.intJson,if_neg (by omega),Binary64.ofInt,decide_eq_true isNegative,Int.natAbs_neg,
      Int.natAbs_natCast]

def HasMinusZero (kinds : List Kind) : Prop := [.mark .minus, .int 0] <:+: kinds

/-- A text is cut into tokens of a literal that has the given JSON value, up to minus zeros. -/
private def ReadsAs (room : Nat) (text : List Char) (v : Json) : Prop :=
  ∃ kinds a, Printed text kinds ∧ Literal.Grammar.Value room kinds a ∧
    Agrees (HasMinusZero kinds) a.toJson v

private theorem readsAs_scalar (room : Nat) (text : List Char) (kinds : List Kind) (a : Literal) (v : Json)
    (printed : Printed text kinds) (scalar : Literal.Grammar.Scalar kinds a)
    (agrees : Agrees (HasMinusZero kinds) a.toJson v) : ReadsAs room text v :=
  ⟨kinds,a,printed,Literal.Grammar.value_mono 0 room (Nat.zero_le _) kinds a scalar,agrees⟩

private theorem readsAs_float (room : Nat) (negative : Bool) (text : List Char) (d : Decimal)
    (printed : Printed text [.float (d.nearest false)])
    (finite : (d.nearest negative).isFinite = true) :
    ReadsAs room (withSign negative text) (.float (d.nearest negative)) := by
  have scalar := Literal.Grammar.scalar_number negative _ _ (.float (d.nearest negative))
    (.float (d.nearest false)) (by rw [← nearest_signed]; cases negative <;> rfl)
  refine readsAs_scalar room _ _ _ _ (Literal.printed_sign negative text _ printed) scalar ?_
  rw [Literal.toJson,Literal.floatJson,if_pos finite]
  exact .same _

private theorem readsAs_int (room : Nat) (negative : Bool) (digits : List Char) (v : Json)
    (printed : Printed digits [.int (ofDigits 10 digits)])
    (exact : ofDigits 10 digits ≤ Literal.maxInt)
    (valued : Numeral.value nearest ⟨negative, ⟨digits, [], 0⟩, true⟩ = .ok v) :
    ReadsAs room (withSign negative digits) v := by
  have inRange (n : Int) (least : -9223372036854775808 ≤ n) (greatest : n ≤ 18446744073709551615) :
      (Literal.int n).toJson = .int n := by
    rw [Literal.toJson,Literal.intJson,if_pos ⟨least,greatest⟩]
  have negated : opposite (.int (ofDigits 10 digits)) = .int (-(ofDigits 10 digits)) :=
    if_pos (by omega)
  have scalar := Literal.Grammar.scalar_number negative _ _
    (.int (if negative then -(ofDigits 10 digits) else ofDigits 10 digits))
    (.int (ofDigits 10 digits)) (by cases negative <;> simp [negated])
  refine readsAs_scalar room _ _ _ v (Literal.printed_sign negative digits _ printed) scalar ?_
  rcases numeral_value _ v valued with ⟨_,sign,bounded,rfl⟩ | ⟨_,sign,bounded,rfl⟩ | ⟨rfl,finite,beyond⟩
  · dsimp only at sign bounded
    subst sign
    unfold maxUnsigned at bounded
    rw [inRange _ (by simp) (by simp; omega)]
    exact .same _
  · dsimp only at sign bounded
    subst sign
    rw [inRange _ (by simp; omega) (by simp)]
    exact .same _
  · dsimp only at finite beyond
    by_cases zero : ofDigits 10 digits = 0
    · cases negative with
      | false => simp [zero] at beyond
      | true =>
        have minusZero : Decimal.nearest true ⟨digits, [], 0⟩ = .zero true := by
          simp [Decimal.nearest,Binary64.ofDecimal,zero]
        rw [minusZero,zero]
        exact .zero (List.infix_refl _)
    · have nearest := nearest_whole negative digits (Nat.pos_of_ne_zero zero) exact
      have large : if negative then 9223372036854775808 < ofDigits 10 digits
          else maxUnsigned < ofDigits 10 digits := by simpa [zero] using beyond
      rw [nearest] at finite ⊢
      rw [Literal.toJson,intJson_beyond negative _ large,Literal.floatJson,if_pos finite]
      exact .same _

/-! ### Scalars -/

private theorem settle_number (n : Numeral) (v : Json) (valued : n.value nearest = .ok v) : v.settle = v := by
  rcases numeral_value n v valued with ⟨_,_,_,rfl⟩ | ⟨_,_,_,rfl⟩ | ⟨rfl,_⟩ <;> rfl

private theorem readsAs_number (room : Nat) (negative : Bool) (text : List Char) (d : Decimal) (integral : Bool)
    (v : Json) (magnitude : Magnitude text d integral)
    (valued : Numeral.value nearest ⟨negative, d, integral⟩ = .ok v) :
    ReadsAs room (withSign negative text) v := by
  cases magnitude with
  | integral whole =>
    have printed := Literal.printed_whole text whole.digits
    by_cases exact : ofDigits 10 text ≤ Literal.maxInt
    · rw [Literal.wholeKind,if_pos exact] at printed
      exact readsAs_int room negative text v printed exact valued
    · rw [Literal.wholeKind,if_neg exact] at printed
      unfold Literal.maxInt at exact
      rcases numeral_value _ v valued with ⟨_,_,bounded,_⟩ | ⟨_,_,bounded,_⟩ | ⟨rfl,finite,_⟩
      · unfold maxUnsigned at bounded
        dsimp only at bounded
        omega
      · dsimp only at bounded
        omega
      · exact readsAs_float room negative text _ printed finite
  | written d written whole =>
    rcases numeral_value _ v valued with ⟨integral,_⟩ | ⟨integral,_⟩ | ⟨rfl,finite,_⟩
    · cases integral
    · cases integral
    · exact readsAs_float room negative text d (Literal.printed_written text d written) finite

private theorem readsAs_of_scalar (room : Nat) (text : List Char) (v : Json) (scalar : Scalar nearest text v) :
    ReadsAs room text v.settle := by
  cases scalar with
  | null =>
    exact readsAs_scalar room _ _ _ _
      (Literal.printed_word 'n' _ _ rfl ⟨rfl,rfl,rfl,rfl⟩ (by simp; decide) rfl) .null (.same _)
  | true =>
    exact readsAs_scalar room _ _ _ _
      (Literal.printed_word 't' _ _ rfl ⟨rfl,rfl,rfl,rfl⟩ (by simp; decide) rfl) (.bool true) (.same _)
  | false =>
    exact readsAs_scalar room _ _ _ _
      (Literal.printed_word 'f' _ _ rfl ⟨rfl,rfl,rfl,rfl⟩ (by simp; decide) rfl) (.bool false) (.same _)
  | number negative text d integral v magnitude valued =>
    rw [settle_number _ v valued]
    exact readsAs_number room negative text d integral v magnitude valued
  | string body characters inside =>
    exact readsAs_scalar room _ _ _ _ (printed_characters body characters inside)
      (Literal.Grammar.scalar_text _) (.same _)

/-! ### Parts -/

private theorem blank_gap (gaps : List Char) (blank : Blank gaps) : ∀ c ∈ gaps, isGap c = true := by
  intro c member
  have space := blank c member
  simp only [isSpace,isGap,Bool.or_eq_true,beq_iff_eq] at *
  tauto

section Parts
variable {α β : Type} {One : List Char → α → Prop} {Derived : List Kind → β → Prop}
variable (Same : Prop → β → α → Prop)

private theorem others_read (mono : ∀ zeros more b a, (zeros → more) → Same zeros b a → Same more b a)
    (each : ∀ text a, One text a → ∃ kinds b, Printed text kinds ∧ Derived kinds b ∧
      Same (HasMinusZero kinds) b a)
    (text : List Char) (items : List α) (others : Others One text items) :
    ∃ kinds found, Printed text kinds ∧ (∀ rest, Delimited rest → Delimited (text ++ rest)) ∧
      Literal.Grammar.Others Derived kinds found ∧
        List.Forall₂ (Same (HasMinusZero kinds)) found items := by
  induction others with
  | none gaps blank =>
    refine ⟨[],[],?_,fun rest => delimited_blank gaps rest blank,.none [] .absent,.nil⟩
    exact fun rest others delimited lexes => Literal.lexes_gaps gaps rest others (blank_gap _ blank) lexes
  | more before after text a others rest blankBefore blankAfter next tail ih =>
    obtain ⟨kinds,b,printed,derived,same⟩ := each text a next
    obtain ⟨more,found,printedMore,delimits,derivedMore,sameMore⟩ := ih
    refine ⟨.mark .comma :: kinds ++ more,b :: found,?_,?_,.some kinds b more found derived derivedMore,
      .cons (mono _ _ _ _ ?_ same) (sameMore.imp fun _ _ => mono _ _ _ _ ?_)⟩
    · intro rest others delimited lexes
      have inner := printed _ _ (delimits rest delimited) (printedMore rest others delimited lexes)
      have whole := Literal.lexes_gaps before _ _ (blank_gap _ blankBefore)
        (Literal.lexes_mark .comma _ _ (Literal.lexes_gaps after _ _ (blank_gap _ blankAfter) inner))
      simpa only [Mark.char,List.append_assoc,List.cons_append] using whole
    · intro rest _
      rw [List.append_assoc]
      exact delimited_blank before _ blankBefore (delimited_cons ',' _ (by simp [delimiters]))
    · exact fun found => found.trans ⟨[.mark .comma],more,by simp⟩
    · exact fun found => found.trans ⟨.mark .comma :: kinds,[],by simp⟩

private theorem parts_read (mono : ∀ zeros more b a, (zeros → more) → Same zeros b a → Same more b a)
    (each : ∀ text a, One text a → ∃ kinds b, Printed text kinds ∧ Derived kinds b ∧
      Same (HasMinusZero kinds) b a)
    (text : List Char) (items : List α) (parts : Parts One text items) :
    ∃ kinds found, Printed text kinds ∧ Literal.Grammar.Items Derived kinds found ∧
      List.Forall₂ (Same (HasMinusZero kinds)) found items := by
  cases parts with
  | none gaps blank =>
    refine ⟨[],[],?_,.none,.nil⟩
    exact fun rest others delimited lexes => Literal.lexes_gaps _ rest others (blank_gap _ blank) lexes
  | some before text a others rest blank first tail =>
    obtain ⟨kinds,b,printed,derived,same⟩ := each text a first
    obtain ⟨more,found,printedMore,delimits,derivedMore,sameMore⟩ := others_read Same mono each _ _ tail
    obtain ⟨series,comma,split,derivedSeries,trailing⟩ := derivedMore.series _ _ kinds b derived
    refine ⟨kinds ++ more,b :: found,?_,split ▸ .some series _ comma derivedSeries trailing,
      .cons (mono _ _ _ _ ?_ same) (sameMore.imp fun _ _ => mono _ _ _ _ ?_)⟩
    · intro rest others delimited lexes
      have inner := printed _ _ (delimits rest delimited) (printedMore rest others delimited lexes)
      have whole := Literal.lexes_gaps before _ _ (blank_gap _ blank) inner
      simpa only [List.append_assoc] using whole
    · exact fun found => found.trans ⟨[],more,by simp⟩
    · exact fun found => found.trans ⟨kinds,[],by simp⟩

end Parts

/-! ### Values -/

private def SameValue (zeros : Prop) (a : Literal) (v : Json) : Prop := Agrees zeros a.toJson v.settle

private def SameMember (zeros : Prop) (entry : Literal × Literal) (member : String × Json) : Prop :=
  (Literal.entryToJson entry).1 = member.1 ∧
    Agrees zeros (Literal.entryToJson entry).2 member.2.settle

private theorem member_read (room : Nat) (One : List Char → Json → Prop)
    (each : ∀ text v, One text v → ReadsAs room text v.settle) (text : List Char)
    (found : String × Json) (member : Member One text found) :
    ∃ kinds entry, Printed text kinds ∧
      Literal.Grammar.Entry (Literal.Grammar.Value room) kinds entry ∧
        SameMember (HasMinusZero kinds) entry found := by
  cases member with
  | pair body characters before after text v name blankBefore blankAfter content =>
    obtain ⟨kinds,a,printed,derived,agrees⟩ := each text v content
    have key := Literal.Grammar.value_mono 0 room (Nat.zero_le _) _ _
      (Literal.Grammar.scalar_text (String.ofList characters))
    refine ⟨_,_,?_,.pair _ _ kinds a key derived,rfl,
      agrees.mono fun found => found.trans ⟨[.text (String.ofList characters), .mark .colon],[],by simp⟩⟩
    intro rest others delimited lexes
    have value := Literal.lexes_mark .colon _ _ (Literal.lexes_gaps after _ _ (blank_gap _ blankAfter)
      (printed rest others delimited lexes))
    have divided := Literal.lexes_gaps before _ _ (blank_gap _ blankBefore) value
    have whole := printed_characters body characters name _ _
      (delimited_blank before _ blankBefore (delimited_cons ':' _ (by simp [delimiters]))) divided
    simpa only [Mark.char,List.append_assoc,List.cons_append,List.nil_append] using whole

private theorem agrees_array (zeros : Prop) (found : List Literal) (items : List Json)
    (same : List.Forall₂ (SameValue zeros) found items) :
    Agrees zeros (Literal.list found).toJson (Json.array items).settle := by
  rw [Literal.toJson,settle,Literal.allToJson_eq,settleAll_eq]
  have all : List.Forall₂ (Agrees zeros) (found.map Literal.toJson) (items.map settle) :=
    List.forall₂_map_left_iff.mpr (List.forall₂_map_right_iff.mpr same)
  obtain ⟨length,each⟩ := List.forall₂_iff_zip.mp all
  exact .array _ _ length fun pair member => each member

private theorem agrees_object (zeros : Prop) (entries : List (Literal × Literal))
    (members : List (String × Json)) (same : List.Forall₂ (SameMember zeros) entries members) :
    Agrees zeros (Literal.dict entries).toJson (Json.object members).settle := by
  rw [Literal.toJson,settle,Literal.entriesToJson_eq,settleMembers_eq]
  have pairs : OrderedMap.Related (Agrees zeros) (entries.map Literal.entryToJson)
      (members.map fun member => (member.1, member.2.settle)) := by
    rw [OrderedMap.Related,List.forall₂_map_left_iff,List.forall₂_map_right_iff]
    exact same
  have all := OrderedMap.related_ofPairs (Agrees zeros) _ _ pairs
  refine .object _ _ ?_ fun pair member => ((List.forall₂_iff_zip.mp all).2 member).2
  rw [OrderedMap.keys,OrderedMap.keys,← List.forall₂_eq_eq_eq,List.forall₂_map_left_iff,
    List.forall₂_map_right_iff]
  exact all.imp fun _ _ related => related.1

private theorem readsAs_of_container (room : Nat) (One : List Char → Json → Prop)
    (each : ∀ text v, One text v → ReadsAs room text v.settle) (text : List Char) (v : Json)
    (container : Container One text v) : ReadsAs (room + 1) text v.settle := by
  cases container with
  | array inner items inside =>
    obtain ⟨kinds,found,printed,derived,same⟩ := parts_read SameValue
      (fun _ _ _ _ wider agrees => agrees.mono wider) each inner items inside
    have enclosed := Literal.printed_enclosed .listOpen .listClose inner kinds
      (by simp [delimiters,Mark.char]) printed
    have within : HasMinusZero kinds →
        HasMinusZero (.mark .listOpen :: kinds ++ [.mark .listClose]) :=
      fun found => found.trans ⟨[.mark .listOpen],[.mark .listClose],by simp⟩
    exact ⟨_,_,enclosed,.inr (.list kinds found derived),(agrees_array _ found items same).mono within⟩
  | object inner members inside =>
    obtain ⟨kinds,found,printed,derived,same⟩ := parts_read SameMember
      (fun _ _ _ _ wider same => ⟨same.1,same.2.mono wider⟩) (member_read room One each)
      inner members inside
    have enclosed := Literal.printed_enclosed .braceOpen .braceClose inner kinds
      (by simp [delimiters,Mark.char]) printed
    have within : HasMinusZero kinds →
        HasMinusZero (.mark .braceOpen :: kinds ++ [.mark .braceClose]) :=
      fun found => found.trans ⟨[.mark .braceOpen],[.mark .braceClose],by simp⟩
    refine ⟨_,_,enclosed,.inr ?_,(agrees_object _ found members same).mono within⟩
    cases derived with
    | none => exact .empty
    | some kinds _ comma series trailing =>
      simpa only [List.cons_append,List.append_assoc] using Literal.Grammar.Construct.dict kinds _ comma
        series trailing

private theorem readsAs_of_value (room : Nat) (text : List Char) (v : Json)
    (derived : Value nearest room text v) : ReadsAs room text v.settle := by
  induction room generalizing text v with
  | zero => exact readsAs_of_scalar 0 text v derived
  | succ room ih =>
    rcases derived with scalar | container
    · exact readsAs_of_scalar (room + 1) text v scalar
    · exact readsAs_of_container room _ ih text v container

/-! ### Texts -/

open Literal (jsonOfSource)

/-- Every text of strict JSON, with all its spellings of numbers and escapes, with repeated members and
blanks, is read as a literal. Its value is the same, but that minus zeros can be integers; and it is the
very same where no token of the integer zero follows a minus. -/
theorem json_read_as_literal (text : String) (v : Json) (read : Json.read nearest text = .ok v) :
    ∃ tokens w, Literal.lex text = .ok tokens ∧ jsonOfSource text = .ok w ∧
      Agrees ([.mark .minus, .int 0] <:+: tokens.map (·.what)) w v ∧
        (¬ [.mark .minus, .int 0] <:+: tokens.map (·.what) → w = v) := by
  obtain ⟨before,used,after,raw,blankBefore,blankAfter,same,derived,rfl⟩ := read_sound _ _ _ read
  obtain ⟨kinds,a,printed,literal,agrees⟩ := readsAs_of_value maxOpen used raw derived
  have ended := printed after [] (by simpa using delimited_blanks after blankAfter)
    (by simpa using Literal.lexes_gaps after [] [] (blank_gap _ blankAfter) Literal.lexes_nil)
  have lexes := Literal.lexes_gaps before _ _ (blank_gap _ blankBefore) ended
  rw [List.append_nil,← List.append_assoc,← same] at lexes
  obtain ⟨tokens,finish,cut,isFinish,spelled⟩ := Literal.lex_of_lexes text kinds lexes
  have parsed := Literal.Parser.parse_of_value tokens finish isFinish a
    (spelled ▸ Literal.Grammar.value_mono maxOpen 256 (by decide) _ _ literal)
  have within : HasMinusZero kinds → [.mark .minus, .int 0] <:+: (tokens ++ [finish]).map (·.what) :=
    fun found => found.trans ⟨[],[finish.what],by rw [← spelled]; simp [Literal.Parser.kinds]⟩
  have whole := agrees.mono within
  refine ⟨_,a.toJson,cut,?_,whole,whole.eq⟩
  simp only [jsonOfSource,Literal.ofSource,cut,parsed]
  rfl

/-- The strict reader takes `-0` as a floating point number; as a literal it is the integer zero. -/
theorem minus_zero_differs :
    Json.read nearest (String.ofList ['-', '0']) = .ok (.float (.zero true)) ∧
      jsonOfSource (String.ofList ['-', '0']) = .ok (.int 0) := by
  constructor
  · unfold Json.read readAll
    rw [String.toList_ofList]
    rfl
  · unfold jsonOfSource Literal.ofSource Literal.lex
    rw [String.toList_ofList]
    rfl

/-- The text `[-1]` has one value for both readers. -/
theorem array_read_as_literal :
    Json.read nearest (String.ofList ['[', '-', '1', ']']) = .ok (.array [.int (-1)]) ∧
      jsonOfSource (String.ofList ['[', '-', '1', ']']) = .ok (.array [.int (-1)]) := by
  have read : Json.read nearest (String.ofList ['[', '-', '1', ']']) = .ok (.array [.int (-1)]) := by
    unfold Json.read readAll
    rw [String.toList_ofList]
    rfl
  have cut : Literal.lex (String.ofList ['[', '-', '1', ']']) = .ok [⟨.mark .listOpen, ⟨0, 1⟩⟩,
      ⟨.mark .minus, ⟨1, 2⟩⟩, ⟨.int 1, ⟨2, 3⟩⟩, ⟨.mark .listClose, ⟨3, 4⟩⟩, ⟨.finish, ⟨4, 4⟩⟩] := by
    unfold Literal.lex
    rw [String.toList_ofList]
    rfl
  obtain ⟨tokens,w,cut',literal,_,same⟩ := json_read_as_literal _ _ read
  cases cut.symm.trans cut'
  rw [same (by decide)] at literal
  exact ⟨read,literal⟩

end Proctor.Json

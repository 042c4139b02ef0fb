import Proctor.Proofs.Number.Shortest
import Mathlib

/-! The text of a finite double spells a decimal number whose nearest double is the same double. -/
namespace Proctor

def Digits (text : List Char) : Prop := text ≠ [] ∧ ∀ c ∈ text, isDecimalDigit c = true

theorem digits_digitsOf (n : Nat) : Digits (digitsOf 10 n) := ⟨digitsOf_ne_nil 10 n,digitsOf_all n⟩

private theorem digits_append (front back : List Char) (first : Digits front)
    (second : ∀ c ∈ back, isDecimalDigit c = true) : Digits (front ++ back) :=
  ⟨by simp [first.1],List.forall_mem_append.mpr ⟨first.2,second⟩⟩

private theorem zeros_all (count : Nat) : ∀ c ∈ List.replicate count '0', isDecimalDigit c = true := by
  intro c member
  rw [List.eq_of_mem_replicate member]
  rfl

/-- The texts of an exponent: its mark in either case, a sign or none, and digits. -/
inductive Exponent : List Char → Int → Prop
  | bare (mark : Char) (isMark : mark = 'e' ∨ mark = 'E') (digits : List Char)
      (some : Digits digits) : Exponent (mark :: digits) (ofDigits 10 digits)
  | plus (mark : Char) (isMark : mark = 'e' ∨ mark = 'E') (digits : List Char)
      (some : Digits digits) : Exponent (mark :: '+' :: digits) (ofDigits 10 digits)
  | minus (mark : Char) (isMark : mark = 'e' ∨ mark = 'E') (digits : List Char)
      (some : Digits digits) : Exponent (mark :: '-' :: digits) (-(ofDigits 10 digits))

def exponentText (e : Int) : List Char :=
  ['e', if e < 0 then '-' else '+'] ++ digitsOf 10 e.natAbs

private theorem exponent_text (e : Int) : Exponent (exponentText e) e := by
  have spelled := ofDigits_digitsOf 10 e.natAbs (by decide) (by decide)
  have some := digits_digitsOf e.natAbs
  unfold exponentText
  split
  · next negative =>
    have whole := Exponent.minus 'e' (.inl rfl) _ some
    rw [spelled,show -((e.natAbs : Nat) : Int) = e by omega] at whole
    exact whole
  · next nonnegative =>
    have whole := Exponent.plus 'e' (.inl rfl) _ some
    rw [spelled,show ((e.natAbs : Nat) : Int) = e by omega] at whole
    exact whole

/-- The texts of a decimal number that is no integer numeral: digits after a point, an exponent, or
both. -/
inductive Written : List Char → Decimal → Prop
  | fraction (whole fraction : List Char) (first : Digits whole) (second : Digits fraction) :
      Written (whole ++ '.' :: fraction) ⟨whole, fraction, 0⟩
  | exponent (whole text : List Char) (e : Int) (first : Digits whole) (marked : Exponent text e) :
      Written (whole ++ text) ⟨whole, [], e⟩
  | both (whole fraction text : List Char) (e : Int) (first : Digits whole)
      (second : Digits fraction) (marked : Exponent text e) :
      Written (whole ++ '.' :: fraction ++ text) ⟨whole, fraction, e⟩

def withSign (negative : Bool) (text : List Char) : List Char :=
  if negative then '-' :: text else text

def Decimal.value (d : Decimal) : ℚ :=
  ofDigits 10 (d.whole ++ d.fraction) * 10 ^ (d.exponent - d.fraction.length)

namespace Binary64

/-! ### Reading decimals -/

/-- Doubles stay far inside the range of exponents that are computed. -/
theorem near_bounds (x : Binary64) (finite : x.isFinite = true) (some : 0 < x.significand) (r : ℚ)
    (near : x.Near r) : (10 : ℚ) ^ (-400 : Int) < r ∧ r < 10 ^ (400 : Int) := by
  have power : (2 : ℚ) ^ (1075 : Int) < 10 ^ (400 : Int) := by
    calc (2 : ℚ) ^ (1075 : Int) = (2 ^ 43) ^ 25 := by
          rw [← pow_mul,← zpow_natCast]
          rfl
      _ < (10 ^ 16) ^ 25 := pow_lt_pow_left₀ (by norm_num) (by norm_num) (by norm_num)
      _ = 10 ^ (400 : Int) := by
          rw [← pow_mul,← zpow_natCast]
          rfl
  simp only [isFinite,decide_eq_true_eq] at finite
  constructor
  · have two : (2 : ℚ) ≤ x.lowEnd := by
      have : 2 ≤ x.lowEnd := by rw [lowEnd_eq]; split <;> omega
      exact_mod_cast this
    calc (10 : ℚ) ^ (-400 : Int) < 2 ^ (-1075 : Int) := by
          rw [zpow_neg,zpow_neg]
          exact inv_strictAnti₀ (two_zpow_pos _) power
      _ = 2 * 2 ^ (-1076 : Int) := by
          rw [← zpow_one_add₀ (by norm_num)]
          norm_num
      _ ≤ x.lowEnd * 2 ^ (x.scale - 2) := by
          apply mul_le_mul two _ (two_zpow_pos _).le (by linarith)
          exact zpow_le_zpow_right₀ (by norm_num) (by have := x.scale_ge; omega)
      _ ≤ r := near.low
  · have top : (x.highEnd : ℚ) ≤ 2 ^ (55 : Int) := by
      have := x.significand_lt
      have : x.highEnd ≤ 2 ^ 55 := by unfold highEnd; unfold leadingBit at this; omega
      exact_mod_cast this
    calc r ≤ x.highEnd * 2 ^ (x.scale - 2) := near.high
      _ ≤ 2 ^ (55 : Int) * 2 ^ (969 : Int) := by
          apply mul_le_mul top _ (two_zpow_pos _).le (two_zpow_pos _).le
          exact zpow_le_zpow_right₀ (by norm_num) (by unfold scale; omega)
      _ ≤ 2 ^ (1075 : Int) := by
          rw [← zpow_add₀ (by norm_num)]
          exact zpow_le_zpow_right₀ (by norm_num) (by norm_num)
      _ < 10 ^ (400 : Int) := power

private theorem ofDecimal_of_near (x : Binary64) (finite : x.isFinite = true) (some : 0 < x.significand)
    (digits : Nat) (e : Int) (near : x.Near (digits * 10 ^ e)) :
    ofDecimal x.negative digits e = x := by
  obtain ⟨above,below⟩ := x.near_bounds finite some _ near
  have positive : 0 < digits := by
    by_contra none
    rw [Nat.eq_zero_of_not_pos none,Nat.cast_zero,zero_mul] at above
    exact absurd above (not_lt.mpr (ten_zpow_pos _).le)
  obtain ⟨low,high⟩ := digits_bounds digits positive
  have notAbove : ¬ 400 < ((digitsOf 10 digits).length : Int) + e := by
    intro beyond
    have : (10 : ℚ) ^ (400 : Int) ≤ digits * 10 ^ e := by
      calc (10 : ℚ) ^ (400 : Int) ≤ 10 ^ (((digitsOf 10 digits).length - 1 : Int) + e) :=
            zpow_le_zpow_right₀ (by norm_num) (by omega)
        _ = 10 ^ ((digitsOf 10 digits).length - 1 : Int) * 10 ^ e := ten_zpow_add _ _
        _ ≤ digits * 10 ^ e := mul_le_mul_of_nonneg_right low (ten_zpow_pos e).le
    linarith
  have notBelow : ¬ ((digitsOf 10 digits).length : Int) + e < -400 := by
    intro beyond
    have : digits * 10 ^ e ≤ (10 : ℚ) ^ (-400 : Int) := by
      calc (digits : ℚ) * 10 ^ e ≤ 10 ^ ((digitsOf 10 digits).length : Int) * 10 ^ e :=
            mul_le_mul_of_nonneg_right high.le (ten_zpow_pos e).le
        _ = 10 ^ (((digitsOf 10 digits).length : Int) + e) := (ten_zpow_add _ _).symm
        _ ≤ 10 ^ (-400 : Int) := zpow_le_zpow_right₀ (by norm_num) (by omega)
    linarith
  simp only [ofDecimal,positive.ne',notAbove,notBelow,↓reduceIte]
  split
  · next negative =>
    apply ofRatio_of_near x finite _ _ positive (Nat.pow_pos (by decide))
    rwa [div_eq_mul_inv,← ten_zpow_neg e negative]
  · next nonnegative =>
    apply ofRatio_of_near x finite _ _ (Nat.mul_pos positive (Nat.pow_pos (by decide))) one_pos
    rwa [Nat.cast_mul,Nat.cast_one,div_one,← ten_zpow_nonneg e (by omega)]

private theorem nearest_of_near (x : Binary64) (finite : x.isFinite = true) (some : 0 < x.significand)
    (d : Decimal) (near : x.Near d.value) : d.nearest x.negative = x :=
  ofDecimal_of_near x finite some _ _ near

end Binary64

/-! ### Printing decimals -/

private theorem decimalValue_eq (d : DecimalDigits) (whole fraction : List Char) (e : Int) (shift : Nat)
    (spelled : ofDigits 10 (whole ++ fraction) = ofDigits 10 d.digits * 10 ^ shift)
    (places : e - fraction.length + shift = d.point - d.digits.length) :
    (Decimal.mk whole fraction e).value = d.value := by
  simp only [Decimal.value,DecimalDigits.value,spelled,← places]
  rw [Binary64.ten_zpow_add,zpow_natCast]
  push_cast
  ring

private theorem positional_written (d : DecimalDigits) (digits : Digits d.digits) :
    ∃ decimal, Written (d.positional ['.', '0']) decimal ∧ decimal.value = d.value := by
  have some := List.length_pos_iff.mpr digits.1
  unfold DecimalDigits.positional
  split
  · next positive =>
    dsimp only
    split
    · next short =>
      refine ⟨_,.fraction _ ['0'] (digits_append _ _ digits (zeros_all _)) ⟨by simp,zeros_all 1⟩,
        decimalValue_eq d _ _ 0 (d.point.toNat - d.digits.length + 1) ?_ ?_⟩
      · rw [List.append_assoc,← ofDigits_append_zeros,List.replicate_succ']
      · simp only [List.length_singleton]
        omega
    · next long =>
      have front : d.digits.take d.point.toNat ≠ [] := by
        rw [← List.length_pos_iff,List.length_take]
        omega
      have back : d.digits.drop d.point.toNat ≠ [] := by
        rw [← List.length_pos_iff,List.length_drop]
        omega
      refine ⟨_,.fraction _ _ ⟨front,fun c member => digits.2 c (List.mem_of_mem_take member)⟩
        ⟨back,fun c member => digits.2 c (List.mem_of_mem_drop member)⟩,decimalValue_eq d _ _ 0 0 ?_ ?_⟩
      · rw [List.take_append_drop,pow_zero,Nat.mul_one]
      · simp only [List.length_drop]
        omega
  · next low =>
    have after : Digits (List.replicate (-d.point).toNat '0' ++ d.digits) :=
      ⟨by simp [digits.1],List.forall_mem_append.mpr ⟨zeros_all _,digits.2⟩⟩
    have written := Written.fraction ['0'] _ ⟨by simp,zeros_all 1⟩ after
    refine ⟨_,by simpa using written,decimalValue_eq d _ _ 0 0 ?_ ?_⟩
    · rw [pow_zero,Nat.mul_one,← ofDigits_zeros_append 10 (1 + (-d.point).toNat) d.digits,
        List.replicate_add,List.append_assoc]
      rfl
    · rw [List.length_append,List.length_replicate]
      omega

private theorem scientific_written (d : DecimalDigits) (digits : Digits d.digits) :
    ∃ decimal, Written d.scientific decimal ∧ decimal.value = d.value := by
  obtain ⟨all,point⟩ := d
  cases all with
  | nil => exact absurd rfl digits.1
  | cons first others =>
    have one : Digits [first] := ⟨by simp,fun c member => digits.2 c (by simp_all)⟩
    cases others with
    | nil =>
      refine ⟨_,?_,decimalValue_eq ⟨[first], point⟩ [first] [] (point - 1) 0 (by simp) (by simp)⟩
      have written := Written.exponent [first] _ (point - 1) one (exponent_text _)
      simpa only [DecimalDigits.scientific,exponentText,List.append_assoc] using written
    | cons second others =>
      have rest : Digits (second :: others) :=
        ⟨by simp,fun c member => digits.2 c (List.mem_cons_of_mem _ member)⟩
      refine ⟨_,?_,decimalValue_eq ⟨first :: second :: others, point⟩ [first] (second :: others)
        (point - 1) 0 (by simp) (by simp only [List.length_cons]; omega)⟩
      have written := Written.both [first] (second :: others) _ (point - 1) one rest (exponent_text _)
      simpa only [DecimalDigits.scientific,exponentText,List.append_assoc,List.cons_append,
        List.nil_append] using written

namespace Binary64

private theorem significand_eq_zero (x : Binary64) : x.significand = 0 ↔ x.isZero = true := by
  have := x.exponent.isLt
  simp only [significand,isZero,Bool.and_eq_true,beq_iff_eq]
  split
  · next zero => simp [zero]
  · next other => simp [other,leadingBit]

private theorem nearest_unsigned (x : Binary64) (d : Decimal) (same : d.nearest x.negative = x) :
    d.nearest false = { x with negative := false } := by
  obtain ⟨negative,exponent,fraction⟩ := x
  cases negative with
  | false => exact same
  | true =>
    have flipped := congrArg neg same
    rw [Decimal.nearest,neg_ofDecimal] at flipped
    exact flipped

/-- The text of the magnitude of a finite double spells a number that is read as that magnitude. -/
theorem interchange_written (x : Binary64) (finite : x.isFinite = true) :
    ∃ decimal, Written x.interchangeMagnitude decimal ∧
      decimal.nearest false = { x with negative := false } := by
  unfold interchangeMagnitude
  split
  · next isZero =>
    refine ⟨_,.fraction ['0'] ['0'] ⟨by simp,zeros_all 1⟩ ⟨by simp,zeros_all 1⟩,?_⟩
    obtain ⟨negative,exponent,fraction⟩ := x
    simp only [Binary64.isZero,Bool.and_eq_true,beq_iff_eq] at isZero
    obtain rfl : exponent = 0 := Fin.ext isZero.1
    obtain rfl : fraction = 0 := Fin.ext isZero.2
    rfl
  · next other =>
    have some : 0 < x.significand := Nat.pos_of_ne_zero (mt x.significand_eq_zero.mp other)
    obtain ⟨near,kept,all⟩ := shortest_near false x some
    have written : ∃ decimal, Written (if -5 < (x.shortest false).point ∧ (x.shortest false).point ≤ 16
        then (x.shortest false).positional ['.', '0'] else (x.shortest false).scientific) decimal ∧
        decimal.value = (x.shortest false).value := by
      split
      · exact positional_written _ ⟨kept,all⟩
      · exact scientific_written _ ⟨kept,all⟩
    obtain ⟨decimal,written,same⟩ := written
    exact ⟨decimal,written,
      nearest_unsigned x decimal (nearest_of_near x finite some decimal (same ▸ near))⟩

end Binary64
end Proctor

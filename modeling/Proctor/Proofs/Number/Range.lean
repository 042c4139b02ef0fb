import Proctor.Proofs.Number.Digits
import Proctor.Proofs.Number.Rounding
import Mathlib

/-! Which natural numbers are rounded to a finite double, and which to the infinity. -/
namespace Proctor.Binary64

def overflow : Nat := (2 ^ 54 - 1) * 2 ^ 970

/-! ### Rounding to the end of a binade -/

private theorem roundEven_le (num den : Nat) : num / den ≤ roundEven num den ∧
    roundEven num den ≤ num / den + 1 := by
  unfold roundEven
  dsimp only
  split
  · omega
  split <;> omega

/-- Half-way below an even number is rounded up to it. -/
theorem roundEven_lt_iff (num den bound : Nat) (positive : 0 < den) (even : bound % 2 = 0) :
    roundEven num den < bound ↔ 2 * num < (2 * bound - 1) * den := by
  have split := Nat.div_add_mod num den
  have remainder := Nat.mod_lt num positive
  obtain ⟨atLeast,atMost⟩ := roundEven_le num den
  rcases Nat.lt_trichotomy (num / den + 1) bound with low | same | high
  · have less : den * (num / den + 2) ≤ den * bound := Nat.mul_le_mul_left den low
    refine iff_of_true (by omega) ?_
    rw [Nat.sub_mul,Nat.one_mul,Nat.mul_assoc,Nat.mul_comm bound]
    rw [Nat.mul_add] at less
    omega
  · have exact : (2 * bound - 1) * den = 2 * (den * (num / den)) + den := by
      rw [← same,show 2 * (num / den + 1) - 1 = 2 * (num / den) + 1 by omega,Nat.add_mul,Nat.one_mul,
        Nat.mul_assoc,Nat.mul_comm (num / den)]
    rw [exact]
    unfold roundEven
    dsimp only
    split
    · omega
    split <;> omega
  · have more : den * bound ≤ den * (num / den) := Nat.mul_le_mul_left den (by omega)
    refine iff_of_false (by omega) ?_
    rw [Nat.sub_mul,Nat.one_mul,Nat.mul_assoc,Nat.mul_comm bound]
    omega

private theorem ofSignificand_finite (negative : Bool) (m : Nat) (e : Int)
    (small : (if m = 2 * leadingBit then e + 1 else e) < 972) : (ofSignificand negative m e).isFinite = true := by
  unfold ofSignificand
  split at small
  all_goals
    simp only [*,↓reduceIte]
    split
    · rfl
    · simp only [isFinite,decide_eq_true_eq]
      rw [if_pos (by omega)]
      simp only [Fin.ofNat]
      omega

private theorem ofSignificand_infinite (negative : Bool) (m : Nat) (e : Int) (large : leadingBit ≤ m)
    (top : 972 ≤ if m = 2 * leadingBit then e + 1 else e) : ofSignificand negative m e = infinity negative := by
  unfold ofSignificand
  split at top
  all_goals
    simp only [*,↓reduceIte]
    rw [if_neg (by omega),if_neg (by omega)]

/-! ### Natural numbers -/

theorem pow_le_overflow (k : Nat) : 2 ^ k ≤ overflow ↔ k < 1024 := by
  have bounds : 2 ^ (53 + 970) ≤ overflow ∧ overflow < 2 ^ (54 + 970) := by
    rw [pow_add,pow_add,overflow]
    exact ⟨Nat.mul_le_mul_right _ (by decide),Nat.mul_lt_mul_of_pos_right (by decide) (pow_pos two_pos 970)⟩
  constructor
  · intro reached
    have small := (pow_lt_pow_iff_right₀ Nat.one_lt_two).mp (reached.trans_lt bounds.2)
    omega
  · intro small
    exact (Nat.pow_le_pow_right (by decide) (by omega)).trans bounds.1

private theorem ofNat_eq (n : Nat) (e : Int) (some : n ≠ 0) (place : (n.log2 : Int) = e + 52) :
    ofNat n = ofSignificand false (roundEven (scaled n 1 e).1 (scaled n 1 e).2) e := by
  obtain ⟨low,high⟩ := log2_bounds n (Nat.pos_of_ne_zero some)
  rw [place] at low high
  have exponent : exponentOf n 1 = e := by
    apply exponentOf_eq n 1 e (Nat.pos_of_ne_zero some) Nat.one_pos (by omega)
    · simpa [add_assoc] using high
    · exact .inr (by simpa using low)
  exact ofRatio_eq false n 1 _ e (Nat.pos_of_ne_zero some) Nat.one_pos exponent rfl

private theorem scaled_whole (n e : Nat) : scaled n 1 e = (n, 2 ^ e) := by
  simp [scaled,not_lt.mpr (Int.natCast_nonneg e)]

private theorem rounded_bounds (n e : Nat) (some : n ≠ 0) (place : n.log2 = e + 52) :
    leadingBit ≤ roundEven n (2 ^ e) ∧ roundEven n (2 ^ e) ≤ 2 * leadingBit := by
  obtain ⟨atLeast,atMost⟩ := roundEven_le n (2 ^ e)
  have low := Nat.log2_self_le some
  have high := Nat.lt_log2_self (n := n)
  rw [place,Nat.add_comm,Nat.pow_add] at low
  rw [place,Nat.add_assoc,Nat.add_comm,Nat.pow_add] at high
  have least := (Nat.le_div_iff_mul_le (Nat.two_pow_pos e)).mpr low
  have most := (Nat.div_lt_iff_lt_mul (Nat.two_pow_pos e)).mpr high
  unfold leadingBit
  omega

/-- In the highest binade the bound decides whether the significand stays below the next one. -/
theorem rounded_lt_iff (n e : Nat) (last : e = 970 + 1) :
    roundEven n (2 ^ e) < 2 * leadingBit ↔ n < overflow := by
  have double : 2 * overflow = (2 ^ 54 - 1) * 2 ^ e := by
    rw [last,overflow,pow_succ 2 970,mul_left_comm,mul_comm 2 (2 ^ 970)]
  have odd : 2 * (2 * leadingBit) - 1 = 2 ^ 54 - 1 := by decide
  rw [roundEven_lt_iff n _ _ (Nat.two_pow_pos e) (by decide),odd,← double]
  exact Nat.mul_lt_mul_left Nat.two_pos

theorem ofNat_finite (n : Nat) (small : n < overflow) : (ofNat n).isFinite = true := by
  by_cases none : n = 0
  · subst none
    rfl
  have wide : n.log2 < 1024 := (pow_le_overflow _).mp ((Nat.log2_self_le none).trans small.le)
  rw [ofNat_eq n (n.log2 - 52) none (by omega)]
  apply ofSignificand_finite
  by_cases last : n.log2 = 1023
  · have place : (n.log2 : Int) - 52 = (970 + 1 : Nat) := by omega
    have below := (rounded_lt_iff n _ rfl).mpr small
    rw [place,scaled_whole,if_neg (Nat.ne_of_lt below)]
    decide
  · split <;> omega

theorem ofNat_infinite (n : Nat) (large : overflow ≤ n) : ofNat n = infinity false := by
  have wide : 1023 ≤ n.log2 := by
    by_contra short
    have reached := (pow_le_overflow (n.log2 + 1)).mpr (by omega)
    exact absurd (Nat.lt_log2_self (n := n)) (Nat.not_lt.mpr (reached.trans large))
  have some : n ≠ 0 := by
    rintro rfl
    simp at wide
  obtain ⟨e,place⟩ : ∃ e : Nat, n.log2 = e + 52 := ⟨n.log2 - 52,by omega⟩
  obtain ⟨least,most⟩ := rounded_bounds n e some place
  rw [ofNat_eq n e some (by omega),scaled_whole]
  apply ofSignificand_infinite _ _ _ least
  by_cases last : e = 970 + 1
  · have above := mt (rounded_lt_iff n e last).mp (Nat.not_lt.mpr large)
    rw [if_pos (by omega)]
    omega
  · split <;> omega

/-! ### Decimal notation -/

theorem ofDecimal_nat (n : Nat) : ofDecimal false n 0 = ofNat n := by
  unfold ofDecimal
  dsimp only
  split
  · next none =>
    subst none
    rfl
  next some =>
  split
  · next long =>
    obtain ⟨k,places⟩ : ∃ k, (digitsOf 10 n).length - 1 = k := ⟨_,rfl⟩
    have wide := pow_digits_le n (Nat.pos_of_ne_zero some)
    have beyond : overflow < 2 ^ (3 * k) := not_le.mp (mt (pow_le_overflow _).mp (by omega))
    refine (ofNat_infinite n ?_).symm
    calc overflow ≤ 2 ^ (3 * k) := beyond.le
      _ = (2 ^ 3) ^ k := pow_mul 2 3 k
      _ ≤ 10 ^ k := pow_le_pow_left₀ (by decide) (by decide) k
      _ ≤ n := places ▸ wide
  split
  · omega
  split
  · omega
  · rw [Int.toNat_zero,Nat.pow_eq,Nat.pow_zero,Nat.mul_one]
    rfl

end Proctor.Binary64

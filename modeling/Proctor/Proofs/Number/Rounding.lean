import Proctor.Number.Binary64
import Mathlib

/-! The double nearest to a quotient. Around every finite double there is an interval whose numbers all
round to it; its ends belong to it where the significand is even. -/
namespace Proctor.Binary64

/-! ### Nearest integers -/

/-- The integer within one half is the nearest one; at a distance of one half it must be even. -/
theorem roundEven_eq (num den nearest : Nat) (positive : 0 < den)
    (below : 2 * nearest * den ≤ 2 * num + den) (above : 2 * num ≤ 2 * nearest * den + den)
    (even : 2 * nearest * den = 2 * num + den ∨ 2 * num = 2 * nearest * den + den →
      nearest % 2 = 0) : roundEven num den = nearest := by
  have split := Nat.div_add_mod num den
  have remainder := Nat.mod_lt num positive
  unfold roundEven
  generalize num / den = q at *
  generalize num % den = r at *
  have least : q ≤ nearest := by
    by_contra less
    have : (nearest + 1) * den ≤ q * den := Nat.mul_le_mul_right den (by omega)
    linarith
  have greatest : nearest ≤ q + 1 := by
    by_contra more
    have : (q + 2) * den ≤ nearest * den := Nat.mul_le_mul_right den (by omega)
    linarith
  rcases (show nearest = q ∨ nearest = q + 1 by omega) with rfl | rfl
  · have half : 2 * r ≤ den := by linarith
    by_cases tie : 2 * r = den
    · have isEven := even (.inr (by linarith))
      simp only [tie,lt_irrefl,↓reduceIte]
      omega
    · simp only [show 2 * r < den by omega,↓reduceIte]
  · have half : den ≤ 2 * r := by linarith
    by_cases tie : 2 * r = den
    · have isEven := even (.inl (by linarith))
      simp only [tie,lt_irrefl,↓reduceIte]
      omega
    · simp only [show ¬ 2 * r < den by omega,show den < 2 * r by omega,↓reduceIte]

/-! ### Scaled quotients -/

private theorem scaled_positive (num den : Nat) (e : Int) (positive : 0 < den) :
    0 < (scaled num den e).2 := by
  unfold scaled
  split
  · exact positive
  · exact Nat.mul_pos positive (Nat.pow_pos (by decide))

private theorem scaled_value (num den : Nat) (e : Int) :
    ((scaled num den e).1 : ℚ) / (scaled num den e).2 = num / den / 2 ^ e := by
  unfold scaled
  split
  · next negative =>
    have power : (2 : ℚ) ^ e = (2 ^ (-e).toNat)⁻¹ := by
      rw [← zpow_natCast,← zpow_neg,Int.toNat_of_nonneg (by omega),neg_neg]
    simp only [Nat.pow_eq,Nat.cast_mul,Nat.cast_pow,Nat.cast_ofNat]
    rw [power,div_inv_eq_mul]
    ring
  · next nonnegative =>
    have power : (2 : ℚ) ^ e = 2 ^ e.toNat := by
      rw [← zpow_natCast,Int.toNat_of_nonneg (by omega)]
    simp only [Nat.pow_eq,Nat.cast_mul,Nat.cast_pow,Nat.cast_ofNat]
    rw [power,div_mul_eq_div_div]

/-! ### The exponent -/

theorem two_zpow_pos (e : Int) : (0 : ℚ) < 2 ^ e := zpow_pos (by norm_num) e

private theorem lt_of_zpow_lt (a b : Int) (less : (2 : ℚ) ^ a < 2 ^ b) : a < b :=
  (zpow_lt_zpow_iff_right₀ (by norm_num)).mp less

theorem log2_bounds (n : Nat) (positive : 0 < n) :
    (2 : ℚ) ^ (n.log2 : Int) ≤ n ∧ (n : ℚ) < 2 ^ ((n.log2 : Int) + 1) := by
  constructor
  · exact_mod_cast Nat.log2_self_le (by omega)
  · exact_mod_cast Nat.lt_log2_self

private theorem quotient_bounds (num den : Nat) (some : 0 < num) (positive : 0 < den) :
    (2 : ℚ) ^ ((num.log2 : Int) - den.log2 - 1) < num / den ∧
      (num / den : ℚ) < 2 ^ ((num.log2 : Int) - den.log2 + 1) := by
  obtain ⟨numLow,numHigh⟩ := log2_bounds num some
  obtain ⟨denLow,denHigh⟩ := log2_bounds den positive
  have den_pos : (0 : ℚ) < den := by exact_mod_cast positive
  constructor
  · rw [lt_div_iff₀ den_pos]
    calc (2 : ℚ) ^ ((num.log2 : Int) - den.log2 - 1) * den
        < 2 ^ ((num.log2 : Int) - den.log2 - 1) * 2 ^ ((den.log2 : Int) + 1) :=
          mul_lt_mul_of_pos_left denHigh (two_zpow_pos _)
      _ = 2 ^ (num.log2 : Int) := by
          rw [← zpow_add₀ (by norm_num)]
          congr 1
          ring
      _ ≤ num := numLow
  · rw [div_lt_iff₀ den_pos]
    calc (num : ℚ) < 2 ^ ((num.log2 : Int) + 1) := numHigh
      _ = 2 ^ ((num.log2 : Int) - den.log2 + 1) * 2 ^ (den.log2 : Int) := by
          rw [← zpow_add₀ (by norm_num)]
          congr 1
          ring
      _ ≤ 2 ^ ((num.log2 : Int) - den.log2 + 1) * den :=
          mul_le_mul_of_nonneg_left denLow (two_zpow_pos _).le

/-- The exponent is the one at which the quotient has 53 bits, unless that is too small. -/
theorem exponentOf_eq (num den : Nat) (e : Int) (some : 0 < num) (positive : 0 < den)
    (least : -1074 ≤ e) (high : (num / den : ℚ) < 2 ^ (e + 53))
    (low : e = -1074 ∨ (2 : ℚ) ^ (e + 52) ≤ num / den) : exponentOf num den = e := by
  obtain ⟨lower,upper⟩ := quotient_bounds num den some positive
  set guess : Int := (num.log2 : Int) - (den.log2 : Int) - 53 with guess_eq
  have reached : (scaled num den guess).1 / (scaled num den guess).2 < 2 * leadingBit ↔
      (num / den : ℚ) < 2 ^ (guess + 53) := by
    have pos := scaled_positive num den guess positive
    have value := scaled_value num den guess
    rw [div_eq_iff (by exact_mod_cast pos.ne')] at value
    rw [Nat.div_lt_iff_lt_mul pos,← Nat.cast_lt (α := ℚ),value,Nat.cast_mul,
      mul_lt_mul_iff_left₀ (by exact_mod_cast pos),div_lt_iff₀ (two_zpow_pos _),add_comm guess,
      zpow_add₀ (by norm_num)]
    norm_num [leadingBit]
  -- The guess from the binary logarithms is the exponent, or one less than it.
  have settled : ∃ found : Int, exponentOf num den = max found (-1074) ∧
      (2 : ℚ) ^ (found + 52) ≤ num / den ∧ (num / den : ℚ) < 2 ^ (found + 53) := by
    by_cases small : (num / den : ℚ) < 2 ^ (guess + 53)
    · refine ⟨guess,?_,?_,small⟩
      · simp only [exponentOf,← guess_eq,reached.mpr small,↓reduceIte]
      · rw [show guess + 52 = (num.log2 : Int) - den.log2 - 1 by omega]
        exact lower.le
    · refine ⟨guess + 1,?_,?_,?_⟩
      · simp only [exponentOf,← guess_eq,mt reached.mp small,↓reduceIte]
      · rw [show guess + 1 + 52 = guess + 53 by ring]
        exact not_lt.mp small
      · rw [show guess + 1 + 53 = (num.log2 : Int) - den.log2 + 1 by omega]
        exact upper
  obtain ⟨found,same,foundLow,foundHigh⟩ := settled
  have below : found ≤ e := by
    have := lt_of_zpow_lt _ _ (foundLow.trans_lt high)
    omega
  rw [same]
  rcases low with rfl | low
  · omega
  · have above := lt_of_zpow_lt _ _ (low.trans_lt foundHigh)
    omega

/-! ### The interval around a double -/

theorem significand_lt (x : Binary64) : x.significand < 2 * leadingBit := by
  have := x.fraction.isLt
  unfold significand leadingBit
  split <;> omega

theorem scale_ge (x : Binary64) : -1074 ≤ x.scale := by
  unfold scale
  omega

private theorem significand_ge (x : Binary64) (normal : -1074 < x.scale) : leadingBit ≤ x.significand := by
  unfold scale at normal
  have : x.exponent.val ≠ 0 := by omega
  simp only [significand,this,↓reduceIte]
  omega

def lowEnd (x : Binary64) : Nat :=
  if x.fraction.val = 0 ∧ 1 < x.exponent.val then 4 * x.significand - 1 else 4 * x.significand - 2

def highEnd (x : Binary64) : Nat := 4 * x.significand + 2

theorem lowEnd_eq (x : Binary64) :
    x.lowEnd = if x.significand = leadingBit ∧ -1074 < x.scale then 4 * x.significand - 1
      else 4 * x.significand - 2 := by
  have small := x.fraction.isLt
  have same : (x.fraction.val = 0 ∧ 1 < x.exponent.val) ↔
      x.significand = leadingBit ∧ -1074 < x.scale := by
    unfold significand scale leadingBit
    split <;> omega
  simp only [lowEnd,same]

structure Near (x : Binary64) (r : ℚ) : Prop where
  low : (x.lowEnd : ℚ) * 2 ^ (x.scale - 2) ≤ r
  high : r ≤ x.highEnd * 2 ^ (x.scale - 2)
  within : x.significand % 2 = 1 →
    (x.lowEnd : ℚ) * 2 ^ (x.scale - 2) < r ∧ r < x.highEnd * 2 ^ (x.scale - 2)

private theorem ofSignificand_self (x : Binary64) (finite : x.isFinite = true) :
    ofSignificand x.negative x.significand x.scale = x := by
  have small := x.significand_lt
  have fraction_lt := x.fraction.isLt
  simp only [isFinite,decide_eq_true_eq] at finite
  obtain ⟨negative,exponent,fraction⟩ := x
  dsimp only at fraction_lt finite
  unfold ofSignificand
  simp only [show ¬ significand ⟨negative,exponent,fraction⟩ = 2 * leadingBit by omega,↓reduceIte]
  by_cases zero : exponent.val = 0
  · have same : exponent = 0 := Fin.ext zero
    simp only [significand,zero,↓reduceIte,leadingBit,fraction_lt]
    simp [Fin.ofNat,Nat.mod_eq_of_lt fraction_lt,same]
  · have exponent_eq : (max (exponent.val : Int) 1 - 1075 + 1075).toNat = exponent.val := by omega
    simp only [significand,zero,↓reduceIte,scale,
      show ¬ fraction.val + leadingBit < leadingBit by omega,
      show max (exponent.val : Int) 1 - 1075 + 1075 < 2047 by omega,exponent_eq,
      Nat.add_sub_cancel]
    simp [Fin.ofNat,Nat.mod_eq_of_lt exponent.isLt,Nat.mod_eq_of_lt fraction_lt]

private theorem ofSignificand_carry (negative : Bool) (e : Int) :
    ofSignificand negative (2 * leadingBit) e = ofSignificand negative leadingBit (e + 1) := by
  simp [ofSignificand,leadingBit]

/-! ### Rounding in the interval -/

theorem zpow_split (e : Int) (k : Nat) : (2 : ℚ) ^ (e + k) = 2 ^ k * 2 ^ e := by
  rw [zpow_add₀ (by norm_num),zpow_natCast,mul_comm]

/-- Rounding a scaled quotient, with the conditions in quarters of its unit. -/
theorem roundEven_scaled (num den nearest : Nat) (e : Int) (positive : 0 < den)
    (below : (4 * nearest - 2 : ℚ) * 2 ^ (e - 2) ≤ num / den)
    (above : (num / den : ℚ) ≤ (4 * nearest + 2) * 2 ^ (e - 2))
    (within : nearest % 2 = 1 → (4 * nearest - 2 : ℚ) * 2 ^ (e - 2) < num / den ∧
      (num / den : ℚ) < (4 * nearest + 2) * 2 ^ (e - 2)) :
    roundEven (scaled num den e).1 (scaled num den e).2 = nearest := by
  have pos := scaled_positive num den e positive
  have value := scaled_value num den e
  have unit := zpow_split (e - 2) 2
  rw [show e - 2 + (2 : Nat) = e by push_cast; ring] at unit
  generalize (scaled num den e).1 = n at *
  generalize (scaled num den e).2 = d at *
  have d_pos : (0 : ℚ) < d := by exact_mod_cast pos
  have u_pos := two_zpow_pos (e - 2)
  have whole : (num / den : ℚ) * d = 4 * n * 2 ^ (e - 2) := by
    rw [eq_div_iff (two_zpow_pos e).ne',unit] at value
    rw [← value]
    field_simp
    ring
  generalize (num / den : ℚ) = t at *
  generalize (2 : ℚ) ^ (e - 2) = u at *
  have lower : (4 * nearest - 2 : ℚ) * u ≤ t ↔ ((2 * nearest * d : Nat) : ℚ) ≤ (2 * n + d : Nat) := by
    rw [← mul_le_mul_iff_left₀ d_pos,whole,
      show (4 * nearest - 2 : ℚ) * u * d = (4 * nearest * d - 2 * d) * u by ring,
      mul_le_mul_iff_left₀ u_pos]
    push_cast
    constructor <;> intro h <;> linarith
  have upper : t ≤ (4 * nearest + 2 : ℚ) * u ↔ ((2 * n : Nat) : ℚ) ≤ (2 * nearest * d + d : Nat) := by
    rw [← mul_le_mul_iff_left₀ d_pos,whole,
      show (4 * nearest + 2 : ℚ) * u * d = (4 * nearest * d + 2 * d) * u by ring,
      mul_le_mul_iff_left₀ u_pos]
    push_cast
    constructor <;> intro h <;> linarith
  rw [lower,Nat.cast_le] at below
  rw [upper,Nat.cast_le] at above
  refine roundEven_eq n d nearest pos below above ?_
  intro tie
  -- An odd point is never met at a tie, since its bounds are strict.
  by_contra odd
  obtain ⟨strictBelow,strictAbove⟩ := within (by omega)
  rcases tie with tie | tie
  · have strict := mul_lt_mul_of_pos_right strictBelow d_pos
    have tied : (2 * nearest * d : ℚ) = 2 * n + d := by exact_mod_cast tie
    have equal : (4 * nearest - 2 : ℚ) * u * d = 4 * n * u := by linear_combination (2 * u) * tied
    exact absurd (whole.trans equal.symm) strict.ne'
  · have strict := mul_lt_mul_of_pos_right strictAbove d_pos
    have tied : (2 * n : ℚ) = 2 * nearest * d + d := by exact_mod_cast tie
    have equal : (4 * nearest + 2 : ℚ) * u * d = 4 * n * u := by linear_combination -(2 * u) * tied
    exact absurd (whole.trans equal.symm) strict.ne

theorem ofRatio_eq (negative : Bool) (num den nearest : Nat) (e : Int) (some : 0 < num)
    (positive : 0 < den) (exponent : exponentOf num den = e)
    (rounded : roundEven (scaled num den e).1 (scaled num den e).2 = nearest) :
    ofRatio negative num den = ofSignificand negative nearest e := by
  simp only [ofRatio,show ¬ (num = 0 ∨ den = 0) by omega,↓reduceIte,exponent,rounded]

private theorem leadingBit_cast : (leadingBit : ℚ) = 2 ^ 52 := by norm_num [leadingBit]

private theorem Near.below_top {x : Binary64} {r : ℚ} (near : x.Near r) : r < 2 ^ (x.scale + 53) := by
  have u_pos := two_zpow_pos (x.scale - 2)
  have top := zpow_split (x.scale - 2) 55
  rw [show x.scale - 2 + (55 : Nat) = x.scale + 53 by push_cast; ring] at top
  have ends : (x.highEnd : ℚ) ≤ 8 * leadingBit - 2 := by
    have small := x.significand_lt
    have : x.highEnd + 2 ≤ 8 * leadingBit := by unfold highEnd; omega
    have cast : ((x.highEnd + 2 : Nat) : ℚ) ≤ (8 * leadingBit : Nat) := Nat.cast_le.mpr this
    push_cast at cast
    linarith
  rw [leadingBit_cast] at ends
  have scaledEnds := mul_le_mul_of_nonneg_right ends u_pos.le
  rw [top]
  linarith [near.high]

/-- Only below a power of two does the interval reach into the next lower binade. -/
theorem Near.power {x : Binary64} {r : ℚ} (near : x.Near r) (normal : -1074 < x.scale)
    (beneath : r < 2 ^ (x.scale + 52)) : x.significand = leadingBit := by
  by_contra other
  have u_pos := two_zpow_pos (x.scale - 2)
  have bottom := zpow_split (x.scale - 2) 54
  rw [show x.scale - 2 + (54 : Nat) = x.scale + 52 by push_cast; ring] at bottom
  have more : 4 * leadingBit ≤ x.lowEnd := by
    have := x.significand_ge normal
    rw [lowEnd_eq,if_neg (by simp [other])]
    omega
  have cast : ((4 * leadingBit : Nat) : ℚ) ≤ x.lowEnd := Nat.cast_le.mpr more
  push_cast at cast
  rw [leadingBit_cast] at cast
  have scaledLow := mul_le_mul_of_nonneg_right cast u_pos.le
  rw [bottom] at beneath
  linarith [near.low]

section
variable (x : Binary64) (finite : x.isFinite = true) (num den : Nat) (some : 0 < num)
  (positive : 0 < den) (near : x.Near (num / den))
include finite some positive near

private theorem ofRatio_within
    (within : x.scale = -1074 ∨ (2 : ℚ) ^ (x.scale + 52) ≤ num / den) :
    ofRatio x.negative num den = x := by
  have least : (4 * x.significand - 2 : ℚ) ≤ x.lowEnd := by
    have : 4 * x.significand ≤ x.lowEnd + 2 := by rw [lowEnd_eq]; split <;> omega
    have cast : ((4 * x.significand : Nat) : ℚ) ≤ (x.lowEnd + 2 : Nat) := Nat.cast_le.mpr this
    push_cast at cast
    linarith
  have scaledLeast := mul_le_mul_of_nonneg_right least (two_zpow_pos (x.scale - 2)).le
  have greatest : (x.highEnd : ℚ) = 4 * x.significand + 2 := by simp [highEnd]
  have exponent := exponentOf_eq num den x.scale some positive x.scale_ge near.below_top within
  obtain ⟨low,high,strict⟩ := near
  rw [greatest] at high strict
  have rounded := roundEven_scaled num den x.significand x.scale positive (scaledLeast.trans low)
    high fun odd => ⟨scaledLeast.trans_lt (strict odd).1,(strict odd).2⟩
  rw [ofRatio_eq _ _ _ _ _ some positive exponent rounded,ofSignificand_self x finite]

private theorem ofRatio_beneath (normal : -1074 < x.scale)
    (beneath : (num / den : ℚ) < 2 ^ (x.scale + 52)) : ofRatio x.negative num den = x := by
  have power := near.power normal beneath
  have low := near.low
  have lowest : (x.lowEnd : ℚ) = 2 ^ 54 - 1 := by
    rw [lowEnd_eq,if_pos ⟨power,normal⟩,power]
    norm_num [leadingBit]
  have halved := zpow_split (x.scale - 1 - 2) 1
  have middle := zpow_split (x.scale - 2) 53
  have bottom := zpow_split (x.scale - 2) 54
  rw [show x.scale - 1 - 2 + (1 : Nat) = x.scale - 2 by push_cast; ring] at halved
  rw [show x.scale - 2 + (53 : Nat) = x.scale - 1 + 52 by push_cast; ring] at middle
  rw [show x.scale - 2 + (54 : Nat) = x.scale + 52 by push_cast; ring] at bottom
  have u_pos := two_zpow_pos (x.scale - 2)
  rw [lowest] at low
  have exponent := exponentOf_eq num den (x.scale - 1) some positive (by omega)
    (by rw [show x.scale - 1 + 53 = x.scale + 52 by ring]; exact beneath)
    (.inr (by rw [middle]; linarith))
  have rounded := roundEven_scaled num den (2 * leadingBit) (x.scale - 1) positive
    (by push_cast; rw [leadingBit_cast]; linarith)
    (by push_cast; rw [leadingBit_cast]; rw [bottom] at beneath; linarith)
    (by intro odd; omega)
  rw [ofRatio_eq _ _ _ _ _ some positive exponent rounded,ofSignificand_carry,
    show x.scale - 1 + 1 = x.scale by ring,← power,ofSignificand_self x finite]

/-- Every quotient in the interval around a double other than zero rounds to that double. -/
theorem ofRatio_of_near : ofRatio x.negative num den = x := by
  by_cases within : x.scale = -1074 ∨ (2 : ℚ) ^ (x.scale + 52) ≤ num / den
  · exact ofRatio_within x finite num den some positive near within
  · simp only [not_or,not_le] at within
    have normal : -1074 < x.scale := lt_of_le_of_ne x.scale_ge (Ne.symm within.1)
    exact ofRatio_beneath x finite num den some positive near normal within.2

end

end Proctor.Binary64

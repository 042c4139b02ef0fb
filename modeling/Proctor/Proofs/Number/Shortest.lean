import Proctor.Proofs.Number.Digits
import Proctor.Proofs.Number.Rounding
import Mathlib

/-! The shortest digits of a double lie in the interval around it, since a grid of seventeen digits is
fine enough to have a point there. -/
namespace Proctor

def DecimalDigits.value (d : DecimalDigits) : ℚ :=
  ofDigits 10 d.digits * 10 ^ (d.point - d.digits.length)

namespace Binary64

/-! ### Multiples in an interval -/

section
variable (tieUp closed : Bool) (low mid high grid : Nat)

private theorem nearestMultiple?_inside (n : Nat)
    (found : nearestMultiple? tieUp closed low mid high grid = some n) :
    0 < n ∧ isBetween closed low high (n * grid) = true := by
  have inside := List.find?_some found
  simp only [ne_eq,decide_not,Bool.and_eq_true,Bool.not_eq_eq_eq_not,Bool.not_true,
    decide_eq_false_iff_not] at inside
  exact ⟨Nat.pos_of_ne_zero inside.1,inside.2⟩

private theorem isBetween_of_lt (n : Nat) (below : low < n) (above : n < high) :
    isBetween closed low high n = true := by
  cases closed <;> simp [isBetween] <;> omega

private theorem multiplesAround_near (positive : 0 < grid) :
    ∃ first, first ∈ multiplesAround tieUp mid grid ∧ mid / grid ≤ first ∧
      2 * mid ≤ 2 * (first * grid) + grid ∧ 2 * (first * grid) ≤ 2 * mid + grid := by
  have split := Nat.div_add_mod mid grid
  have remainder := Nat.mod_lt mid positive
  rw [Nat.mul_comm] at split
  unfold multiplesAround
  generalize mid / grid = q at *
  generalize mid % grid = r at *
  by_cases upper : grid ≤ 2 * r
  · refine ⟨q + 1,?_,by omega,?_,?_⟩
    · dsimp only
      split <;> simp
    · rw [Nat.add_mul]
      omega
    · rw [Nat.add_mul]
      omega
  · refine ⟨q,?_,le_rfl,by omega,by omega⟩
    dsimp only
    split <;> simp

/-- Where the interval holds everything within half a step of its middle, it holds a multiple. -/
theorem nearestMultiple?_isSome (positive : 0 < grid) (reached : grid ≤ mid)
    (below : 2 * low + grid < 2 * mid) (above : 2 * mid + grid < 2 * high) :
    ∃ n, nearestMultiple? tieUp closed low mid high grid = some n := by
  obtain ⟨first,member,least,lower,upper⟩ := multiplesAround_near tieUp mid grid positive
  have one : 1 ≤ mid / grid := (Nat.one_le_div_iff positive).mpr reached
  have inside := isBetween_of_lt closed low high (first * grid) (by omega) (by omega)
  rw [← Option.isSome_iff_exists]
  refine List.find?_isSome.mpr ⟨first,member,?_⟩
  simp only [inside,Bool.and_true,decide_eq_true_eq]
  omega

end

/-! ### Powers of ten -/

theorem ten_zpow_pos (e : Int) : (0 : ℚ) < 10 ^ e := zpow_pos (by norm_num) e

theorem ten_zpow_add (e f : Int) : (10 : ℚ) ^ (e + f) = 10 ^ e * 10 ^ f := zpow_add₀ (by norm_num) e f

theorem ten_zpow_nonneg (e : Int) (nonnegative : 0 ≤ e) : (10 : ℚ) ^ e = (10 ^ e.toNat : Nat) := by
  rw [Nat.cast_pow,← zpow_natCast,Int.toNat_of_nonneg nonnegative]
  rfl

theorem ten_zpow_neg (e : Int) (negative : e < 0) : (10 : ℚ) ^ e = ((10 ^ (-e).toNat : Nat) : ℚ)⁻¹ := by
  rw [← ten_zpow_nonneg (-e) (by omega),zpow_neg,inv_inv]

theorem digits_bounds (n : Nat) (positive : 0 < n) :
    (10 : ℚ) ^ ((digitsOf 10 n).length - 1 : Int) ≤ n ∧
      (n : ℚ) < 10 ^ ((digitsOf 10 n).length : Int) := by
  have pos : 0 < (digitsOf 10 n).length := Nat.length_toDigits_pos
  constructor
  · rw [ten_zpow_nonneg _ (by omega),Nat.cast_le]
    convert pow_digits_le n positive using 2
    omega
  · exact_mod_cast lt_pow_digits n

private theorem pointOf_bounds (num den : Nat) (some : 0 < num) (positive : 0 < den) :
    (10 : ℚ) ^ (pointOf num den - 1) ≤ num / den ∧ (num / den : ℚ) < 10 ^ pointOf num den := by
  obtain ⟨numLow,numHigh⟩ := digits_bounds num some
  obtain ⟨denLow,denHigh⟩ := digits_bounds den positive
  have den_pos : (0 : ℚ) < den := by exact_mod_cast positive
  set k : Int := ((digitsOf 10 num).length : Int) - ((digitsOf 10 den).length : Int) with k_eq
  have reached : (if k < 0 then den ≤ num * Nat.pow 10 (-k).toNat
      else den * Nat.pow 10 k.toNat ≤ num) ↔ (10 : ℚ) ^ k ≤ num / den := by
    rw [le_div_iff₀ den_pos]
    split
    · next negative =>
      rw [ten_zpow_neg k negative,inv_mul_le_iff₀ (by positivity),← Nat.cast_mul,Nat.cast_le,
        Nat.mul_comm]
      rfl
    · next nonnegative =>
      rw [ten_zpow_nonneg k (by omega),← Nat.cast_mul,Nat.cast_le,Nat.mul_comm]
      rfl
  have lower : (10 : ℚ) ^ (k - 1) ≤ num / den := by
    rw [le_div_iff₀ den_pos]
    calc (10 : ℚ) ^ (k - 1) * den ≤ 10 ^ (k - 1) * 10 ^ ((digitsOf 10 den).length : Int) :=
          mul_le_mul_of_nonneg_left denHigh.le (ten_zpow_pos _).le
      _ = 10 ^ ((digitsOf 10 num).length - 1 : Int) := by
          rw [← ten_zpow_add]
          congr 1
          omega
      _ ≤ num := numLow
  have upper : (num / den : ℚ) < 10 ^ (k + 1) := by
    rw [div_lt_iff₀ den_pos]
    calc (num : ℚ) < 10 ^ ((digitsOf 10 num).length : Int) := numHigh
      _ = 10 ^ (k + 1) * 10 ^ ((digitsOf 10 den).length - 1 : Int) := by
          rw [← ten_zpow_add]
          congr 1
          omega
      _ ≤ 10 ^ (k + 1) * den := mul_le_mul_of_nonneg_left denLow (ten_zpow_pos _).le
  unfold pointOf
  simp only [← k_eq]
  by_cases above : (10 : ℚ) ^ k ≤ num / den
  · rw [if_pos (reached.mpr above),add_sub_cancel_right]
    exact ⟨above,upper⟩
  · rw [if_neg (mt reached.mp above)]
    exact ⟨lower,not_le.mp above⟩

/-! ### Points on the grid -/

/-- Every grid is searched as multiples of a natural number, in some unit. -/
theorem onGrid?_eq (tieUp : Bool) (x : Binary64) (unit : Int) : ∃ factor grid : Nat,
    0 < factor ∧ 0 < grid ∧ (grid : ℚ) * 2 ^ (x.scale - 2) = 10 ^ unit * factor ∧
      x.onGrid? tieUp unit = nearestMultiple? tieUp (x.significand % 2 == 0) (x.lowEnd * factor)
        (4 * x.significand * factor) (x.highEnd * factor) grid := by
  have around : ∃ factor den : Nat, 0 < factor ∧ 0 < den ∧
      (den : ℚ) * 2 ^ (x.scale - 2) = factor ∧ x.neighbourhood =
        (x.lowEnd * factor, 4 * x.significand * factor, x.highEnd * factor, den) := by
    have cases_eq : x.neighbourhood = if x.scale - 2 < 0
        then (x.lowEnd, 4 * x.significand, x.highEnd, Nat.pow 2 (-(x.scale - 2)).toNat)
        else (x.lowEnd * Nat.pow 2 (x.scale - 2).toNat,
          4 * x.significand * Nat.pow 2 (x.scale - 2).toNat,
          x.highEnd * Nat.pow 2 (x.scale - 2).toNat, 1) := rfl
    rw [cases_eq]
    split
    · next negative =>
      refine ⟨1,Nat.pow 2 (-(x.scale - 2)).toNat,one_pos,Nat.pow_pos (by decide),?_,by
        simp only [Nat.mul_one]⟩
      rw [Nat.pow_eq,Nat.cast_pow,← zpow_natCast,Int.toNat_of_nonneg (by omega),Nat.cast_ofNat,
        ← zpow_add₀ (by norm_num)]
      simp
    · next nonnegative =>
      refine ⟨Nat.pow 2 (x.scale - 2).toNat,1,Nat.pow_pos (by decide),one_pos,?_,rfl⟩
      rw [Nat.pow_eq,Nat.cast_pow,← zpow_natCast,Int.toNat_of_nonneg (by omega)]
      simp
  obtain ⟨factor,den,factor_pos,den_pos,scaled,same⟩ := around
  unfold onGrid?
  simp only [same]
  split
  · next negative =>
    have lift_pos : 0 < Nat.pow 10 (-unit).toNat := Nat.pow_pos (by decide)
    refine ⟨factor * Nat.pow 10 (-unit).toNat,den,Nat.mul_pos factor_pos lift_pos,den_pos,?_,by
      simp only [Nat.mul_assoc]⟩
    rw [scaled,ten_zpow_neg unit negative,Nat.cast_mul,Nat.pow_eq]
    field_simp
  · next nonnegative =>
    refine ⟨factor,Nat.pow 10 unit.toNat * den,factor_pos,
      Nat.mul_pos (Nat.pow_pos (by decide)) den_pos,?_,rfl⟩
    rw [ten_zpow_nonneg unit (by omega),Nat.cast_mul,mul_assoc,scaled,Nat.pow_eq]

private theorem compare_scaled (a b factor : Nat) (u v : ℚ) (factor_pos : 0 < factor) (u_pos : 0 < u)
    (same : v * factor = b * u) :
    (a * factor ≤ b ↔ a * u ≤ v) ∧ (b ≤ a * factor ↔ v ≤ a * u) := by
  have f_pos : (0 : ℚ) < factor := by exact_mod_cast factor_pos
  have left : (a * u) * factor = (a * factor : Nat) * u := by push_cast; ring
  constructor
  · rw [← mul_le_mul_iff_left₀ f_pos,left,same,mul_le_mul_iff_left₀ u_pos,Nat.cast_le]
  · rw [← mul_le_mul_iff_left₀ f_pos,left,same,mul_le_mul_iff_left₀ u_pos,Nat.cast_le]

private theorem near_of_onGrid? (tieUp : Bool) (x : Binary64) (unit : Int) (n : Nat)
    (found : x.onGrid? tieUp unit = some n) : 0 < n ∧ x.Near (n * 10 ^ unit) := by
  obtain ⟨factor,grid,factor_pos,_,scaled,same⟩ := onGrid?_eq tieUp x unit
  rw [same] at found
  obtain ⟨positive,inside⟩ := nearestMultiple?_inside _ _ _ _ _ _ n found
  have u_pos := two_zpow_pos (x.scale - 2)
  have point : (n * 10 ^ unit : ℚ) * factor = (n * grid : Nat) * 2 ^ (x.scale - 2) := by
    rw [Nat.cast_mul,mul_assoc,← scaled,mul_assoc]
  obtain ⟨lowLe,lowGe⟩ := compare_scaled x.lowEnd (n * grid) factor _ _ factor_pos u_pos point
  obtain ⟨highLe,highGe⟩ := compare_scaled x.highEnd (n * grid) factor _ _ factor_pos u_pos point
  refine ⟨positive,?_⟩
  by_cases even : x.significand % 2 = 0
  · simp only [isBetween,even,beq_self_eq_true,↓reduceIte,Bool.and_eq_true,decide_eq_true_eq] at inside
    exact ⟨lowLe.mp inside.1,highGe.mp inside.2,fun odd => absurd even (by omega)⟩
  · simp only [isBetween,beq_iff_eq,even,↓reduceIte,Bool.and_eq_true,decide_eq_true_eq] at inside
    have below := not_le.mp (mt lowGe.mpr (not_le.mpr inside.1))
    have above := not_le.mp (mt highLe.mpr (not_le.mpr inside.2))
    exact ⟨below.le,above.le,fun _ => ⟨below,above⟩⟩

/-- On a grid that is finer than a double by sixteen digits some point rounds to it. -/
theorem onGrid?_isSome (tieUp : Bool) (x : Binary64) (unit : Int)
    (fine : (10 : ℚ) ^ unit * 10 ^ 16 ≤ x.significand * 2 ^ x.scale) :
    ∃ n, x.onGrid? tieUp unit = some n := by
  obtain ⟨factor,grid,factor_pos,grid_pos,scaled,same⟩ := onGrid?_eq tieUp x unit
  rw [same]
  have f_pos : (0 : ℚ) < factor := by exact_mod_cast factor_pos
  have u_pos := two_zpow_pos (x.scale - 2)
  have g_pos := ten_zpow_pos unit
  have unit_eq := zpow_split (x.scale - 2) 2
  rw [show x.scale - 2 + (2 : Nat) = x.scale by push_cast; ring] at unit_eq
  rw [unit_eq] at fine
  generalize (2 : ℚ) ^ (x.scale - 2) = u at *
  generalize (10 : ℚ) ^ unit = g at *
  have some : 0 < x.significand := by
    by_contra none
    rw [Nat.eq_zero_of_not_pos none] at fine
    norm_num at fine
    linarith
  have small : (x.significand : ℚ) ≤ 2 ^ 53 := by
    have := x.significand_lt.le
    unfold leadingBit at this
    exact_mod_cast this
  -- A step of the grid is less than the distance to the next double.
  have step : g < 4 * u := by
    have bounded := mul_le_mul_of_nonneg_right small u_pos.le
    linarith
  have low : 2 * (x.lowEnd : ℚ) * u + g < 8 * x.significand * u := by
    rw [lowEnd_eq]
    split
    · next power =>
      rw [power.1] at fine ⊢
      norm_num [leadingBit] at fine ⊢
      linarith
    · rw [Nat.cast_sub (by omega)]
      push_cast
      linarith
  have reached : grid ≤ 4 * x.significand * factor := by
    have least : g ≤ 4 * x.significand * u := by linarith
    have scaledLeast := mul_le_mul_of_nonneg_right least f_pos.le
    rw [← Nat.cast_le (α := ℚ),← mul_le_mul_iff_left₀ u_pos,scaled]
    push_cast
    linarith
  have below : 2 * (x.lowEnd * factor) + grid < 2 * (4 * x.significand * factor) := by
    have scaledLow := mul_lt_mul_of_pos_right low f_pos
    rw [← Nat.cast_lt (α := ℚ),← mul_lt_mul_iff_left₀ u_pos]
    push_cast
    rw [add_mul,scaled]
    linarith
  have above : 2 * (4 * x.significand * factor) + grid < 2 * (x.highEnd * factor) := by
    have scaledStep := mul_lt_mul_of_pos_right step f_pos
    rw [← Nat.cast_lt (α := ℚ),← mul_lt_mul_iff_left₀ u_pos,highEnd]
    push_cast
    rw [add_mul,scaled]
    linarith
  exact nearestMultiple?_isSome tieUp _ _ _ _ _ grid_pos reached below above

/-! ### The shortest digits -/

private theorem ratio_value (x : Binary64) :
    0 < x.ratio.2 ∧ (x.ratio.1 / x.ratio.2 : ℚ) = x.significand * 2 ^ x.scale := by
  unfold ratio
  split
  · next negative =>
    refine ⟨Nat.pow_pos (by decide),?_⟩
    rw [Nat.pow_eq,Nat.cast_pow,← zpow_natCast,Int.toNat_of_nonneg (by omega),zpow_neg,
      Nat.cast_ofNat,div_inv_eq_mul]
  · next nonnegative =>
    refine ⟨one_pos,?_⟩
    rw [Nat.pow_eq,Nat.cast_mul,Nat.cast_pow,← zpow_natCast,Int.toNat_of_nonneg (by omega),
      Nat.cast_one,div_one,Nat.cast_ofNat]

/-- The search ends with a point of some grid if the last grid has one. -/
theorem shortestFrom_found (tieUp : Bool) (x : Binary64) (point : Int) (tries n : Nat)
    (last : ∃ value, x.onGrid? tieUp (point - (n + tries : Nat)) = some value) :
    ∃ value unit, x.onGrid? tieUp unit = some value ∧
      x.shortestFrom tieUp point (tries + 1) n =
        ⟨stripZeros (digitsOf 10 value), unit + (digitsOf 10 value).length⟩ := by
  induction tries generalizing n with
  | zero =>
    obtain ⟨value,found⟩ := last
    rw [Nat.add_zero] at found
    exact ⟨value,_,found,by simp only [shortestFrom,found]⟩
  | succ tries ih =>
    cases found : x.onGrid? tieUp (point - n) with
    | some value => exact ⟨value,_,found,by simp only [shortestFrom,found]⟩
    | none =>
      obtain ⟨value,unit,ongrid,same⟩ := ih (n + 1)
        (by rwa [show n + 1 + tries = n + (tries + 1) by omega])
      refine ⟨value,unit,ongrid,?_⟩
      rw [shortestFrom,found]
      exact same

/-- The shortest digits of a double other than zero spell a number that rounds to it. -/
theorem shortest_near (tieUp : Bool) (x : Binary64) (some : 0 < x.significand) :
    x.Near (x.shortest tieUp).value ∧ (x.shortest tieUp).digits ≠ [] ∧
      ∀ c ∈ (x.shortest tieUp).digits, isDecimalDigit c = true := by
  obtain ⟨den_pos,ratio_eq⟩ := x.ratio_value
  have num_pos : 0 < x.ratio.1 := by
    have positive : (0 : ℚ) < x.ratio.1 / x.ratio.2 := by
      rw [ratio_eq]
      exact mul_pos (by exact_mod_cast some) (two_zpow_pos _)
    by_contra none
    rw [Nat.eq_zero_of_not_pos none] at positive
    simp at positive
  have reached := (pointOf_bounds _ _ num_pos den_pos).1
  rw [ratio_eq] at reached
  obtain ⟨value,unit,found,same⟩ := shortestFrom_found tieUp x (pointOf x.ratio.1 x.ratio.2) 16 1
    (onGrid?_isSome tieUp x _ (by
      refine le_trans (le_of_eq ?_) reached
      rw [← zpow_natCast,← ten_zpow_add]
      congr 1
      push_cast
      ring))
  obtain ⟨positive,near⟩ := near_of_onGrid? tieUp x unit value found
  obtain ⟨count,stripped⟩ := stripZeros_append (digitsOf 10 value)
  have spelled := ofDigits_digitsOf 10 value (by decide) (by decide)
  have all := digitsOf_all value
  have kept := stripZeros_ne_nil (digitsOf 10 value) (by rw [spelled]; exact positive)
  unfold shortest
  rw [same]
  generalize stripZeros (digitsOf 10 value) = digits at *
  refine ⟨?_,kept,fun c member => all c (stripped ▸ List.mem_append_left _ member)⟩
  have spelledKept := ofDigits_append_zeros 10 count digits
  have length := congrArg List.length stripped
  rw [← stripped,spelled] at spelledKept
  rw [List.length_append,List.length_replicate] at length
  convert near using 1
  simp only [DecimalDigits.value,length]
  rw [spelledKept,Nat.cast_mul,Nat.cast_pow,← zpow_natCast,Nat.cast_ofNat,mul_assoc,← ten_zpow_add]
  congr 2
  push_cast
  ring

end Binary64
end Proctor

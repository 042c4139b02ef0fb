import Proctor.Number.Shortest
import Mathlib

/-! Digits spell numbers: what appending does to the number, the digits of a number spell it again,
and how many of them there are. -/
namespace Proctor

private theorem digitValue_digitChar (digit : Nat) (small : digit < 16) :
    digitValue? digit.digitChar = some digit := by
  revert digit
  decide

/-! ### Appended digits -/

theorem ofDigits_snoc (base : Nat) (digits : List Char) (c : Char) :
    ofDigits base (digits ++ [c]) = ofDigits base digits * base + (digitValue? c).getD 0 := by
  simp only [ofDigits,List.foldl_append,List.foldl_cons,List.foldl_nil]

private theorem ofDigits_append (base : Nat) (front back : List Char) :
    ofDigits base (front ++ back) =
      ofDigits base front * base ^ back.length + ofDigits base back := by
  induction back using List.reverseRecOn with
  | nil => simp [ofDigits]
  | append_singleton back c ih =>
    rw [← List.append_assoc,ofDigits_snoc,ih,ofDigits_snoc,List.length_append,List.length_singleton]
    ring

@[simp] theorem ofDigits_zeros (base count : Nat) :
    ofDigits base (List.replicate count '0') = 0 := by
  induction count with
  | zero => rfl
  | succ count ih =>
    rw [List.replicate_succ',ofDigits_snoc,ih]
    simp [digitValue?]

theorem ofDigits_zeros_append (base count : Nat) (digits : List Char) :
    ofDigits base (List.replicate count '0' ++ digits) = ofDigits base digits := by
  simp [ofDigits_append]

theorem ofDigits_append_zeros (base count : Nat) (digits : List Char) :
    ofDigits base (digits ++ List.replicate count '0') = ofDigits base digits * base ^ count := by
  simp [ofDigits_append]

/-! ### The digits of a number -/

theorem ofDigits_digitsOf (base n : Nat) (large : 1 < base) (known : base ≤ 16) :
    ofDigits base (digitsOf base n) = n := by
  unfold digitsOf
  induction n using Nat.base_induction base large with
  | single digit small =>
    rw [Nat.toDigits_of_lt_base small]
    simp [ofDigits,digitValue_digitChar digit (by omega)]
  | digit front digit small positive ih =>
    rw [← Nat.toDigits_append_toDigits large positive small,Nat.toDigits_of_lt_base small,
      ofDigits_snoc,ih,digitValue_digitChar digit (by omega),Option.getD_some,Nat.mul_comm]

theorem digitsOf_ne_nil (base n : Nat) : digitsOf base n ≠ [] := Nat.toDigits_ne_nil

theorem digitsOf_all (n : Nat) : ∀ c ∈ digitsOf 10 n, isDecimalDigit c = true :=
  fun _ member => Nat.isDigit_of_mem_toDigits (by decide) (by decide) member

theorem digitsOf_head (n : Nat) (zero : (digitsOf 10 n).head? = some '0') : n = 0 := by
  unfold digitsOf at zero
  induction n using Nat.base_induction 10 (by decide) with
  | single digit small =>
    rw [Nat.toDigits_of_lt_base small,List.head?_cons,Option.some.injEq] at zero
    revert zero digit
    decide
  | digit front digit small positive ih =>
    rw [← Nat.toDigits_append_toDigits (by decide) positive small,
      List.head?_append_of_ne_nil _ Nat.toDigits_ne_nil] at zero
    exact absurd (ih zero) (Nat.pos_iff_ne_zero.mp positive)

private theorem digitsOf_hex (n : Nat) : ∀ c ∈ digitsOf 16 n, (digitValue? c).isSome := by
  unfold digitsOf
  induction n using Nat.base_induction 16 (by decide) with
  | single digit small =>
    rw [Nat.toDigits_of_lt_base small]
    simp [digitValue_digitChar digit small]
  | digit front digit small positive ih =>
    rw [← Nat.toDigits_append_toDigits (by decide) positive small,Nat.toDigits_of_lt_base small]
    intro c member
    rcases List.mem_append.mp member with early | last
    · exact ih c early
    · rw [List.mem_singleton.mp last,digitValue_digitChar digit small]
      rfl

theorem lt_pow_digits (n : Nat) : n < 10 ^ (digitsOf 10 n).length :=
  (Nat.length_toDigits_le_iff (by decide) Nat.length_toDigits_pos).mp le_rfl

theorem pow_digits_le (n : Nat) (positive : 0 < n) : 10 ^ ((digitsOf 10 n).length - 1) ≤ n := by
  by_contra less
  by_cases one : (digitsOf 10 n).length = 1
  · simp only [one,Nat.sub_self,pow_zero] at less
    omega
  · have pos : 0 < (digitsOf 10 n).length := Nat.length_toDigits_pos
    have short : (digitsOf 10 n).length ≤ (digitsOf 10 n).length - 1 :=
      (Nat.length_toDigits_le_iff (by decide) (by omega)).mpr (by omega)
    omega

/-! ### Zeros at the end -/

theorem stripZeros_append (digits : List Char) :
    ∃ count, digits = Binary64.stripZeros digits ++ List.replicate count '0' := by
  refine ⟨(digits.reverse.takeWhile (· == '0')).length,?_⟩
  have zeros : digits.reverse.takeWhile (· == '0') =
      List.replicate (digits.reverse.takeWhile (· == '0')).length '0' := by
    apply List.eq_replicate_of_mem
    intro c member
    simpa using List.mem_takeWhile_imp member
  have whole := List.takeWhile_append_dropWhile (p := (· == '0')) (l := digits.reverse)
  have flipped := congrArg List.reverse whole
  rw [List.reverse_append,List.reverse_reverse,zeros,List.reverse_replicate] at flipped
  simpa only [Binary64.stripZeros] using flipped.symm

theorem stripZeros_ne_nil (digits : List Char) (positive : 0 < ofDigits 10 digits) :
    Binary64.stripZeros digits ≠ [] := by
  intro empty
  obtain ⟨count,same⟩ := stripZeros_append digits
  rw [empty,List.nil_append] at same
  rw [same,ofDigits_zeros] at positive
  exact absurd positive (lt_irrefl 0)

/-! ### Hexadecimal digits -/

/-- So many hexadecimal digits in either case, and the number they spell. -/
structure Hex (count : Nat) (digits : List Char) (n : Nat) : Prop where
  length : digits.length = count
  hex : ∀ c ∈ digits, (digitValue? c).isSome
  value : ofDigits 16 digits = n

instance (count : Nat) (digits : List Char) (n : Nat) : Decidable (Hex count digits n) :=
  decidable_of_iff (digits.length = count ∧ digits.all (fun c => (digitValue? c).isSome) = true ∧
      ofDigits 16 digits = n) (by
    rw [List.all_eq_true]
    exact ⟨fun ⟨length,hex,value⟩ => ⟨length,hex,value⟩,fun hex => ⟨hex.length,hex.hex,hex.value⟩⟩)

theorem hex_padded (count n : Nat) (some : 0 < count) (small : n < 16 ^ count) :
    Hex count (padded count (digitsOf 16 n)) n := by
  have short : (digitsOf 16 n).length ≤ count :=
    (Nat.length_toDigits_le_iff (by decide) some).mpr small
  refine ⟨?_,?_,?_⟩
  · simp only [padded,List.length_append,List.length_replicate]
    omega
  · intro c member
    rcases List.mem_append.mp member with zero | digit
    · rw [List.eq_of_mem_replicate zero]
      rfl
    · exact digitsOf_hex n c digit
  · rw [padded,ofDigits_zeros_append,ofDigits_digitsOf 16 n (by decide) (by decide)]

theorem digitValue_lt (c : Char) : (digitValue? c).getD 0 < 16 := by
  have low {first last : Char} (bounds : first ≤ c ∧ c ≤ last) : c.toNat ≤ last.toNat := bounds.2
  unfold digitValue?
  split
  · next bounds =>
    have := low bounds
    simp only [Char.reduceToNat,Option.getD_some] at *
    omega
  split
  · next bounds =>
    have := low bounds
    simp only [Char.reduceToNat,Option.getD_some] at *
    omega
  split
  · next bounds =>
    have := low bounds
    simp only [Char.reduceToNat,Option.getD_some] at *
    omega
  · decide

theorem Hex.lt {count n : Nat} {digits : List Char} (hex : Hex count digits n) : n < 16 ^ count := by
  obtain ⟨rfl,_,rfl⟩ := hex
  induction digits using List.reverseRecOn with
  | nil => decide
  | append_singleton digits c ih =>
    have digit := digitValue_lt c
    have shorter := ih (by simp_all)
    rw [ofDigits_snoc,List.length_append,List.length_singleton,Nat.pow_succ]
    omega

end Proctor

import Mathlib
import LandingGuidance.Json.Number
import LandingGuidance.Proofs.RoundingError

/-!
# Powers of ten

A whole number is multiplied by a power of ten in one step, and divided by one in two steps at most,
unless next to nothing is left of it. Each step rounds the power and the result.
-/

namespace LandingGuidance.Json

open Binary64

/-! ### Powers of ten -/

theorem cast_scaled_le {a b c d k m : Nat} (le : c * Nat.pow a k ≤ d * Nat.pow b m) :
    (c * (a : ℚ) ^ (k : ℤ)) ≤ d * (b : ℚ) ^ (m : ℤ) := by
  exact_mod_cast le

theorem largest_lt_power : largest < 10 ^ (309 : ℤ) := by
  have powers : 1 * Nat.pow 2 1024 ≤ 1 * Nat.pow 10 309 := by decide +kernel
  have cast := cast_scaled_le powers
  rw [Nat.cast_one, one_mul, one_mul] at cast
  exact largest_lt.trans_le cast

theorem le_largest {c k : Nat} (le : c * Nat.pow 10 k ≤ (2 ^ 53 - 1) * Nat.pow 2 971) :
    (c * 10 ^ (k : ℤ) : ℚ) ≤ largest := by
  have digits : ((2 ^ 53 - 1 : ℕ) : ℚ) = 2 ^ 53 - 1 := by norm_num
  have cast := cast_scaled_le le
  rw [digits] at cast
  exact cast

theorem places_le_largestPower {places : Nat} (le : (10 : ℚ) ^ places ≤ largest) :
    places ≤ largestPower := by
  rw [← zpow_natCast] at le
  have := (zpow_lt_zpow_iff_right₀ (by norm_num : (1 : ℚ) < 10)).mp (le.trans_lt largest_lt_power)
  rw [largestPower]
  omega

theorem hasValue_powerOfTen {places : Nat} (small : places ≤ largestPower) :
    ∃ t, HasValue (powerOfTen places) t ∧ |t - 10 ^ places| ≤ 10 ^ places / 2 ^ 53 := by
  have bounded : ((10 ^ places : ℕ) : ℚ) ≤ largest := by
    have top : ((1 : ℕ) * 10 ^ ((308 : ℕ) : ℤ) : ℚ) ≤ largest := le_largest (by decide +kernel)
    rw [Nat.cast_one, one_mul, zpow_natCast] at top
    refine le_trans ?_ top
    push_cast
    exact pow_le_pow_right₀ (by norm_num) small
  have value := hasValue_whole (10 ^ places) bounded
  push_cast at value
  exact value

/-- Powers of ten that are not too large are not rounded. -/
theorem hasValue_powerOfTen_exact {places : Nat} (small : places ≤ 22) :
    HasValue (powerOfTen places) (10 ^ places) := by
  have short : 5 ^ places < 2 ^ 53 :=
    (Nat.pow_le_pow_right (by norm_num) small).trans_lt (by norm_num)
  have value := hasValue_of_short short (by omega : places ≤ 971)
  rw [← mul_pow] at value
  exact_mod_cast value

/-! ### Errors of a step -/

/-- A product of two numbers that were rounded. -/
theorem abs_product_sub_le {q t k T : ℚ} (hk : 0 ≤ k) (hT : 0 ≤ T) (near : |q - k| ≤ k / 2 ^ 53)
    (nearT : |t - T| ≤ T / 2 ^ 53) : |q * t - k * T| ≤ k * T * (9 / 4 / 2 ^ 53) := by
  have size : |t| ≤ T * (9 / 8) := by
    obtain ⟨low, high⟩ := abs_le.mp nearT
    exact abs_le.mpr ⟨by linarith, by linarith⟩
  calc |q * t - k * T| = |(q - k) * t + k * (t - T)| := by ring_nf
    _ ≤ |(q - k) * t| + |k * (t - T)| := abs_add_le _ _
    _ = |q - k| * |t| + k * |t - T| := by rw [abs_mul, abs_mul, abs_of_nonneg hk]
    _ ≤ k / 2 ^ 53 * (T * (9 / 8)) + k * (T / 2 ^ 53) := by gcongr
    _ ≤ k * T * (9 / 4 / 2 ^ 53) := by nlinarith [mul_nonneg hk hT]

/-- A quotient is rounded after the power of ten that it is divided by was. -/
theorem abs_quotient_sub_le {q t T r : ℚ} (hq : 0 ≤ q) (hT : 1 ≤ T)
    (near : |t - T| ≤ T / 2 ^ 53) (rounded : |r - q / t| ≤ roundingError (q / t)) :
    |r - q / T| ≤ q / T * (9 / 4 / 2 ^ 53) + smallest / 2 := by
  have large : 8 / 9 * T ≤ t := by
    have := (abs_le.mp near).1
    linarith
  have pos : 0 < t := by linarith
  have posT : 0 < T := by linarith
  have le : q / t ≤ q / T * (9 / 8) := by
    rw [div_mul_eq_mul_div, div_le_div_iff₀ pos posT]
    nlinarith
  have moved : |q / t - q / T| ≤ q / T * (9 / 8) / 2 ^ 53 := by
    calc |q / t - q / T| = q / t * (|t - T| / T) := by
          rw [div_sub_div _ _ pos.ne' posT.ne', abs_div, abs_of_pos (mul_pos pos posT),
            mul_comm t q, ← mul_sub, abs_mul, abs_of_nonneg hq, abs_sub_comm]
          field_simp
      _ ≤ q / t * (1 / 2 ^ 53) := by
          have part : |t - T| / T ≤ 1 / 2 ^ 53 := by
            rw [div_le_iff₀ posT]
            linarith
          exact mul_le_mul_of_nonneg_left part (by positivity)
      _ ≤ q / T * (9 / 8) * (1 / 2 ^ 53) := by gcongr
      _ = q / T * (9 / 8) / 2 ^ 53 := by ring
  have rounding := roundingError_le (div_nonneg hq pos.le)
  calc |r - q / T| ≤ |r - q / t| + |q / t - q / T| := abs_sub_le _ _ _
    _ ≤ q / T * (9 / 4 / 2 ^ 53) + smallest / 2 := by linarith

/-- The error of a number that is divided is divided with it, and the step adds to it. -/
theorem abs_scaled_sub_le {q r T z δ η : ℚ} (hr : 0 ≤ r) (hT : 2 ≤ T) (hδ : δ ≤ 1 / 8)
    (hη : 0 ≤ η) (near : |q - r| ≤ r * δ + η)
    (step : |z - q / T| ≤ q / T * (9 / 4 / 2 ^ 53) + smallest / 2) :
    |z - r / T| ≤ r / T * (δ + 3 / 2 ^ 53) + (η + smallest / 2) := by
  have posT : 0 < T := by linarith
  have nonneg : 0 ≤ r / T := by positivity
  have less : η / T ≤ η / 2 := by gcongr
  have carried : |q / T - r / T| ≤ r / T * δ + η / T := by
    rw [← sub_div, abs_div, abs_of_pos posT, ← mul_div_right_comm, ← add_div]
    gcongr
  have small : r / T * δ ≤ r / T * (1 / 8) := by gcongr
  have size : q / T ≤ r / T * (9 / 8) + η / T := by
    have := (abs_le.mp carried).2
    linarith
  calc |z - r / T| ≤ |z - q / T| + |q / T - r / T| := abs_sub_le _ _ _
    _ ≤ q / T * (9 / 4 / 2 ^ 53) + smallest / 2 + (r / T * δ + η / T) := by linarith
    _ ≤ r / T * (δ + 3 / 2 ^ 53) + (η + smallest / 2) := by linarith

/-! ### Division by a power of ten -/

section

variable {x : Float} {q : ℚ} (hx : HasValue x q) {places : Nat}

theorem scaleDown_of_zero (zero : (x == 0.0) = true) : scaleDown x places = x := by
  rw [scaleDown, if_pos zero]

include hx

theorem exists_div_powerOfTen (positive : 0 < q) (one_le : 1 ≤ places)
    (small : places ≤ largestPower) :
    ∃ z, HasValue (x / powerOfTen places) z ∧
      |z - q / 10 ^ places| ≤ q / 10 ^ places * (9 / 4 / 2 ^ 53) + smallest / 2 := by
  obtain ⟨t, power, near⟩ := hasValue_powerOfTen small
  have ten : (10 : ℚ) ≤ 10 ^ places := le_self_pow₀ (by norm_num) (by omega)
  have large : 1 ≤ t := by
    have := (abs_le.mp near).1
    linarith
  have bounded : q / t ≤ largest := (div_le_self hx.nonneg large).trans hx.le_largest
  obtain ⟨z, value, rounded⟩ := hx.div power positive (by linarith) bounded
  exact ⟨z, value, abs_quotient_sub_le hx.nonneg (by linarith) near rounded⟩

/-- A number that is divided once keeps the error it has, and three parts in `2 ^ 53` are added. -/
theorem exists_scaleDown_of_le {r δ η : ℚ} (hr : 0 ≤ r) (hδ : δ ≤ 1 / 8) (hη : 0 ≤ η)
    (near : |q - r| ≤ r * δ + η) (one_le : 1 ≤ places) (small : places ≤ largestPower) :
    ∃ z, HasValue (scaleDown x places) z ∧
      |z - r / 10 ^ places| ≤ r / 10 ^ places * (δ + 3 / 2 ^ 53) + (η + smallest / 2) := by
  have ten : (10 : ℚ) ≤ 10 ^ places := le_self_pow₀ (by norm_num) (by omega)
  by_cases zero : (x == 0.0) = true
  · obtain rfl := hx.beq_zero_iff.mp zero
    refine ⟨0, by rwa [scaleDown_of_zero zero], ?_⟩
    refine abs_scaled_sub_le (q := 0) hr (by linarith) hδ hη near ?_
    simpa using (half_pos smallest_pos).le
  · obtain ⟨z, value, step⟩ := exists_div_powerOfTen hx (hx.pos_of_ne zero) one_le small
    refine ⟨z, by rwa [scaleDown, if_neg zero, if_pos small], ?_⟩
    exact abs_scaled_sub_le hr (by linarith) hδ hη near step

/-- Where the power of ten is too large for one step, the largest one is taken first. -/
theorem exists_first_step {r δ η : ℚ} (hr : 0 ≤ r) (hδ : δ ≤ 1 / 8) (hη : 0 ≤ η)
    (near : |q - r| ≤ r * δ + η) (large : largestPower < places) :
    ∃ y p, scaleDown x places = scaleDown y (places - largestPower) ∧ HasValue y p ∧
      |p - r / 10 ^ largestPower| ≤
        r / 10 ^ largestPower * (δ + 3 / 2 ^ 53) + (η + smallest / 2) := by
  have two : (2 : ℚ) ≤ 10 ^ largestPower :=
    (le_self_pow₀ (by norm_num) (by decide)).trans' (by norm_num : (2 : ℚ) ≤ 10)
  by_cases zero : (x == 0.0) = true
  · obtain rfl := hx.beq_zero_iff.mp zero
    refine ⟨x, 0, by rw [scaleDown_of_zero zero, scaleDown_of_zero zero], hx, ?_⟩
    refine abs_scaled_sub_le (q := 0) hr two hδ hη near ?_
    simpa using (half_pos smallest_pos).le
  · obtain ⟨p, value, step⟩ := exists_div_powerOfTen hx (hx.pos_of_ne zero) (by decide) le_rfl
    refine ⟨_, p, by rw [scaleDown, if_neg zero, if_neg large.not_ge], value, ?_⟩
    exact abs_scaled_sub_le hr two hδ hη near step

end

/-- What is divided once while it is next to nothing stays so. -/
theorem exists_div_of_tiny {x : Float} {q : ℚ} (hx : HasValue x q) (positive : 0 < q)
    (tiny : q ≤ smallest) {places : Nat} (one_le : 1 ≤ places) (small : places ≤ largestPower) :
    ∃ z, HasValue (x / powerOfTen places) z ∧ z ≤ smallest := by
  obtain ⟨z, value, step⟩ := exists_div_powerOfTen hx positive one_le small
  have ten : (10 : ℚ) ≤ 10 ^ places := le_self_pow₀ (by norm_num) (by omega)
  have less : q / 10 ^ places ≤ q / 10 := by gcongr
  have := (abs_le.mp step).2
  exact ⟨z, value, by linarith⟩

theorem exists_scaleDown_of_tiny {x : Float} {q : ℚ} (hx : HasValue x q)
    (tiny : q ≤ smallest) {places : Nat} (one_le : 1 ≤ places) :
    ∃ z, HasValue (scaleDown x places) z ∧ z ≤ smallest := by
  fun_induction scaleDown x places generalizing q with
  | case1 x places zero => exact ⟨q, hx, tiny⟩
  | case2 x places nonzero small =>
    exact exists_div_of_tiny hx (hx.pos_of_ne nonzero) tiny one_le small
  | case3 x places nonzero large ih =>
    obtain ⟨z, value, tiny⟩ := exists_div_of_tiny hx (hx.pos_of_ne nonzero) tiny (by decide) le_rfl
    exact ih value tiny (by omega)

theorem powers_of_large : (2 : ℚ) ^ 124 ≤ 10 ^ largestPower ∧
    1 / 2 ^ 51 ≤ smallest * 10 ^ largestPower := by
  have powers : 1 * Nat.pow 2 1023 ≤ 1 * Nat.pow 10 308 := by decide +kernel
  have cast := cast_scaled_le powers
  rw [Nat.cast_one, one_mul, one_mul] at cast
  have cast : (2 : ℚ) ^ (1023 : ℤ) ≤ 10 ^ largestPower := cast
  constructor
  · refine le_trans ?_ cast
    exact pow_le_pow_right₀ one_le_two (by norm_num : 124 ≤ 1023)
  · calc (1 : ℚ) / 2 ^ 51 = 2 ^ leastExponent * 2 ^ (1023 : ℤ) := by
          rw [leastExponent, ← zpow_add₀ two_ne_zero]
          norm_num
      _ ≤ smallest * 10 ^ largestPower := by
          rw [smallest]
          gcongr

/-- Two of the largest powers of ten leave next to nothing of a small number. -/
theorem exists_scaleDown_of_small {x : Float} {q : ℚ} (hx : HasValue x q) (small : q ≤ 1 / 2 ^ 55)
    {places : Nat} (large : largestPower < places) :
    ∃ z, HasValue (scaleDown x places) z ∧ z ≤ smallest := by
  obtain ⟨y, p, first, value, near⟩ := exists_first_step hx hx.nonneg (by norm_num : (0 : ℚ) ≤ 1 / 8)
    le_rfl (by simp) large
  have tiny : p ≤ smallest := by
    have part : q / 10 ^ largestPower ≤ smallest / 8 := by
      rw [div_le_iff₀ (by positivity)]
      have := powers_of_large.2
      linarith
    have := (abs_le.mp near).2
    linarith [smallest_pos]
  rw [first]
  exact exists_scaleDown_of_tiny value tiny (by omega)

theorem div_powers_le {k places : Nat} (bounded : k < 2 ^ 64) (large : largestPower ≤ places) :
    (k : ℚ) / 10 ^ largestPower ≤ 1 / 2 ^ 60 ∧
      (k : ℚ) / 10 ^ largestPower / 10 ^ places ≤ smallest / 2 := by
  have size : (k : ℚ) ≤ 2 ^ 64 := by exact_mod_cast bounded.le
  have once : (k : ℚ) / 10 ^ largestPower ≤ 1 / 2 ^ 60 := by
    rw [div_le_iff₀ (by positivity)]
    linarith [powers_of_large.1]
  have power : (10 : ℚ) ^ largestPower ≤ 10 ^ places := pow_le_pow_right₀ (by norm_num) large
  have scaled := mul_le_mul_of_nonneg_left power smallest_pos.le
  refine ⟨once, ?_⟩
  rw [div_le_iff₀ (by positivity)]
  linarith [powers_of_large.2]

/-- A whole number is divided by a power of ten in at most two steps, unless next to nothing is left
of it. -/
theorem exists_scaleDown {k places : Nat} (bounded : k < 2 ^ 64) (one_le : 1 ≤ places) :
    ∃ z, HasValue (scaleDown (nearest false k 1) places) z ∧
      |z - k / 10 ^ places| ≤ k / 10 ^ places * (7 / 2 ^ 53) + smallest := by
  have nonneg : (0 : ℚ) ≤ k := Nat.cast_nonneg k
  have below : (k : ℚ) ≤ largest := by
    have size : (k : ℚ) ≤ 2 ^ 64 := by exact_mod_cast bounded.le
    have top : ((2 ^ 64 : ℕ) * 10 ^ ((0 : ℕ) : ℤ) : ℚ) ≤ largest := le_largest (by decide +kernel)
    norm_num at top
    linarith
  obtain ⟨q, hx, near⟩ := hasValue_whole k below
  have start : |q - k| ≤ k * (1 / 2 ^ 53) + 0 := by linarith
  rcases le_or_gt places largestPower with once | more
  · obtain ⟨z, value, error⟩ :=
      exists_scaleDown_of_le hx nonneg (by norm_num) le_rfl start one_le once
    have part : (0 : ℚ) ≤ k / 10 ^ places := by positivity
    exact ⟨z, value, by linarith [smallest_pos]⟩
  obtain ⟨y, p, first, value, near⟩ :=
    exists_first_step hx nonneg (by norm_num) le_rfl start more
  have split : (10 : ℚ) ^ places = 10 ^ largestPower * 10 ^ (places - largestPower) :=
    (pow_mul_pow_sub 10 more.le).symm
  have part : (0 : ℚ) ≤ k / 10 ^ largestPower := by positivity
  have rest : (0 : ℚ) ≤ k / 10 ^ largestPower / 10 ^ (places - largestPower) :=
    div_nonneg part (pow_nonneg (by norm_num) _)
  rw [first, split, ← div_div]
  rcases le_or_gt (places - largestPower) largestPower with twice | most
  · obtain ⟨z, value, error⟩ := exists_scaleDown_of_le value part (by norm_num)
      (by linarith [smallest_pos]) near (by omega) twice
    exact ⟨z, value, by linarith⟩
  · -- What the two steps leave is next to nothing, and so is the exact quotient.
    obtain ⟨once, twice⟩ := div_powers_le bounded most.le
    have small : p ≤ 1 / 2 ^ 55 := by
      have := (abs_le.mp near).2
      linarith [smallest_le]
    obtain ⟨z, value, tiny⟩ := exists_scaleDown_of_small value small most
    refine ⟨z, value, abs_le.mpr ⟨?_, ?_⟩⟩
    · linarith [value.nonneg, smallest_pos]
    · linarith

/-! ### Multiplication by a power of ten -/

/-- A whole number is multiplied by a power of ten with an error of four parts in `2 ^ 53` at most,
if the product is not next to the largest finite number. -/
theorem exists_scaleUp {k places : Nat}
    (small : (k * 10 ^ places : ℚ) ≤ largest * (1 - 1 / 2 ^ 51) * (1 + 1 / 2 ^ 60)) :
    ∃ x z, scaleUp (nearest false k 1) places = some x ∧ HasValue x z ∧
      |z - k * 10 ^ places| ≤ k * 10 ^ places * (4 / 2 ^ 53) := by
  have top := largest_pos
  have least := smallest_le
  have ten : (1 : ℚ) ≤ 10 ^ places := one_le_pow₀ (by norm_num)
  have below : (k * 10 ^ places : ℚ) ≤ largest := by linarith
  have whole_le : (k : ℚ) ≤ largest :=
    (le_mul_of_one_le_right (Nat.cast_nonneg k) ten).trans below
  obtain ⟨q, hx, near⟩ := hasValue_whole k whole_le
  rcases Nat.eq_zero_or_pos k with rfl | positive
  · have zero : (nearest false 0 1 == 0.0) = true := (hasValue_zero 1).beq_zero_iff.mpr rfl
    exact ⟨_, 0, by rw [scaleUp, if_pos zero], hasValue_zero 1, by simp⟩
  have one_le : (1 : ℚ) ≤ k := by exact_mod_cast positive
  have power_le : (10 : ℚ) ^ places ≤ largest :=
    (le_mul_of_one_le_left (by linarith) one_le).trans below
  have bounded := places_le_largestPower power_le
  obtain ⟨t, power, nearPower⟩ := hasValue_powerOfTen bounded
  have positive : 0 < q := by
    have := (abs_le.mp near).1
    linarith
  have positivePower : 0 < t := by
    have := (abs_le.mp nearPower).1
    linarith
  have product := abs_product_sub_le (by linarith) (by linarith) near nearPower
  have factor := (abs_le.mp product).2
  have fits : q * t ≤ largest := by linarith
  obtain ⟨z, value, rounded⟩ := hx.mul power positive positivePower fits
  have nonzero : ¬(nearest false k 1 == 0.0) = true := fun zero =>
    positive.ne' (hx.beq_zero_iff.mp zero)
  refine ⟨_, z, ?_, value, ?_⟩
  · rw [scaleUp, if_neg nonzero, if_pos bounded]
    simp only [value.isInf_eq_false, Bool.false_eq_true, if_false]
  · have whole : (1 : ℚ) ≤ k * 10 ^ places := one_le_mul_of_one_le_of_one_le one_le ten
    have error := roundingError_le (mul_pos positive positivePower).le
    calc |z - k * 10 ^ places| ≤ |z - q * t| + |q * t - k * 10 ^ places| := abs_sub_le _ _ _
      _ ≤ k * 10 ^ places * (4 / 2 ^ 53) := by linarith

end LandingGuidance.Json

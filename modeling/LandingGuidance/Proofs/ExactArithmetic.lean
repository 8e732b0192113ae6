import Mathlib
import LandingGuidance.Decimal.Fixed
import LandingGuidance.Proofs.Order

/-!
# Exact arithmetic

The real numbers as scalars. Every real number is defined, arithmetic does not round, and the
elementary functions are those of analysis.
-/

namespace LandingGuidance

/-- A number without its fraction part. -/
noncomputable def wholePart (q : ℝ) : ℤ := if 0 ≤ q then ⌊q⌋ else ⌈q⌉

theorem abs_sub_wholePart_lt (q : ℝ) : |q - wholePart q| < 1 := by
  unfold wholePart
  rw [abs_lt]
  split
  · constructor <;> linarith [Int.floor_le q, Int.lt_floor_add_one q]
  · constructor <;> linarith [Int.le_ceil q, Int.ceil_lt_add_one q]

noncomputable instance : TrigScalar ℝ where
  decidableLT := inferInstance
  decidableLE := inferInstance
  remainder x y := x - y * wholePart (x / y)
  pi := Real.pi
  sqrt := Real.sqrt
  sin := Real.sin
  cos := Real.cos
  tan := Real.tan
  atan := Real.arctan
  atan2 y x := Complex.arg ⟨x, y⟩
  hypot x y := Real.sqrt (x ^ 2 + y ^ 2)

/-- The whole number nearest to a number that is not negative, and from a half the even one. -/
noncomputable def nearestWhole (q : ℝ) : ℕ :=
  let n := ⌊q⌋₊
  if q - n < 1 / 2 ∨ q - n = 1 / 2 ∧ n % 2 = 0 then n else n + 1

noncomputable instance : TwoPlaces ℝ where
  twoPlaces x := Decimal.sign (x < 0) ++ Decimal.pointed (nearestWhole |100 * x|)

theorem Scalar.defined_real (x : ℝ) : Scalar.Defined x := by
  simp [Scalar.Defined, Scalar.isUndefined]

instance : OrderedScalar ℝ where
  defined_left _ := Scalar.defined_real _
  defined_right _ := Scalar.defined_real _
  le_total _ _ := le_total _ _
  le_trans := le_trans
  lt_iff_le_not_ge := lt_iff_le_not_ge

theorem Scalar.abs_real (x : ℝ) : Scalar.abs x = |x| := by
  have zero : (0.0 : ℝ) = 0 := by norm_num
  unfold Scalar.abs
  rw [zero]
  split
  next negative => rw [abs_of_neg negative]
  next nonnegative => rw [abs_of_nonneg (not_lt.mp nonnegative)]

theorem Scalar.remainder_real (x y : ℝ) : Scalar.remainder x y = x - y * wholePart (x / y) := rfl

/-- Taking away a positive number a whole number of times leaves less than that number. -/
theorem Scalar.abs_remainder_lt (x : ℝ) {y : ℝ} (hy : 0 < y) : |Scalar.remainder x y| < y := by
  have scaled : Scalar.remainder x y = y * (x / y - wholePart (x / y)) := by
    rw [Scalar.remainder_real]
    field_simp
  rw [scaled, abs_mul, abs_of_pos hy]
  exact mul_lt_of_lt_one_right hy (abs_sub_wholePart_lt _)

end LandingGuidance

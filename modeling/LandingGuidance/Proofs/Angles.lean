import Mathlib
import LandingGuidance.Angle
import LandingGuidance.Proofs.ExactArithmetic

/-!
# Angles in exact arithmetic

Degrees and radians are converted back and forth without loss. Both wraps take an angle to the one
of its half-open turn that differs from it by a whole number of turns, so a wrapped angle is
determined by that turn and that difference.
-/

namespace LandingGuidance.Angle

theorem toRadians_real (x : ℝ) : toRadians x = x * (Real.pi / 180) := by
  change x * (Real.pi / 180.0) = x * (Real.pi / 180)
  norm_num

theorem toDegrees_real (x : ℝ) : toDegrees x = x * (180 / Real.pi) := by
  change x * (180.0 / Real.pi) = x * (180 / Real.pi)
  norm_num

theorem toRadians_toDegrees (x : ℝ) : toRadians (toDegrees x) = x := by
  rw [toRadians_real, toDegrees_real]
  field_simp

theorem toDegrees_toRadians (x : ℝ) : toDegrees (toRadians x) = x := by
  rw [toRadians_real, toDegrees_real]
  field_simp

theorem toRadians_mem_Ioc_iff {x : ℝ} :
    toRadians x ∈ Set.Ioc (-Real.pi) Real.pi ↔ x ∈ Set.Ioc (-180) 180 := by
  have degree : 0 < Real.pi / 180 := by positivity
  rw [toRadians_real]
  constructor
  · rintro ⟨above, below⟩
    constructor
    · exact lt_of_mul_lt_mul_right (by linarith) degree.le
    · exact le_of_mul_le_mul_right (by linarith) degree
  · rintro ⟨above, below⟩
    constructor
    · have := mul_lt_mul_of_pos_right above degree
      linarith
    · have := mul_le_mul_of_nonneg_right below degree.le
      linarith

theorem toRadians_add_turns (degrees : ℝ) (turns : ℤ) :
    toRadians (degrees + 360 * turns) = toRadians degrees + turns * (2 * Real.pi) := by
  rw [toRadians_real, toRadians_real]
  ring

/-- The rest of an angle after whole turns, raised by a turn if it is negative. -/
private theorem wrap360_eq_ite (x : ℝ) :
    wrap360 x =
      if Scalar.remainder x 360 < 0 then Scalar.remainder x 360 + 360
      else Scalar.remainder x 360 := by
  have full : (360.0 : ℝ) = 360 := by norm_num
  have zero : (0.0 : ℝ) = 0 := by norm_num
  have bound := abs_lt.mp (Scalar.abs_remainder_lt x (y := 360) (by norm_num))
  unfold wrap360
  rw [full, zero]
  dsimp only
  split
  next negative => rw [if_neg (by linarith)]
  next nonnegative => rw [if_neg (by linarith)]

theorem wrap360_eq_iff {x y : ℝ} :
    wrap360 x = y ↔ y ∈ Set.Ico 0 360 ∧ ∃ turns : ℤ, x = y + 360 * turns := by
  have bound := abs_lt.mp (Scalar.abs_remainder_lt x (y := 360) (by norm_num))
  have rest := Scalar.remainder_real x 360
  have wrapped : wrap360 x = toIcoMod (by norm_num : (0 : ℝ) < 360) 0 x := by
    symm
    rw [toIcoMod_eq_iff, wrap360_eq_ite]
    split
    next negative =>
      refine ⟨⟨by linarith, by linarith⟩, wholePart (x / 360) - 1, ?_⟩
      push_cast [zsmul_eq_mul]
      linarith
    next nonnegative =>
      refine ⟨⟨by linarith, by linarith⟩, wholePart (x / 360), ?_⟩
      rw [zsmul_eq_mul]
      linarith
  rw [wrapped, toIcoMod_eq_iff, zero_add]
  simp only [zsmul_eq_mul, mul_comm]

theorem wrap180_eq_iff {x y : ℝ} :
    wrap180 x = y ↔ y ∈ Set.Ico (-180) 180 ∧ ∃ turns : ℤ, x = y + 360 * turns := by
  have half : (180.0 : ℝ) = 180 := by norm_num
  unfold wrap180
  rw [half, sub_eq_iff_eq_add, wrap360_eq_iff]
  constructor
  · rintro ⟨⟨low, high⟩, turns, equal⟩
    exact ⟨⟨by linarith, by linarith⟩, turns, by linarith⟩
  · rintro ⟨⟨low, high⟩, turns, equal⟩
    exact ⟨⟨by linarith, by linarith⟩, turns, by linarith⟩

/-- Whole turns make no difference to a wrapped angle. -/
theorem wrap360_add_turns (x : ℝ) (turns : ℤ) : wrap360 (x + 360 * turns) = wrap360 x := by
  obtain ⟨range, more, equal⟩ := wrap360_eq_iff.mp (Eq.refl (wrap360 x))
  refine wrap360_eq_iff.mpr ⟨range, more + turns, ?_⟩
  push_cast
  linarith

theorem wrap180_add_turns (x : ℝ) (turns : ℤ) : wrap180 (x + 360 * turns) = wrap180 x := by
  obtain ⟨range, more, equal⟩ := wrap180_eq_iff.mp (Eq.refl (wrap180 x))
  refine wrap180_eq_iff.mpr ⟨range, more + turns, ?_⟩
  push_cast
  linarith

end LandingGuidance.Angle

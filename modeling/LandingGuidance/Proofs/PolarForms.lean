import Mathlib
import LandingGuidance.Planar
import LandingGuidance.Proofs.Angles

/-!
# Offsets and their polar forms

In exact arithmetic an offset is found again from its distance and bearing. The other way around, a
distance and a bearing are found again from their offset if the distance is positive and the bearing
lies in the half-open turn around straight ahead. Whole turns of the bearing make no difference to
the offset.
-/

namespace LandingGuidance

open Set

/-- An offset as a complex number. Bearings are measured from the axis ahead, so that is the real
one. -/
def Offset.toComplex (offset : Offset ℝ) : ℂ := ⟨offset.ahead, offset.right⟩

theorem Offset.toPolar_eq (offset : Offset ℝ) :
    offset.toPolar = ⟨‖offset.toComplex‖, Angle.toDegrees offset.toComplex.arg⟩ := by
  have length : TrigScalar.hypot offset.right offset.ahead = ‖offset.toComplex‖ := by
    change Real.sqrt (offset.right ^ 2 + offset.ahead ^ 2) = _
    rw [Complex.norm_def, toComplex, Complex.normSq_mk]
    congr 1
    ring
  rw [toPolar, length]
  rfl

theorem Polar.toComplex_toOffset (polar : Polar ℝ) :
    polar.toOffset.toComplex =
      polar.distance * (Complex.cos (Angle.toRadians polar.bearing : ℝ)
        + Complex.sin (Angle.toRadians polar.bearing : ℝ) * Complex.I) := by
  rw [← Complex.ofReal_cos, ← Complex.ofReal_sin, mul_add, ← mul_assoc, ← Complex.ofReal_mul,
    ← Complex.ofReal_mul]
  exact Complex.mk_eq_add_mul_I _ _

/-- An offset is found again from its distance and bearing. -/
theorem Offset.toOffset_toPolar (offset : Offset ℝ) : offset.toPolar.toOffset = offset := by
  rw [toPolar_eq]
  simp only [Polar.toOffset, Angle.toRadians_toDegrees]
  exact congrArg₂ Offset.mk (Complex.norm_mul_sin_arg _) (Complex.norm_mul_cos_arg _)

theorem Polar.toOffset_of_add_turns {polar other : Polar ℝ} (turns : ℤ)
    (distance : polar.distance = other.distance)
    (bearing : polar.bearing = other.bearing + 360 * turns) : polar.toOffset = other.toOffset := by
  have sin : TrigScalar.sin (Angle.toRadians polar.bearing) =
      TrigScalar.sin (Angle.toRadians other.bearing) := by
    rw [bearing, Angle.toRadians_add_turns]
    exact Real.sin_add_int_mul_two_pi _ turns
  have cos : TrigScalar.cos (Angle.toRadians polar.bearing) =
      TrigScalar.cos (Angle.toRadians other.bearing) := by
    rw [bearing, Angle.toRadians_add_turns]
    exact Real.cos_add_int_mul_two_pi _ turns
  simp only [toOffset, distance, sin, cos]

/-! ### The polar forms that offsets have -/

theorem Offset.bearing_toPolar_mem (offset : Offset ℝ) :
    offset.toPolar.bearing ∈ Ioc (-180) 180 := by
  rw [toPolar_eq, ← Angle.toRadians_mem_Ioc_iff, Angle.toRadians_toDegrees]
  exact Complex.arg_mem_Ioc _

theorem Offset.distance_toPolar_nonneg (offset : Offset ℝ) : 0 ≤ offset.toPolar.distance := by
  rw [toPolar_eq]
  exact norm_nonneg _

/-- A distance and a bearing are found again from their offset, if the bearing is in its turn. -/
theorem Polar.toPolar_toOffset {polar : Polar ℝ} (away : 0 < polar.distance)
    (range : polar.bearing ∈ Ioc (-180) 180) : polar.toOffset.toPolar = polar := by
  have radians := Angle.toRadians_mem_Ioc_iff.mpr range
  have length : ‖polar.toOffset.toComplex‖ = polar.distance := by
    rw [toComplex_toOffset, norm_mul, Complex.norm_cos_add_sin_mul_I, mul_one, Complex.norm_real,
      Real.norm_of_nonneg away.le]
  have angle : polar.toOffset.toComplex.arg = Angle.toRadians polar.bearing := by
    rw [toComplex_toOffset, Complex.arg_mul_cos_add_sin_mul_I away radians]
  rw [Offset.toPolar_eq, length, angle, Angle.toDegrees_toRadians]

/-- The origin has the bearing straight ahead. -/
theorem Offset.toPolar_origin : (⟨0, 0⟩ : Offset ℝ).toPolar = ⟨0, 0⟩ := by
  have origin : (⟨0, 0⟩ : Offset ℝ).toComplex = 0 := rfl
  rw [toPolar_eq, origin, norm_zero, Complex.arg_zero, Angle.toDegrees_real, zero_mul]

theorem Polar.toOffset_of_distance_eq_zero {polar : Polar ℝ} (still : polar.distance = 0) :
    polar.toOffset = ⟨0, 0⟩ := by
  simp only [toOffset, still, zero_mul]

/-- Every offset, the origin included, is found again from its distance, which is not negative, and
its bearing, which is in `(-180, 180]`. The distances and bearings that are found again from their
offset are those with a positive distance and a bearing in that turn, and those of the origin. -/
theorem Offset.polar_forms_correspond :
    (∀ offset : Offset ℝ,
      offset.toPolar.toOffset = offset ∧ offset.toPolar.bearing ∈ Ioc (-180) 180 ∧
        0 ≤ offset.toPolar.distance) ∧
      ∀ polar : Polar ℝ,
        polar.toOffset.toPolar = polar ↔
          0 < polar.distance ∧ polar.bearing ∈ Ioc (-180) 180 ∨ polar = ⟨0, 0⟩ := by
  constructor
  · intro offset
    exact ⟨offset.toOffset_toPolar, offset.bearing_toPolar_mem, offset.distance_toPolar_nonneg⟩
  · intro polar
    constructor
    · intro found
      rcases polar.toOffset.distance_toPolar_nonneg.eq_or_lt with still | away
      · -- Without a distance every bearing gives the origin, whose own bearing is zero.
        right
        rw [found] at still
        rw [← found, Polar.toOffset_of_distance_eq_zero still.symm, toPolar_origin]
      · left
        rw [← found]
        exact ⟨away, polar.toOffset.bearing_toPolar_mem⟩
    · rintro (⟨away, range⟩ | rfl)
      · exact Polar.toPolar_toOffset away range
      · rw [Polar.toOffset_of_distance_eq_zero rfl, toPolar_origin]

end LandingGuidance

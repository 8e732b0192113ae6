import Mathlib
import LandingGuidance.Proofs.Angles

/-!
# Wrapped angles of rational numbers

In rational arithmetic both wraps are reductions by whole turns into a half-open turn. So two angles
are wrapped alike exactly if they differ by whole turns, and a wrap forgets one that was made before
it.
-/

namespace LandingGuidance

/-! ### Rational arithmetic -/

namespace Rational

/-- A number without its fraction part. -/
def wholePart (q : ℚ) : ℤ := if 0 ≤ q then ⌊q⌋ else ⌈q⌉

/-- The rational numbers as scalars, where nothing is rounded. -/
scoped instance : Scalar ℚ where
  decidableLT := inferInstance
  decidableLE := inferInstance
  remainder x y := x - y * wholePart (x / y)

theorem cast_remainder (x y : ℚ) :
    ((Scalar.remainder x y : ℚ) : ℝ) = Scalar.remainder (x : ℝ) (y : ℝ) := by
  have whole : LandingGuidance.wholePart ((x : ℝ) / y) = wholePart (x / y) := by
    unfold LandingGuidance.wholePart wholePart
    rw [← Rat.cast_div]
    simp only [Rat.cast_nonneg, Rat.floor_cast, Rat.ceil_cast]
  change ((x - y * wholePart (x / y) : ℚ) : ℝ) = x - y * LandingGuidance.wholePart ((x : ℝ) / y)
  rw [whole]
  push_cast
  rfl

end Rational

open scoped Rational

namespace Angle

/-- Rational angles are wrapped as the real ones that they are. -/
theorem cast_wrap360 (x : ℚ) : ((wrap360 x : ℚ) : ℝ) = wrap360 (x : ℝ) := by
  have full : (360.0 : ℝ) = (360.0 : ℚ) := by norm_num
  have zero : (0.0 : ℝ) = (0.0 : ℚ) := by norm_num
  unfold wrap360
  dsimp only
  rw [full, zero, ← Rational.cast_remainder]
  generalize Scalar.remainder x (360.0 : ℚ) = rest
  -- What is left is sums and comparisons, which rational and real numbers have alike.
  have raised : (if (rest : ℝ) < (0.0 : ℚ) then (rest : ℝ) + (360.0 : ℚ) else rest) =
      ((if rest < 0.0 then rest + 360.0 else rest : ℚ) : ℝ) := by
    split
    next negative =>
      rw [if_pos (Rat.cast_lt.mp negative)]
      exact (Rat.cast_add _ _).symm
    next nonnegative => rw [if_neg (mt Rat.cast_lt.mpr nonnegative)]
  rw [raised]
  generalize (if rest < 0.0 then rest + 360.0 else rest) = raised
  split
  next turn => rw [if_pos (Rat.cast_le.mpr turn)]
  next less => rw [if_neg (mt Rat.cast_le.mp less)]

theorem cast_wrap180 (x : ℚ) : ((wrap180 x : ℚ) : ℝ) = wrap180 (x : ℝ) := by
  have half : (180.0 : ℝ) = (180.0 : ℚ) := by norm_num
  have shifted : (x : ℝ) + (180.0 : ℚ) = ((x + 180.0 : ℚ) : ℝ) := (Rat.cast_add _ _).symm
  unfold wrap180
  rw [half, shifted, ← cast_wrap360]
  exact Rat.cast_sub _ _

/-! ### Wraps as reductions -/

theorem turn_pos : (0 : ℚ) < 360 := by norm_num

theorem wrap360_eq_toIcoMod (x : ℚ) : wrap360 x = toIcoMod turn_pos 0 x := by
  obtain ⟨⟨least, less⟩, turns, equal⟩ := wrap360_eq_iff.mp (cast_wrap360 x).symm
  symm
  rw [toIcoMod_eq_iff, zero_add]
  refine ⟨⟨by exact_mod_cast least, by exact_mod_cast less⟩, turns, ?_⟩
  rw [zsmul_eq_mul, mul_comm]
  exact_mod_cast equal

theorem wrap180_eq_toIcoMod (x : ℚ) : wrap180 x = toIcoMod turn_pos (-180) x := by
  have high : (-180 : ℚ) + 360 = 180 := by norm_num
  obtain ⟨⟨least, less⟩, turns, equal⟩ := wrap180_eq_iff.mp (cast_wrap180 x).symm
  symm
  rw [toIcoMod_eq_iff, high]
  refine ⟨⟨by exact_mod_cast least, by exact_mod_cast less⟩, turns, ?_⟩
  rw [zsmul_eq_mul, mul_comm]
  exact_mod_cast equal

/-- What an angle is reduced by is whole turns. -/
theorem exists_sub_toIcoMod_eq (low x : ℚ) :
    ∃ turns : ℤ, x - toIcoMod turn_pos low x = 360 * turns := by
  refine ⟨toIcoDiv turn_pos low x, ?_⟩
  rw [self_sub_toIcoMod_eq_mul, mul_comm]

/-- Two angles are reduced alike exactly if they differ by whole turns. -/
theorem toIcoMod_turn_eq_iff (low x y : ℚ) :
    toIcoMod turn_pos low x = toIcoMod turn_pos low y ↔ ∃ turns : ℤ, x - y = 360 * turns := by
  rw [eq_comm, toIcoMod_eq_toIcoMod]
  simp only [zsmul_eq_mul, mul_comm]

/-- Each wrap takes an angle to the one of its turn that differs from it by whole turns. It takes
two angles to the same one exactly if they differ by whole turns, a second time it changes nothing,
and it makes no difference to it that the other wrap was made before. -/
theorem wraps_are_canonical (x y : ℚ) :
    (wrap360 x ∈ Set.Ico 0 360 ∧ wrap180 x ∈ Set.Ico (-180) 180) ∧
      ((∃ turns : ℤ, x - wrap360 x = 360 * turns) ∧ ∃ turns : ℤ, x - wrap180 x = 360 * turns) ∧
      ((wrap360 x = wrap360 y ↔ ∃ turns : ℤ, x - y = 360 * turns) ∧
        (wrap180 x = wrap180 y ↔ ∃ turns : ℤ, x - y = 360 * turns)) ∧
      (wrap360 (wrap360 x) = wrap360 x ∧ wrap180 (wrap180 x) = wrap180 x) ∧
      (wrap360 (wrap180 x) = wrap360 x ∧ wrap180 (wrap360 x) = wrap180 x) := by
  have high : (-180 : ℚ) + 360 = 180 := by norm_num
  simp only [wrap360_eq_toIcoMod, wrap180_eq_toIcoMod]
  refine ⟨⟨toIcoMod_mem_Ico' _ x, ?_⟩, ⟨exists_sub_toIcoMod_eq 0 x, exists_sub_toIcoMod_eq _ x⟩,
    ⟨toIcoMod_turn_eq_iff 0 x y, toIcoMod_turn_eq_iff _ x y⟩, ?_, ?_⟩
  · have range := toIcoMod_mem_Ico turn_pos (-180) x
    rwa [high] at range
  · exact ⟨toIcoMod_toIcoMod _ 0 0 x, toIcoMod_toIcoMod _ _ _ x⟩
  · exact ⟨toIcoMod_toIcoMod _ 0 _ x, toIcoMod_toIcoMod _ _ 0 x⟩

end Angle

end LandingGuidance

import Mathlib
import LandingGuidance.Proofs.CircleDistance
import LandingGuidance.Proofs.PolarForms

/-!
# The final leg touches the circle

In exact arithmetic the points that an approach gives as distances and bearings are those of the
settings, since an offset is found again from its polar form. The final leg starts where the circle
touches it, and runs straight ahead.
-/

namespace LandingGuidance

/-! ### The points of an approach -/

/-- A point as seen along a heading, from its true bearing. -/
def Polar.along (polar : Polar ℝ) (heading : ℝ) : Polar ℝ :=
  { polar with bearing := polar.bearing - heading }

theorem Turn.sq_side (turn : Turn) : (turn.side : ℝ) ^ 2 = 1 := by
  cases turn with
  | left => rw [side_left]; norm_num
  | right => rw [side_right]; norm_num

namespace Approach

/-- Seen along the final heading, the center lies where the settings put it. -/
theorem toOffset_centerFromHome (settings : Settings ℝ) (home : Home ℝ) :
    ((centerFromHome settings home).along home.azimuth).toOffset = settings.centerOffset := by
  obtain ⟨_, turns, equal⟩ := Angle.wrap360_eq_iff.mp
    (Eq.refl (Angle.wrap360 (home.azimuth + settings.centerOffset.toPolar.bearing)))
  rw [← settings.centerOffset.toOffset_toPolar]
  refine Polar.toOffset_of_add_turns (-turns) rfl ?_
  simp only [centerFromHome, Polar.along]
  push_cast
  linarith

/-- The center of the circle lies one radius to the side of the start of the final leg, at a right
angle to it, and the final leg runs along the final heading. So the circle touches the line of the
final leg at that start and nowhere else: the point that lies `beyond` meters further along it is
off the center by the hypotenuse over that distance and the radius. -/
theorem plan_finalLeg_tangent (settings : Settings ℝ) (home : Home ℝ) :
    let approach := plan settings home
    let fromHome := centerFromHome settings home
    let center := (fromHome.along approach.finalHeading).toOffset
    approach.center = (home.position.project fromHome.bearing fromHome.distance).position ∧
      ∃ first last : Polar ℝ,
        approach.finalRoute.route.waypoints = [.relativeToHome first, .relativeToHome last] ∧
        center.right - first.toOffset.right = approach.turn.side * approach.radius ∧
        center.ahead - first.toOffset.ahead = 0 ∧
        last.toOffset.right - first.toOffset.right = 0 ∧
        last.toOffset.ahead - first.toOffset.ahead = approach.finalLeg ∧
        ∀ beyond : ℝ,
          (center.right - first.toOffset.right) ^ 2
              + (center.ahead - (first.toOffset.ahead + beyond)) ^ 2 =
            approach.radius ^ 2 + beyond ^ 2 := by
  intro approach fromHome center
  refine ⟨rfl, settings.startOfFinal.toPolar, settings.touchdown.toPolar, rfl, ?_⟩
  have atCenter : center = settings.centerOffset := toOffset_centerFromHome settings home
  rw [atCenter, settings.startOfFinal.toOffset_toPolar, settings.touchdown.toOffset_toPolar]
  -- What is left of the three points is their differences.
  have aside : settings.centerOffset.right - settings.startOfFinal.right =
      settings.turn.side * settings.turnRadius := by
    simp only [Settings.centerOffset, Settings.startOfFinal, Settings.lateral]
    ring
  have abreast : settings.centerOffset.ahead = settings.startOfFinal.ahead := rfl
  have straight : settings.touchdown.ahead - settings.startOfFinal.ahead = settings.finalLeg := by
    have zero : (0.0 : ℝ) = 0 := by norm_num
    simp only [Settings.touchdown, Settings.startOfFinal, zero]
    ring
  refine ⟨aside, sub_eq_zero.mpr abreast, sub_self _, straight, ?_⟩
  intro beyond
  rw [aside, abreast]
  have side := settings.turn.sq_side
  change _ = settings.turnRadius ^ 2 + beyond ^ 2
  linear_combination settings.turnRadius ^ 2 * side

end Approach

end LandingGuidance

import Mathlib
import LandingGuidance.Proofs.CircleDistance
import LandingGuidance.Proofs.Latches

/-!
# The distance at the hand-over

The route follower takes over within ten degrees of the start of the final leg, both ends included.
The arc past that start is counted up to ten degrees, that end excluded. So the distance that is
left behind at the hand-over has the arc between the aircraft and the final leg, except exactly ten
degrees past its start, where half a circle is counted once more.
-/

namespace LandingGuidance

/-- A hand-over is made on the circle, once it is captured and near the start of the final leg. -/
theorem Guidance.lateral_of_handOver {g : Guidance ℝ} {approach : Approach ℝ} {t : Telemetry ℝ}
    (handOver : (g.lateral approach t).handOver = true) :
    |(approach.fix t.position).angle| ≤ 10 ∧
      (g.lateral approach t).distanceToGo =
        approach.distanceToGo (approach.fix t.position) true := by
  have window : (10.0 : ℝ) = 10 := by norm_num
  unfold lateral at handOver ⊢
  split at handOver
  next circling =>
    simp only [Bool.and_eq_true, decide_eq_true_eq, Scalar.abs_real, window] at handOver
    obtain ⟨⟨captured, _⟩, near⟩ := handOver
    rw [if_pos circling]
    dsimp only
    rw [captured]
    exact ⟨near, rfl⟩
  next => cases handOver

/-- Within the window of the hand-over, the arc between the aircraft and the final leg is counted
everywhere but at the far end. -/
theorem CircleFix.angleToGo_eq_ite_of_near {fix : CircleFix ℝ} (near : |fix.angle| ≤ 10) :
    fix.angleToGo true = if fix.angle = -10 then Real.pi else fix.angle * (Real.pi / 180) := by
  obtain ⟨low, _⟩ := abs_le.mp near
  rw [angleToGo_of_captured]
  by_cases far : fix.angle = -10
  · rw [if_pos far, if_neg (by linarith)]
  · rw [if_neg far, if_pos (lt_of_le_of_ne low (Ne.symm far))]

/-- An arc of up to ten degrees is at most an 18th of half a circle long. -/
theorem abs_arc_le {angle : ℝ} (near : |angle| ≤ 10) (radius : ℝ) :
    |angle * (Real.pi / 180) * radius| ≤ |radius| * (Real.pi / 18) := by
  have radian_pos : 0 < Real.pi / 180 := by positivity
  rw [abs_mul, abs_mul, abs_of_pos radian_pos]
  calc |angle| * (Real.pi / 180) * |radius| ≤ 10 * (Real.pi / 180) * |radius| := by gcongr
    _ = |radius| * (Real.pi / 18) := by ring

/-- Half a circle in place of ten degrees makes a difference on every circle that is no point. -/
theorem pi_mul_ne_arc {radius : ℝ} (circle : radius ≠ 0) :
    Real.pi * radius ≠ -10 * (Real.pi / 180) * radius := by
  intro equal
  have halves := mul_right_cancel₀ circle equal
  have := Real.pi_pos
  linarith

theorem arc_lt_abs_pi_mul {radius : ℝ} (circle : radius ≠ 0) :
    |radius| * (Real.pi / 18) < |Real.pi * radius| := by
  have size := abs_pos.mpr circle
  have := Real.pi_pos
  rw [abs_mul, abs_of_pos Real.pi_pos, mul_comm]
  gcongr
  linarith

namespace Flight

/-- At a hand-over the aircraft is within ten degrees of the start of the final leg. The distance to
go is that to the circle, along it to the final leg or back from it, and down the final leg, unless
the aircraft is exactly ten degrees past the start: there half a circle is counted in place of the
arc, which is right for no circle but a point. Only there the distance is off by more than the ten
degrees. -/
theorem handOver_counts_arc_iff {flight : Flight ℝ}
    (logged : .transitionToFinal ∈ flight.appended .update) :
    ∃ approach report, flight.task.approach = some approach ∧
      (flight.step .update).2 = .report (some report) ∧
      let fix := approach.fix (Telemetry.ofStore flight.vehicle.store).position
      let arc := if fix.angle = -10 then Real.pi else fix.angle * (Real.pi / 180)
      |fix.angle| ≤ 10 ∧
        report.distanceToGo =
          fix.distance - approach.radius + arc * approach.radius + approach.finalLeg ∧
        (report.distanceToGo = fix.distance - approach.radius
            + fix.angle * (Real.pi / 180) * approach.radius + approach.finalLeg ↔
          fix.angle ≠ -10 ∨ approach.radius = 0) ∧
        (|report.distanceToGo - (fix.distance - approach.radius + approach.finalLeg)| ≤
            |approach.radius| * (Real.pi / 18) ↔
          fix.angle ≠ -10 ∨ approach.radius = 0) := by
  rcases flight.step_update_cases with ⟨g, approach, hg, happroach⟩ | ⟨_, idle⟩
  case inr =>
    -- An update that does nothing logs nothing.
    rw [appended, idle, List.drop_length] at logged
    cases logged
  rw [appended_update hg happroach] at logged
  obtain ⟨near, counted⟩ :=
    Guidance.lateral_of_handOver (Cycle.transitionToFinal_mem_events.mp logged)
  refine ⟨approach, (flight.cycle g approach).report, happroach,
    congrArg Prod.snd (step_update_of_some hg happroach), ?_⟩
  intro fix arc
  have distance : (flight.cycle g approach).report.distanceToGo =
      fix.distance - approach.radius + arc * approach.radius + approach.finalLeg := by
    refine counted.trans ?_
    unfold Approach.distanceToGo
    rw [CircleFix.angleToGo_eq_ite_of_near near]
  have excess : (flight.cycle g approach).report.distanceToGo -
      (fix.distance - approach.radius + approach.finalLeg) = arc * approach.radius := by
    rw [distance]
    ring
  refine ⟨near, distance, ?_, ?_⟩
  · rw [distance, add_left_inj, add_right_inj]
    by_cases far : fix.angle = -10
    · simp only [arc, if_pos far, far, ne_eq, not_true_eq_false, false_or]
      exact ⟨fun equal => by_contra fun circle => pi_mul_ne_arc circle equal,
        fun point => by rw [point, mul_zero, mul_zero]⟩
    · simp only [arc, if_neg far, ne_eq, far, not_false_eq_true, true_or]
  · rw [excess]
    by_cases far : fix.angle = -10
    · simp only [arc, if_pos far, far, ne_eq, not_true_eq_false, false_or]
      constructor
      · intro within
        by_contra circle
        exact absurd within (not_le.mpr (arc_lt_abs_pi_mul circle))
      · intro point
        rw [point, mul_zero, abs_zero, zero_mul]
    · simp only [arc, if_neg far, ne_eq, far, not_false_eq_true, true_or, iff_true]
      exact abs_arc_le near approach.radius

/-- A left circle around the origin, whose final leg starts ten degrees before north. -/
noncomputable def leftCircle : Approach ℝ :=
  { LandingTask.rightCircle with turn := .left, finalHeading := 280 }

theorem fix_leftCircle_center :
    (leftCircle.fix leftCircle.center).angle = -10 ∧
      (leftCircle.fix leftCircle.center).distance = 0 := by
  have quarter : (90.0 : ℝ) = 90 := by norm_num
  have heading : Angle.wrap360 ((0 : ℝ) + (-1) * 90) = 270 :=
    Angle.wrap360_eq_iff.mpr ⟨by norm_num, -1, by norm_num⟩
  have angle : Angle.wrap180 ((270 : ℝ) - 280) = -10 :=
    Angle.wrap180_eq_iff.mpr ⟨by norm_num, 0, by norm_num⟩
  unfold Approach.fix
  rw [Position.courseTo_self]
  dsimp only
  rw [quarter, show leftCircle.turn = .left from rfl, Turn.side_left, heading,
    show leftCircle.finalHeading = 280 from rfl, angle]
  exact ⟨rfl, rfl⟩

/-- Ten degrees past the start of the final leg of a left circle with both captures made, the route
follower takes over with a distance that is half a circle too long. -/
theorem handOver_counts_half_circle :
    let flight : Flight ℝ :=
      { task :=
          { name := "land", nickname := "", settings := Settings.standard
            approach := some leftCircle
            guidance :=
              some { Guidance.fresh with circleCaptured := true, glideslopeCaptured := true }
            saved := [] }
        vehicle := Vehicle.ofStore (Store.empty.set Property.navigationMode (.text "circle")) }
    .transitionToFinal ∈ flight.appended .update ∧
      ∃ report, (flight.step .update).2 = .report (some report) ∧
        report.distanceToGo = 0 - 75 + Real.pi * 75 + 200 ∧
        report.distanceToGo ≠ 0 - 75 + -10 * (Real.pi / 180) * 75 + 200 := by
  intro flight
  have circling : (Telemetry.ofStore flight.vehicle.store).circling = true := by
    simp [flight, Vehicle.ofStore, Telemetry.ofStore, Store.text, Value.toText,
      NavigationMode.name]
  have at_center : (Telemetry.ofStore flight.vehicle.store).position = leftCircle.center := by
    have zero : (0.0 : ℝ) = 0 := by norm_num
    simp [flight, Vehicle.ofStore, Telemetry.ofStore, Store.number, Store.get?_set, Value.toNumber,
      zero, leftCircle, LandingTask.rightCircle]
  obtain ⟨angle, distance⟩ := fix_leftCircle_center
  have logged : .transitionToFinal ∈ flight.appended .update := by
    have window : (10.0 : ℝ) = 10 := by norm_num
    rw [appended_update rfl rfl, Cycle.transitionToFinal_mem_events]
    change (Guidance.lateral _ leftCircle (Telemetry.ofStore flight.vehicle.store)).handOver = true
    unfold Guidance.lateral
    rw [if_pos circling]
    dsimp only
    rw [at_center, angle, Scalar.abs_real, window]
    norm_num
  obtain ⟨approach, report, planned, reported, _, counted, exact_iff, _⟩ :=
    handOver_counts_arc_iff logged
  cases planned
  rw [at_center] at counted exact_iff
  rw [angle, distance] at counted exact_iff
  refine ⟨logged, report, reported, ?_, ?_⟩
  · rw [counted, if_pos rfl]
    rfl
  · intro equal
    have : (-10 : ℝ) ≠ -10 ∨ leftCircle.radius = 0 := exact_iff.mp equal
    simp [leftCircle, LandingTask.rightCircle] at this

end Flight

end LandingGuidance

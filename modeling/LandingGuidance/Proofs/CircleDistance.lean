import Mathlib
import LandingGuidance.Proofs.Angles
import LandingGuidance.Proofs.Readings

/-!
# The distance to go on the circle

In exact arithmetic, and against the radial on which an aircraft stands as seen from the center of
the circle. The main result, `update_distanceToGo_of_radial`, says what is counted for the arc with
an angle left to turn in the direction of the circle: on a left circle that arc, and on a right
circle its negative or a half circle.
-/

namespace LandingGuidance

open Set

theorem Turn.side_left : (Turn.side .left : ℝ) = -1 := by
  change (-1.0 : ℝ) = -1
  norm_num

theorem Turn.side_right : (Turn.side .right : ℝ) = 1 := by
  change (1.0 : ℝ) = 1
  norm_num

/-- On one parallel, an arc without a longitude difference has no length. -/
theorem Ellipsoid.Arc.between_self (p : Ellipsoid.Parallel ℝ) : Arc.between p p (0 : ℝ) = none := by
  have sin_zero : TrigScalar.sin (0 : ℝ) = 0 := Real.sin_zero
  have cos_zero : TrigScalar.cos (0 : ℝ) = 1 := Real.cos_zero
  have sqrt_zero : TrigScalar.sqrt (0 : ℝ) = 0 := Real.sqrt_zero
  have cross : p.cosU * p.sinU - p.sinU * p.cosU = 0 := by ring
  unfold Arc.between
  dsimp only
  rw [sin_zero, cos_zero, mul_one, cross, mul_zero, mul_zero, add_zero, sqrt_zero]
  rw [if_pos (by norm_num)]

/-- A position lies in no direction from itself. -/
theorem Position.courseTo_self (position : Position ℝ) :
    position.courseTo position = ⟨0, 0, 0⟩ := by
  have zero : (0.0 : ℝ) = 0 := by norm_num
  have still : Angle.toRadians (position.longitude - position.longitude) = 0 := by
    rw [Angle.toRadians_real, sub_self, zero_mul]
  -- The very first round finds an arc without length, so the iteration ends there.
  have settled (p : Ellipsoid.Parallel ℝ) (rounds : Nat) :
      Ellipsoid.settleArc p p 0 rounds 0 = none := by
    cases rounds with
    | zero => exact Ellipsoid.Arc.between_self p
    | succ rounds => rw [Ellipsoid.settleArc, Ellipsoid.Arc.between_self]
  unfold Position.courseTo
  dsimp only
  rw [still, settled, zero]

/-- On the radial with `θ` degrees left to turn in its direction, a circle finds the angle `θ` if it
turns left and `-θ` if it turns right. -/
theorem Approach.fix_angle_of_radial (approach : Approach ℝ) (position : Position ℝ) {θ : ℝ}
    (hθ : θ ∈ Ico 0 180) {turns : ℤ}
    (hradial : (approach.center.courseTo position).initial =
      approach.finalHeading - approach.turn.side * (90 + θ) + 360 * turns) :
    (approach.fix position).angle = -(approach.turn.side * θ) := by
  obtain ⟨nonnegative, small⟩ := hθ
  have quarter : (90.0 : ℝ) = 90 := by norm_num
  unfold Approach.fix
  dsimp only
  rw [quarter]
  generalize heading_eq : Angle.wrap360
    ((approach.center.courseTo position).initial + approach.turn.side * 90) = heading
  obtain ⟨_, whole, equal⟩ := Angle.wrap360_eq_iff.mp heading_eq
  rw [Angle.wrap180_eq_iff]
  constructor
  · cases approach.turn with
    | left =>
      rw [Turn.side_left]
      constructor <;> linarith
    | right =>
      rw [Turn.side_right]
      constructor <;> linarith
  · refine ⟨turns - whole, ?_⟩
    push_cast
    linarith

/-- The arc in radians that is counted on the radial with `θ` degrees left to turn in the direction
of the circle, once the circle is captured. -/
noncomputable def Turn.countedArc (turn : Turn) (θ : ℝ) : ℝ :=
  match turn with
  | .left => θ * (Real.pi / 180)
  | .right => if θ < 10 then -(θ * (Real.pi / 180)) else Real.pi

theorem CircleFix.angleToGo_of_captured (fix : CircleFix ℝ) :
    fix.angleToGo true = if -10 < fix.angle then fix.angle * (Real.pi / 180) else Real.pi := by
  have window : (-10.0 : ℝ) = -10 := by norm_num
  unfold CircleFix.angleToGo
  rw [window, Angle.toRadians_real]
  simp only [true_and]
  rfl

/-- A captured circle counts the arc of its turn direction. -/
theorem Approach.distanceToGo_of_radial (approach : Approach ℝ) (position : Position ℝ) {θ : ℝ}
    (hθ : θ ∈ Ico 0 180) {turns : ℤ}
    (hradial : (approach.center.courseTo position).initial =
      approach.finalHeading - approach.turn.side * (90 + θ) + 360 * turns) :
    approach.distanceToGo (approach.fix position) true =
      (approach.center.courseTo position).distance - approach.radius
        + approach.turn.countedArc θ * approach.radius + approach.finalLeg := by
  have angle := approach.fix_angle_of_radial position hθ hradial
  have arc : (approach.fix position).angleToGo true = approach.turn.countedArc θ := by
    rw [CircleFix.angleToGo_of_captured, angle]
    obtain ⟨nonnegative, _⟩ := hθ
    cases approach.turn with
    | left =>
      rw [Turn.side_left, if_pos (by linarith), Turn.countedArc]
      ring
    | right =>
      rw [Turn.side_right, Turn.countedArc]
      by_cases near : θ < 10
      · rw [if_pos (by linarith), if_pos near]
        ring
      · rw [if_neg (by linarith), if_neg near]
  unfold Approach.distanceToGo
  rw [arc]
  rfl

/-- The counted arc is the arc left to turn on every left circle, and on a right circle at the
start of the final leg only. -/
theorem Turn.countedArc_eq_iff (turn : Turn) {θ : ℝ} (hθ : θ ∈ Ico 0 180) :
    turn.countedArc θ = θ * (Real.pi / 180) ↔ turn = .left ∨ θ = 0 := by
  obtain ⟨nonnegative, small⟩ := hθ
  have radian_pos : 0 < Real.pi / 180 := by positivity
  cases turn with
  | left => simp [countedArc]
  | right =>
    simp only [countedArc, reduceCtorEq, false_or]
    split
    next near =>
      constructor
      · intro equal
        have : θ * (Real.pi / 180) = 0 := by linarith
        exact (mul_eq_zero.mp this).resolve_right radian_pos.ne'
      · rintro rfl
        simp
    next far =>
      -- A half circle is more than any arc that is left.
      have less : θ * (Real.pi / 180) < 180 * (Real.pi / 180) :=
        mul_lt_mul_of_pos_right small radian_pos
      constructor
      · intro equal
        have half : 180 * (Real.pi / 180) = Real.pi := by ring
        linarith
      · rintro rfl
        norm_num at far

namespace LandingTask

/-- In a cycle on a captured circle, on the radial with `θ` degrees left to turn in the direction of
the circle, the distance to go has the arc that is counted for its turn. It is the arc left to turn
if the circle turns left, at the start of the final leg, or if the circle is a point. -/
theorem update_distanceToGo_of_radial (task : LandingTask ℝ) (v : Vehicle ℝ) {g : Guidance ℝ}
    {approach : Approach ℝ} (hg : task.guidance = some g)
    (happroach : task.approach = some approach)
    (hcircling : v.store.text Property.navigationMode = "circle") :
    ∃ radial report,
      radial = approach.center.courseTo (Telemetry.ofStore v.store).position ∧
      (task.update v).1 = some report ∧
      (report.circleCaptured = true → ∀ (θ : ℝ) (turns : ℤ), θ ∈ Ico 0 180 →
        radial.initial = approach.finalHeading - approach.turn.side * (90 + θ) + 360 * turns →
        report.distanceToGo = radial.distance - approach.radius
            + approach.turn.countedArc θ * approach.radius + approach.finalLeg ∧
          (report.distanceToGo = radial.distance - approach.radius
              + θ * (Real.pi / 180) * approach.radius + approach.finalLeg ↔
            approach.turn = .left ∨ θ = 0 ∨ approach.radius = 0)) := by
  refine ⟨_, _, rfl, congrArg Prod.fst (update_of_some hg happroach), ?_⟩
  -- The capture that the report shows is the one that the lateral stage counts with.
  intro captured θ turns hθ hradial
  have circling : (Telemetry.ofStore v.store).circling = true := by
    simp [Telemetry.ofStore, hcircling, NavigationMode.name]
  have counted : (task.cycle v.store g approach).report.distanceToGo =
      approach.distanceToGo (approach.fix (Telemetry.ofStore v.store).position) true := by
    rw [← captured]
    exact g.lateral_distanceToGo_of_circling approach circling
  rw [counted, approach.distanceToGo_of_radial _ hθ hradial]
  refine ⟨rfl, ?_⟩
  rw [add_left_inj, add_right_inj, mul_eq_mul_right_iff, approach.turn.countedArc_eq_iff hθ,
    or_assoc]

/-- A right circle around the origin. -/
noncomputable def rightCircle : Approach ℝ where
  center := ⟨0, 0⟩
  radius := 75
  turn := .right
  finalHeading := 120
  finalLeg := 200
  finalRoute := ⟨⟨[]⟩, .firstWaypoint, .leader, .extendLastLeg⟩

/-- The task on a right circle that has been captured. -/
noncomputable def onRightCircle : LandingTask ℝ where
  name := "land"
  nickname := ""
  settings := Settings.standard
  approach := some rightCircle
  guidance := some { Guidance.fresh with circleCaptured := true }
  saved := []

/-- Thirty degrees before the start of its final leg, a right circle counts a half circle. -/
theorem update_distanceToGo_onRightCircle :
    let v := Vehicle.ofStore (Store.empty.set Property.navigationMode (.text "circle"))
    v.store.text Property.navigationMode = "circle" ∧
      ∃ report, (onRightCircle.update v).1 = some report ∧ report.circleCaptured = true ∧
        report.distanceToGo = 0 - 75 + Real.pi * 75 + 200 ∧
        report.distanceToGo ≠ 0 - 75 + 30 * (Real.pi / 180) * 75 + 200 := by
  intro v
  have circling : v.store.text Property.navigationMode = "circle" := by
    simp [v, Vehicle.ofStore, Store.text, Value.toText]
  have at_center : (Telemetry.ofStore v.store).position = rightCircle.center := by
    have zero : (0.0 : ℝ) = 0 := by norm_num
    simp [v, Vehicle.ofStore, Telemetry.ofStore, Store.number, Store.get?_set, Value.toNumber, zero,
      rightCircle]
  obtain ⟨radial, report, radial_eq, reported, counted⟩ :=
    update_distanceToGo_of_radial onRightCircle v rfl rfl circling
  have captured : report.circleCaptured = true := by
    rw [update_of_some rfl rfl] at reported
    cases reported
    change (Guidance.lateral _ rightCircle _).circleCaptured = true
    unfold Guidance.lateral
    split <;> rfl
  rw [at_center, Position.courseTo_self] at radial_eq
  subst radial_eq
  have on_radial : (0 : ℝ) = 120 - Turn.right.side * (90 + 30) + 360 * (0 : ℤ) := by
    rw [Turn.side_right]
    norm_num
  obtain ⟨distance, arc⟩ := counted captured 30 0 (by norm_num) on_radial
  refine ⟨circling, report, reported, captured, ?_, ?_⟩
  · rw [distance]
    norm_num [rightCircle, Turn.countedArc]
  · intro equal
    have : rightCircle.turn = .left ∨ (30 : ℝ) = 0 ∨ rightCircle.radius = 0 := arc.mp equal
    simp [rightCircle] at this

end LandingTask

end LandingGuidance

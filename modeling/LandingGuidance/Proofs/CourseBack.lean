import Mathlib
import LandingGuidance.Ellipsoid.Course
import LandingGuidance.Proofs.Angles

/-!
# The course back

In exact arithmetic the way from one position to another is the way back seen from its other end:
it is as long, and the courses at its two ends change places. The two iterations find mirror images
of the same arcs, with the sign of the longitude difference changed, and end after the same round.
-/

namespace LandingGuidance

/-! ### Opposite directions -/

/-- The angle of the opposite direction is half a turn off, up to a whole turn. -/
theorem Angle.wrap360_opposite {y x : ℝ} (direction : y * y + x * x ≠ 0) :
    wrap360 (toDegrees (TrigScalar.atan2 (-y) (-x)) + 180) =
      wrap360 (toDegrees (TrigScalar.atan2 y x)) := by
  let z : ℂ := ⟨x, y⟩
  have nonzero : z ≠ 0 := by
    intro zero
    have hx : x = 0 := congrArg Complex.re zero
    have hy : y = 0 := congrArg Complex.im zero
    exact direction (by rw [hx, hy, mul_zero, add_zero])
  have opposite : ((-z).arg : Real.Angle) = ((z.arg + Real.pi : ℝ) : Real.Angle) := by
    rw [Complex.arg_neg_coe_angle nonzero, Real.Angle.coe_add]
  obtain ⟨turns, difference⟩ := Real.Angle.angle_eq_iff_two_pi_dvd_sub.mp opposite
  have angle : toDegrees (-z).arg + 180 = toDegrees z.arg + 360 * (turns + 1 : ℤ) := by
    rw [toDegrees_real, toDegrees_real, sub_eq_iff_eq_add.mp difference]
    field_simp
    push_cast
    ring
  change wrap360 (toDegrees (-z).arg + 180) = wrap360 (toDegrees z.arg)
  rw [angle, wrap360_add_turns]

namespace Ellipsoid

variable {p q : Parallel ℝ}

/-- What sine and cosine of an angle have to be. -/
def Parallel.OnCircle (p : Parallel ℝ) : Prop := p.sinU ^ 2 + p.cosU ^ 2 = 1

theorem Parallel.onCircle_ofLatitude (latitude : ℝ) : (ofLatitude latitude).OnCircle :=
  Real.sin_sq_add_cos_sq _

/-! ### Mirror images of arcs -/

/-- The arc over the opposite longitude difference. -/
def Arc.mirrored (arc : Arc ℝ) : Arc ℝ :=
  { arc with sinLambda := -arc.sinLambda, sinAlpha := -arc.sinAlpha }

/-- The squared sine of an arc does not tell its ends apart: at either of them it is made up of a
component across the meridian and one along it. -/
theorem sq_across_add_sq_along (hp : p.OnCircle) (hq : q.OnCircle) (lambda : ℝ) :
    p.cosU * TrigScalar.sin lambda * (p.cosU * TrigScalar.sin lambda)
        + (q.cosU * p.sinU - q.sinU * p.cosU * TrigScalar.cos lambda)
          * (q.cosU * p.sinU - q.sinU * p.cosU * TrigScalar.cos lambda) =
      q.cosU * TrigScalar.sin lambda * (q.cosU * TrigScalar.sin lambda)
        + (p.cosU * q.sinU - p.sinU * q.cosU * TrigScalar.cos lambda)
          * (p.cosU * q.sinU - p.sinU * q.cosU * TrigScalar.cos lambda) := by
  have hlambda : TrigScalar.sin lambda ^ 2 + TrigScalar.cos lambda ^ 2 = 1 :=
    Real.sin_sq_add_cos_sq lambda
  unfold Parallel.OnCircle at hp hq
  -- Both are what the squared cosine of the arc leaves of one.
  linear_combination (p.sinU ^ 2 + p.cosU ^ 2 * TrigScalar.cos lambda ^ 2 - 1) * hq
    - (q.sinU ^ 2 + q.cosU ^ 2 * TrigScalar.cos lambda ^ 2 - 1) * hp
    + (p.cosU ^ 2 - q.cosU ^ 2) * hlambda

/-- From the other end the same arc is found over the opposite longitude difference. -/
theorem Arc.between_mirrored (hp : p.OnCircle) (hq : q.OnCircle) (lambda : ℝ) :
    Arc.between q p (-lambda) = (Arc.between p q lambda).map Arc.mirrored := by
  have sin : TrigScalar.sin (-lambda) = -TrigScalar.sin lambda := Real.sin_neg lambda
  have cos : TrigScalar.cos (-lambda) = TrigScalar.cos lambda := Real.cos_neg lambda
  have middle : 2.0 * q.sinU * p.sinU = 2.0 * p.sinU * q.sinU := mul_right_comm _ _ _
  -- Only the two sines have the sign of the longitude difference, and else they come squared.
  simp only [between, sin, cos, mul_neg, neg_mul, neg_neg, sq_across_add_sq_along hp hq,
    mul_comm q.sinU p.sinU, mul_comm q.cosU p.cosU, middle, neg_div]
  split <;> rfl

/-- The arc from the other end asks for the opposite longitude difference. -/
theorem Arc.nextLambda_mirrored (arc : Arc ℝ) (longitude : ℝ) :
    arc.mirrored.nextLambda (-longitude) = -arc.nextLambda longitude := by
  simp only [nextLambda, mirrored, longitudeExcess, mul_neg, neg_mul, neg_add]

/-- From the other end the rounds find the mirror images of the same arcs, and they settle at the
same time. -/
theorem settleArc_mirrored (hp : p.OnCircle) (hq : q.OnCircle) (longitude : ℝ) (rounds : Nat)
    (lambda : ℝ) :
    settleArc q p (-longitude) rounds (-lambda) =
      (settleArc p q longitude rounds lambda).map Arc.mirrored := by
  -- The next longitude difference is the opposite one too, so the hypothesis is needed for all.
  induction rounds generalizing lambda with
  | zero => exact Arc.between_mirrored hp hq lambda
  | succ rounds ih =>
    rw [settleArc, settleArc, Arc.between_mirrored hp hq]
    cases Arc.between p q lambda with
    | none => rfl
    | some arc =>
      have change : Scalar.abs (-arc.nextLambda longitude - -lambda) =
          Scalar.abs (arc.nextLambda longitude - lambda) := by
        rw [Scalar.abs_real, Scalar.abs_real, neg_sub_neg, abs_sub_comm]
      simp only [Option.map_some, arc.nextLambda_mirrored, change, ih]
      -- Both have changed by as much, so they go on together or stop together.
      split
      next => rfl
      next => rfl

/-- What an iteration ends with is an arc of one of its rounds. -/
theorem exists_between_of_settleArc {longitude lambda : ℝ} {rounds : Nat} {arc : Arc ℝ}
    (settled : settleArc p q longitude rounds lambda = some arc) :
    ∃ last, Arc.between p q last = some arc := by
  induction rounds generalizing lambda with
  | zero => exact ⟨lambda, settled⟩
  | succ rounds ih =>
    rw [settleArc] at settled
    cases round : Arc.between p q lambda with
    | none =>
      rw [round] at settled
      cases settled
    | some first =>
      simp only [round] at settled
      split at settled
      next near =>
        cases settled
        exact ⟨lambda, round⟩
      next far => exact ih settled

/-! ### Courses -/

/-- An arc that is found has a direction at its first end. -/
theorem Arc.direction_of_between {lambda : ℝ} {arc : Arc ℝ}
    (found : Arc.between p q lambda = some arc) :
    q.cosU * arc.sinLambda * (q.cosU * arc.sinLambda)
        + (p.cosU * q.sinU - p.sinU * q.cosU * arc.cosLambda)
          * (p.cosU * q.sinU - p.sinU * q.cosU * arc.cosLambda) ≠ 0 := by
  have zero : (0.0 : ℝ) = 0 := by norm_num
  have sqrt_zero : TrigScalar.sqrt (0 : ℝ) = 0 := Real.sqrt_zero
  unfold between at found
  dsimp only at found
  split at found
  next => cases found
  next long =>
    cases found
    intro still
    rw [still, sqrt_zero, zero] at long
    exact long (beq_self_eq_true 0)

/-- The initial course is the one that leads back from the other end of the mirror image. -/
theorem Arc.initial_eq_reverse_mirrored {lambda : ℝ} {arc : Arc ℝ}
    (found : Arc.between p q lambda = some arc) :
    (arc.course p q).initial = (arc.mirrored.course q p).reverse := by
  have half : (180.0 : ℝ) = 180 := by norm_num
  have along : -q.sinU * p.cosU + q.cosU * p.sinU * arc.cosLambda =
      -(p.cosU * q.sinU - p.sinU * q.cosU * arc.cosLambda) := by ring
  simp only [course, mirrored, half, along, mul_neg]
  exact (Angle.wrap360_opposite (direction_of_between found)).symm

theorem Arc.mirrored_mirrored (arc : Arc ℝ) : arc.mirrored.mirrored = arc := by
  simp only [mirrored, neg_neg]

/-- Seen from its other end, a mirror image has the courses of the arc at their other ends. -/
theorem Arc.course_mirrored (hp : p.OnCircle) (hq : q.OnCircle) {lambda : ℝ} {arc : Arc ℝ}
    (found : Arc.between p q lambda = some arc) :
    arc.mirrored.course q p =
      { initial := (arc.course p q).reverse
        reverse := (arc.course p q).initial
        distance := (arc.course p q).distance } := by
  have mirrored : Arc.between q p (-lambda) = some arc.mirrored := by
    rw [between_mirrored hp hq, found, Option.map_some]
  -- The mirror image is an arc in its own right, and its mirror image is the first one.
  have initial : (arc.mirrored.course q p).initial = (arc.course p q).reverse := by
    rw [initial_eq_reverse_mirrored mirrored, mirrored_mirrored]
  have reverse := initial_eq_reverse_mirrored found
  rw [← initial, reverse]
  rfl

end Ellipsoid

/-- From the goal back to the start it is as far as from the start to the goal, and the courses at
the two ends change places. This holds wherever the iteration ends: when it settles, after its last
round, and where it finds no distance between the two. -/
theorem Position.courseTo_swap (start goal : Position ℝ) :
    goal.courseTo start =
      { initial := (start.courseTo goal).reverse
        reverse := (start.courseTo goal).initial
        distance := (start.courseTo goal).distance } := by
  have hp := Ellipsoid.Parallel.onCircle_ofLatitude start.latitude
  have hq := Ellipsoid.Parallel.onCircle_ofLatitude goal.latitude
  have opposite : Angle.toRadians (start.longitude - goal.longitude) =
      -Angle.toRadians (goal.longitude - start.longitude) := by
    rw [Angle.toRadians_real, Angle.toRadians_real, ← neg_mul, neg_sub]
  simp only [courseTo, opposite, Ellipsoid.settleArc_mirrored hp hq]
  cases settled : Ellipsoid.settleArc (.ofLatitude start.latitude) (.ofLatitude goal.latitude)
    (Angle.toRadians (goal.longitude - start.longitude)) (Ellipsoid.maxRounds - 1)
    (Angle.toRadians (goal.longitude - start.longitude)) with
  | none => rfl
  | some arc =>
    obtain ⟨last, found⟩ := Ellipsoid.exists_between_of_settleArc settled
    exact Ellipsoid.Arc.course_mirrored hp hq found

end LandingGuidance

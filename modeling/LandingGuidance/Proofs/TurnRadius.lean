import Mathlib
import LandingGuidance.Proofs.DoubleValue
import LandingGuidance.Proofs.ExactArithmetic
import LandingGuidance.Proofs.Runs

/-!
# The turn radius

A written turn radius below the minimum gives way to the default, and one that is read from the
store later on is only taken if it is at least the minimum. So whatever others write in the store,
the circle does not collapse, and the capture test divides by a radius that is not zero.
-/

namespace LandingGuidance

open Scalar

variable {α : Type} [Scalar α]

/-! ### The two checks -/

/-- The check of a written value passes on what is not below the minimum, if the default is not. -/
theorem LimitedSetting.minimum_le_effective [OrderedScalar α] {setting : LimitedSetting} {value : α}
    (sound : setting.minimum ≤ (setting.default : α)) (defined : Defined value) :
    setting.minimum ≤ setting.effective value := by
  unfold effective
  split
  next below => exact sound
  next notBelow =>
    exact OrderedScalar.le_of_not_lt (OrderedScalar.defined_left sound) defined notBelow

theorem LimitedSetting.minimum_le_default (setting : LimitedSetting) :
    setting.minimum ≤ (setting.default : Float) := by
  cases setting <;> decide +kernel

/-- The check of a value in the store keeps the old radius or takes one that passes. -/
theorem Settings.minimum_le_reshapedRadius {settings : Settings α} (s : Store α)
    (bounded : LimitedSetting.turnRadius.minimum ≤ settings.turnRadius) :
    LimitedSetting.turnRadius.minimum ≤ settings.reshapedRadius s := by
  unfold reshapedRadius
  split
  · split
    next accepted => exact accepted
    next refused => exact bounded
  · exact bounded

/-! ### Every operation keeps the bound -/

/-- The turn radius in force and that of the approach are at least the minimum. -/
structure LandingTask.RadiusBounded (task : LandingTask α) : Prop where
  settings : LimitedSetting.turnRadius.minimum ≤ task.settings.turnRadius
  approach : ∀ approach, task.approach = some approach →
    LimitedSetting.turnRadius.minimum ≤ approach.radius

section Operations

variable {α : Type} [TrigScalar α] [TwoPlaces α]

theorem LandingTask.RadiusBounded.rebuild {task : LandingTask α} (bounded : task.RadiusBounded)
    (v : Vehicle α) : (task.rebuild v).2.1.RadiusBounded where
  settings := Settings.minimum_le_reshapedRadius v.store bounded.settings
  approach approach planned := by
    -- The approach is planned with the radius that is then in force.
    cases planned
    exact Settings.minimum_le_reshapedRadius v.store bounded.settings

theorem LandingTask.RadiusBounded.prepare {task : LandingTask α} (bounded : task.RadiusBounded)
    (v : Vehicle α) : (task.prepare v).1.RadiusBounded := by
  unfold LandingTask.prepare
  split
  · exact bounded
  · exact bounded.rebuild v

theorem Flight.radiusBounded_step {flight : Flight α} (operation : Operation α)
    (bounded : flight.task.RadiusBounded) :
    (flight.step operation).1.task.RadiusBounded := by
  cases operation with
  | activate =>
    have prepared := bounded.prepare flight.vehicle
    exact ⟨prepared.settings, prepared.approach⟩
  | update =>
    rcases flight.step_update_cases with ⟨g, approach, hg, happroach⟩ | ⟨_, idle⟩
    · rw [step_update_of_some hg happroach]
      exact ⟨bounded.settings, bounded.approach⟩
    · rw [idle]
      exact bounded
  | rebuild => exact bounded.rebuild flight.vehicle
  | close => exact ⟨bounded.settings, bounded.approach⟩
  | put path value => exact bounded
  | log event => exact bounded

end Operations

/-! ### The capture test -/

theorem isCircleCapture_iff {distance radius : ℝ} (positive : 0 < radius)
    (nonnegative : 0 ≤ distance) :
    isCircleCapture distance radius = true ↔
      0.75 * radius < distance ∧ distance < 1.25 * radius := by
  have zero : (0.0 : ℝ) = 0 := by norm_num
  have fraction : Scalar.abs (distance / radius) = distance / radius := by
    rw [Scalar.abs, zero, if_neg (not_lt.mpr (by positivity))]
  rw [isCircleCapture, fraction, decide_eq_true_iff, lt_div_iff₀ positive, div_lt_iff₀ positive]

namespace Flight

/-- From a turn radius that is defined, no run of a new task reaches a turn radius below one meter,
neither in the settings nor in the approach. So the capture test does not divide by zero, and for a
finite radius it holds in exact arithmetic just within a quarter of it. -/
theorem turnRadius_never_collapses (entry : LandEntry Float) (v : Vehicle Float)
    (operations : List (Operation Float)) (defined : Defined entry.turnRadius) :
    let task := ((start entry v).run operations).task
    1.0 ≤ task.settings.turnRadius ∧
      ∀ approach, task.approach = some approach →
        1.0 ≤ approach.radius ∧ (approach.radius == 0.0) = false ∧
          ∀ radius : ℚ, Binary64.value? approach.radius = some radius →
            ∀ distance : ℝ, 0 ≤ distance →
              (isCircleCapture distance radius = true ↔
                0.75 * radius < distance ∧ distance < 1.25 * radius) := by
  intro task
  have initial : (start entry v).task.RadiusBounded := by
    constructor
    · exact LimitedSetting.minimum_le_effective (LimitedSetting.minimum_le_default _) defined
    · intro approach planned
      cases planned
  have bounded : task.RadiusBounded :=
    run_invariant (I := fun flight => flight.task.RadiusBounded) (A := fun _ => True)
      (fun _ operation _ => radiusBounded_step operation) (fun _ _ => trivial) initial
  refine ⟨bounded.settings, ?_⟩
  intro approach planned
  have atLeast : (1.0 : Float) ≤ approach.radius := bounded.approach approach planned
  refine ⟨atLeast, ?_, ?_⟩
  · rw [← Bool.not_eq_true]
    intro zero
    have : (1.0 : Float) ≤ 0.0 := OrderedScalar.le_trans atLeast (Binary64.le_of_beq zero)
    exact absurd this (by decide +kernel)
  · intro radius value distance nonnegative
    have least : 1 ≤ radius := Binary64.value?_mono atLeast Binary64.value?_one value
    have positive : (0 : ℝ) < radius := by exact_mod_cast zero_lt_one.trans_le least
    exact isCircleCapture_iff positive nonnegative

/-- A zero radius in the entry, then an undefined and a negative one in the store: the radius stays
at the default of 75 meters, and 60 meters from the center is a capture. -/
theorem turnRadius_never_collapses_undefined_radius :
    let operations : List (Operation Float) :=
      [.put Property.landTurnRadius (some (.number (0.0 / 0.0))), .activate,
        .put Property.landTurnRadius (some (.number (-5.0))), .rebuild, .close]
    let task := ((start LandEntry.blank (Vehicle.ofStore Store.empty)).run operations).task
    Defined (LandEntry.blank : LandEntry Float).turnRadius ∧ 1.0 ≤ task.settings.turnRadius ∧
      ∃ approach, task.approach = some approach ∧ 1.0 ≤ approach.radius ∧
        Binary64.value? approach.radius = some 75 ∧ isCircleCapture (60 : ℝ) 75 = true := by
  intro operations task
  have defined : Defined (LandEntry.blank : LandEntry Float).turnRadius := by
    unfold Defined isUndefined
    decide +kernel
  have planned : ∃ approach, task.approach = some approach ∧
      Binary64.ofFloat approach.radius = .finite false (75 * 2 ^ 46) (-46) :=
    ⟨_, rfl, by decide +kernel⟩
  obtain ⟨approach, happroach, bits⟩ := planned
  have value : Binary64.value? approach.radius = some 75 := by
    rw [Binary64.value?, bits, Binary64.toRat?]
    norm_num
  obtain ⟨settings, bounded⟩ :=
    turnRadius_never_collapses LandEntry.blank (Vehicle.ofStore Store.empty) operations defined
  obtain ⟨atLeast, _, capture⟩ := bounded approach happroach
  refine ⟨defined, settings, approach, happroach, atLeast, value, ?_⟩
  exact_mod_cast (capture 75 value 60 (by norm_num)).mpr (by norm_num)

end Flight

end LandingGuidance

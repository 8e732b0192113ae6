import Mathlib
import LandingGuidance.Proofs.CircleDistance
import LandingGuidance.Proofs.DistanceSource
import LandingGuidance.Proofs.FlareStart
import LandingGuidance.Proofs.SettingsInStore
import LandingGuidance.Proofs.TurnRadius

/-!
# Bounds of the distance on the circle

The arc that is counted is at most half a circle, and at most ten degrees are taken away for an
aircraft past the start of the final leg. The final leg is as long as the circle is wide and has its
extension more, as the two were when the approach was planned. So in exact arithmetic the distance
to go on a circle is positive unless the extension was negative, whatever the settings are by now.
-/

namespace LandingGuidance

/-! ### When the approach was planned -/

namespace Flight

section

variable {α : Type}

/-- Whether an operation plans an approach: a rebuild does, and an activation without one. -/
def Plans (flight : Flight α) (operation : Operation α) : Prop :=
  operation = .rebuild ∨ operation = .activate ∧ flight.task.approach = none

/-- The settings that an approach is planned with. -/
def shaping [Scalar α] (flight : Flight α) : Settings α :=
  flight.task.settings.reshaped flight.vehicle.store

variable [TrigScalar α]

/-- The approach that an operation which plans one comes to. -/
def planning (flight : Flight α) : Approach α :=
  Approach.plan flight.shaping (Home.ofStore flight.vehicle.store)

variable [TwoPlaces α]

/-- An approach is planned by an operation or was there before it. -/
theorem approach_step_cases {flight : Flight α} {operation : Operation α} {approach : Approach α}
    (held : (flight.step operation).1.task.approach = some approach) :
    flight.Plans operation ∧ approach = flight.planning ∨
      operation ≠ .rebuild ∧ flight.task.approach = some approach := by
  cases operation with
  | activate =>
    change (flight.task.prepare flight.vehicle).1.approach = some approach at held
    cases before : flight.task.approach with
    | none =>
      rw [flight.task.prepare_of_none flight.vehicle before] at held
      exact Or.inl ⟨Or.inr ⟨rfl, before⟩, (Option.some.inj held).symm⟩
    | some earlier =>
      rw [flight.task.prepare_of_some flight.vehicle before, before] at held
      exact Or.inr ⟨nofun, held⟩
  | rebuild => exact Or.inl ⟨Or.inl rfl, (Option.some.inj held).symm⟩
  | update => exact Or.inr ⟨nofun, flight.task.approach_update _ ▸ held⟩
  | close | put | log => exact Or.inr ⟨nofun, held⟩

/-- The approach of a run that began without one is that of its latest rebuild, or of its first
activation if there was no rebuild. -/
theorem exists_plans_of_run {flight : Flight α} (unplanned : flight.task.approach = none)
    {operations : List (Operation α)} {approach : Approach α}
    (held : (flight.run operations).task.approach = some approach) :
    ∃ earlier operation later, operations = earlier ++ operation :: later ∧ .rebuild ∉ later ∧
      (flight.run earlier).Plans operation ∧ approach = (flight.run earlier).planning := by
  -- By induction from the end: the latest operation plans the approach, or else it keeps the one
  -- that the operations before it have come to.
  induction operations using List.reverseRecOn with
  | nil => cases unplanned.symm.trans held
  | append_singleton operations last ih =>
    rw [run_append, run_cons, run_nil] at held
    rcases approach_step_cases held with ⟨plans, planned⟩ | ⟨kept, before⟩
    · exact ⟨operations, last, [], rfl, List.not_mem_nil, plans, planned⟩
    · obtain ⟨earlier, operation, later, rfl, none, plans, planned⟩ := ih before
      refine ⟨earlier, operation, later ++ [last], by simp, ?_, plans, planned⟩
      simp [none, kept.symm]

end

/-- In exact arithmetic there is no number that the checks of the turn radius let through below the
minimum. -/
theorem radiusBounded_run_start (entry : LandEntry ℝ) (v : Vehicle ℝ)
    (operations : List (Operation ℝ)) :
    ((start entry v).run operations).task.RadiusBounded := by
  refine run_invariant (I := fun flight => flight.task.RadiusBounded) (A := fun _ => True)
    (fun _ operation _ => radiusBounded_step operation) (fun _ _ => trivial) ?_
  constructor
  · refine LimitedSetting.minimum_le_effective ?_ (Scalar.defined_real _)
    change (1.0 : ℝ) ≤ 75.0
    norm_num
  · intro approach planned
    cases planned

end Flight

/-! ### The distance of a fix -/

/-- The arc that is counted is more than ten degrees backwards and at most half a circle. -/
theorem Approach.angleToGo_fix_bounds (approach : Approach ℝ) (position : Position ℝ)
    (captured : Bool) :
    -(Real.pi / 18) < (approach.fix position).angleToGo captured ∧
      (approach.fix position).angleToGo captured ≤ Real.pi := by
  have radian_pos : 0 < Real.pi / 180 := by positivity
  have half : -(Real.pi / 18) < Real.pi ∧ Real.pi ≤ Real.pi := by
    constructor <;> linarith [Real.pi_pos]
  -- The wrapped angle is less than half a circle; below it is bounded by the window only.
  obtain ⟨⟨_, below⟩, _⟩ : (approach.fix position).angle ∈ Set.Ico (-180) 180 ∧ _ :=
    Angle.wrap180_eq_iff.mp rfl
  cases captured with
  | false =>
    have counted : (approach.fix position).angleToGo false = Real.pi := if_neg (by simp)
    rw [counted]
    exact half
  | true =>
    rw [CircleFix.angleToGo_of_captured]
    split
    next near =>
      constructor
      · have := mul_lt_mul_of_pos_right near radian_pos
        linarith
      · have := mul_lt_mul_of_pos_right below radian_pos
        linarith
    next far => exact half

theorem Approach.distanceToGo_le {approach : Approach ℝ} (radius : 0 ≤ approach.radius)
    (position : Position ℝ) (captured : Bool) :
    approach.distanceToGo (approach.fix position) captured ≤
      (approach.fix position).distance - approach.radius + Real.pi * approach.radius
        + approach.finalLeg := by
  have arc := mul_le_mul_of_nonneg_right
    (approach.angleToGo_fix_bounds position captured).2 radius
  unfold distanceToGo
  linarith

/-- A planned final leg is at least as long as the circle is wide, if its extension is not
negative. -/
theorem Approach.two_mul_radius_le_finalLeg {settings : Settings ℝ}
    (extension : 0 ≤ settings.finalLegExtension) (home : Home ℝ) :
    2 * (plan settings home).radius ≤ (plan settings home).finalLeg := by
  have two : (2.0 : ℝ) = 2 := by norm_num
  change 2 * settings.turnRadius ≤ 2.0 * settings.turnRadius + settings.finalLegExtension
  rw [two]
  linarith

/-- The final leg makes up for the radius that is taken away, and for the ten degrees. -/
theorem Approach.lt_distanceToGo {approach : Approach ℝ} (radius : 0 < approach.radius)
    (finalLeg : 2 * approach.radius ≤ approach.finalLeg) {position : Position ℝ}
    (distance : 0 ≤ (approach.fix position).distance) (captured : Bool) :
    (1 - Real.pi / 18) * approach.radius <
      approach.distanceToGo (approach.fix position) captured := by
  have arc := mul_lt_mul_of_pos_right
    (approach.angleToGo_fix_bounds position captured).1 radius
  unfold distanceToGo
  linarith

theorem secondsToTouchdown_pos {distance : ℝ} (positive : 0 < distance) (groundSpeed : ℝ) :
    0 < secondsToTouchdown distance groundSpeed := by
  unfold secondsToTouchdown
  split
  next moves =>
    have : (0 : ℝ) < groundSpeed := lt_trans (by norm_num) moves
    positivity
  next stands => norm_num

/-! ### On the circle -/

namespace Flight

/-- In every run of a new task, an active task flies the approach that its latest planning came to,
with a radius of at least a meter. An update on the circle then reports a distance of at most the
way to the circle, half of the circle and the final leg, whichever way the circle turns. If the
extension of the final leg was not negative in the settings of that planning, the distance is more
than about four fifths of the radius, so it and the time to touchdown are positive, and a flare that
begins is one of a positive length. -/
theorem distanceToGo_on_circle (entry : LandEntry ℝ) (v : Vehicle ℝ)
    {operations : List (Operation ℝ)}
    (active : ((start entry v).run operations).task.isActive = true)
    (circle : ((start entry v).run operations).vehicle.store.Navigates .circle) :
    let reached := (start entry v).run operations
    ∃ earlier operation later report,
      operations = earlier ++ operation :: later ∧ .rebuild ∉ later ∧
      let planner := (start entry v).run earlier
      let approach := planner.planning
      let distance := (approach.center.courseTo
        (Telemetry.ofStore reached.vehicle.store).position).distance
      planner.Plans operation ∧ reached.task.approach = some approach ∧
      (reached.step .update).2 = .report (some report) ∧ 1 ≤ approach.radius ∧
      report.distanceToGo ≤
        (distance - approach.radius) + Real.pi * approach.radius + approach.finalLeg ∧
      (0 ≤ planner.shaping.finalLegExtension → 0 ≤ distance →
        (1 - Real.pi / 18) * approach.radius < report.distanceToGo ∧
        0 < report.distanceToGo ∧ 0 < report.secondsToTouchdown ∧
        (.flareStart ∈ reached.appended .update →
          0 < (reached.task.settings.retuned reached.vehicle.store).flareSeconds)) := by
  intro reached
  obtain ⟨g, approach, hg, happroach⟩ :=
    (equipped_run_start entry v operations).underway_iff.mpr active
  have unplanned : (start entry v).task.approach = none := rfl
  obtain ⟨earlier, operation, later, split, last, plans, planned⟩ :=
    exists_plans_of_run unplanned happroach
  have measured := g.lateral_distanceToGo_of_circling approach
    ((Store.circling_iff reached.vehicle.store).mpr circle)
  have radius : 1 ≤ approach.radius := by
    have bounded : (1.0 : ℝ) ≤ approach.radius :=
      (radiusBounded_run_start entry v operations).approach approach happroach
    norm_num at bounded
    exact bounded
  refine ⟨earlier, operation, later, (reached.cycle g approach).report, split, last, plans, ?_⟩
  rw [← planned]
  refine ⟨happroach, congrArg Prod.snd (step_update_of_some hg happroach), radius, ?_, ?_⟩
  · exact measured.trans_le (Approach.distanceToGo_le (by linarith) _ _)
  · intro extension distance
    -- The final leg has the extension of the planning, whatever the settings are by now.
    have finalLeg : 2 * approach.radius ≤ approach.finalLeg := by
      rw [planned]
      exact Approach.two_mul_radius_le_finalLeg extension _
    have far : (1 - Real.pi / 18) * approach.radius <
        (reached.cycle g approach).report.distanceToGo :=
      (Approach.lt_distanceToGo (by linarith) finalLeg distance _).trans_eq measured.symm
    have ahead : 0 < (reached.cycle g approach).report.distanceToGo := by
      have share : 0 < 1 - Real.pi / 18 := by linarith [Real.pi_le_four]
      have left := mul_pos share (by linarith : 0 < approach.radius)
      exact left.trans far
    have seconds : 0 < (reached.cycle g approach).report.secondsToTouchdown :=
      secondsToTouchdown_pos ahead _
    refine ⟨far, ahead, seconds, ?_⟩
    intro begins
    rw [appended_update hg happroach, Cycle.flareStart_mem_events] at begins
    exact seconds.trans_le (Guidance.flareBegins_cycle_iff.mp begins).2

/-- In the middle of the circle, with an extension of less than no length written after the
planning. -/
theorem distanceToGo_on_circle_at_center :
    let created : Flight ℝ := start LandEntry.blank (Vehicle.ofStore Store.empty)
    let center := created.planning.center
    let operations : List (Operation ℝ) :=
      [.activate, .put Property.landFinalLegExtension (some (.number (-1000))),
        .put Property.positionLatitude (some (.number center.latitude)),
        .put Property.positionLongitude (some (.number center.longitude))]
    let reached := created.run operations
    reached.task.isActive = true ∧ reached.vehicle.store.Navigates .circle ∧
      0 ≤ created.shaping.finalLegExtension ∧
      ∃ report, (reached.step .update).2 = .report (some report) ∧
        (1 - Real.pi / 18) * created.planning.radius < report.distanceToGo := by
  intro created center operations reached
  have active : reached.task.isActive = true := rfl
  have written : reached.vehicle.store =
      (((created.step .activate).1.vehicle.store.put Property.landFinalLegExtension
        (some (.number (-1000)))).put Property.positionLatitude
          (some (.number center.latitude))).put Property.positionLongitude
            (some (.number center.longitude)) := rfl
  have circle : reached.vehicle.store.Navigates .circle := by
    unfold Store.Navigates
    rw [written, Store.get?_put, if_neg (by decide), Store.get?_put, if_neg (by decide),
      Store.get?_put, if_neg (by decide)]
    exact created.navigates_step_activate
  have extension : 0 ≤ created.shaping.finalLegExtension := by
    have unwritten : created.vehicle.store.get? Property.landFinalLegExtension =
        some (.number 0.0) :=
      Store.get?_setAll Store.empty _ .landFinalLegExtension
    change 0 ≤ (created.vehicle.store.number? Property.landFinalLegExtension).getD 0.0
    rw [Store.number?_of_get? unwritten]
    norm_num
  have here : (Telemetry.ofStore reached.vehicle.store).position = center := by
    have latitude : reached.vehicle.store.get? Property.positionLatitude =
        some (.number center.latitude) := by
      rw [written, Store.get?_put, if_neg (by decide), Store.get?_put, if_pos rfl]
    have longitude : reached.vehicle.store.get? Property.positionLongitude =
        some (.number center.longitude) := by
      rw [written, Store.get?_put, if_pos rfl]
    simp only [Telemetry.ofStore, Store.number, latitude, longitude, Value.toNumber]
  obtain ⟨earlier, operation, later, report, split, _, plans, _, answered, _, _, ahead⟩ :=
    distanceToGo_on_circle LandEntry.blank (Vehicle.ofStore Store.empty) active circle
  have first : earlier = [] := by
    cases earlier with
    | nil => rfl
    | cons first rest =>
      -- No operation after the activation plans anything.
      have puts : operations.tail = rest ++ operation :: later := congrArg List.tail split
      have member : operation ∈ operations.tail := by
        rw [puts]
        exact List.mem_append_right rest List.mem_cons_self
      rcases plans with rfl | ⟨rfl, _⟩
      · simp [operations] at member
      · simp [operations] at member
  subst first
  rw [here] at ahead
  have still : 0 ≤ (center.courseTo center).distance := by
    rw [Position.courseTo_self]
  exact ⟨active, circle, extension, report, answered, (ahead extension still).1⟩

end Flight

end LandingGuidance

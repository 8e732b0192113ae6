import Mathlib
import LandingGuidance.Proofs.Angles
import LandingGuidance.Proofs.TwoRuns

/-!
# Whole turns make no difference

An azimuth and a longitude are given up to whole turns. In exact arithmetic it does not matter which
of its representatives an angle is given by: the circle is put in the same place, and every cycle
answers, logs and writes the same. The final heading is the one thing that keeps the turns of the
azimuth of home, and it goes through a wrap wherever it is used.
-/

namespace LandingGuidance

/-! ### Courses and projections -/

namespace Ellipsoid

theorem Arc.between_add_turns (p q : Parallel ℝ) (lambda : ℝ) (turns : ℤ) :
    Arc.between p q (lambda + turns * (2 * Real.pi)) = Arc.between p q lambda := by
  have sin : TrigScalar.sin (lambda + turns * (2 * Real.pi)) = TrigScalar.sin lambda :=
    Real.sin_add_int_mul_two_pi lambda turns
  have cos : TrigScalar.cos (lambda + turns * (2 * Real.pi)) = TrigScalar.cos lambda :=
    Real.cos_add_int_mul_two_pi lambda turns
  rw [between, between, sin, cos]

theorem Arc.nextLambda_add_turns (arc : Arc ℝ) (longitude : ℝ) (turns : ℤ) :
    arc.nextLambda (longitude + turns * (2 * Real.pi)) =
      arc.nextLambda longitude + turns * (2 * Real.pi) := by
  rw [nextLambda, nextLambda]
  ring

/-- The turns of the longitude difference go along with the iteration, and the rounds find the same
arcs and settle at the same time. -/
theorem settleArc_add_turns (p q : Parallel ℝ) (longitude : ℝ) (rounds : Nat) (lambda : ℝ)
    (turns : ℤ) :
    settleArc p q (longitude + turns * (2 * Real.pi)) rounds (lambda + turns * (2 * Real.pi)) =
      settleArc p q longitude rounds lambda := by
  -- The next longitude difference has the same turns, so the hypothesis is needed for all of them.
  induction rounds generalizing lambda with
  | zero => exact Arc.between_add_turns p q lambda turns
  | succ rounds ih =>
    rw [settleArc, settleArc, Arc.between_add_turns]
    cases Arc.between p q lambda with
    | none => rfl
    | some arc =>
      dsimp only
      rw [arc.nextLambda_add_turns, ih, add_sub_add_right_eq_sub]

end Ellipsoid

namespace Position

/-- The same position, with whole turns added to its longitude. -/
def turned (position : Position ℝ) (turns : ℤ) : Position ℝ :=
  { position with longitude := position.longitude + 360 * turns }

theorem courseTo_turned (start goal : Position ℝ) (turns : ℤ) :
    start.courseTo (goal.turned turns) = start.courseTo goal := by
  have shifted : goal.longitude + 360 * turns - start.longitude =
      goal.longitude - start.longitude + 360 * turns := by ring
  simp only [courseTo, turned, shifted, Angle.toRadians_add_turns, Ellipsoid.settleArc_add_turns]

theorem project_turned (start : Position ℝ) (azimuth distance : ℝ) (turns : ℤ) :
    (start.turned turns).project azimuth distance = start.project azimuth distance := by
  have shifted (x : ℝ) : start.longitude + 360 * turns + x = start.longitude + x + 360 * turns := by
    ring
  simp only [project, turned, shifted, Angle.wrap180_add_turns]

end Position

/-! ### The approach -/

namespace Approach

/-- The same approach, with whole turns added to its final heading. -/
def turned (approach : Approach ℝ) (turns : ℤ) : Approach ℝ :=
  { approach with finalHeading := approach.finalHeading + 360 * turns }

theorem plan_turned (settings : Settings ℝ) (home : Home ℝ) (azimuthTurns longitudeTurns : ℤ) :
    plan settings
        { position := home.position.turned longitudeTurns
          azimuth := home.azimuth + 360 * azimuthTurns } =
      (plan settings home).turned azimuthTurns := by
  have shifted (x : ℝ) : home.azimuth + 360 * azimuthTurns + x =
      home.azimuth + x + 360 * azimuthTurns := by ring
  have fromHome : centerFromHome settings
      { position := home.position.turned longitudeTurns
        azimuth := home.azimuth + 360 * azimuthTurns } = centerFromHome settings home := by
    simp only [centerFromHome, shifted, Angle.wrap360_add_turns]
  simp only [plan, fromHome, Position.project_turned, turned]

theorem fix_turned (approach : Approach ℝ) (position : Position ℝ)
    (headingTurns longitudeTurns : ℤ) :
    (approach.turned headingTurns).fix (position.turned longitudeTurns) =
      approach.fix position := by
  have shifted (x : ℝ) : x - (approach.finalHeading + 360 * headingTurns) =
      x - approach.finalHeading + 360 * (-headingTurns : ℤ) := by
    push_cast
    ring
  simp only [fix, turned, Position.courseTo_turned, shifted, Angle.wrap180_add_turns]

end Approach

/-! ### Flights -/

/-- The properties that hold angles which are given up to whole turns. -/
def directionProperties : List Property := [.homeLongitude, .homeAzimuth, .positionLongitude]

/-- Those of them that an operation reads. -/
def Operation.directions : Operation ℝ → List Property
  | .activate | .rebuild => [.homeLongitude, .homeAzimuth]
  | .update => [.positionLongitude]
  | _ => []

/-- Two flights in which an operation finds the same directions. -/
def Operation.FindsDirections (operation : Operation ℝ) (flight flight' : Flight ℝ) : Prop :=
  ∀ p ∈ operation.directions, ∃ turns : ℤ,
    flight'.vehicle.store.number p = flight.vehicle.store.number p + 360 * turns

/-- Two flights differ by whole turns of the final heading and in the properties that hold angles. -/
structure Flight.SameUpToTurns (flight flight' : Flight ℝ) : Prop where
  task : ∃ turns : ℤ, flight'.task =
    { flight.task with approach := flight.task.approach.map (·.turned turns) }
  vehicle : flight.vehicle.AgreeExcept flight'.vehicle directionProperties

namespace Flight.SameUpToTurns

variable {flight flight' : Flight ℝ}

theorem of_vehicle {task : LandingTask ℝ} {v w : Vehicle ℝ}
    (same : v.AgreeExcept w directionProperties) : SameUpToTurns ⟨task, v⟩ ⟨task, w⟩ where
  task := by
    refine ⟨0, ?_⟩
    have unturned (approach : Approach ℝ) : approach.turned 0 = approach := by
      simp [Approach.turned]
    simp [unturned]
  vehicle := same

theorem put_left (same : SameUpToTurns flight flight') {operation : Operation ℝ}
    (sets : operation.Sets directionProperties) :
    SameUpToTurns (flight.step operation).1 flight' := by
  obtain ⟨p, changed, value, rfl⟩ := sets.eq_put
  exact { same with vehicle := same.vehicle.put_left changed value }

theorem put_right (same : SameUpToTurns flight flight') {operation : Operation ℝ}
    (sets : operation.Sets directionProperties) :
    SameUpToTurns flight (flight'.step operation).1 := by
  obtain ⟨p, changed, value, rfl⟩ := sets.eq_put
  exact { same with vehicle := same.vehicle.put_right changed value }

theorem rebuild (same : SameUpToTurns flight flight')
    (finds : Operation.rebuild.FindsDirections flight flight') :
    SameUpToTurns (flight.step .rebuild).1 (flight'.step .rebuild).1 := by
  obtain ⟨turns, task⟩ := same.task
  have shaping : flight.vehicle.store.Agree flight'.vehicle.store Settings.shaping :=
    same.vehicle.store.agree (by decide)
  obtain ⟨longitudeTurns, longitude⟩ := finds .homeLongitude (by decide)
  obtain ⟨azimuthTurns, azimuth⟩ := finds .homeAzimuth (by decide)
  have latitude : flight.vehicle.store.Agree flight'.vehicle.store [.homeLatitude] :=
    same.vehicle.store.agree (by decide)
  have home : Home.ofStore flight'.vehicle.store =
      { position := (Home.ofStore flight.vehicle.store).position.turned longitudeTurns
        azimuth := (Home.ofStore flight.vehicle.store).azimuth + 360 * azimuthTurns } := by
    simp only [Home.ofStore, Position.turned, longitude, azimuth,
      latitude.number (p := .homeLatitude) (by decide)]
  constructor
  case task =>
    refine ⟨azimuthTurns, ?_⟩
    simp only [step, LandingTask.rebuild, task, home, Approach.plan_turned,
      ← Settings.reshaped_congr _ shaping, Option.map_some]
  case vehicle =>
    simp only [step, LandingTask.rebuild, task, home, Approach.plan_turned,
      ← Settings.reshaped_congr _ shaping, ← Settings.reshapingWarnings_congr _ shaping]
    exact (same.vehicle.warn _).setAll _

theorem prepare (same : SameUpToTurns flight flight')
    (finds : Operation.activate.FindsDirections flight flight') :
    SameUpToTurns
      ⟨(flight.task.prepare flight.vehicle).1, (flight.task.prepare flight.vehicle).2⟩
      ⟨(flight'.task.prepare flight'.vehicle).1, (flight'.task.prepare flight'.vehicle).2⟩ := by
  obtain ⟨turns, task⟩ := same.task
  cases planned : flight.task.approach with
  | some approach =>
    have planned' : flight'.task.approach = some (approach.turned turns) := by
      rw [task, planned]
      rfl
    rw [flight.task.prepare_of_some flight.vehicle planned,
      flight'.task.prepare_of_some flight'.vehicle planned']
    -- The final heading is not published.
    exact ⟨⟨turns, task⟩, same.vehicle.setAll approach.published⟩
  | none =>
    have planned' : flight'.task.approach = none := by
      rw [task, planned]
      rfl
    rw [flight.task.prepare_of_none flight.vehicle planned,
      flight'.task.prepare_of_none flight'.vehicle planned']
    exact same.rebuild finds

theorem activate (same : SameUpToTurns flight flight')
    (finds : Operation.activate.FindsDirections flight flight') :
    SameUpToTurns (flight.step .activate).1 (flight'.step .activate).1 := by
  have prepared := same.prepare finds
  obtain ⟨turns, task⟩ := prepared.task
  dsimp only at task
  have captured :
      Saved.capture (flight.task.prepare flight.vehicle).2.store Scope.everything =
        Saved.capture (flight'.task.prepare flight'.vehicle).2.store Scope.everything :=
    Saved.capture_congr (prepared.vehicle.store.agree (by decide))
  have takenOver :
      LandingTask.takeOver (flight.task.prepare flight.vehicle).1.settings
          (flight.task.prepare flight.vehicle).2.store =
        LandingTask.takeOver (flight.task.prepare flight.vehicle).1.settings
          (flight'.task.prepare flight'.vehicle).2.store :=
    LandingTask.takeOver_congr rfl rfl (prepared.vehicle.store.agree (by decide))
  simp only [Flight.step, LandingTask.activate, task, ← captured, ← takenOver]
  exact ⟨⟨turns, rfl⟩, (prepared.vehicle.setAll _).record _⟩

theorem cycle (same : SameUpToTurns flight flight')
    (finds : Operation.update.FindsDirections flight flight') {turns : ℤ}
    (task : flight'.task =
      { flight.task with approach := flight.task.approach.map (·.turned turns) })
    (g : Guidance ℝ) (approach : Approach ℝ) :
    flight.cycle g approach = flight'.cycle g (approach.turned turns) := by
  have store := same.vehicle.store
  have motion : (Telemetry.ofStore flight.vehicle.store).SameMotion
      (Telemetry.ofStore flight'.vehicle.store) :=
    Telemetry.sameMotion_ofStore (store.agree (by decide))
  have settings : flight.task.settings.retuned flight.vehicle.store =
      flight'.task.settings.retuned flight'.vehicle.store := by
    rw [task]
    exact flight.task.settings.retuned_congr (store.agree (by decide))
  have references : flight.vehicle.store.Agree flight'.vehicle.store Telemetry.references :=
    store.agree (by decide)
  have radius : approach.radius = (approach.turned turns).radius := rfl
  have finalLeg : approach.finalLeg = (approach.turned turns).finalLeg := rfl
  change Guidance.cycle g _ _ _ = Guidance.cycle g _ _ _
  rw [← settings]
  apply Guidance.cycle_congr (Settings.SameTuning.refl _) radius finalLeg motion
  · apply Guidance.lateral_eq_of_fix motion.circling radius finalLeg
    · intro _
      obtain ⟨longitudeTurns, longitude⟩ := finds .positionLongitude (by decide)
      have latitude : flight.vehicle.store.Agree flight'.vehicle.store [.positionLatitude] :=
        store.agree (by decide)
      have position : (Telemetry.ofStore flight'.vehicle.store).position =
          (Telemetry.ofStore flight.vehicle.store).position.turned longitudeTurns := by
        simp only [Telemetry.ofStore, Position.turned, longitude,
          latitude.number (p := .positionLatitude) (by decide)]
      rw [position, Approach.fix_turned]
    · intro _
      apply Telemetry.routeDistance_congr
      apply store.agree
      unfold Telemetry.routeProperties
      split <;> decide
  · intro _
    exact ⟨references.number (p := .throttle) (by decide),
      references.number (p := .targetPitch) (by decide)⟩

theorem update (same : SameUpToTurns flight flight')
    (finds : Operation.update.FindsDirections flight flight') :
    StepAlike SameUpToTurns flight flight' .update := by
  obtain ⟨turns, task⟩ := same.task
  have guidance : flight'.task.guidance = flight.task.guidance := by rw [task]
  have approach' : flight'.task.approach = flight.task.approach.map (·.turned turns) := by
    rw [task]
  rcases flight.step_update_cases with ⟨g, approach, hg, planned⟩ | ⟨notUnderway, idle⟩
  · have planned' : flight'.task.approach = some (approach.turned turns) := by
      rw [approach', planned]
      rfl
    apply StepAlike.of_cycle hg planned (guidance.trans hg) planned'
      (same.cycle finds task g approach)
    have settings := flight.task.settings.retuned_congr
      (same.vehicle.store.agree (by decide) : flight.vehicle.store.Agree _ Settings.tunables)
    constructor
    case task =>
      refine ⟨turns, ?_⟩
      simp only [afterCycle, task, settings]
    case vehicle => exact (same.vehicle.setAll _).record _
  · rcases flight'.step_update_cases with ⟨g, approach, hg, planned⟩ | ⟨_, idle'⟩
    · rw [approach', Option.map_eq_some_iff] at planned
      obtain ⟨approach, planned, _⟩ := planned
      exact absurd ⟨g, approach, guidance.symm.trans hg, planned⟩ notUnderway
    · exact StepAlike.of_idle idle idle' same

theorem close (same : SameUpToTurns flight flight') :
    SameUpToTurns (flight.step .close).1 (flight'.step .close).1 := by
  obtain ⟨turns, task⟩ := same.task
  constructor
  case task =>
    refine ⟨turns, ?_⟩
    simp only [Flight.step, LandingTask.close, task]
  case vehicle =>
    simp only [Flight.step, LandingTask.close, task]
    apply Vehicle.AgreeExcept.setAll
    split
    · exact same.vehicle.restore _
    · exact same.vehicle

theorem step (same : SameUpToTurns flight flight') {operation : Operation ℝ}
    (finds : operation.FindsDirections flight flight') :
    StepAlike SameUpToTurns flight flight' operation := by
  cases operation with
  | activate => exact StepAlike.of_not_isUpdate rfl (same.activate finds)
  | update => exact same.update finds
  | rebuild => exact StepAlike.of_not_isUpdate rfl (same.rebuild finds)
  | close => exact StepAlike.of_not_isUpdate rfl same.close
  | put path value =>
    exact StepAlike.of_not_isUpdate rfl { same with vehicle := same.vehicle.put path value }
  | log event =>
    exact StepAlike.of_not_isUpdate rfl { same with vehicle := same.vehicle.record [event] }

end Flight.SameUpToTurns

namespace Flight

theorem sameUpToTurns_start (entry : LandEntry ℝ) {v w : Vehicle ℝ}
    (same : v.AgreeExcept w directionProperties) :
    SameUpToTurns (start entry v) (start entry w) :=
  SameUpToTurns.of_vehicle ((same.setAll _).warn _)

/-- In exact arithmetic, take a run of a new task and another one that differs from it in the
longitudes and the azimuth of home and in the longitude of the position only, where each operation
finds them equal up to whole turns. All updates answer and log the same, in the end the two tasks
are the same but for whole turns of the final heading, and the vehicles but for these three
properties. -/
theorem whole_turns_make_no_difference (entry : LandEntry ℝ) {v w : Vehicle ℝ}
    {first second : List (Operation ℝ)} (same : v.AgreeExcept w directionProperties)
    (runs : SideBySide directionProperties Operation.FindsDirections (start entry v)
      (start entry w) first second) :
    let reached := (start entry v).run first
    let reached' := (start entry w).run second
    (start entry v).outputs first = (start entry w).outputs second ∧
      (start entry v).cycleEvents first = (start entry w).cycleEvents second ∧
      reached.task.guidance = reached'.task.guidance ∧
      (∃ turns : ℤ, reached'.task =
        { reached.task with approach := reached.task.approach.map (·.turned turns) }) ∧
      reached.vehicle.AgreeExcept reached'.vehicle directionProperties := by
  intro reached reached'
  obtain ⟨alike, outputs, events⟩ := runs.run (R := SameUpToTurns)
    (fun _ _ _ sets alike => alike.put_left sets) (fun _ _ _ sets alike => alike.put_right sets)
    (fun _ _ _ finds alike => alike.step finds) (sameUpToTurns_start entry same)
  obtain ⟨turns, task⟩ := alike.task
  refine ⟨outputs, events, ?_, ⟨turns, task⟩, alike.vehicle⟩
  rw [task]

theorem number_start_of_direction (entry : LandEntry ℝ) (v : Vehicle ℝ) {p : Property}
    (member : p ∈ directionProperties) :
    (start entry v).vehicle.store.number p = v.store.number p := by
  have stored : (start entry v).vehicle.store.get? p =
      (Store.written entry.settings.published p).or (v.store.get? p) := Store.get?_setAll _ _ p
  simp only [directionProperties, List.mem_cons, List.not_mem_nil, or_false] at member
  rw [Store.number, stored]
  rcases member with rfl | rfl | rfl <;> rfl

/-- On either side of the antimeridian, home lies at 179 degrees east or at 181 degrees west, and the
position at zero or a whole turn from there. -/
theorem whole_turns_make_no_difference_at_antimeridian :
    let v : Vehicle ℝ := Vehicle.ofStore (Store.empty.set Property.homeLongitude (.number 179))
    let w : Vehicle ℝ := Vehicle.ofStore (Store.empty.set Property.homeLongitude (.number (-181)))
    let first : List (Operation ℝ) :=
      [.activate, .put Property.positionLongitude (some (.number 0)), .update]
    let second : List (Operation ℝ) :=
      [.activate, .put Property.positionLongitude (some (.number 360)), .update]
    v.AgreeExcept w directionProperties ∧
      SideBySide directionProperties Operation.FindsDirections (start LandEntry.blank v)
        (start LandEntry.blank w) first second ∧
      (start LandEntry.blank v).outputs first = (start LandEntry.blank w).outputs second ∧
      ((start LandEntry.blank v).run first).vehicle.store.get? Property.circleLongitude =
        ((start LandEntry.blank w).run second).vehicle.store.get? Property.circleLongitude := by
  intro v w first second
  have same : v.AgreeExcept w directionProperties := by
    refine ⟨?_, rfl, rfl⟩
    intro path elsewhere
    have other := elsewhere .homeLongitude (by decide)
    change (Store.set _ _ _).get? path = (Store.set _ _ _).get? path
    rw [Store.get?_set, Store.get?_set, if_neg other, if_neg other]
  have longitude (x : ℝ) :
      (Store.empty.set Property.homeLongitude (.number x)).number Property.homeLongitude = x := by
    rw [Store.number, Store.get?_set_self, Value.toNumber]
  have azimuth (x : ℝ) :
      (Store.empty.set Property.homeLongitude (.number x)).number Property.homeAzimuth = 0.0 := by
    have other : Property.homeLongitude.path ≠ Property.homeAzimuth.path := by decide
    rw [Store.number, Store.get?_set, if_neg other, Store.get?_empty]
    rfl
  have home : Operation.activate.FindsDirections (start LandEntry.blank v)
      (start LandEntry.blank w) := by
    intro p member
    simp only [Operation.directions, List.mem_cons, List.not_mem_nil, or_false] at member
    rcases member with rfl | rfl
    · refine ⟨-1, ?_⟩
      rw [number_start_of_direction (p := .homeLongitude) _ v (by decide),
        number_start_of_direction (p := .homeLongitude) _ w (by decide)]
      change Store.number (Store.set _ _ _) _ = Store.number (Store.set _ _ _) _ + _
      rw [longitude, longitude]
      norm_num
    · refine ⟨0, ?_⟩
      rw [number_start_of_direction (p := .homeAzimuth) _ v (by decide),
        number_start_of_direction (p := .homeAzimuth) _ w (by decide)]
      change Store.number (Store.set _ _ _) _ = Store.number (Store.set _ _ _) _ + _
      rw [azimuth, azimuth]
      norm_num
  have runs : SideBySide directionProperties Operation.FindsDirections
      (start LandEntry.blank v) (start LandEntry.blank w) first second := by
    have positionSets : ∀ value, Operation.Sets directionProperties
        (.put Property.positionLongitude value : Operation ℝ) :=
      fun _ => ⟨.positionLongitude, by decide, rfl⟩
    refine .both home (.left (positionSets _) (.right (positionSets _) (.both ?_ (.nil _ _))))
    intro p member
    simp only [Operation.directions, List.mem_singleton] at member
    subst member
    refine ⟨1, ?_⟩
    change Value.toNumber ((Store.put _ _ _).get? _) = Value.toNumber ((Store.put _ _ _).get? _) + _
    rw [Store.get?_put, Store.get?_put, if_pos rfl, if_pos rfl, Value.toNumber, Value.toNumber]
    norm_num
  obtain ⟨outputs, _, _, _, alike⟩ := whole_turns_make_no_difference LandEntry.blank same runs
  exact ⟨same, runs, outputs, alike.store _ (by decide)⟩

end Flight

end LandingGuidance

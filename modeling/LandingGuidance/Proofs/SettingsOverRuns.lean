import Mathlib
import LandingGuidance.Proofs.CircleBounds
import LandingGuidance.Proofs.Lifecycle
import LandingGuidance.Proofs.TwoRuns

/-!
# Settings over a run

Each setting has one of three rules. The tunables are read again in every cycle, as far as the store
has them. What shapes the approach is read when one is planned. The approach speed and the flaps
stay as the land entry has them. Nothing else reaches the settings: the task does not write where
they are read from, and the elevator of the pilot is added to the height bias of one cycle only.
-/

namespace LandingGuidance

variable {α : Type}

/-! ### What the settings come from -/

theorem Store.getD_number? [Scalar α] (s : Store α) (path : String) (x : α) :
    (s.number? path).getD x = if s.has path then s.number path else x := by
  unfold number?
  split <;> rfl

namespace Settings

/-- Each tunable is what the store holds, and stays as it was if the store holds nothing. -/
structure TunedFrom [Scalar α] (after before : Settings α) (s : Store α) : Prop where
  glideslope : after.glideslope =
    if s.has Property.landGlideslope then s.number Property.landGlideslope else before.glideslope
  finalLegExtension : after.finalLegExtension =
    if s.has Property.landFinalLegExtension then s.number Property.landFinalLegExtension
    else before.finalLegExtension
  altitudeBias : after.altitudeBias =
    if s.has Property.landAltitudeBias then s.number Property.landAltitudeBias
    else before.altitudeBias
  flarePitch : after.flarePitch =
    if s.has Property.landFlarePitch then s.number Property.landFlarePitch else before.flarePitch
  flareSeconds : after.flareSeconds =
    if s.has Property.landFlareSeconds then s.number Property.landFlareSeconds
    else before.flareSeconds

theorem tunedFrom_retuned [Scalar α] (settings : Settings α) (s : Store α) :
    (settings.retuned s).TunedFrom settings s where
  glideslope := s.getD_number? _ _
  finalLegExtension := s.getD_number? _ _
  altitudeBias := s.getD_number? _ _
  flarePitch := s.getD_number? _ _
  flareSeconds := s.getD_number? _ _

/-- The settings that shape an approach and are not tunables are the same. -/
structure SameShape (settings other : Settings α) : Prop where
  lateralOffset : settings.lateralOffset = other.lateralOffset
  turnRadius : settings.turnRadius = other.turnRadius
  turn : settings.turn = other.turn

end Settings

/-- The properties that a task takes its settings and its approach from. -/
def LandingTask.inputs : List Property := Settings.tunables ++ plannedFrom

theorem LandingTask.inputs_not_output : ∀ p ∈ inputs, p ∉ outputProperties := by
  decide

namespace Flight

variable [TrigScalar α] [TwoPlaces α]

/-! ### One operation -/

section Step

variable {flight : Flight α} {operation : Operation α}

theorem step_of_plans (plans : flight.Plans operation) :
    (flight.step operation).1.task.settings = flight.shaping ∧
      (flight.step operation).1.task.approach = some flight.planning := by
  rcases plans with rfl | ⟨rfl, unplanned⟩
  · exact ⟨rfl, rfl⟩
  · have prepared := flight.task.prepare_of_none flight.vehicle unplanned
    change (flight.task.prepare flight.vehicle).1.settings = _ ∧
      (flight.task.prepare flight.vehicle).1.approach = _
    rw [prepared]
    exact ⟨rfl, rfl⟩

/-- Only a cycle changes settings without planning an approach. -/
theorem step_of_not_plans (kept : ¬flight.Plans operation) :
    (flight.step operation).1.task.approach = flight.task.approach ∧
      (operation ≠ .update →
        (flight.step operation).1.task.settings = flight.task.settings) := by
  cases operation with
  | activate =>
    cases planned : flight.task.approach with
    | none => exact absurd (Or.inr ⟨rfl, planned⟩) kept
    | some approach =>
      have prepared := flight.task.prepare_of_some flight.vehicle planned
      change (flight.task.prepare flight.vehicle).1.approach = _ ∧
        (_ → (flight.task.prepare flight.vehicle).1.settings = _)
      rw [prepared]
      exact ⟨planned, fun _ => rfl⟩
  | update => exact ⟨flight.task.approach_update flight.vehicle, fun other => absurd rfl other⟩
  | rebuild => exact absurd (Or.inl rfl) kept
  | close | put | log => exact ⟨rfl, fun _ => rfl⟩

theorem settings_step_update (equipped : flight.task.Equipped) :
    (flight.step .update).1.task.settings =
      if flight.task.isActive then flight.task.settings.retuned flight.vehicle.store
      else flight.task.settings := by
  rcases flight.step_update_cases with ⟨g, approach, hg, happroach⟩ | ⟨notUnderway, idle⟩
  · rw [step_update_of_some hg happroach, if_pos (LandingTask.isActive_of_some hg)]
    rfl
  · rw [equipped.underway_iff] at notUnderway
    rw [idle, if_neg notUnderway]

/-- Settings are read again to plan an approach or for a cycle, or they stay. -/
theorem settings_step_cases (flight : Flight α) (operation : Operation α) :
    flight.Plans operation ∧ (flight.step operation).1.task.settings = flight.shaping ∨
      (flight.step operation).1.task.settings =
        flight.task.settings.retuned flight.vehicle.store ∨
      (flight.step operation).1.task.settings = flight.task.settings := by
  by_cases plans : flight.Plans operation
  · exact Or.inl ⟨plans, (step_of_plans plans).1⟩
  by_cases cycle : operation = .update
  · rw [cycle]
    rcases flight.step_update_cases with ⟨g, approach, hg, happroach⟩ | ⟨_, idle⟩
    · rw [step_update_of_some hg happroach]
      exact Or.inr (Or.inl rfl)
    · rw [idle]
      exact Or.inr (Or.inr rfl)
  · exact Or.inr (Or.inr ((step_of_not_plans plans).2 cycle))

/-- What shapes an approach is read when one is planned, and at no other time. -/
theorem sameShape_step (kept : ¬flight.Plans operation) :
    (flight.step operation).1.task.settings.SameShape flight.task.settings := by
  rcases flight.settings_step_cases operation with ⟨plans, _⟩ | retuned | same
  · exact absurd plans kept
  · rw [retuned]
    exact ⟨rfl, rfl, rfl⟩
  · rw [same]
    exact ⟨rfl, rfl, rfl⟩

/-- The approach speed and the flaps are not read again. -/
theorem fixed_step (flight : Flight α) (operation : Operation α) :
    (flight.step operation).1.task.settings.approachSpeed = flight.task.settings.approachSpeed ∧
      (flight.step operation).1.task.settings.flaps = flight.task.settings.flaps := by
  rcases flight.settings_step_cases operation with ⟨_, shaped⟩ | retuned | same
  · rw [shaped]
    exact ⟨rfl, rfl⟩
  · rw [retuned]
    exact ⟨rfl, rfl⟩
  · rw [same]
    exact ⟨rfl, rfl⟩

/-- A reported safe height comes from the settings after the cycle, the approach and the elevator
that the cycle reads. -/
theorem safeAltitude_of_report {report : Report α}
    (answered : (flight.step .update).2 = .report (some report)) :
    ∃ approach, flight.task.approach = some approach ∧
      let settings := (flight.step .update).1.task.settings
      report.safeAltitude =
        safeAltitude approach.radius approach.finalLeg (Angle.toRadians settings.glideslope)
          (settings.altitudeBias -
            flight.vehicle.store.number Property.pilotElevator * 25.0) := by
  rcases flight.step_update_cases with ⟨g, approach, hg, happroach⟩ | ⟨_, idle⟩
  · rw [step_update_of_some hg happroach] at answered ⊢
    cases answered
    exact ⟨approach, happroach, rfl⟩
  · rw [idle] at answered
    cases answered

end Step

/-! ### Flights that a new task can reach -/

section Reached

variable {entry : LandEntry α} {v : Vehicle α} {flight flight' : Flight α}

/-- A flight is what a new task comes to by some operations. -/
def Reached (entry : LandEntry α) (v : Vehicle α) (flight : Flight α) : Prop :=
  ∃ operations, flight = (start entry v).run operations

theorem reached_start (entry : LandEntry α) (v : Vehicle α) : Reached entry v (start entry v) :=
  ⟨[], rfl⟩

theorem Reached.step (reached : Reached entry v flight) (operation : Operation α) :
    Reached entry v (flight.step operation).1 := by
  obtain ⟨operations, rfl⟩ := reached
  exact ⟨operations ++ [operation], by rw [run_append, run_cons, run_nil]⟩

theorem Reached.equipped (reached : Reached entry v flight) : flight.task.Equipped := by
  obtain ⟨operations, rfl⟩ := reached
  exact equipped_run_start entry v operations

/-- The task leaves alone what it takes its settings and its approach from. -/
theorem Reached.get?_step_of_input (reached : Reached entry v flight) {operation : Operation α}
    (own : operation.OfTask) {p : Property} (input : p ∈ LandingTask.inputs) :
    (flight.step operation).1.vehicle.store.get? p = flight.vehicle.store.get? p := by
  obtain ⟨operations, rfl⟩ := reached
  apply get?_step_of_forall_ne _ own
  intro q written same
  apply LandingTask.inputs_not_output p input
  rw [← Property.path_injective same]
  exact mem_outputProperties_of_mem_writes entry v _ operations operation q written

theorem Reached.fixed (reached : Reached entry v flight) :
    flight.task.settings.approachSpeed = entry.settings.approachSpeed ∧
      flight.task.settings.flaps = entry.settings.flaps := by
  obtain ⟨operations, rfl⟩ := reached
  refine run_invariant (A := fun _ => True) (I := fun flight =>
    flight.task.settings.approachSpeed = entry.settings.approachSpeed ∧
      flight.task.settings.flaps = entry.settings.flaps) ?_ (fun _ _ => trivial) ⟨rfl, rfl⟩
  rintro flight operation - ⟨speed, flaps⟩
  obtain ⟨sameSpeed, sameFlaps⟩ := flight.fixed_step operation
  exact ⟨sameSpeed.trans speed, sameFlaps.trans flaps⟩

end Reached

/-! ### Runs that differ elsewhere -/

/-- Two flights that a new task can reach have the same settings and the same approach, and go on
to take them from the same values. -/
structure SetAlike (entry : LandEntry α) (v : Vehicle α) (flight flight' : Flight α) : Prop where
  reached : Reached entry v flight
  reached' : Reached entry v flight'
  settings : flight.task.settings = flight'.task.settings
  approach : flight.task.approach = flight'.task.approach
  active : flight.task.isActive = flight'.task.isActive
  store : flight.vehicle.store.Agree flight'.vehicle.store LandingTask.inputs

namespace SetAlike

variable {entry : LandEntry α} {v : Vehicle α} {flight flight' : Flight α}

theorem symm (alike : SetAlike entry v flight flight') : SetAlike entry v flight' flight where
  reached := alike.reached'
  reached' := alike.reached
  settings := alike.settings.symm
  approach := alike.approach.symm
  active := alike.active.symm
  store p input := (alike.store p input).symm

theorem shaping (alike : SetAlike entry v flight flight') : flight.shaping = flight'.shaping := by
  have agree : flight.vehicle.store.Agree flight'.vehicle.store Settings.shaping := by
    intro p shapes
    apply alike.store
    simp [LandingTask.inputs, LandingTask.plannedFrom, shapes]
  rw [Flight.shaping, Flight.shaping, alike.settings, Settings.reshaped_congr _ agree]

theorem planning (alike : SetAlike entry v flight flight') :
    flight.planning = flight'.planning := by
  have agree : flight.vehicle.store.Agree flight'.vehicle.store Home.properties := by
    intro p home
    apply alike.store
    simp [LandingTask.inputs, LandingTask.plannedFrom, home]
  rw [Flight.planning, Flight.planning, alike.shaping, Home.ofStore_congr agree]

theorem retuned (alike : SetAlike entry v flight flight') :
    flight.task.settings.retuned flight.vehicle.store =
      flight'.task.settings.retuned flight'.vehicle.store := by
  have agree : flight.vehicle.store.Agree flight'.vehicle.store Settings.tunables := by
    intro p tunable
    exact alike.store p (List.mem_append_left _ tunable)
  rw [alike.settings, Settings.retuned_congr _ agree]

theorem plans_iff (alike : SetAlike entry v flight flight') (operation : Operation α) :
    flight.Plans operation ↔ flight'.Plans operation := by
  rw [Plans, Plans, alike.approach]

theorem settings_step (alike : SetAlike entry v flight flight') (operation : Operation α) :
    (flight.step operation).1.task.settings = (flight'.step operation).1.task.settings := by
  -- Either both flights plan an approach, from the same values, or neither does.
  by_cases plans : flight.Plans operation
  · have plans' := (alike.plans_iff operation).mp plans
    rw [(step_of_plans plans).1, (step_of_plans plans').1, alike.shaping]
  · have kept' := mt (alike.plans_iff operation).mpr plans
    by_cases cycle : operation = .update
    · rw [cycle, settings_step_update alike.reached.equipped,
        settings_step_update alike.reached'.equipped, alike.retuned, alike.settings, alike.active]
    · rw [(step_of_not_plans plans).2 cycle, (step_of_not_plans kept').2 cycle, alike.settings]

theorem approach_step (alike : SetAlike entry v flight flight') (operation : Operation α) :
    (flight.step operation).1.task.approach = (flight'.step operation).1.task.approach := by
  by_cases plans : flight.Plans operation
  · have plans' := (alike.plans_iff operation).mp plans
    rw [(step_of_plans plans).2, (step_of_plans plans').2, alike.planning]
  · have kept' := mt (alike.plans_iff operation).mpr plans
    rw [(step_of_not_plans plans).1, (step_of_not_plans kept').1, alike.approach]

theorem store_step (alike : SetAlike entry v flight flight') (operation : Operation α) :
    (flight.step operation).1.vehicle.store.Agree (flight'.step operation).1.vehicle.store
      LandingTask.inputs := by
  intro p input
  -- The task leaves its inputs alone on both sides, and others put the same there.
  have kept (own : operation.OfTask) := alike.reached.get?_step_of_input own input
  have kept' (own : operation.OfTask) := alike.reached'.get?_step_of_input own input
  have same := alike.store p input
  cases operation with
  | activate | update | rebuild | close => rw [kept trivial, kept' trivial, same]
  | put path value =>
    refine (Store.get?_put _ _ _ _).trans (Eq.trans ?_ (Store.get?_put _ _ _ _).symm)
    rw [same]
  | log event => exact same

theorem step (alike : SetAlike entry v flight flight') (operation : Operation α) :
    SetAlike entry v (flight.step operation).1 (flight'.step operation).1 where
  reached := alike.reached.step operation
  reached' := alike.reached'.step operation
  settings := alike.settings_step operation
  approach := alike.approach_step operation
  active := by rw [isActive_step, isActive_step, alike.active]
  store := alike.store_step operation

/-- A value that somebody puts elsewhere reaches neither the settings nor the approach. -/
theorem step_left (alike : SetAlike entry v flight flight') {properties : List Property}
    (elsewhere : ∀ p ∈ properties, p ∉ LandingTask.inputs) {operation : Operation α}
    (sets : operation.Sets properties) :
    SetAlike entry v (flight.step operation).1 flight' := by
  have reached := alike.reached.step operation
  obtain ⟨p, changed, value, rfl⟩ := sets.eq_put
  refine ⟨reached, alike.reached', alike.settings, alike.approach, alike.active, ?_⟩
  intro q input
  have other : p.path ≠ q.path := by
    intro same
    rw [← Property.path_injective same] at input
    exact elsewhere p changed input
  exact ((Store.get?_put _ _ _ _).trans (if_neg other)).trans (alike.store q input)

theorem run {properties : List Property}
    (elsewhere : ∀ p ∈ properties, p ∉ LandingTask.inputs) {first second : List (Operation α)}
    (runs : SideBySide properties (fun _ _ _ => True) (start entry v) (start entry v) first
      second) :
    SetAlike entry v ((start entry v).run first) ((start entry v).run second) := by
  apply runs.related (R := SetAlike entry v)
  · exact fun _ _ _ sets alike => alike.step_left elsewhere sets
  · exact fun _ _ _ sets alike => (alike.symm.step_left elsewhere sets).symm
  · exact fun _ _ operation _ alike => alike.step operation
  · exact ⟨reached_start entry v, reached_start entry v, rfl, rfl, rfl, fun _ _ => rfl⟩

end SetAlike

/-! ### The settings of a run -/

/-- After any run of a new task, whatever others put in the store meanwhile: an update of the active
task sets each tunable to the value in the store, and keeps it if there is none. An operation that
does not plan an approach keeps what shapes one, and the approach speed and the flaps are those of
the land entry. A run in which the pilot moved the elevator in another way comes to the same
settings and the same approach, and to the same safe height if the elevator is in the same place by
now. -/
theorem settings_over_run (entry : LandEntry α) (v : Vehicle α) (operations : List (Operation α)) :
    let created := start entry v
    let reached := created.run operations
    let s := reached.vehicle.store
    (reached.task.isActive = true →
      let updated := (reached.step .update).1
      updated.task.settings.TunedFrom reached.task.settings s ∧
        s.Agree updated.vehicle.store Settings.tunables ∧
        ∃ approach report, reached.task.approach = some approach ∧
          (reached.step .update).2 = .report (some report) ∧
          report.safeAltitude =
            safeAltitude approach.radius approach.finalLeg
              (Angle.toRadians updated.task.settings.glideslope)
              (updated.task.settings.altitudeBias - s.number Property.pilotElevator * 25.0)) ∧
    (∀ operation, ¬reached.Plans operation →
      (reached.step operation).1.task.settings.SameShape reached.task.settings) ∧
    (reached.task.settings.approachSpeed = entry.settings.approachSpeed ∧
      reached.task.settings.flaps = entry.settings.flaps) ∧
    ∀ others, SideBySide [.pilotElevator] (fun _ _ _ => True) created created operations others →
      let other := created.run others
      other.task.settings = reached.task.settings ∧
        other.task.approach = reached.task.approach ∧
        (other.vehicle.store.number Property.pilotElevator = s.number Property.pilotElevator →
          ∀ report report', (reached.step .update).2 = .report (some report) →
            (other.step .update).2 = .report (some report') →
            report'.safeAltitude = report.safeAltitude) := by
  intro created reached s
  have fromStart : Reached entry v reached := ⟨operations, rfl⟩
  refine ⟨?_, fun operation => sameShape_step, fromStart.fixed, ?_⟩
  · intro active updated
    obtain ⟨g, approach, hg, happroach⟩ := fromStart.equipped.underway_iff.mpr active
    have answered :
        (reached.step .update).2 = .report (some (reached.cycle g approach).report) := by
      rw [step_update_of_some hg happroach]
    refine ⟨?_, ?_, approach, _, happroach, answered, ?_⟩
    · have retuned : updated.task.settings = reached.task.settings.retuned s := by
        rw [settings_step_update fromStart.equipped, if_pos active]
      rw [retuned]
      exact reached.task.settings.tunedFrom_retuned s
    · intro p tunable
      have own : (Operation.update : Operation α).OfTask := trivial
      exact (fromStart.get?_step_of_input own (List.mem_append_left _ tunable)).symm
    · obtain ⟨planned, hplanned, safe⟩ := safeAltitude_of_report answered
      rw [happroach] at hplanned
      cases hplanned
      exact safe
  · intro others runs other
    -- The elevator is not among the values that settings and approach are taken from.
    have alike : SetAlike entry v reached other := SetAlike.run (by decide) runs
    refine ⟨alike.settings.symm, alike.approach.symm, ?_⟩
    intro elevator report report' answered answered'
    obtain ⟨approach, happroach, safe⟩ := safeAltitude_of_report answered
    obtain ⟨approach', happroach', safe'⟩ := safeAltitude_of_report answered'
    rw [← alike.approach, happroach] at happroach'
    cases happroach'
    rw [safe, safe', elevator, alike.settings_step .update]

/-- A glideslope of three degrees is still flown when somebody has removed it from the store, and
the safe height is that of a flight in which the pilot never pulled. -/
theorem settings_over_run_of_removed_glideslope :
    let created : Flight Float := start LandEntry.blank (Vehicle.ofStore Store.empty)
    let operations : List (Operation Float) :=
      [.activate, .put Property.pilotElevator (some (.number (-0.5))),
        .put Property.landGlideslope (some (.number 3.0)), .update,
        .put Property.landGlideslope none, .put Property.pilotElevator none]
    let others : List (Operation Float) :=
      [.activate, .put Property.landGlideslope (some (.number 3.0)), .update,
        .put Property.landGlideslope none, .put Property.pilotElevator none]
    let reached := created.run operations
    let other := created.run others
    reached.task.isActive = true ∧
      (reached.step .update).1.task.settings.glideslope = 3.0 ∧
      ¬reached.Plans .update ∧
      (reached.step .update).1.task.settings.SameShape reached.task.settings ∧
      SideBySide [.pilotElevator] (fun _ _ _ => True) created created operations others ∧
      ∃ report report', (reached.step .update).2 = .report (some report) ∧
        (other.step .update).2 = .report (some report') ∧
        report'.safeAltitude = report.safeAltitude := by
  intro created operations others reached other
  have cycle : ¬reached.Plans .update := by simp [Plans]
  have runs :
      SideBySide [.pilotElevator] (fun _ _ _ => True) created created operations others := by
    refine .both trivial (.left ⟨.pilotElevator, by decide, rfl⟩ (.both trivial ?_))
    exact .both trivial (.both trivial (.both trivial (.nil _ _)))
  have rule := settings_over_run LandEntry.blank (Vehicle.ofStore (Store.empty : Store Float))
  obtain ⟨begun, -, -, -⟩ := rule (operations.take 3)
  obtain ⟨update, shape, -, twice⟩ := rule operations
  obtain ⟨update', -, -, -⟩ := rule others
  obtain ⟨tuned, -, -, report, -, answered, -⟩ := update rfl
  obtain ⟨-, -, -, report', -, answered', -⟩ := update' rfl
  obtain ⟨-, -, safe⟩ := twice others runs
  -- What the store holds elsewhere makes no difference here.
  have tuning (s : Store Float) (held : Float) :
      let t := s.put Property.landGlideslope (some (.number 3.0))
      (if t.has Property.landGlideslope then t.number Property.landGlideslope else held) = 3.0 := by
    simp [Store.has, Store.number, Store.get?_put, Value.toNumber]
  have removing (s : Store Float) (held : Float) :
      let t := (s.put Property.landGlideslope none).put Property.pilotElevator none
      (if t.has Property.landGlideslope then t.number Property.landGlideslope else held) =
        held := by
    simp [Store.has, Store.get?_put]
  have level (s : Store Float) :
      (s.put Property.pilotElevator none).number Property.pilotElevator = 0.0 := by
    simp [Store.number, Store.get?_put, Value.toNumber]
  have three : reached.task.settings.glideslope = 3.0 := by
    have kept (flight : Flight Float) : (flight.run (operations.drop 4)).task = flight.task := rfl
    have parts := created.run_append (operations.take 3) (.update :: operations.drop 4)
    rw [run_cons] at parts
    rw [show reached = _ from parts, kept]
    exact (begun rfl).1.glideslope.trans (tuning _ _)
  exact ⟨rfl, tuned.glideslope.trans ((removing _ _).trans three), cycle, shape _ cycle, runs,
    report, report', answered, answered',
    safe ((level _).trans (level _).symm) report report' answered answered'⟩

end Flight

end LandingGuidance

import LandingGuidance.Binary64.Arithmetic
import LandingGuidance.Proofs.TwoRuns

/-!
# The approach that is flown does not move

An approach is planned from home and from the settings that shape it. What others put there later on
is read again for the settings, but it reaches neither what is published nor a cycle of guidance
until the approach is rebuilt. So two runs that differ in these values only answer, log and write
the same.
-/

namespace LandingGuidance

variable {α : Type}

/-- Two flights hold the same approach and differ neither in guidance nor in a setting that matters
to it; what the approach is planned from may differ. -/
structure Flight.FlownAlike (approach : Approach α) (flight flight' : Flight α) : Prop where
  planned : flight.task.approach = some approach
  planned' : flight'.task.approach = some approach
  guidance : flight.task.guidance = flight'.task.guidance
  saved : flight.task.saved = flight'.task.saved
  tuning : flight.task.settings.SameTuning flight'.task.settings
  approachSpeed : flight.task.settings.approachSpeed = flight'.task.settings.approachSpeed
  flaps : flight.task.settings.flaps = flight'.task.settings.flaps
  vehicle : flight.vehicle.AgreeExcept flight'.vehicle LandingTask.plannedFrom

theorem Flight.FlownAlike.refl {approach : Approach α} {flight : Flight α}
    (planned : flight.task.approach = some approach) : FlownAlike approach flight flight :=
  ⟨planned, planned, rfl, rfl, Settings.SameTuning.refl _, rfl, rfl,
    Vehicle.AgreeExcept.refl _ _⟩

theorem Flight.FlownAlike.symm {approach : Approach α} {flight flight' : Flight α}
    (alike : FlownAlike approach flight flight') : FlownAlike approach flight' flight where
  planned := alike.planned'
  planned' := alike.planned
  guidance := alike.guidance.symm
  saved := alike.saved.symm
  tuning := alike.tuning.symm
  approachSpeed := alike.approachSpeed.symm
  flaps := alike.flaps.symm
  vehicle := alike.vehicle.symm

theorem Settings.SameTuning.retuned [Scalar α] {settings settings' : Settings α}
    (tuning : settings.SameTuning settings') {s t : Store α}
    (same : s.AgreeExcept t LandingTask.plannedFrom) :
    (settings.retuned s).SameTuning (settings'.retuned t) := by
  have agree : s.Agree t [.landGlideslope, .landAltitudeBias, .landFlarePitch, .landFlareSeconds] :=
    same.agree (by decide)
  constructor <;> simp only [Settings.retuned]
  case glideslope => rw [agree.number? (p := .landGlideslope) (by decide), tuning.glideslope]
  case altitudeBias => rw [agree.number? (p := .landAltitudeBias) (by decide), tuning.altitudeBias]
  case flarePitch => rw [agree.number? (p := .landFlarePitch) (by decide), tuning.flarePitch]
  case flareSeconds => rw [agree.number? (p := .landFlareSeconds) (by decide), tuning.flareSeconds]

/-- Nothing that tells the distance to go is a value that an approach is planned from. -/
theorem LandingTask.plannedFrom_not_lateral [Scalar α] (s : Store α) :
    ∀ p ∈ plannedFrom, p ∉ Telemetry.lateralProperties s := by
  unfold Telemetry.lateralProperties Telemetry.routeProperties
  split
  · decide
  · split <;> decide

namespace Flight.FlownAlike

variable [TrigScalar α] {approach : Approach α} {flight flight' : Flight α}

theorem cycle (alike : FlownAlike approach flight flight') (g : Guidance α) :
    flight.cycle g approach = flight'.cycle g approach := by
  have same := alike.vehicle.store
  have motion : (Telemetry.ofStore flight.vehicle.store).SameMotion
      (Telemetry.ofStore flight'.vehicle.store) :=
    Telemetry.sameMotion_ofStore (same.agree (by decide))
  have references : flight.vehicle.store.Agree flight'.vehicle.store Telemetry.references :=
    same.agree (by decide)
  apply Guidance.cycle_congr (alike.tuning.retuned same) rfl rfl motion
  · exact Guidance.lateral_congr motion (same.agree (LandingTask.plannedFrom_not_lateral _))
  · intro _
    exact ⟨references.number (p := .throttle) (by decide),
      references.number (p := .targetPitch) (by decide)⟩

variable [TwoPlaces α]

theorem step_update (alike : FlownAlike approach flight flight') :
    StepAlike (FlownAlike approach) flight flight' .update := by
  rcases flight.step_update_cases with ⟨g, planned, hg, happroach⟩ | ⟨notUnderway, idle⟩
  · rw [alike.planned] at happroach
    cases happroach
    apply StepAlike.of_cycle hg alike.planned (alike.guidance ▸ hg) alike.planned' (alike.cycle g)
    exact
      { planned := alike.planned
        planned' := alike.planned'
        guidance := rfl
        saved := alike.saved
        tuning := alike.tuning.retuned alike.vehicle.store
        approachSpeed := alike.approachSpeed
        flaps := alike.flaps
        vehicle := (alike.vehicle.setAll _).record _ }
  · rcases flight'.step_update_cases with ⟨g, _, hg', _⟩ | ⟨_, idle'⟩
    · exact absurd ⟨g, approach, alike.guidance.trans hg', alike.planned⟩ notUnderway
    · exact StepAlike.of_idle idle idle' alike

theorem related_step_activate (alike : FlownAlike approach flight flight') :
    FlownAlike approach (flight.step .activate).1 (flight'.step .activate).1 := by
  have published := alike.vehicle.setAll approach.published
  have captured : Saved.capture (flight.vehicle.setAll approach.published).store Scope.everything =
      Saved.capture (flight'.vehicle.setAll approach.published).store Scope.everything :=
    Saved.capture_congr (published.store.agree (by decide))
  have takenOver := LandingTask.takeOver_congr alike.approachSpeed alike.flaps
    (published.store.agree (by decide))
  simp only [Flight.step, LandingTask.activate,
    flight.task.prepare_of_some flight.vehicle alike.planned,
    flight'.task.prepare_of_some flight'.vehicle alike.planned', ← captured, ← takenOver]
  exact
    { planned := alike.planned
      planned' := alike.planned'
      guidance := rfl
      saved := congrArg (_ :: ·) alike.saved
      tuning := alike.tuning
      approachSpeed := alike.approachSpeed
      flaps := alike.flaps
      vehicle := (published.setAll _).record _ }

theorem related_step_close (alike : FlownAlike approach flight flight') :
    FlownAlike approach (flight.step .close).1 (flight'.step .close).1 where
  planned := alike.planned
  planned' := alike.planned'
  guidance := rfl
  saved := congrArg List.tail alike.saved
  tuning := alike.tuning
  approachSpeed := alike.approachSpeed
  flaps := alike.flaps
  vehicle := by
    simp only [Flight.step, LandingTask.close, ← alike.saved]
    apply Vehicle.AgreeExcept.setAll
    split
    · exact alike.vehicle.restore _
    · exact alike.vehicle

/-- Whatever happens to the task but a rebuild happens alike. -/
theorem step (alike : FlownAlike approach flight flight') {operation : Operation α}
    (flown : operation ≠ .rebuild) : StepAlike (FlownAlike approach) flight flight' operation := by
  cases operation with
  | activate => exact StepAlike.of_not_isUpdate rfl alike.related_step_activate
  | update => exact alike.step_update
  | rebuild => exact absurd rfl flown
  | close => exact StepAlike.of_not_isUpdate rfl alike.related_step_close
  | put path value =>
    exact StepAlike.of_not_isUpdate rfl { alike with vehicle := alike.vehicle.put path value }
  | log event =>
    exact StepAlike.of_not_isUpdate rfl { alike with vehicle := alike.vehicle.record [event] }

/-- A write of somebody else to what an approach is planned from makes no difference. -/
theorem step_left (alike : FlownAlike approach flight flight') {operation : Operation α}
    (sets : operation.Sets LandingTask.plannedFrom) :
    FlownAlike approach (flight.step operation).1 flight' := by
  obtain ⟨p, changed, value, rfl⟩ := sets.eq_put
  exact { alike with vehicle := alike.vehicle.put_left changed value }

end Flight.FlownAlike

namespace Flight

variable [TrigScalar α] [TwoPlaces α]

/-- From a flight with an approach, take two runs without a rebuild that differ only in what others
put at home and at the settings that shape an approach. All updates answer and log the same, the
approach stays as it was, and in the end the log is the same and so is the store, but for these
properties. -/
theorem approach_stays_until_rebuilt {flight : Flight α} {approach : Approach α}
    {first second : List (Operation α)} (planned : flight.task.approach = some approach)
    (runs : SideBySide LandingTask.plannedFrom (fun operation _ _ => operation ≠ .rebuild)
      flight flight first second) :
    flight.outputs first = flight.outputs second ∧
      flight.cycleEvents first = flight.cycleEvents second ∧
      (flight.run first).vehicle.log = (flight.run second).vehicle.log ∧
      (flight.run first).task.approach = some approach ∧
      (flight.run second).task.approach = some approach ∧
      ∀ path, (∀ p ∈ LandingTask.plannedFrom, p.path ≠ path) →
        (flight.run first).vehicle.store.get? path =
          (flight.run second).vehicle.store.get? path := by
  obtain ⟨alike, outputs, events⟩ := runs.run (R := FlownAlike approach)
    (fun _ _ _ sets alike => alike.step_left sets)
    (fun _ _ _ sets alike => (alike.symm.step_left sets).symm)
    (fun _ _ _ flown alike => alike.step flown) (FlownAlike.refl planned)
  exact ⟨outputs, events, alike.vehicle.log, alike.planned, alike.planned', alike.vehicle.store⟩

/-- A turn radius and a home that are put in while the task is closed do not move the circle of the
next activation. -/
theorem approach_stays_until_rebuilt_over_close :
    let flight : Flight Float :=
      ((start LandEntry.blank (Vehicle.ofStore Store.empty)).step .activate).1
    let first : List (Operation Float) :=
      [.close, .put Property.landTurnRadius (some (.number 300.0)),
        .put Property.homeLatitude (some (.number 45.0)), .activate, .update]
    let second : List (Operation Float) :=
      [.put Property.landFinalLegExtension (some (.text "none")), .close, .activate, .update]
    ∃ approach, flight.task.approach = some approach ∧
      SideBySide LandingTask.plannedFrom (fun operation _ _ => operation ≠ .rebuild)
        flight flight first second ∧
      flight.outputs first = flight.outputs second ∧
      (flight.run first).vehicle.store.get? Property.circleRadius =
        (flight.run second).vehicle.store.get? Property.circleRadius := by
  intro flight first second
  obtain ⟨approach, planned⟩ :=
    Option.isSome_iff_exists.mp (LandingTask.prepare_approach_isSome
      (start LandEntry.blank (Vehicle.ofStore (Store.empty : Store Float))).task
      (start LandEntry.blank (Vehicle.ofStore Store.empty)).vehicle)
  have runs : SideBySide LandingTask.plannedFrom (fun operation _ _ => operation ≠ .rebuild)
      flight flight first second := by
    refine .right ⟨.landFinalLegExtension, by decide, rfl⟩ (.both (by simp) ?_)
    refine .left ⟨.landTurnRadius, by decide, rfl⟩ (.left ⟨.homeLatitude, by decide, rfl⟩ ?_)
    exact .both (by simp) (.both (by simp) (.nil _ _))
  obtain ⟨outputs, _, _, _, _, stored⟩ := approach_stays_until_rebuilt planned runs
  exact ⟨approach, planned, runs, outputs, stored _ (by decide)⟩

end Flight

end LandingGuidance

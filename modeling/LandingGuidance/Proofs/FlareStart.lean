import LandingGuidance.Proofs.Footprints
import LandingGuidance.Proofs.Latches

/-!
# When the flare begins and what it goes by

The flare begins in the cycle that finds touchdown no farther than the flare is long, and it takes
the time, the throttle and the pitch of that cycle for its references. It keeps them: in every later
cycle of the activation the command follows from these, the time and the length of the flare, and
not from what anybody has written to the pitch or the throttle since.
-/

namespace LandingGuidance

variable {α : Type}

theorem Cycle.flareStart_mem_events {c : Cycle α} :
    .flareStart ∈ c.events ↔ c.flareBegins = true := by
  simp [events, Event.flareStart]

/-- A flare that is longer than a hundredth of a second does not look at the flare pitch again. -/
theorem Flare.command_congr [Scalar α] (flare : Flare α) {now seconds : α}
    (lasting : 0.01 < seconds) (first second : α) :
    flare.command now seconds first = flare.command now seconds second := by
  unfold command
  rw [if_pos lasting, if_pos lasting]

/-! ### One cycle -/

namespace Guidance

variable [TrigScalar α] {g : Guidance α} {settings : Settings α} {approach : Approach α}
  {t : Telemetry α}

theorem flareBegins_cycle_iff :
    (g.cycle settings approach t).flareBegins = true ↔
      g.flare = none ∧
        (g.cycle settings approach t).report.secondsToTouchdown ≤ settings.flareSeconds := by
  change (g.flare.isNone && (g.touchdown settings t _).flare.isSome) = true ↔
    _ ∧ secondsToTouchdown _ t.groundSpeed ≤ settings.flareSeconds
  cases begun : g.flare with
  | some flare => simp
  | none =>
    by_cases close : secondsToTouchdown (g.lateral approach t).distanceToGo t.groundSpeed ≤
        settings.flareSeconds
    · simp [touchdown, begun, close]
    · simp [touchdown, begun, close]

/-- The references of a flare are the readings of the cycle in which it begins. -/
theorem flare_cycle_of_flareBegins (begins : (g.cycle settings approach t).flareBegins = true) :
    (g.cycle settings approach t).after.flare =
      some (Flare.begin t.time t.throttle t.targetPitch settings.flarePitch) := by
  obtain ⟨fresh, close⟩ := flareBegins_cycle_iff.mp begins
  change (g.touchdown settings t (g.lateral approach t)).flare = _
  change secondsToTouchdown (g.lateral approach t).distanceToGo t.groundSpeed ≤ _ at close
  simp only [touchdown, fresh, if_pos close]

/-- A cycle commands what the flare that is then underway asks for. -/
theorem report_flare_cycle {flare : Flare α}
    (begun : (g.cycle settings approach t).after.flare = some flare) :
    (g.cycle settings approach t).report.flare =
      some (flare.command t.time settings.flareSeconds settings.flarePitch) := by
  change (g.touchdown settings t (g.lateral approach t)).flare = some flare at begun
  change (g.touchdown settings t (g.lateral approach t)).command = _
  change (g.touchdown settings t _).flare.map _ = _
  rw [begun]
  rfl

end Guidance

/-! ### From the beginning of the flare on -/

namespace Flight

variable [TrigScalar α] [TwoPlaces α] {flight : Flight α}

/-- An update reports a command for the flare and leaves it at the pitch and the throttle. -/
def UpdateCommands (flight : Flight α) (command : FlareCommand α) : Prop :=
  ∃ report, (flight.step .update).2 = .report (some report) ∧ report.flare = some command ∧
    (flight.step .update).1.vehicle.store.get? Property.targetPitch =
      some (.number command.pitch) ∧
    (flight.step .update).1.vehicle.store.get? Property.throttle = some (.number command.throttle)

omit [TwoPlaces α] in
/-- The command of a flare at the time and with the settings that an update finds. -/
def commandOf (flight : Flight α) (flare : Flare α) : FlareCommand α :=
  let settings := flight.task.settings.retuned flight.vehicle.store
  flare.command (Telemetry.ofStore flight.vehicle.store).time settings.flareSeconds
    settings.flarePitch

omit [TwoPlaces α] in
/-- The flare that begins if an update begins one. -/
def nextFlare (flight : Flight α) : Flare α :=
  let t := Telemetry.ofStore flight.vehicle.store
  Flare.begin t.time t.throttle t.targetPitch
    (flight.task.settings.retuned flight.vehicle.store).flarePitch

theorem updateCommands_of_flare {g : Guidance α} {approach : Approach α} {flare : Flare α}
    (hg : flight.task.guidance = some g) (happroach : flight.task.approach = some approach)
    (begun : (flight.cycle g approach).after.flare = some flare) :
    flight.UpdateCommands (flight.commandOf flare) := by
  have commanded : (flight.cycle g approach).touchdown.command = some (flight.commandOf flare) :=
    Guidance.report_flare_cycle begun
  have stepped := step_update_of_some hg happroach
  refine ⟨_, congrArg Prod.snd stepped, commanded, ?_, ?_⟩
  · rw [stepped]
    refine (Store.get?_setAll _ _ .targetPitch).trans ?_
    rw [Cycle.written_commands_targetPitch, commanded]
    rfl
  · rw [stepped]
    refine (Store.get?_setAll _ _ .throttle).trans ?_
    rw [Cycle.written_commands_throttle, commanded]
    rfl

/-- The update that begins the flare takes its references from what it finds. -/
theorem flare_step_of_flareStart (begins : .flareStart ∈ flight.appended .update) :
    ∃ g approach, flight.task.guidance = some g ∧ flight.task.approach = some approach ∧
      (flight.cycle g approach).flareBegins = true ∧
      (flight.cycle g approach).after.flare = some flight.nextFlare := by
  rcases flight.step_update_cases with ⟨g, approach, hg, happroach⟩ | ⟨_, idle⟩
  · rw [appended_update hg happroach, Cycle.flareStart_mem_events] at begins
    exact ⟨g, approach, hg, happroach, begins, Guidance.flare_cycle_of_flareBegins begins⟩
  · -- An update that does nothing logs nothing.
    rw [appended, idle, List.drop_length] at begins
    cases begins

/-- Within the activation, all later updates command the flare that has begun. -/
theorem updateCommands_of_flareStart (begins : .flareStart ∈ flight.appended .update)
    {operations : List (Operation α)}
    (within : ∀ operation ∈ operations, operation.WithinActivation) :
    ((flight.step .update).1.run operations).UpdateCommands
      (((flight.step .update).1.run operations).commandOf flight.nextFlare) := by
  obtain ⟨g, approach, hg, happroach, _, begun⟩ := flare_step_of_flareStart begins
  have stepped := step_update_of_some hg happroach
  have hafter : (flight.step .update).1.task.guidance =
      some (flight.cycle g approach).after := by
    rw [stepped]
    rfl
  have planned : (flight.step .update).1.task.approach.isSome = true := by
    rw [stepped]
    exact Option.isSome_of_mem happroach
  -- The run keeps the flare, and so does the cycle after it.
  obtain ⟨last, hlast, stillPlanned, kept⟩ := run_keptBy within hafter planned
  obtain ⟨flown, hflown⟩ := Option.isSome_iff_exists.mp stillPlanned
  exact updateCommands_of_flare hlast hflown
    ((last.keptBy_cycle _ flown _).flare _ (kept.flare _ begun))

end Flight

end LandingGuidance

import LandingGuidance.Proofs.DoubleOrder
import LandingGuidance.Proofs.ExactArithmetic
import LandingGuidance.Proofs.Latches

/-!
# The target height over a run

While nobody else writes it, the height that guidance commands does not climb, whatever is in the
rest of the store. Until the glideslope is captured it is also held up: it does not go below the
smallest of the height at the start and the safe heights of the cycles so far.
-/

namespace LandingGuidance

open Scalar OrderedScalar

variable {α : Type}

/-- Whether an operation leaves the target height to guidance. A close puts an old one back. -/
def Operation.SparesTarget : Operation α → Prop
  | .close => False
  | .put path _ => path ≠ Property.targetAltitude.path
  | _ => True

namespace Flight

/-- The target height in feet, as it reads in the store. -/
def targetAltitude [Scalar α] (flight : Flight α) : α :=
  flight.vehicle.store.number Property.targetAltitude

variable [TrigScalar α] [TwoPlaces α]

/-! ### One operation -/

section Step

variable {flight : Flight α} {g : Guidance α} {approach : Approach α}

theorem get?_step_update (hg : flight.task.guidance = some g)
    (happroach : flight.task.approach = some approach) :
    (flight.step .update).1.vehicle.store.get? Property.targetAltitude =
      some (.number (flight.cycle g approach).report.targetAltitude) := by
  rw [step_update_of_some hg happroach]
  change (flight.vehicle.store.setAll _).get? _ = _
  rw [Store.get?_setAll, Cycle.written_commands_targetAltitude, Option.some_or]

theorem targetAltitude_step_update (hg : flight.task.guidance = some g)
    (happroach : flight.task.approach = some approach) :
    (flight.step .update).1.targetAltitude =
      (flight.cycle g approach).report.targetAltitude := by
  rw [targetAltitude, Store.number, get?_step_update hg happroach]
  rfl

omit [TwoPlaces α] in
/-- The height that a cycle reports is limited by the one that it finds in the store. -/
theorem report_targetAltitude (flight : Flight α) (g : Guidance α) (approach : Approach α) :
    ∃ onSlope, (flight.cycle g approach).report.targetAltitude =
      limitTarget onSlope (flight.cycle g approach).report.safeAltitude flight.targetAltitude
        g.glideslopeCaptured :=
  ⟨_, rfl⟩

theorem targetAltitude_step_of_not_update (flight : Flight α) {operation : Operation α}
    (spared : operation.SparesTarget) (other : operation.isUpdate = false) :
    (flight.step operation).1.targetAltitude = flight.targetAltitude := by
  have kept : (flight.step operation).1.vehicle.store.get? Property.targetAltitude =
      flight.vehicle.store.get? Property.targetAltitude := by
    cases operation with
    | activate =>
      apply flight.task.get?_activate_of_ne
      · decide
      · decide
    | update => cases other
    | rebuild =>
      apply flight.task.get?_rebuild_of_ne
      decide
    | close => exact spared.elim
    | put path value =>
      change (flight.vehicle.store.put path value).get? _ = _
      rw [Store.get?_put, if_neg spared]
    | log event => rfl
  rw [targetAltitude, Store.number, kept]
  rfl

end Step

/-! ### Runs never climb -/

variable [OrderedScalar α]

theorem targetAltitude_step_le (flight : Flight α) {operation : Operation α}
    (spared : operation.SparesTarget) (defined : Defined flight.targetAltitude) :
    (flight.step operation).1.targetAltitude ≤ flight.targetAltitude := by
  cases kind : operation.isUpdate with
  | false =>
    rw [flight.targetAltitude_step_of_not_update spared kind]
    exact OrderedScalar.le_refl defined
  | true =>
    cases operation with
    | update =>
      rcases flight.step_update_cases with ⟨g, approach, hg, happroach⟩ | ⟨_, idle⟩
      · obtain ⟨onSlope, limited⟩ := flight.report_targetAltitude g approach
        rw [targetAltitude_step_update hg happroach, limited]
        exact limitTarget_le defined
      · rw [idle]
        exact OrderedScalar.le_refl defined
    | _ => cases kind

theorem targetAltitude_run_le {flight : Flight α} {operations : List (Operation α)}
    (spared : ∀ operation ∈ operations, operation.SparesTarget)
    (defined : Defined flight.targetAltitude) :
    (flight.run operations).targetAltitude ≤ flight.targetAltitude := by
  refine run_invariant (I := fun reached => reached.targetAltitude ≤ flight.targetAltitude) ?_
    spared (OrderedScalar.le_refl defined)
  intro reached operation spared below
  have step := reached.targetAltitude_step_le spared (defined_left below)
  exact OrderedScalar.le_trans step below

/-- The target height never climbs. After operations that leave it to guidance, an update leaves a
defined height that is at most every earlier one. It is the height of the report, unless the task is
not underway, when an update does nothing. -/
theorem targetAltitude_never_climbs (flight : Flight α) {operations : List (Operation α)}
    (spared : ∀ operation ∈ operations, operation.SparesTarget)
    (defined : Defined flight.targetAltitude) :
    let reached := flight.run operations
    let next := (reached.step .update).1
    Defined next.targetAltitude ∧
      (∀ earlier later, operations = earlier ++ later →
        next.targetAltitude ≤ (flight.run earlier).targetAltitude) ∧
      ((∃ report, (reached.step .update).2 = .report (some report) ∧
          next.vehicle.store.get? Property.targetAltitude =
            some (.number report.targetAltitude)) ∨
        ¬reached.task.Underway ∧ reached.step .update = (reached, .report none)) := by
  intro reached next
  have never : ∀ earlier later, operations = earlier ++ later →
      next.targetAltitude ≤ (flight.run earlier).targetAltitude := by
    rintro earlier later rfl
    rw [List.forall_mem_append] at spared
    have definedThen := defined_left (targetAltitude_run_le spared.1 defined)
    have run := targetAltitude_run_le spared.2 definedThen
    rw [← run_append] at run
    have step : next.targetAltitude ≤ reached.targetAltitude :=
      reached.targetAltitude_step_le trivial (defined_left run)
    exact OrderedScalar.le_trans step run
  refine ⟨defined_left (never [] operations rfl), never, ?_⟩
  rcases reached.step_update_cases with ⟨g, approach, hg, happroach⟩ | idle
  · refine Or.inl ⟨_, ?_, get?_step_update hg happroach⟩
    rw [step_update_of_some hg happroach]
  · exact Or.inr idle

/-- An undefined height in the telemetry does not make the target height of 400 feet climb. -/
theorem targetAltitude_never_climbs_undefined_height :
    let flight : Flight Float := start LandEntry.blank
      (Vehicle.ofStore (Store.empty.set Property.targetAltitude (.number 400.0)))
    let operations : List (Operation Float) :=
      [.activate, .put Property.positionAltitude (some (.number (0.0 / 0.0))), .update]
    (∀ operation ∈ operations, operation.SparesTarget) ∧ Defined flight.targetAltitude ∧
      Defined ((flight.run operations).step .update).1.targetAltitude ∧
      ((flight.run operations).step .update).1.targetAltitude ≤ 400.0 := by
  intro flight operations
  have initial : flight.targetAltitude = 400.0 := by
    simp [flight, start, LandingTask.create, targetAltitude, Store.number, Vehicle.ofStore,
      Vehicle.warn, Vehicle.setAll, Vehicle.mapStore]
    rfl
  have spared : ∀ operation ∈ operations, operation.SparesTarget := by
    simp [operations, Operation.SparesTarget]
  have defined : Defined flight.targetAltitude := by
    rw [initial]
    unfold Defined isUndefined
    decide +kernel
  obtain ⟨definedAfter, never, _⟩ := targetAltitude_never_climbs flight spared defined
  refine ⟨spared, defined, definedAfter, ?_⟩
  rw [← initial]
  exact never [] operations rfl

/-! ### The floor before the glideslope capture -/

omit [TwoPlaces α] in
/-- In a cycle that begins before the glideslope capture, the height does not go below the safe
height of the cycle, unless it was there before. -/
theorem floor_le_step_update {flight : Flight α} {g : Guidance α} {approach : Approach α}
    (uncaptured : g.glideslopeCaptured = false) (defined : Defined flight.targetAltitude)
    (safe : Defined (flight.cycle g approach).report.safeAltitude) :
    smaller flight.targetAltitude (flight.cycle g approach).report.safeAltitude ≤
      (flight.cycle g approach).report.targetAltitude := by
  obtain ⟨onSlope, limited⟩ := flight.report_targetAltitude g approach
  rw [limited, uncaptured]
  exact smaller_le_limitTarget defined safe

/-- What is at most the height at the start and at most the safe heights of all cycles stays at most
the height, as long as the glideslope is not captured. -/
theorem lowest_le_run {flight : Flight α} {g last : Guidance α} {operations : List (Operation α)}
    {bound : α} (hg : flight.task.guidance = some g)
    (planned : flight.task.approach.isSome = true)
    (within : ∀ operation ∈ operations, operation.WithinActivation)
    (spared : ∀ operation ∈ operations, operation.SparesTarget)
    (safe : ∀ report ∈ flight.reports operations, Defined report.safeAltitude)
    (hlast : (flight.run operations).task.guidance = some last)
    (uncaptured : last.glideslopeCaptured = false) (hbound : bound ≤ flight.targetAltitude) :
    lowest bound ((flight.reports operations).map Report.safeAltitude) ≤
      (flight.run operations).targetAltitude := by
  induction operations generalizing flight g bound with
  | nil => exact hbound
  | cons operation operations ih =>
    -- Captures are kept, so no cycle of the run begins with the glideslope captured.
    have uncapturedBefore : g.glideslopeCaptured = false := by
      obtain ⟨_, hlast', _, kept⟩ := run_keptBy within hg planned
      rw [hlast] at hlast'
      cases hlast'
      rw [← Bool.not_eq_true]
      intro captured
      rw [kept.glideslope captured] at uncaptured
      cases uncaptured
    rw [List.forall_mem_cons] at within spared
    have still : operation.isUpdate = false →
        bound ≤ (flight.step operation).1.targetAltitude := by
      intro other
      rw [flight.targetAltitude_step_of_not_update spared.1 other]
      exact hbound
    cases operation with
    | activate => exact within.1.elim
    | close => exact within.1.elim
    | update =>
      obtain ⟨approach, happroach⟩ := Option.isSome_iff_exists.mp planned
      have stepped := step_update_of_some hg happroach
      have reported : flight.reports (.update :: operations) =
          (flight.cycle g approach).report :: (flight.step .update).1.reports operations := by
        rw [reports, stepped]
        rfl
      rw [reported, List.forall_mem_cons] at safe
      rw [reported, run_cons]
      -- The safe height of this cycle lowers the bound for the rest of the run.
      have lowered : smaller bound (flight.cycle g approach).report.safeAltitude ≤
          (flight.step .update).1.targetAltitude := by
        rw [targetAltitude_step_update hg happroach]
        apply OrderedScalar.le_trans (smaller_mono_left hbound safe.1)
        exact floor_le_step_update uncapturedBefore (defined_right hbound) safe.1
      have hafter : (flight.step .update).1.task.guidance =
          some (flight.cycle g approach).after := by
        rw [stepped]
        rfl
      have stillPlanned : (flight.step .update).1.task.approach.isSome = true := by
        rw [stepped]
        exact planned
      exact ih hafter stillPlanned within.2 spared.2 safe.2 hlast lowered
    | rebuild => exact ih hg rfl within.2 spared.2 safe hlast (still rfl)
    | put path value => exact ih hg planned within.2 spared.2 safe hlast (still rfl)
    | log event => exact ih hg planned within.2 spared.2 safe hlast (still rfl)

/-- In every cycle that begins before the glideslope capture, the height commanded is at least the
smaller of the one before and the safe height of the cycle. So it is at least the smallest of the
height at the start and all safe heights so far, and at least any floor under these. -/
theorem targetAltitude_holds_floor (flight : Flight α) {operations : List (Operation α)}
    {g : Guidance α} (underway : flight.task.Underway)
    (within : ∀ operation ∈ operations, operation.WithinActivation)
    (spared : ∀ operation ∈ operations, operation.SparesTarget)
    (defined : Defined flight.targetAltitude)
    (safe : ∀ report ∈ flight.reports (operations ++ [.update]), Defined report.safeAltitude)
    (hg : (flight.run operations).task.guidance = some g)
    (uncaptured : g.glideslopeCaptured = false) :
    let floors := (flight.reports (operations ++ [.update])).map Report.safeAltitude
    let reached := flight.run operations
    ∃ report, (reached.step .update).2 = .report (some report) ∧
      (reached.step .update).1.targetAltitude = report.targetAltitude ∧
      smaller reached.targetAltitude report.safeAltitude ≤ report.targetAltitude ∧
      lowest flight.targetAltitude floors ≤ report.targetAltitude ∧
      ∀ floor, floor ≤ flight.targetAltitude → (∀ safe ∈ floors, floor ≤ safe) →
        floor ≤ report.targetAltitude := by
  intro floors reached
  obtain ⟨g₀, approach₀, hg₀, happroach₀⟩ := underway
  have planned₀ : flight.task.approach.isSome = true := by
    rw [happroach₀, Option.isSome_some]
  obtain ⟨_, _, planned, _⟩ := run_keptBy within hg₀ planned₀
  obtain ⟨approach, happroach⟩ := Option.isSome_iff_exists.mp planned
  have answered : (reached.step .update).2 = .report (some (reached.cycle g approach).report) := by
    rw [step_update_of_some hg happroach]
  have reported : flight.reports (operations ++ [.update]) =
      flight.reports operations ++ [(reached.cycle g approach).report] := by
    rw [reports_append, reports, answered]
    rfl
  have floors_eq : floors = (flight.reports operations).map Report.safeAltitude
      ++ [(reached.cycle g approach).report.safeAltitude] := by
    simp only [floors, reported, List.map_append, List.map_singleton]
  rw [reported, List.forall_mem_append, List.forall_mem_singleton] at safe
  have soFar := lowest_le_run hg₀ planned₀ within spared safe.1 hg uncaptured
    (OrderedScalar.le_refl defined)
  have held := floor_le_step_update uncaptured (defined_right soFar) safe.2
  have lowestHeld : lowest flight.targetAltitude floors ≤
      (reached.cycle g approach).report.targetAltitude := by
    rw [floors_eq, lowest_append_singleton]
    exact OrderedScalar.le_trans (smaller_mono_left soFar safe.2) held
  refine ⟨_, answered, targetAltitude_step_update hg happroach, held, lowestHeld, ?_⟩
  -- Any other floor is under the smallest of these heights.
  intro floor atStart atFloors
  exact OrderedScalar.le_trans (le_lowest atStart atFloors) lowestHeld

/-- Off the circle no glideslope is captured, so the floor holds in the second cycle too. -/
theorem targetAltitude_holds_floor_off_circle :
    let flight : Flight ℝ := (start LandEntry.blank (Vehicle.ofStore Store.empty)).run
      [.activate, .put Property.navigationMode (some (.text "route"))]
    let operations : List (Operation ℝ) := [.update]
    ∃ g, flight.task.Underway ∧
      (∀ operation ∈ operations, operation.WithinActivation ∧ operation.SparesTarget) ∧
      Defined flight.targetAltitude ∧
      (∀ report ∈ flight.reports (operations ++ [.update]), Defined report.safeAltitude) ∧
      (flight.run operations).task.guidance = some g ∧ g.glideslopeCaptured = false ∧
      ∃ report, ((flight.run operations).step .update).2 = .report (some report) ∧
        smaller (flight.run operations).targetAltitude report.safeAltitude ≤
          report.targetAltitude := by
  intro flight operations
  have underway : flight.task.Underway :=
    LandingTask.activate_underway (start LandEntry.blank (Vehicle.ofStore Store.empty)).task
      (start LandEntry.blank (Vehicle.ofStore Store.empty)).vehicle
  have within : ∀ operation ∈ operations, operation.WithinActivation := by
    simp [operations, Operation.WithinActivation]
  have spared : ∀ operation ∈ operations, operation.SparesTarget := by
    simp [operations, Operation.SparesTarget]
  have safe : ∀ report ∈ flight.reports (operations ++ [.update]), Defined report.safeAltitude := by
    intro report _
    exact defined_real _
  have begun : flight.task.guidance = some Guidance.fresh := rfl
  obtain ⟨_, approach, _, planned⟩ := id underway
  have hg : (flight.run operations).task.guidance =
      some (flight.cycle Guidance.fresh approach).after := by
    rw [run_cons, step_update_of_some begun planned]
    rfl
  have uncaptured : (flight.cycle Guidance.fresh approach).after.glideslopeCaptured = false := by
    have offCircle : (Telemetry.ofStore flight.vehicle.store).circling = false := by
      change ((Store.put _ _ _).text Property.navigationMode == "circle") = false
      rw [Store.text, Store.get?_put, if_pos rfl]
      decide
    rw [← Bool.not_eq_true]
    intro captured
    have circle := Guidance.circleCaptured_of_cycle_glideslopeCaptured Guidance.fresh _ _ _
      (by intro captured; cases captured) captured
    rw [Guidance.circleCaptured_cycle_of_not_circling _ _ _ _ offCircle] at circle
    cases circle
  obtain ⟨report, answered, _, held, _⟩ :=
    targetAltitude_holds_floor flight underway within spared (defined_real _) safe hg uncaptured
  refine ⟨_, underway, ?_, defined_real _, safe, hg, uncaptured, report, answered, held⟩
  intro operation member
  exact ⟨within operation member, spared operation member⟩

end Flight

end LandingGuidance

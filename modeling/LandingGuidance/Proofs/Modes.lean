import LandingGuidance.Proofs.Latches

/-!
# The modes within an activation

Which part of the approach is flown is kept in the store, as the navigation mode, and not in the
task. While nobody else writes the two modes, `ModeHistory` ties them to guidance and to the events
of the cycles so far: the route follows the circle once, with the one event of that, and the
autopilot mode follows the flare.
-/

namespace LandingGuidance

variable {α : Type}

namespace Store

/-- The store holds this navigation mode. -/
def Navigates (s : Store α) (mode : NavigationMode) : Prop :=
  s.get? Property.navigationMode = some (.text mode.name)

/-- The store holds this autopilot mode. -/
def Pilots (s : Store α) (mode : AutopilotMode) : Prop :=
  s.get? Property.autopilotMode = some (.text mode.name)

theorem Navigates.unique {s : Store α} {first second : NavigationMode}
    (hfirst : s.Navigates first) (hsecond : s.Navigates second) : first = second := by
  unfold Navigates at hfirst hsecond
  rw [hfirst, Option.some.injEq, Value.text.injEq] at hsecond
  revert hsecond
  cases first <;> cases second <;> decide

theorem Navigates.circling [Scalar α] {s : Store α} {mode : NavigationMode}
    (held : s.Navigates mode) : (Telemetry.ofStore s).circling = decide (mode = .circle) := by
  unfold Navigates at held
  change (Value.toText (s.get? Property.navigationMode) == NavigationMode.circle.name) = _
  rw [held]
  change (mode.name == NavigationMode.circle.name) = _
  cases mode <;> decide

end Store

/-- An operation leaves the two modes to guidance. -/
def Operation.SparesModes : Operation α → Prop
  | .put path _ => path ≠ Property.navigationMode.path ∧ path ≠ Property.autopilotMode.path
  | _ => True

/-! ### One cycle -/

namespace Cycle

theorem phase_eq_finalApproach_iff (c : Cycle α) :
    c.phase = .finalApproach ↔ c.circling = false ∨ c.lateral.handOver = true := by
  unfold phase
  cases c.circling <;> cases c.lateral.handOver <;> simp

theorem navigates_setAll_commands (c : Cycle α) (s : Store α) (mode : NavigationMode) :
    (s.setAll c.commands).Navigates mode ↔
      if c.lateral.handOver then mode = .route else s.Navigates mode := by
  unfold Store.Navigates
  rw [Store.get?_setAll, written_commands_navigationMode]
  cases c.lateral.handOver with
  | false => simp
  | true => cases mode <;> simp [NavigationMode.name]

theorem pilots_setAll_commands (c : Cycle α) (s : Store α) (mode : AutopilotMode) :
    (s.setAll c.commands).Pilots mode ↔
      if c.flareBegins then mode = .direct else s.Pilots mode := by
  unfold Store.Pilots
  rw [Store.get?_setAll, written_commands_autopilotMode]
  cases c.flareBegins with
  | false => simp
  | true => cases mode <;> simp [AutopilotMode.name]

end Cycle

/-- A flare that is longer than the time of an aircraft that hardly moves begins at once. -/
theorem Guidance.flare_cycle_of_standing [TrigScalar α] (g : Guidance α) {settings : Settings α}
    (approach : Approach α) {t : Telemetry α} (standing : ¬0.01 < t.groundSpeed)
    (window : 1000.0 ≤ settings.flareSeconds) :
    (g.cycle settings approach t).after.flare.isSome = true := by
  change (g.touchdown settings t (g.lateral approach t)).flare.isSome = true
  generalize g.lateral approach t = l
  have seconds : secondsToTouchdown l.distanceToGo t.groundSpeed = 1000.0 := if_neg standing
  unfold touchdown
  dsimp only
  rw [seconds]
  split
  · rfl
  · rw [if_pos window]
    rfl

/-! ### The history of an activation -/

/-- The autopilot mode that goes with the flare of guidance. -/
def Guidance.pilot (g : Guidance α) : AutopilotMode :=
  if g.flare.isSome then .direct else .energy

/-- How the modes in the store stand to guidance and to the events of the cycles of its
activation. -/
structure ModeHistory (s : Store α) (g : Guidance α) (cycles : List (List Event)) : Prop where
  navigation :
    s.Navigates .circle ∧ cycles.flatten.count .transitionToFinal = 0 ∨
      s.Navigates .route ∧ cycles.flatten.count .transitionToFinal = 1 ∧
        g.circleCaptured = true ∧ g.glideslopeCaptured = true
  autopilot : s.Pilots g.pilot

namespace ModeHistory

variable {s : Store α} {g : Guidance α} {cycles : List (List Event)}

theorem route_iff (history : ModeHistory s g cycles) :
    s.Navigates .route ↔ cycles.flatten.count .transitionToFinal = 1 := by
  rcases history.navigation with ⟨circle, never⟩ | ⟨route, once, _⟩
  · constructor
    · intro route
      cases circle.unique route
    · intro once
      omega
  · exact iff_of_true route once

/-- Nothing but the two modes of the store matters. -/
theorem of_get?_eq {t : Store α} (history : ModeHistory s g cycles)
    (navigation : t.get? Property.navigationMode = s.get? Property.navigationMode)
    (autopilot : t.get? Property.autopilotMode = s.get? Property.autopilotMode) :
    ModeHistory t g cycles where
  navigation := by
    unfold Store.Navigates
    rw [navigation]
    exact history.navigation
  autopilot := by
    unfold Store.Pilots
    rw [autopilot]
    exact history.autopilot

variable [TrigScalar α] (settings : Settings α) (approach : Approach α)

/-- A cycle that reads the store and writes in it extends the history of its activation. -/
theorem cycle (history : ModeHistory s g cycles) :
    ModeHistory (s.setAll (g.cycle settings approach (Telemetry.ofStore s)).commands)
      (g.cycle settings approach (Telemetry.ofStore s)).after
      (cycles ++ [(g.cycle settings approach (Telemetry.ofStore s)).events]) := by
  have kept := g.keptBy_cycle settings approach (Telemetry.ofStore s)
  generalize c_eq : g.cycle settings approach (Telemetry.ofStore s) = c at kept ⊢
  have before : c.before = g := by rw [← c_eq]; rfl
  constructor
  case navigation =>
    rw [List.flatten_concat, List.count_append, c.count_transitionToFinal,
      c.navigates_setAll_commands, c.navigates_setAll_commands]
    cases handOver : c.lateral.handOver with
    | false =>
      rcases history.navigation with circle | ⟨route, once, circle, glideslope⟩
      · exact Or.inl circle
      · exact Or.inr ⟨route, once, kept.circle circle, kept.glideslope glideslope⟩
    | true =>
      -- The hand-over is made from the circle, so it is the first one.
      have captured : (Telemetry.ofStore s).circling = true ∧ c.lateral.circleCaptured = true ∧
          g.glideslopeCaptured = true := by
        subst c_eq
        exact g.captured_of_handOver settings approach _ handOver
      rcases history.navigation with ⟨_, never⟩ | ⟨route, _⟩
      · rw [never]
        exact Or.inr ⟨rfl, rfl, captured.2.1, kept.glideslope captured.2.2⟩
      · rw [route.circling] at captured
        exact absurd captured.1 (by decide)
  case autopilot =>
    have pilots := history.autopilot
    rw [c.pilots_setAll_commands]
    -- The mode changes in the cycle in which the flare begins, and a flare that has begun is kept.
    cases begun : g.flare with
    | some flare =>
      have still : c.after.flare = some flare := kept.flare flare begun
      simpa [Cycle.flareBegins, Guidance.pilot, before, begun, still] using pilots
    | none =>
      cases now : c.touchdown.flare with
      | some flare => simp [Cycle.flareBegins, Guidance.pilot, Cycle.after, before, begun, now]
      | none =>
        simpa [Cycle.flareBegins, Guidance.pilot, Cycle.after, before, begun, now] using pilots

/-- The phase that a cycle reports is that of the navigation mode it leaves. -/
theorem phase_iff (history : ModeHistory s g cycles) :
    (g.cycle settings approach (Telemetry.ofStore s)).report.phase = .finalApproach ↔
      (s.setAll (g.cycle settings approach (Telemetry.ofStore s)).commands).Navigates .route := by
  generalize c_eq : g.cycle settings approach (Telemetry.ofStore s) = c
  have circling : c.circling = (Telemetry.ofStore s).circling := by rw [← c_eq]; rfl
  change c.phase = .finalApproach ↔ _
  rw [c.phase_eq_finalApproach_iff, c.navigates_setAll_commands, circling]
  cases c.lateral.handOver with
  | true => simp
  | false =>
    rcases history.navigation with ⟨circle, _⟩ | ⟨route, _⟩
    · have notRoute : ¬s.Navigates .route := fun route => by cases circle.unique route
      simp [circle.circling, notRoute]
    · simp [route.circling, route]

end ModeHistory

/-! ### Runs -/

namespace Flight

variable [TrigScalar α] [TwoPlaces α] {flight : Flight α} {g : Guidance α}
  {operations : List (Operation α)}

theorem modeHistory_step_activate (flight : Flight α) :
    ModeHistory (flight.step .activate).1.vehicle.store Guidance.fresh [] := by
  have taken (p : Property) := flight.task.get?_activate flight.vehicle p
  exact ⟨Or.inl ⟨taken .navigationMode, rfl⟩, taken .autopilotMode⟩

/-- Other operations than an update leave the modes as they are. -/
theorem get?_step_of_sparesModes (flight : Flight α) {operation : Operation α}
    (within : operation.WithinActivation) (spared : operation.SparesModes)
    (other : operation.isUpdate = false) {p : Property} (mode : p ∈ Scope.modeProperties) :
    (flight.step operation).1.vehicle.store.get? p = flight.vehicle.store.get? p := by
  cases operation with
  | activate => exact within.elim
  | close => exact within.elim
  | update => cases other
  | rebuild =>
    apply flight.task.get?_rebuild_of_ne flight.vehicle
    revert p
    decide
  | put path value =>
    have differs : path ≠ p.path := by
      simp only [Scope.modeProperties, List.mem_cons, List.not_mem_nil, or_false] at mode
      rcases mode with rfl | rfl
      · exact spared.2
      · exact spared.1
    exact (Store.get?_put _ path _ value).trans (if_neg differs)
  | log event => rfl

/-- A run within an activation that leaves the modes to guidance extends their history. -/
theorem run_modeHistory {cycles : List (List Event)}
    (allowed : ∀ operation ∈ operations, operation.WithinActivation ∧ operation.SparesModes)
    (hg : flight.task.guidance = some g) (planned : flight.task.approach.isSome = true)
    (history : ModeHistory flight.vehicle.store g cycles) :
    ∃ last, (flight.run operations).task.guidance = some last ∧
      (flight.run operations).task.approach.isSome = true ∧
      ModeHistory (flight.run operations).vehicle.store last
        (cycles ++ flight.cycleEvents operations) := by
  refine run_history (A := fun operation => operation.WithinActivation ∧ operation.SparesModes)
    (I := fun flight cycles => ∃ g, flight.task.guidance = some g ∧
      flight.task.approach.isSome = true ∧ ModeHistory flight.vehicle.store g cycles)
    ?_ allowed ⟨g, hg, planned, history⟩
  rintro flight operation cycles ⟨within, spared⟩ ⟨g, hg, planned, history⟩
  rcases step_within_cases within hg planned with
    ⟨approach, rfl, happroach⟩ | ⟨other, kept, stillPlanned⟩
  · rw [cycleEvents_update hg happroach, step_update_of_some hg happroach]
    exact ⟨_, rfl, planned, history.cycle _ approach⟩
  · rw [flight.cycleEvents_of_not_update other, List.append_nil]
    refine ⟨g, kept, stillPlanned, history.of_get?_eq ?_ ?_⟩
    · exact flight.get?_step_of_sparesModes within spared other (by decide)
    · exact flight.get?_step_of_sparesModes within spared other (by decide)

/-- From an activation on, until the next one or a close, and while nobody else writes the modes,
the navigation mode is the circle, or the route after exactly one hand-over and with both captures
made. From the route it does not go back. The autopilot mode goes with the flare, and the phase that
a cycle reports with the navigation mode it leaves. -/
theorem activation_modes (flight : Flight α)
    (allowed : ∀ operation ∈ operations, operation.WithinActivation ∧ operation.SparesModes) :
    let opened := (flight.step .activate).1
    let reached := opened.run operations
    let next := reached.step .update
    ∃ g, reached.task.guidance = some g ∧
      (reached.vehicle.store.Navigates .circle ∨ reached.vehicle.store.Navigates .route) ∧
      (reached.vehicle.store.Navigates .route ↔
        (opened.cycleEvents operations).flatten.count .transitionToFinal = 1) ∧
      (reached.vehicle.store.Navigates .route →
        g.circleCaptured = true ∧ g.glideslopeCaptured = true) ∧
      (∀ earlier later, operations = earlier ++ later →
        (opened.run earlier).vehicle.store.Navigates .route →
          reached.vehicle.store.Navigates .route) ∧
      reached.vehicle.store.Pilots (if g.flare.isSome then .direct else .energy) ∧
      ∃ report, next.2 = .report (some report) ∧
        (report.phase = .finalApproach ↔ next.1.vehicle.store.Navigates .route) := by
  intro opened reached next
  have planned : opened.task.approach.isSome = true :=
    flight.task.prepare_approach_isSome flight.vehicle
  have started : opened.task.guidance = some Guidance.fresh := rfl
  obtain ⟨g, hg, plannedThen, history⟩ :=
    run_modeHistory allowed started planned flight.modeHistory_step_activate
  rw [List.nil_append] at history
  refine ⟨g, hg, ?_, history.route_iff, ?_, ?_, history.autopilot, ?_⟩
  · rcases history.navigation with ⟨circle, _⟩ | ⟨route, _⟩
    · exact Or.inl circle
    · exact Or.inr route
  · intro route
    rcases history.navigation with ⟨circle, _⟩ | ⟨_, _, captured⟩
    · cases circle.unique route
    · exact captured
  · rintro earlier later rfl route
    rw [List.forall_mem_append] at allowed
    obtain ⟨past, hpast, stillPlanned, historyThen⟩ :=
      run_modeHistory allowed.1 started planned flight.modeHistory_step_activate
    obtain ⟨last, _, _, longer⟩ := run_modeHistory allowed.2 hpast stillPlanned historyThen
    rw [← run_append] at longer
    -- The hand-over that led to the route stays in the history.
    rcases longer.navigation with ⟨_, never⟩ | ⟨route, _⟩
    · rw [List.flatten_append, List.count_append, historyThen.route_iff.mp route] at never
      omega
    · exact route
  · obtain ⟨approach, happroach⟩ := Option.isSome_iff_exists.mp plannedThen
    have answered : next = _ := step_update_of_some hg happroach
    rw [answered]
    exact ⟨_, rfl, history.phase_iff _ approach⟩

/-- A flare that begins on the circle takes the autopilot mode and leaves the navigation mode; what
somebody else logs is no hand-over. -/
theorem activation_modes_flare_on_circle :
    let flight : Flight Float := start LandEntry.blank (Vehicle.ofStore Store.empty)
    let operations : List (Operation Float) :=
      [.put Property.groundSpeed (some (.text "none")),
        .put Property.landFlareSeconds (some (.number 1000.0)), .log .transitionToFinal, .update]
    let reached := (flight.step .activate).1.run operations
    (∀ operation ∈ operations, operation.WithinActivation ∧ operation.SparesModes) ∧
      reached.vehicle.store.Navigates .circle ∧ reached.vehicle.store.Pilots .direct := by
  intro flight operations reached
  have allowed : ∀ operation ∈ operations,
      operation.WithinActivation ∧ operation.SparesModes := by
    simp [operations, Operation.WithinActivation, Operation.SparesModes]
  obtain ⟨g, hg, known, route_iff, _, _, pilots, _⟩ := activation_modes flight allowed
  obtain ⟨approach, happroach⟩ :=
    Option.isSome_iff_exists.mp (flight.task.prepare_approach_isSome flight.vehicle)
  let before := (flight.step .activate).1.run (operations.take 3)
  have cycled : reached = before.afterCycle (before.cycle Guidance.fresh approach) := by
    change (before.step .update).1 = _
    rw [step_update_of_some rfl happroach]
  have stored : before.vehicle.store =
      (((flight.step .activate).1.vehicle.store.put Property.groundSpeed (some (.text "none"))).put
        Property.landFlareSeconds (some (.number 1000.0))) := rfl
  -- A speed that is a text reads as zero, so the aircraft stands and the long flare begins.
  have standing : (Telemetry.ofStore before.vehicle.store).groundSpeed = 0.0 := by
    unfold Telemetry.ofStore
    dsimp only
    rw [stored, Store.number, Store.get?_put, if_neg (by decide), Store.get?_put, if_pos rfl]
    rfl
  have window : (before.task.settings.retuned before.vehicle.store).flareSeconds = 1000.0 := by
    unfold Settings.retuned
    dsimp only
    rw [stored, Store.number?, Store.has, Store.number, Store.get?_put, if_pos rfl]
    rfl
  have flaring : (before.cycle Guidance.fresh approach).after.flare.isSome = true := by
    apply Guidance.flare_cycle_of_standing
    · rw [standing]
      decide +kernel
    · rw [window]
      decide +kernel
  have hcycle : some (before.cycle Guidance.fresh approach).after = some g := by
    rw [← hg]
    exact (congrArg (fun flight => flight.task.guidance) cycled).symm
  rw [← Option.some.inj hcycle, if_pos flaring] at pilots
  refine ⟨allowed, ?_, pilots⟩
  rcases known with circle | route
  · exact circle
  · -- The first cycle does not hand over, for it begins with no glideslope captured.
    have once := route_iff.mp route
    have logged : (flight.step .activate).1.cycleEvents operations =
        [(before.cycle Guidance.fresh approach).events] := by
      rw [← before.appended_update rfl happroach]
      simp only [operations, cycleEvents, Operation.isUpdate, Bool.false_eq_true, if_false,
        if_true, List.nil_append, List.append_nil]
      rfl
    rw [logged, List.flatten_singleton] at once
    have handOver : (before.cycle Guidance.fresh approach).lateral.handOver = true := by
      rw [← Cycle.transitionToFinal_mem_events, ← List.count_pos_iff, once]
      exact Nat.one_pos
    cases (Guidance.captured_of_handOver _ _ _ _ handOver).2.2

end Flight

end LandingGuidance

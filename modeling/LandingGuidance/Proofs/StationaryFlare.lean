import Mathlib
import LandingGuidance.Proofs.FlareStart
import LandingGuidance.Proofs.SettingsOverRuns

/-!
# The flare of a stationary aircraft

An aircraft that hardly moves is a thousand seconds from touchdown, wherever it is. This puts the
flare off while the flare is shorter than that, and begins it otherwise. The length of the flare is
that of the land entry or one that somebody has put in the store, so with all of them shorter than a
thousand seconds the flare of a stationary aircraft never begins.
-/

namespace LandingGuidance

variable {α : Type}

theorem secondsToTouchdown_of_stationary [Scalar α] {distance groundSpeed : α}
    (stationary : ¬0.01 < groundSpeed) : secondsToTouchdown distance groundSpeed = 1000.0 :=
  if_neg stationary

namespace Flight

variable [TrigScalar α] [TwoPlaces α]

/-! ### How long the flare can be -/

/-- A length is that of the land entry or one that some operations put in the store. -/
def FlareLength (entry : LandEntry α) (operations : List (Operation α)) (seconds : α) : Prop :=
  seconds = entry.settings.flareSeconds ∨
    ∃ value, .put Property.landFlareSeconds (some value) ∈ operations ∧
      seconds = Value.toNumber (some value)

/-- The settings and the store hold no other length for the flare. -/
structure FlareLengths (entry : LandEntry α) (v : Vehicle α) (operations : List (Operation α))
    (flight : Flight α) : Prop where
  reached : Reached entry v flight
  settings : FlareLength entry operations flight.task.settings.flareSeconds
  store : ∀ seconds, flight.vehicle.store.number? Property.landFlareSeconds = some seconds →
    FlareLength entry operations seconds

namespace FlareLengths

variable {entry : LandEntry α} {v : Vehicle α} {operations : List (Operation α)}
  {flight : Flight α}

theorem start (entry : LandEntry α) (v : Vehicle α) (operations : List (Operation α)) :
    FlareLengths entry v operations (start entry v) where
  reached := reached_start entry v
  settings := Or.inl rfl
  store seconds held := by
    -- The length in the land entry is published over whatever the store held.
    have published : (Flight.start entry v).vehicle.store.get? Property.landFlareSeconds =
        some (.number entry.settings.flareSeconds) :=
      (Store.get?_setAll _ _ .landFlareSeconds).trans rfl
    rw [Store.number?_of_get? published] at held
    exact Or.inl (Option.some.inj held).symm

theorem retuned (lengths : FlareLengths entry v operations flight) :
    FlareLength entry operations
      (flight.task.settings.retuned flight.vehicle.store).flareSeconds := by
  have held := lengths.store
  change FlareLength entry operations ((flight.vehicle.store.number? _).getD _)
  cases read : flight.vehicle.store.number? Property.landFlareSeconds with
  | none => exact lengths.settings
  | some seconds => exact held seconds read

theorem settings_step (lengths : FlareLengths entry v operations flight)
    (operation : Operation α) :
    FlareLength entry operations (flight.step operation).1.task.settings.flareSeconds := by
  rcases flight.settings_step_cases operation with ⟨_, shaped⟩ | retuned | same
  · rw [shaped]
    exact lengths.settings
  · rw [retuned]
    exact lengths.retuned
  · rw [same]
    exact lengths.settings

theorem store_step (lengths : FlareLengths entry v operations flight) {operation : Operation α}
    (listed : operation ∈ operations) {seconds : α}
    (held : (flight.step operation).1.vehicle.store.number? Property.landFlareSeconds =
      some seconds) : FlareLength entry operations seconds := by
  rw [Store.number?_eq_map] at held
  -- The task does not write its own inputs, so only somebody else can bring a new length.
  have kept (own : operation.OfTask) : FlareLength entry operations seconds := by
    rw [lengths.reached.get?_step_of_input own (p := .landFlareSeconds) (by decide),
      ← Store.number?_eq_map] at held
    exact lengths.store seconds held
  cases operation with
  | activate | update | rebuild | close => exact kept trivial
  | put path value =>
    change ((flight.vehicle.store.put path value).get? _).map _ = _ at held
    rw [Store.get?_put] at held
    split at held
    next same =>
      obtain ⟨value, rfl, rfl⟩ := Option.map_eq_some_iff.mp held
      exact Or.inr ⟨value, same ▸ listed, rfl⟩
    next => exact lengths.store seconds ((Store.number?_eq_map _ _).trans held)
  | log event => exact lengths.store seconds ((Store.number?_eq_map _ _).trans held)

theorem run (entry : LandEntry α) (v : Vehicle α) (operations : List (Operation α)) :
    FlareLengths entry v operations ((Flight.start entry v).run operations) := by
  refine run_invariant (A := (· ∈ operations)) (I := FlareLengths entry v operations) ?_
    (fun _ listed => listed) (start entry v operations)
  intro flight operation listed lengths
  exact ⟨lengths.reached.step operation, lengths.settings_step operation,
    fun _ => lengths.store_step listed⟩

end FlareLengths

/-! ### The update of a stationary aircraft -/

omit [TwoPlaces α] in
/-- The length of the flare that the next update goes by. -/
def flareWindow (flight : Flight α) : α :=
  (flight.task.settings.retuned flight.vehicle.store).flareSeconds

theorem flareWindow_run (entry : LandEntry α) (v : Vehicle α) (operations : List (Operation α)) :
    FlareLength entry operations ((start entry v).run operations).flareWindow :=
  (FlareLengths.run entry v operations).retuned

omit [TwoPlaces α] in
/-- Wherever a stationary aircraft is, its flare begins just if it is at least a thousand seconds
long. -/
theorem flareBegins_of_stationary {flight : Flight α} {g : Guidance α} (approach : Approach α)
    (fresh : g.flare = none)
    (stationary : ¬0.01 < flight.vehicle.store.number Property.groundSpeed) :
    (flight.cycle g approach).report.secondsToTouchdown = 1000.0 ∧
      ((flight.cycle g approach).flareBegins = true ↔ 1000.0 ≤ flight.flareWindow) := by
  have seconds : (flight.cycle g approach).report.secondsToTouchdown = 1000.0 :=
    secondsToTouchdown_of_stationary stationary
  refine ⟨seconds, Guidance.flareBegins_cycle_iff.trans ?_⟩
  change g.flare = none ∧ (flight.cycle g approach).report.secondsToTouchdown ≤ _ ↔ _
  rw [seconds]
  exact and_iff_right fresh

/-- In every state that a new task can reach, while it is active and the flare has not begun, take
an update that reads a ground speed which is not above a hundredth of a meter per second. Whatever
the distance to go, it reports a thousand seconds to touchdown, and it begins the flare just if the
flare is at least a thousand seconds long. This takes a land entry or a value that somebody has put
in the store with a flare of this length. -/
theorem stationary_flare_iff (entry : LandEntry α) (v : Vehicle α)
    (operations : List (Operation α)) :
    let reached := (start entry v).run operations
    reached.task.isActive = true → reached.isFlaring = false →
      ¬0.01 < reached.vehicle.store.number Property.groundSpeed →
      (∃ report, (reached.step .update).2 = .report (some report) ∧
        report.secondsToTouchdown = 1000.0 ∧
        (report.flare.isSome = true ↔ 1000.0 ≤ reached.flareWindow)) ∧
      ((reached.step .update).1.isFlaring = true ↔ 1000.0 ≤ reached.flareWindow) ∧
      (.flareStart ∈ reached.appended .update ↔ 1000.0 ≤ reached.flareWindow) ∧
      (1000.0 ≤ reached.flareWindow →
        1000.0 ≤ entry.settings.flareSeconds ∨
          ∃ value, .put Property.landFlareSeconds (some value) ∈ operations ∧
            1000.0 ≤ Value.toNumber (some value)) := by
  intro reached active notFlaring stationary
  have fromStart : Reached entry v reached := ⟨operations, rfl⟩
  -- An active task has an approach to fly, so the update runs a cycle.
  obtain ⟨g, approach, hg, happroach⟩ := fromStart.equipped.underway_iff.mpr active
  have fresh : g.flare = none := by
    rw [isFlaring, hg, Option.bind_some] at notFlaring
    exact Option.isNone_iff_eq_none.mp (Option.isSome_eq_false_iff.mp notFlaring)
  obtain ⟨seconds, begins⟩ := flareBegins_of_stationary approach fresh stationary
  have stepped := step_update_of_some hg happroach
  have answered : (reached.step .update).2 = .report (some (reached.cycle g approach).report) :=
    congrArg Prod.snd stepped
  have flaring : (reached.step .update).1.isFlaring = true ↔ 1000.0 ≤ reached.flareWindow := by
    rw [← begins, stepped]
    change (reached.cycle g approach).touchdown.flare.isSome = true ↔
      (g.flare.isNone && (reached.cycle g approach).touchdown.flare.isSome) = true
    rw [fresh, Option.isNone_none, Bool.true_and]
  refine ⟨⟨_, answered, seconds, ?_⟩, flaring, ?_, ?_⟩
  · rw [reached.updateWrites.flaring _ answered]
    exact flaring
  · rw [appended_update hg happroach, Cycle.flareStart_mem_events, begins]
  · intro long
    rcases flareWindow_run entry v operations with written | ⟨value, put, read⟩
    · exact Or.inl (written ▸ long)
    · exact Or.inr ⟨value, put, read ▸ long⟩

/-- With an undefined ground speed, a flare of a thousand seconds that somebody puts in the store
begins in the next update, and one of five seconds does not. -/
theorem stationary_flare_iff_of_undefined_speed :
    let operations (seconds : Float) : List (Operation Float) :=
      [.activate, .put Property.landFlareSeconds (some (.number seconds)),
        .put Property.groundSpeed (some (.number (0.0 / 0.0)))]
    let flight (seconds : Float) : Flight Float :=
      (start LandEntry.blank (Vehicle.ofStore Store.empty)).run (operations seconds)
    (∀ seconds, (flight seconds).task.isActive = true ∧ (flight seconds).isFlaring = false ∧
      ¬0.01 < (flight seconds).vehicle.store.number Property.groundSpeed) ∧
    (.flareStart ∈ (flight 1000.0).appended .update ∧
      ((flight 1000.0).step .update).1.isFlaring = true) ∧
    .flareStart ∉ (flight 5.0).appended .update ∧
      ∃ report, ((flight 5.0).step .update).2 = .report (some report) ∧
        report.secondsToTouchdown = 1000.0 := by
  intro operations flight
  have stationary (seconds : Float) :
      ¬0.01 < (flight seconds).vehicle.store.number Property.groundSpeed := by
    have speed (s : Store Float) (x : Float) :
        (s.put Property.groundSpeed (some (.number x))).number Property.groundSpeed = x := by
      simp [Store.number, Store.get?_put, Value.toNumber]
    rw [show (flight seconds).vehicle.store.number _ = _ from speed _ _]
    decide +kernel
  have window (seconds : Float) : (flight seconds).flareWindow = seconds := by
    have read (s : Store Float) (settings : Settings Float) (other : Option (Value Float)) :
        (settings.retuned ((s.put Property.landFlareSeconds (some (.number seconds))).put
          Property.groundSpeed other)).flareSeconds = seconds := by
      simp [Settings.retuned, Store.number?_eq_map, Store.get?_put, Value.toNumber]
    exact read _ _ _
  have rule (seconds : Float) :=
    stationary_flare_iff LandEntry.blank (Vehicle.ofStore Store.empty) (operations seconds) rfl rfl
      (stationary seconds)
  obtain ⟨-, flaring, logged, -⟩ := rule 1000.0
  obtain ⟨⟨report, answered, seconds, -⟩, -, logged', -⟩ := rule 5.0
  have long : 1000.0 ≤ (flight 1000.0).flareWindow := by
    rw [window]
    decide +kernel
  have short : ¬1000.0 ≤ (flight 5.0).flareWindow := by
    rw [window]
    decide +kernel
  exact ⟨fun seconds => ⟨rfl, rfl, stationary seconds⟩, ⟨logged.mpr long, flaring.mpr long⟩,
    mt logged'.mp short, report, answered, seconds⟩

end Flight

end LandingGuidance

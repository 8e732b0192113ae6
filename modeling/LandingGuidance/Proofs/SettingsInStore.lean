import LandingGuidance.Binary64.Arithmetic
import LandingGuidance.Proofs.PublishedApproach

/-!
# Settings survive the store

The settings that a task publishes are those that it reads again: each of the nine values is read
back from the property that it was written to, whatever was there before. So publishing and reading
again changes nothing, and the first approach is planned from the settings of the land entry.
-/

namespace LandingGuidance

variable {α : Type}

theorem Store.number?_eq_map [Scalar α] (s : Store α) (path : String) :
    s.number? path = (s.get? path).map fun value => Value.toNumber (some value) := by
  unfold number? has number
  cases s.get? path <;> rfl

theorem Store.number?_of_get? [Scalar α] {s : Store α} {path : String} {x : α}
    (held : s.get? path = some (.number x)) : s.number? path = some x := by
  rw [number?_eq_map, held]
  rfl

/-- A store holds at some properties what settings publish there. -/
def Store.HoldsSettings (s : Store α) (settings : Settings α) (properties : List Property) : Prop :=
  ∀ p ∈ properties, s.get? p = written settings.published p

namespace Settings

def publishedProperties : List Property :=
  [.landLateralOffset, .landGlideslope, .landTurnRadius, .landDirection, .landFinalLegExtension,
    .landAltitudeBias, .landApproachSpeed, .landFlarePitch, .landFlareSeconds]

theorem isSome_written_published (settings : Settings α) {p : Property}
    (member : p ∈ publishedProperties) : (Store.written settings.published p).isSome = true := by
  simp only [publishedProperties, List.mem_cons, List.not_mem_nil, or_false] at member
  rcases member with rfl | rfl | rfl | rfl | rfl | rfl | rfl | rfl | rfl <;> rfl

/-- Stale values at the properties of the settings make no difference. -/
theorem holdsSettings_setAll_published (settings : Settings α) (s : Store α)
    {properties : List Property} (published : properties ⊆ publishedProperties) :
    (s.setAll settings.published).HoldsSettings settings properties := by
  intro p member
  rw [Store.get?_setAll]
  exact Option.or_of_isSome (settings.isSome_written_published (published member))

variable [Scalar α] {s : Store α} {settings synced : Settings α}

theorem retuned_of_holdsSettings (held : s.HoldsSettings synced tunables) :
    settings.retuned s =
      { settings with
        glideslope := synced.glideslope
        finalLegExtension := synced.finalLegExtension
        altitudeBias := synced.altitudeBias
        flarePitch := synced.flarePitch
        flareSeconds := synced.flareSeconds } := by
  have read {p : Property} {x : α} (member : p ∈ tunables)
      (written : Store.written synced.published p = some (.number x)) : s.number? p = some x :=
    Store.number?_of_get? ((held p member).trans written)
  rw [retuned, read (p := .landGlideslope) (by decide) rfl,
    read (p := .landFinalLegExtension) (by decide) rfl,
    read (p := .landAltitudeBias) (by decide) rfl, read (p := .landFlarePitch) (by decide) rfl,
    read (p := .landFlareSeconds) (by decide) rfl]
  rfl

/-- A radius that is not accepted is still read back by the settings that it belongs to. -/
theorem reshaped_of_holdsSettings (held : s.HoldsSettings synced shaping)
    (accepted : LimitedSetting.turnRadius.minimum ≤ synced.turnRadius ∨
      settings.turnRadius = synced.turnRadius) :
    settings.reshaped s =
      { settings with
        lateralOffset := synced.lateralOffset
        finalLegExtension := synced.finalLegExtension
        turnRadius := synced.turnRadius
        turn := synced.turn } := by
  have read {p : Property} {x : α} (member : p ∈ shaping)
      (written : Store.written synced.published p = some (.number x)) : s.number? p = some x :=
    Store.number?_of_get? ((held p member).trans written)
  have direction : s.get? Property.landDirection = some (.text synced.turn.name) :=
    held .landDirection (by decide)
  have present : s.has Property.landDirection = true := by rw [Store.has, direction]; rfl
  have named : s.text Property.landDirection = synced.turn.name := by
    rw [Store.text, direction, Value.toText]
  have radius : settings.reshapedRadius s = synced.turnRadius := by
    rw [reshapedRadius, read (p := .landTurnRadius) (by decide) rfl]
    dsimp only
    split
    next => rfl
    next refused => exact accepted.resolve_left refused
  rw [reshaped, radius, read (p := .landLateralOffset) (by decide) rfl,
    read (p := .landFinalLegExtension) (by decide) rfl, if_pos present, named, Turn.ofName_name]
  rfl

/-- Settings read again in either order are those in the store, but for the approach speed and the
flaps, which are not read again. -/
theorem read_again_of_holdsSettings (tuning : s.HoldsSettings synced tunables)
    (shape : s.HoldsSettings synced shaping)
    (accepted : LimitedSetting.turnRadius.minimum ≤ synced.turnRadius ∨
      settings.turnRadius = synced.turnRadius) :
    (settings.retuned s).reshaped s =
        { synced with approachSpeed := settings.approachSpeed, flaps := settings.flaps } ∧
      (settings.reshaped s).retuned s =
        { synced with approachSpeed := settings.approachSpeed, flaps := settings.flaps } := by
  constructor
  · rw [reshaped_of_holdsSettings shape (by rw [retuned_of_holdsSettings tuning]; exact accepted),
      retuned_of_holdsSettings tuning]
  · rw [retuned_of_holdsSettings tuning, reshaped_of_holdsSettings shape accepted]

end Settings

namespace Flight

variable [TrigScalar α]

/-- Nothing is planned yet, and the store holds what settings publish to shape an approach. -/
structure Unplanned (flight : Flight α) (settings : Settings α) : Prop where
  inForce : flight.task.settings = settings
  approach : flight.task.approach = none
  saved : flight.task.saved = []
  held : flight.vehicle.store.HoldsSettings settings Settings.shaping

theorem unplanned_start (entry : LandEntry α) (v : Vehicle α) :
    (start entry v).Unplanned entry.settings where
  inForce := rfl
  approach := rfl
  saved := rfl
  held := entry.settings.holdsSettings_setAll_published v.store
    (show Settings.shaping ⊆ Settings.publishedProperties by decide)

variable [TwoPlaces α]

theorem Unplanned.step {flight : Flight α} {settings : Settings α} {operation : Operation α}
    (unplanned : flight.Unplanned settings) (publishes : operation.publishes = false)
    (spared : ¬operation.Sets Settings.shaping) :
    (flight.step operation).1.Unplanned settings := by
  cases operation with
  | activate => cases publishes
  | rebuild => cases publishes
  | update =>
    -- Without an approach an update does nothing.
    have idle := LandingTask.update_of_approach_eq_none (v := flight.vehicle)
      unplanned.approach
    have same : (flight.step .update).1 = flight := by simp only [Flight.step, idle]
    rw [same]
    exact unplanned
  | close =>
    refine ⟨unplanned.inForce, unplanned.approach, ?_, ?_⟩
    · exact congrArg List.tail unplanned.saved
    · intro p member
      have outside : ∀ p ∈ Settings.shaping, p.path ≠ Property.flaps.path := by decide
      exact (LandingTask.get?_close_of_nil flight.vehicle unplanned.saved (outside p member)).trans
        (unplanned.held p member)
  | put path value =>
    refine ⟨unplanned.inForce, unplanned.approach, unplanned.saved, ?_⟩
    intro p member
    exact (get?_step_put spared member).trans (unplanned.held p member)
  | log event =>
    exact ⟨unplanned.inForce, unplanned.approach, unplanned.saved, unplanned.held⟩

theorem unplanned_run_start (entry : LandEntry α) (v : Vehicle α) {operations : List (Operation α)}
    (before : ∀ operation ∈ operations,
      operation.publishes = false ∧ ¬operation.Sets Settings.shaping) :
    ((start entry v).run operations).Unplanned entry.settings :=
  run_invariant (I := fun flight => flight.Unplanned entry.settings)
    (A := fun operation => operation.publishes = false ∧ ¬operation.Sets Settings.shaping)
    (fun _ _ allowed unplanned => unplanned.step allowed.1 allowed.2) before
    (unplanned_start entry v)

/-- The first approach is planned from the settings as they were published. -/
theorem Unplanned.rebuild {flight : Flight α} {settings : Settings α}
    (unplanned : flight.Unplanned settings) :
    (flight.task.rebuild flight.vehicle).1 =
      Approach.plan settings (Home.ofStore flight.vehicle.store) := by
  have same : flight.task.settings.reshaped flight.vehicle.store = settings := by
    rw [unplanned.inForce, Settings.reshaped_of_holdsSettings unplanned.held (Or.inr rfl)]
  simp only [LandingTask.rebuild, same]

/-- What the settings of a land entry publish in a store, they read again in either order, whatever
the store held. So as long as nobody else writes what shapes an approach, the first activation or
rebuild of a new task plans the approach of these settings to the home that is then in the store.
And any other settings read the published ones, if their turn radius is not below the minimum, but
for the approach speed and the flaps. -/
theorem settings_survive_store (entry : LandEntry α) :
    (∀ s : Store α,
      let synced := s.setAll entry.settings.published
      (entry.settings.retuned synced).reshaped synced = entry.settings ∧
        (entry.settings.reshaped synced).retuned synced = entry.settings) ∧
    (∀ (v : Vehicle α) (operations : List (Operation α)),
      (∀ operation ∈ operations,
        operation.publishes = false ∧ ¬operation.Sets Settings.shaping) →
      let reached := (start entry v).run operations
      let approach := Approach.plan entry.settings (Home.ofStore reached.vehicle.store)
      (reached.step .activate).1.task.approach = some approach ∧
        (reached.step .rebuild).1.task.approach = some approach ∧
        (reached.step .rebuild).2 = .approach approach) ∧
    (∀ (synced other : Settings α) (s : Store α),
      LimitedSetting.turnRadius.minimum ≤ synced.turnRadius →
      let t := s.setAll synced.published
      (other.retuned t).reshaped t =
          { synced with approachSpeed := other.approachSpeed, flaps := other.flaps } ∧
        (other.reshaped t).retuned t =
          { synced with approachSpeed := other.approachSpeed, flaps := other.flaps }) := by
  refine ⟨?_, ?_, ?_⟩
  · intro s synced
    exact Settings.read_again_of_holdsSettings
      (entry.settings.holdsSettings_setAll_published s (by decide))
      (entry.settings.holdsSettings_setAll_published s (by decide)) (Or.inr rfl)
  · intro v operations before reached approach
    have unplanned : reached.Unplanned entry.settings := unplanned_run_start entry v before
    have planned : (reached.task.rebuild reached.vehicle).1 = approach := unplanned.rebuild
    refine ⟨?_, congrArg some planned, congrArg Answer.approach planned⟩
    have prepared := LandingTask.prepare_of_none reached.task reached.vehicle unplanned.approach
    change (reached.task.prepare reached.vehicle).1.approach = some approach
    rw [prepared]
    exact congrArg some planned
  · intro synced other s accepted t
    exact Settings.read_again_of_holdsSettings
      (synced.holdsSettings_setAll_published s (by decide))
      (synced.holdsSettings_setAll_published s (by decide)) (Or.inl accepted)

/-- An undefined turn radius and an infinite offset come through a store that held a text and a flag
in their places, past a home that somebody moves, an update and a close. -/
theorem settings_survive_store_of_undefined_radius :
    let entry : LandEntry Float :=
      { LandEntry.blank with turnRadius := 0.0 / 0.0, lateralOffset := 1.0 / 0.0 }
    let stale : Store Float :=
      (Store.empty.set Property.landTurnRadius (.text "wide")).set Property.landDirection (.flag true)
    let operations : List (Operation Float) :=
      [.update, .put Property.homeLatitude (some (.number 45.0)), .close, .log ⟨"land", "ready"⟩]
    let reached := (start entry (Vehicle.ofStore stale)).run operations
    let synced := Store.empty.setAll (Settings.standard : Settings Float).published
    (∀ operation ∈ operations,
        operation.publishes = false ∧ ¬operation.Sets Settings.shaping) ∧
      (reached.step .activate).1.task.approach =
        some (Approach.plan entry.settings (Home.ofStore reached.vehicle.store)) ∧
      LimitedSetting.turnRadius.minimum ≤ (Settings.standard : Settings Float).turnRadius ∧
      (entry.settings.retuned synced).reshaped synced =
        { (Settings.standard : Settings Float) with
          approachSpeed := entry.settings.approachSpeed
          flaps := entry.settings.flaps } := by
  intro entry stale operations reached synced
  have before : ∀ operation ∈ operations,
      operation.publishes = false ∧ ¬operation.Sets Settings.shaping := by
    simp [operations, Operation.publishes, Operation.Sets, Settings.shaping]
  have accepted :
      LimitedSetting.turnRadius.minimum ≤ (Settings.standard : Settings Float).turnRadius := by
    decide +kernel
  obtain ⟨_, planned, read⟩ := settings_survive_store entry
  refine ⟨before, (planned _ operations before).1, accepted, ?_⟩
  exact (read Settings.standard entry.settings Store.empty accepted).1

end Flight

end LandingGuidance

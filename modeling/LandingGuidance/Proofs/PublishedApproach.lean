import LandingGuidance.Binary64.Arithmetic
import LandingGuidance.Proofs.Lifecycle
import LandingGuidance.Proofs.TwoRuns
import Mathlib.Data.List.DropRight

/-!
# What is published is what is flown

An activation and a rebuild publish the approach that the task holds from then on. A close may put
an older circle back, but then the task is not active, and the next activation publishes again. So
while the task is active, and nobody else has written what was published last, the store shows the
approach that an update measures against.
-/

namespace LandingGuidance

variable {α : Type} [TwoPlaces α]

/-- The store holds what an approach publishes at some properties. -/
def Store.Shows (s : Store α) (approach : Approach α) (properties : List Property) : Prop :=
  ∀ p ∈ properties, s.get? p = Store.written approach.published p

/-- Nothing but these properties matters. -/
theorem Store.Shows.of_get?_eq {s t : Store α} {approach : Approach α} {properties : List Property}
    (shown : s.Shows approach properties) (same : ∀ p ∈ properties, t.get? p = s.get? p) :
    t.Shows approach properties := by
  intro p member
  rw [same p member, shown p member]

theorem Store.shows_setAll_published (s : Store α) (approach : Approach α)
    {properties : List Property} (published : properties ⊆ Approach.publishedProperties) :
    (s.setAll approach.published).Shows approach properties := by
  intro p member
  rw [get?_setAll]
  exact Option.or_of_isSome (approach.isSome_written_published (published member))

/-- While the task is active, the store shows its approach at some properties. -/
def Flight.ShowsApproach (flight : Flight α) (properties : List Property) : Prop :=
  flight.task.isActive = true →
    ∃ approach, flight.task.approach = some approach ∧
      flight.vehicle.store.Shows approach properties

/-- The properties that tell the controllers which circle and which route to fly. -/
def Approach.guidingProperties : List Property :=
  Scope.circleProperties
    ++ [.routeRequest, .routeStartMode, .routeFollowMode, .routeCompletionMode]

/-- Whether an operation publishes the approach that the task then holds. -/
def Operation.publishes : Operation α → Bool
  | .activate | .rebuild => true
  | _ => false

namespace Flight

variable [TrigScalar α] {flight : Flight α} {properties : List Property}

/-! ### One operation -/

/-- A value that somebody puts elsewhere leaves the properties alone. -/
theorem get?_step_put {path : String} {value : Option (Value α)} {p : Property}
    (spared : ¬Operation.Sets properties (.put path value)) (member : p ∈ properties) :
    (flight.step (.put path value)).1.vehicle.store.get? p = flight.vehicle.store.get? p := by
  have elsewhere : path ≠ p.path := fun here => spared ⟨p, member, here.symm⟩
  exact (Store.get?_put _ path _ value).trans (if_neg elsewhere)

theorem showsApproach_activate (published : properties ⊆ Approach.publishedProperties) :
    (flight.step .activate).1.ShowsApproach properties := by
  intro _
  obtain ⟨approach, planned⟩ :=
    Option.isSome_iff_exists.mp (flight.task.prepare_approach_isSome flight.vehicle)
  refine ⟨approach, planned, ?_⟩
  intro p member
  -- What is taken over lies outside of what is published.
  have notTakenOver : ∀ q ∈ LandingTask.takenOverProperties, q.path ≠ p.path := by
    have outside : ∀ p ∈ Approach.publishedProperties, ∀ q ∈ LandingTask.takenOverProperties,
        q.path ≠ p.path := by
      decide
    exact outside p (published member)
  have kept : (flight.step .activate).1.vehicle.store.get? p =
      (flight.task.prepare flight.vehicle).2.store.get? p :=
    Store.get?_setAll_of_properties _ (LandingTask.mem_takeOver _ _) notTakenOver
  rw [kept, flight.task.get?_prepare flight.vehicle planned]
  exact Option.or_of_isSome (approach.isSome_written_published (published member))

theorem showsApproach_rebuild (published : properties ⊆ Approach.publishedProperties) :
    (flight.step .rebuild).1.ShowsApproach properties :=
  fun _ => ⟨_, rfl, Store.shows_setAll_published _ _ published⟩

theorem showsApproach_of_publishes {operation : Operation α}
    (publishes : operation.publishes = true)
    (published : properties ⊆ Approach.publishedProperties) :
    (flight.step operation).1.ShowsApproach properties := by
  cases operation with
  | activate => exact showsApproach_activate published
  | rebuild => exact showsApproach_rebuild published
  | _ => cases publishes

theorem showsApproach_step {operation : Operation α}
    (published : properties ⊆ Approach.publishedProperties)
    (spared : ¬operation.Sets properties) (shown : flight.ShowsApproach properties) :
    (flight.step operation).1.ShowsApproach properties := by
  cases operation with
  | activate => exact showsApproach_activate published
  | rebuild => exact showsApproach_rebuild published
  | close =>
    intro active
    cases active
  | update =>
    intro active
    rw [isActive_step] at active
    obtain ⟨approach, planned, shown⟩ := shown active
    refine ⟨approach, (LandingTask.approach_update _ _).trans planned, shown.of_get?_eq ?_⟩
    intro p member
    have outside : ∀ p ∈ Approach.publishedProperties, ∀ q ∈ Cycle.commandedProperties,
        q.path ≠ p.path := by
      decide
    exact flight.task.get?_update_of_ne flight.vehicle (outside p (published member))
  | put path value =>
    intro active
    obtain ⟨approach, planned, shown⟩ := shown active
    exact ⟨approach, planned, shown.of_get?_eq fun p member => get?_step_put spared member⟩
  | log event => exact shown

/-! ### Runs -/

theorem showsApproach_run {operations : List (Operation α)}
    (published : properties ⊆ Approach.publishedProperties)
    (spared : ∀ operation ∈ operations, ¬operation.Sets properties)
    (shown : flight.ShowsApproach properties) :
    (flight.run operations).ShowsApproach properties :=
  run_invariant (I := fun flight => flight.ShowsApproach properties)
    (A := fun operation => ¬operation.Sets properties)
    (fun _ _ spared shown => showsApproach_step published spared shown) spared shown

/-- While the task is active, the store shows its approach, wherever nobody else has written since
the latest activation or rebuild. -/
theorem showsApproach_run_start (entry : LandEntry α) (v : Vehicle α)
    {operations : List (Operation α)} (published : properties ⊆ Approach.publishedProperties)
    (spared : ∀ operation ∈ operations.rtakeWhile (!·.publishes), ¬operation.Sets properties) :
    ((start entry v).run operations).ShowsApproach properties := by
  induction operations using List.reverseRecOn with
  | nil =>
    intro active
    cases active
  | append_singleton operations operation ih =>
    rw [run_append, run_cons, run_nil]
    cases publishes : operation.publishes with
    | true => exact showsApproach_of_publishes publishes published
    | false =>
      rw [List.rtakeWhile_concat_pos _ _ _ (by simpa using publishes), List.forall_mem_append,
        List.forall_mem_singleton] at spared
      exact showsApproach_step published spared.2 (ih spared.1)

/-- In every state that a new task reaches and in which it is active, while nobody else has written
the circle and the route since the latest activation or rebuild, the store holds the circle and the
route of the approach that the next update measures against. -/
theorem published_approach_is_flown (entry : LandEntry α) (v : Vehicle α)
    {operations : List (Operation α)}
    (active : ((start entry v).run operations).task.isActive = true)
    (spared : ∀ operation ∈ operations.rtakeWhile (!·.publishes),
      ¬operation.Sets Approach.guidingProperties) :
    let reached := (start entry v).run operations
    let s := reached.vehicle.store
    ∃ g approach, reached.task.guidance = some g ∧ reached.task.approach = some approach ∧
      reached.step .update =
        (reached.afterCycle (reached.cycle g approach),
          .report (some (reached.cycle g approach).report)) ∧
      s.get? Property.circleLatitude = some (.number approach.center.latitude) ∧
      s.get? Property.circleLongitude = some (.number approach.center.longitude) ∧
      s.get? Property.circleDirection = some (.text approach.turn.name) ∧
      s.get? Property.circleRadius = some (.number approach.radius) ∧
      s.get? Property.routeRequest = some (.text approach.finalRoute.route.text) ∧
      s.get? Property.routeStartMode = some (.text approach.finalRoute.start.name) ∧
      s.get? Property.routeFollowMode = some (.text approach.finalRoute.following.name) ∧
      s.get? Property.routeCompletionMode = some (.text approach.finalRoute.completion.name) := by
  intro reached s
  have published : Approach.guidingProperties ⊆ Approach.publishedProperties := by
    decide
  obtain ⟨g, hg⟩ := Option.isSome_iff_exists.mp active
  obtain ⟨approach, planned, shown⟩ := showsApproach_run_start entry v published spared active
  have holds {p : Property} (member : p ∈ Approach.guidingProperties) := shown p member
  refine ⟨g, approach, hg, planned, step_update_of_some hg planned, ?_⟩
  exact ⟨holds (p := .circleLatitude) (by decide), holds (p := .circleLongitude) (by decide),
    holds (p := .circleDirection) (by decide), holds (p := .circleRadius) (by decide),
    holds (p := .routeRequest) (by decide), holds (p := .routeStartMode) (by decide),
    holds (p := .routeFollowMode) (by decide), holds (p := .routeCompletionMode) (by decide)⟩

/-- An inner close has put a circle back and somebody has turned it, but the activation after that
publishes the approach once more. -/
theorem published_approach_is_flown_after_inner_close :
    let operations : List (Operation Float) :=
      [.activate, .activate, .close, .put Property.circleDirection (some (.text "right")),
        .activate, .put Property.routeDistance (some (.number 3.0)), .update]
    let reached := (start LandEntry.blank (Vehicle.ofStore Store.empty)).run operations
    reached.task.isActive = true ∧
      (∀ operation ∈ operations.rtakeWhile (!·.publishes),
        ¬operation.Sets Approach.guidingProperties) ∧
      ∃ approach, reached.task.approach = some approach ∧
        reached.vehicle.store.get? Property.circleDirection = some (.text approach.turn.name) := by
  intro operations reached
  have active : reached.task.isActive = true := rfl
  have spared : ∀ operation ∈ operations.rtakeWhile (!·.publishes),
      ¬operation.Sets Approach.guidingProperties := by
    simp [operations, List.rtakeWhile, Operation.publishes, Operation.Sets,
      Approach.guidingProperties, Scope.circleProperties]
  obtain ⟨_, approach, _, planned, _, _, _, direction, _⟩ :=
    published_approach_is_flown LandEntry.blank (Vehicle.ofStore Store.empty) active spared
  exact ⟨active, spared, approach, planned, direction⟩

end Flight

end LandingGuidance

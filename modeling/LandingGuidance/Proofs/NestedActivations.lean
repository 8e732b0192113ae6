import LandingGuidance.Proofs.Runs

/-!
# Nested activations

Activations nest, and a close answers the latest one that is still open. `openings` are the flights
as they were before the open activations. The task saves one state for each of them, so a close puts
back the modes and the targets as they were before the activation it answers. The circle is saved
only after it has been published, and comes back as the one published.
-/

namespace LandingGuidance

variable {α : Type} [TrigScalar α] [TwoPlaces α]

namespace Flight

/-- The flights before the activations that are open after an operation, the latest first, where
`opened` are those before it. A close with none open is answered by nothing. -/
def openingsAfter (flight : Flight α) (opened : List (Flight α)) : Operation α → List (Flight α)
  | .activate => flight :: opened
  | .close => opened.tail
  | _ => opened

/-- The flights before the activations that are open after a run. -/
def openings (flight : Flight α) (opened : List (Flight α)) :
    List (Operation α) → List (Flight α)
  | [] => opened
  | operation :: operations =>
    (flight.step operation).1.openings (flight.openingsAfter opened operation) operations

example (flight : Flight α) :
    flight.openings [] [.close, .activate, .activate, .close] = [(flight.step .close).1] := rfl

/-- What an activation of the flight saves. -/
def taken (flight : Flight α) : Saved α := flight.task.takenBy flight.vehicle

/-! ### The saved states -/

theorem saved_step {flight : Flight α} {opened : List (Flight α)} (operation : Operation α)
    (saved : flight.task.saved = opened.map taken) :
    (flight.step operation).1.task.saved = (flight.openingsAfter opened operation).map taken := by
  cases operation with
  | activate =>
    change (flight.task.activate flight.vehicle).1.saved = _
    rw [LandingTask.saved_activate, saved]
    rfl
  | update =>
    change (flight.task.update flight.vehicle).2.1.saved = _
    rw [LandingTask.saved_update, saved]
    rfl
  | close =>
    -- With none open there is nothing to take off on either side.
    change flight.task.saved.tail = opened.tail.map taken
    rw [saved, List.map_tail]
  | rebuild => exact saved
  | put path value => exact saved
  | log event => exact saved

/-- The task saves one state for each open activation, the one that this activation saved. -/
theorem saved_run {flight : Flight α} {opened : List (Flight α)} (operations : List (Operation α))
    (saved : flight.task.saved = opened.map taken) :
    (flight.run operations).task.saved = (flight.openings opened operations).map taken := by
  -- Both sides change with each operation, so the flight and what is open are generalised.
  induction operations generalizing flight opened with
  | nil => exact saved
  | cons operation operations ih => exact ih (saved_step operation saved)

theorem saved_run_of_within {flight : Flight α} {operations : List (Operation α)}
    (within : ∀ operation ∈ operations, operation.WithinActivation) :
    (flight.run operations).task.saved = flight.task.saved := by
  refine run_invariant (I := fun reached => reached.task.saved = flight.task.saved) ?_ within rfl
  intro reached operation within kept
  cases operation with
  | activate => exact within.elim
  | close => exact within.elim
  | update => exact (LandingTask.saved_update _ _).trans kept
  | rebuild => exact kept
  | put path value => exact kept
  | log event => exact kept

/-! ### Closing -/

/-- A close puts everything back as it was when the approach had been published for the activation
that it answers. -/
theorem get?_step_close {flight before : Flight α} {rest : List (Saved α)}
    (latest : flight.task.saved = before.taken :: rest) {p : Property}
    (member : p ∈ Scope.everything.properties) :
    (flight.step .close).1.vehicle.store.get? p =
      (before.task.prepare before.vehicle).2.store.get? p := by
  have other : p.path ≠ Property.flaps.path := by
    revert p
    decide
  change (flight.task.close flight.vehicle).2.store.get? p = _
  rw [LandingTask.get?_close_of_cons flight.vehicle latest other]
  change ((Saved.capture _ _).restore _).get? p = _
  rw [Saved.get?_restore_capture, if_pos (List.mem_map_of_mem member)]

/-- In every sequence of operations on a new task, each close puts the modes and the targets back as
they were immediately before the latest open activation, and takes the flaps in. With no activation
open it writes nothing but the flaps. -/
theorem close_restores_latest_activation (entry : LandEntry α) (v : Vehicle α)
    (operations : List (Operation α)) :
    let flight := start entry v
    let reached := flight.run operations
    let closed := (reached.step .close).1
    closed.vehicle.store.get? Property.flaps = some (.number 0.0) ∧
      match flight.openings [] operations with
      | before :: _ =>
        ∀ p ∈ Scope.modeProperties ++ Scope.targetProperties,
          closed.vehicle.store.get? p = before.vehicle.store.get? p
      | [] =>
        ∀ path, path ≠ Property.flaps.path →
          closed.vehicle.store.get? path = reached.vehicle.store.get? path := by
  intro flight reached closed
  have saved : reached.task.saved = (flight.openings [] operations).map taken :=
    saved_run operations rfl
  refine ⟨LandingTask.get?_close_flaps _ _, ?_⟩
  cases opened : flight.openings [] operations with
  | nil =>
    rw [opened] at saved
    exact fun path other => LandingTask.get?_close_of_nil _ saved other
  | cons before rest =>
    rw [opened] at saved
    intro p member
    have everything : p ∈ Scope.everything.properties := by
      revert p
      decide
    -- What is saved is the store after publishing, but publishing leaves these alone.
    have unpublished : ∀ q ∈ Approach.publishedProperties, q.path ≠ p.path := by
      revert p
      decide
    rw [get?_step_close saved everything]
    exact before.task.get?_prepare_of_ne before.vehicle unpublished

/-! ### The circle -/

/-- The circle that an approach publishes is what a close leaves after an activation and a run
within it. So the close hands back the circle from before the activation just if the approach
published that same circle. -/
theorem circle_after_close (flight : Flight α) {operations : List (Operation α)}
    (within : ∀ operation ∈ operations, operation.WithinActivation) :
    let opened := (flight.step .activate).1
    let closed := ((opened.run operations).step .close).1
    ∃ approach, opened.task.approach = some approach ∧
      (∀ p ∈ Scope.circleProperties,
        closed.vehicle.store.get? p = Store.written approach.published p) ∧
      ∀ p ∈ Scope.circleProperties,
        closed.vehicle.store.get? p = flight.vehicle.store.get? p ↔
          flight.vehicle.store.get? p = Store.written approach.published p := by
  intro opened closed
  obtain ⟨approach, planned⟩ :=
    Option.isSome_iff_exists.mp (flight.task.prepare_approach_isSome flight.vehicle)
  have saved : (opened.run operations).task.saved = flight.taken :: flight.task.saved := by
    rw [saved_run_of_within within]
    exact LandingTask.saved_activate _ _
  have published : ∀ p ∈ Scope.circleProperties,
      closed.vehicle.store.get? p = Store.written approach.published p := by
    intro p member
    have everything : p ∈ Scope.everything.properties := by
      revert p
      decide
    have circle : p ∈ Approach.publishedProperties := by
      revert p
      decide
    -- The circle has been published when the store is saved.
    rw [get?_step_close saved everything, flight.task.get?_prepare flight.vehicle planned]
    exact Option.or_of_isSome (approach.isSome_written_published circle)
  refine ⟨approach, planned, published, ?_⟩
  intro p member
  rw [published p member]
  exact eq_comm

/-- A task that holds a right circle gets the left one of the landing task back. -/
theorem circle_after_close_of_right_circle :
    let flight : Flight Float := start LandEntry.blank
      (Vehicle.ofStore (Store.empty.set Property.circleDirection (.text "right")))
    let operations : List (Operation Float) := [.update]
    let closed := (((flight.step .activate).1.run operations).step .close).1
    (∀ operation ∈ operations, operation.WithinActivation) ∧
      flight.vehicle.store.get? Property.circleDirection = some (.text "right") ∧
      closed.vehicle.store.get? Property.circleDirection = some (.text "left") := by
  intro flight operations closed
  have within : ∀ operation ∈ operations, operation.WithinActivation := by
    simp [operations, Operation.WithinActivation]
  have stored (p : Property) : flight.vehicle.store.get? p =
      (Store.written (LandEntry.blank : LandEntry Float).settings.published p).or
        ((Store.empty.set Property.circleDirection (.text "right")).get? p) :=
    Store.get?_setAll _ _ p
  obtain ⟨approach, planned, published, _⟩ := circle_after_close flight within
  have direction : flight.vehicle.store.text Property.landDirection = "left" := by
    rw [Store.text, stored]
    rfl
  have turn : approach.turn = .left := by
    cases planned
    change (flight.task.settings.reshaped flight.vehicle.store).turn = .left
    simp only [Settings.reshaped, direction]
    split <;> rfl
  refine ⟨within, ?_, ?_⟩
  · rw [stored]
    exact Store.get?_set_self _ _ _
  · rw [published .circleDirection (by decide)]
    change some (Value.text approach.turn.name) = _
    rw [turn]
    rfl

end Flight

end LandingGuidance

import LandingGuidance.Proofs.Modes
import LandingGuidance.Proofs.PublishedApproach

/-!
# Where the distance to go comes from

Guidance starts an activation with a distance of zero in place of one that it knows. While nobody
else writes the navigation mode that zero is never reported: the activation begins on the circle,
where the distance is measured, and off the circle there is a route distance or the distance of the
cycle before. A route distance that nobody else writes is the length of the final leg, which is
published with the approach.
-/

namespace LandingGuidance

variable {α : Type}

theorem Store.circling_iff [Scalar α] (s : Store α) :
    (Telemetry.ofStore s).circling = true ↔ s.Navigates .circle := by
  change (Value.toText (s.get? Property.navigationMode) == NavigationMode.circle.name) = true ↔
    s.get? Property.navigationMode = some (.text NavigationMode.circle.name)
  rw [beq_iff_eq]
  rcases s.get? Property.navigationMode with _ | (x | text | flag)
  · simp [Value.toText, NavigationMode.name]
  · simp [Value.toText, NavigationMode.name]
  · simp [Value.toText]
  · simp [Value.toText, NavigationMode.name]

/-- The task is underway, and off the circle guidance holds the distance of the last report. -/
def Flight.HoldsDistance (flight : Flight α) (reports : List (Report α)) : Prop :=
  ∃ g approach, flight.task.guidance = some g ∧ flight.task.approach = some approach ∧
    (flight.vehicle.store.Navigates .circle ∨
      ∃ previous, reports.getLast? = some previous ∧ g.distanceToGo = previous.distanceToGo)

namespace Flight

variable [TrigScalar α] [TwoPlaces α] {flight : Flight α} {reports : List (Report α)}

theorem navigates_step_activate (flight : Flight α) :
    (flight.step .activate).1.vehicle.store.Navigates .circle :=
  flight.task.get?_activate flight.vehicle .navigationMode

theorem holdsDistance_activate (flight : Flight α) (reports : List (Report α)) :
    (flight.step .activate).1.HoldsDistance reports := by
  obtain ⟨g, approach, hg, happroach⟩ := flight.task.activate_underway flight.vehicle
  exact ⟨g, approach, hg, happroach, Or.inl flight.navigates_step_activate⟩

theorem holdsDistance_step {operation : Operation α} (open_ : operation ≠ .close)
    (spared : ¬operation.Sets [.navigationMode]) (held : flight.HoldsDistance reports) :
    (flight.step operation).1.HoldsDistance
      (reports ++ (flight.step operation).2.report?.toList) := by
  obtain ⟨g, approach, hg, happroach, source⟩ := held
  -- Other operations than an update report nothing, and what is held is held on.
  have keeps {later : Flight α} {approach' : Approach α}
      (guidance : later.task.guidance = flight.task.guidance)
      (planned : later.task.approach = some approach')
      (mode : later.vehicle.store.get? Property.navigationMode =
        flight.vehicle.store.get? Property.navigationMode) :
      later.HoldsDistance (reports ++ (none : Option (Report α)).toList) := by
    refine ⟨g, approach', guidance.trans hg, planned, ?_⟩
    rw [Option.toList_none, List.append_nil, Store.Navigates, mode]
    exact source
  cases operation with
  | activate => exact flight.holdsDistance_activate _
  | close => exact absurd rfl open_
  | update =>
    rw [step_update_of_some hg happroach]
    exact ⟨_, approach, rfl, happroach, Or.inr ⟨_, List.getLast?_concat, rfl⟩⟩
  | rebuild => exact keeps rfl rfl (flight.task.get?_rebuild_of_ne flight.vehicle (by decide))
  | put path value => exact keeps rfl happroach (get?_step_put spared (List.mem_singleton_self _))
  | log event => exact keeps rfl happroach rfl

/-- From an activation on, through other activations and until a close, while nobody else writes the
navigation mode, the distance that an update reports is measured in the cycle if it begins on the
circle. Off the circle it is the route distance in the store while that is valid, and else the
distance of the cycle before. If nobody else writes the route distance either, the store holds the
length of the final leg of the approach that is flown. -/
theorem distance_measured_read_or_held (flight : Flight α) {operations : List (Operation α)}
    (allowed : ∀ operation ∈ operations,
      operation ≠ .close ∧ ¬operation.Sets [.navigationMode]) :
    let opened := (flight.step .activate).1
    let reached := opened.run operations
    let s := reached.vehicle.store
    ∃ approach report, reached.task.approach = some approach ∧
      (reached.step .update).2 = .report (some report) ∧
      (s.Navigates .circle →
        report.distanceToGo =
          approach.distanceToGo (approach.fix (Telemetry.ofStore s).position)
            report.circleCaptured) ∧
      (¬s.Navigates .circle → s.flag Property.routeDistanceValid = true →
        report.distanceToGo = s.number Property.routeDistance) ∧
      (¬s.Navigates .circle → s.flag Property.routeDistanceValid = false →
        ∃ previous, (opened.reports operations).getLast? = some previous ∧
          report.distanceToGo = previous.distanceToGo) ∧
      ((∀ operation ∈ operations, ¬operation.Sets [.routeDistance]) →
        s.get? Property.routeDistance = some (.number approach.finalLeg)) := by
  intro opened reached s
  have held : reached.HoldsDistance (opened.reports operations) :=
    run_reports (A := fun operation => operation ≠ .close ∧ ¬operation.Sets [.navigationMode])
      (fun _ _ _ allowed held => holdsDistance_step allowed.1 allowed.2 held) allowed
      (flight.holdsDistance_activate [])
  obtain ⟨g, approach, hg, happroach, source⟩ := held
  refine ⟨approach, (reached.cycle g approach).report, happroach, ?_, ?_, ?_, ?_, ?_⟩
  · rw [step_update_of_some hg happroach]
  · intro circle
    exact g.lateral_distanceToGo_of_circling approach (s.circling_iff.mpr circle)
  · intro off valid
    have read : (Telemetry.ofStore s).routeDistance = some (s.number Property.routeDistance) :=
      if_pos valid
    refine (g.lateral_distanceToGo_of_not_circling approach (mt s.circling_iff.mp off)).trans ?_
    rw [read, Option.getD_some]
  · intro off invalid
    obtain ⟨previous, last, same⟩ := source.resolve_left off
    have unread : (Telemetry.ofStore s).routeDistance = none := by
      simp [Telemetry.ofStore, invalid]
    refine ⟨previous, last, ?_⟩
    refine (g.lateral_distanceToGo_of_not_circling approach (mt s.circling_iff.mp off)).trans ?_
    rw [unread, Option.getD_none, same]
  · intro spared
    have published : [Property.routeDistance] ⊆ Approach.publishedProperties := by
      decide
    obtain ⟨approach', happroach', shown⟩ :=
      showsApproach_run published spared (showsApproach_activate published)
        (LandingTask.isActive_of_some hg)
    rw [happroach] at happroach'
    cases happroach'
    exact shown _ (List.mem_singleton_self _)

/-- On the circle that an activation within the run begins, a valid route distance of three meters
that somebody left is not read. -/
theorem distance_measured_read_or_held_inner_activation :
    let flight : Flight Float := start LandEntry.blank (Vehicle.ofStore Store.empty)
    let operations : List (Operation Float) :=
      [.put Property.routeDistance (some (.number 3.0)),
        .put Property.routeDistanceValid (some (.flag true)), .update, .activate]
    let reached := (flight.step .activate).1.run operations
    (∀ operation ∈ operations, operation ≠ .close ∧ ¬operation.Sets [.navigationMode]) ∧
      reached.vehicle.store.Navigates .circle ∧
      ∃ approach report, reached.task.approach = some approach ∧
        (reached.step .update).2 = .report (some report) ∧
        report.distanceToGo =
          approach.distanceToGo (approach.fix (Telemetry.ofStore reached.vehicle.store).position)
            report.circleCaptured := by
  intro flight operations reached
  have allowed : ∀ operation ∈ operations,
      operation ≠ .close ∧ ¬operation.Sets [.navigationMode] := by
    simp [operations, Operation.Sets]
  have circle : reached.vehicle.store.Navigates .circle :=
    navigates_step_activate ((flight.step .activate).1.run (operations.take 3))
  obtain ⟨approach, report, planned, answered, measured, _⟩ :=
    distance_measured_read_or_held flight allowed
  exact ⟨allowed, circle, approach, report, planned, answered, measured circle⟩

end Flight

end LandingGuidance

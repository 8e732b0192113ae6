import LandingGuidance.Proofs.Operations

/-!
# Runs

What a run of operations answers and logs, and how what one operation preserves is preserved by a
run. Invariants of guidance are packaged once, in `run_within`: it is enough that a cycle preserves
them, since no other operation within an activation touches guidance.
-/

namespace LandingGuidance

variable {α : Type}

namespace Operation

/-- Whether an operation leaves the open activation open and starts no other. -/
def WithinActivation : Operation α → Prop
  | .activate | .close => False
  | _ => True

def isUpdate : Operation α → Bool
  | .update => true
  | _ => false

end Operation

def Answer.report? : Answer α → Option (Report α)
  | .report r => r
  | _ => none

namespace Flight

variable [TrigScalar α] [TwoPlaces α]

/-- The reports of the updates of a run. -/
def reports (flight : Flight α) : List (Operation α) → List (Report α)
  | [] => []
  | operation :: operations =>
    (flight.step operation).2.report?.toList ++ reports (flight.step operation).1 operations

/-- The events that an operation appends to the log. -/
def appended (flight : Flight α) (operation : Operation α) : List Event :=
  (flight.step operation).1.vehicle.log.events.drop flight.vehicle.log.events.length

/-- For each update of a run, the events that it appends to the log. -/
def cycleEvents (flight : Flight α) : List (Operation α) → List (List Event)
  | [] => []
  | operation :: operations =>
    (if operation.isUpdate then [flight.appended operation] else [])
      ++ cycleEvents (flight.step operation).1 operations

/-! ### Runs and their parts -/

@[simp] theorem run_nil (flight : Flight α) : flight.run [] = flight := rfl

@[simp] theorem run_cons (flight : Flight α) (operation : Operation α)
    (operations : List (Operation α)) :
    flight.run (operation :: operations) = (flight.step operation).1.run operations := rfl

theorem run_append (flight : Flight α) (first second : List (Operation α)) :
    flight.run (first ++ second) = (flight.run first).run second :=
  List.foldl_append

theorem reports_append (flight : Flight α) (first second : List (Operation α)) :
    flight.reports (first ++ second) =
      flight.reports first ++ (flight.run first).reports second := by
  induction first generalizing flight with
  | nil => rfl
  | cons operation first ih =>
    rw [List.cons_append, reports, reports, ih, List.append_assoc]
    rfl

theorem cycleEvents_cons (flight : Flight α) (operation : Operation α)
    (operations : List (Operation α)) :
    flight.cycleEvents (operation :: operations) =
      flight.cycleEvents [operation] ++ (flight.step operation).1.cycleEvents operations := by
  simp only [cycleEvents, List.append_nil]

theorem cycleEvents_of_not_update (flight : Flight α) {operation : Operation α}
    (other : operation.isUpdate = false) : flight.cycleEvents [operation] = [] := by
  simp [cycleEvents, other]

/-- What each operation of a run preserves holds after the run. -/
theorem run_invariant {I : Flight α → Prop} {A : Operation α → Prop}
    (preserves : ∀ flight operation, A operation → I flight → I (flight.step operation).1)
    {flight : Flight α} {operations : List (Operation α)}
    (allowed : ∀ operation ∈ operations, A operation) (initial : I flight) :
    I (flight.run operations) := by
  induction operations generalizing flight with
  | nil => exact initial
  | cons operation operations ih =>
    rw [List.forall_mem_cons] at allowed
    exact ih allowed.2 (preserves flight operation allowed.1 initial)

/-- What each operation preserves of the state and the events of the cycles so far holds after the
run, with the events of its cycles. -/
theorem run_history {I : Flight α → List (List Event) → Prop} {A : Operation α → Prop}
    (preserves : ∀ flight operation cycles, A operation → I flight cycles →
      I (flight.step operation).1 (cycles ++ flight.cycleEvents [operation]))
    {flight : Flight α} {operations : List (Operation α)} {cycles : List (List Event)}
    (allowed : ∀ operation ∈ operations, A operation) (initial : I flight cycles) :
    I (flight.run operations) (cycles ++ flight.cycleEvents operations) := by
  -- The events of the first operation go to the end of those so far.
  induction operations generalizing flight cycles with
  | nil =>
    rw [cycleEvents, List.append_nil]
    exact initial
  | cons operation operations ih =>
    rw [List.forall_mem_cons] at allowed
    rw [run_cons, cycleEvents_cons, ← List.append_assoc]
    exact ih allowed.2 (preserves flight operation cycles allowed.1 initial)

/-- What each operation preserves of the state and the reports so far holds after the run, with the
reports of its updates. -/
theorem run_reports {I : Flight α → List (Report α) → Prop} {A : Operation α → Prop}
    (preserves : ∀ flight operation reports, A operation → I flight reports →
      I (flight.step operation).1 (reports ++ (flight.step operation).2.report?.toList))
    {flight : Flight α} {operations : List (Operation α)} {reports : List (Report α)}
    (allowed : ∀ operation ∈ operations, A operation) (initial : I flight reports) :
    I (flight.run operations) (reports ++ flight.reports operations) := by
  induction operations generalizing flight reports with
  | nil =>
    rw [Flight.reports, List.append_nil]
    exact initial
  | cons operation operations ih =>
    rw [List.forall_mem_cons] at allowed
    rw [run_cons, Flight.reports, ← List.append_assoc]
    exact ih allowed.2 (preserves flight operation reports allowed.1 initial)

/-! ### Updates -/

section Update

variable {flight : Flight α} {g : Guidance α} {approach : Approach α}

def cycle (flight : Flight α) (g : Guidance α) (approach : Approach α) : Cycle α :=
  flight.task.cycle flight.vehicle.store g approach

def afterCycle (flight : Flight α) (c : Cycle α) : Flight α where
  task :=
    { flight.task with
      settings := flight.task.settings.retuned flight.vehicle.store
      guidance := some c.after }
  vehicle := (flight.vehicle.setAll c.commands).record c.events

theorem step_update_of_some (hg : flight.task.guidance = some g)
    (happroach : flight.task.approach = some approach) :
    flight.step .update =
      (flight.afterCycle (flight.cycle g approach),
        .report (some (flight.cycle g approach).report)) := by
  simp only [step, LandingTask.update_of_some hg happroach]
  rfl

/-- An update answers a report if the task is underway, and else it does nothing. -/
theorem step_update_cases (flight : Flight α) :
    flight.task.Underway ∨
      ¬flight.task.Underway ∧ flight.step .update = (flight, .report none) := by
  rcases flight.task.update_cases flight.vehicle with underway | ⟨notUnderway, idle⟩
  · exact Or.inl underway
  · refine Or.inr ⟨notUnderway, ?_⟩
    simp only [step, idle]

theorem appended_update (hg : flight.task.guidance = some g)
    (happroach : flight.task.approach = some approach) :
    flight.appended .update = (flight.cycle g approach).events := by
  rw [appended, step_update_of_some hg happroach]
  exact List.drop_left

theorem cycleEvents_update (hg : flight.task.guidance = some g)
    (happroach : flight.task.approach = some approach) :
    flight.cycleEvents [.update] = [(flight.cycle g approach).events] := by
  rw [← appended_update hg happroach]
  rfl

/-- Guidance is begun by an activation, goes on by a cycle, or is left alone. -/
theorem guidance_step_cases {operation : Operation α}
    (hg : (flight.step operation).1.task.guidance = some g) :
    g = Guidance.fresh ∨ flight.task.guidance = some g ∨
      ∃ before settings approach t, flight.task.guidance = some before ∧
        g = (before.cycle settings approach t).after := by
  cases operation with
  | activate => exact Or.inl (Option.some.inj hg).symm
  | close => cases hg
  | rebuild => exact Or.inr (Or.inl hg)
  | put path value => exact Or.inr (Or.inl hg)
  | log event => exact Or.inr (Or.inl hg)
  | update =>
    apply Or.inr
    rcases flight.step_update_cases with ⟨before, approach, hbefore, happroach⟩ | ⟨_, idle⟩
    · rw [step_update_of_some hbefore happroach] at hg
      exact Or.inr ⟨before, _, approach, _, hbefore, (Option.some.inj hg).symm⟩
    · rw [idle] at hg
      exact Or.inl hg

end Update

/-! ### Runs within an activation -/

/-- Within an activation an update is a cycle, and any other operation leaves guidance alone. -/
theorem step_within_cases {flight : Flight α} {g : Guidance α} {operation : Operation α}
    (within : operation.WithinActivation) (hg : flight.task.guidance = some g)
    (planned : flight.task.approach.isSome = true) :
    (∃ approach, operation = .update ∧ flight.task.approach = some approach) ∨
      operation.isUpdate = false ∧ (flight.step operation).1.task.guidance = some g ∧
        (flight.step operation).1.task.approach.isSome = true := by
  cases operation with
  | activate => exact within.elim
  | close => exact within.elim
  | update =>
    obtain ⟨approach, happroach⟩ := Option.isSome_iff_exists.mp planned
    exact Or.inl ⟨approach, rfl, happroach⟩
  | rebuild => exact Or.inr ⟨rfl, hg, rfl⟩
  | put path value => exact Or.inr ⟨rfl, hg, planned⟩
  | log event => exact Or.inr ⟨rfl, hg, planned⟩

/-- If each cycle preserves an invariant of guidance and of the events of the cycles so far, then a
run within an activation preserves it. -/
theorem run_within {I : Guidance α → List (List Event) → Prop}
    (preserves : ∀ g cycles settings approach t, I g cycles →
      I (g.cycle settings approach t).after (cycles ++ [(g.cycle settings approach t).events]))
    {flight : Flight α} {g : Guidance α} {operations : List (Operation α)}
    (cycles : List (List Event))
    (within : ∀ operation ∈ operations, operation.WithinActivation)
    (hg : flight.task.guidance = some g) (planned : flight.task.approach.isSome = true)
    (initial : I g cycles) :
    ∃ last, (flight.run operations).task.guidance = some last ∧
      (flight.run operations).task.approach.isSome = true ∧
      I last (cycles ++ flight.cycleEvents operations) := by
  refine run_history (A := Operation.WithinActivation)
    (I := fun flight cycles => ∃ g, flight.task.guidance = some g ∧
      flight.task.approach.isSome = true ∧ I g cycles) ?_ within ⟨g, hg, planned, initial⟩
  rintro flight operation cycles within ⟨g, hg, planned, held⟩
  rcases step_within_cases within hg planned with
    ⟨approach, rfl, happroach⟩ | ⟨other, kept, stillPlanned⟩
  · rw [cycleEvents_update hg happroach, step_update_of_some hg happroach]
    exact ⟨_, rfl, planned, preserves g cycles _ approach _ held⟩
  · rw [flight.cycleEvents_of_not_update other, List.append_nil]
    exact ⟨g, kept, stillPlanned, held⟩

end Flight

end LandingGuidance

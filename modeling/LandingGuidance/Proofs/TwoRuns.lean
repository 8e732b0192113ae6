import LandingGuidance.Proofs.Footprints

/-!
# Two runs side by side

Two runs of the same operations, where others write some properties in one run and not in the
other, or write something else there. What such a write on one side preserves, and each operation on
both sides, holds at the end. If the updates answer and log the same on both sides, so do the runs.
-/

namespace LandingGuidance

variable {α : Type}

/-! ### Agreement up to some properties -/

/-- Two stores hold the same at all paths but those of some properties. -/
def Store.AgreeExcept (s t : Store α) (properties : List Property) : Prop :=
  ∀ path, (∀ p ∈ properties, p.path ≠ path) → s.get? path = t.get? path

theorem Store.AgreeExcept.agree {s t : Store α} {properties others : List Property}
    (same : s.AgreeExcept t properties) (disjoint : ∀ p ∈ properties, p ∉ others) :
    s.Agree t others := by
  intro q member
  apply same
  rintro p changed equal
  rw [Property.path_injective equal] at changed
  exact disjoint q changed member

/-- Two vehicles differ in the values of some properties only. -/
structure Vehicle.AgreeExcept (v w : Vehicle α) (properties : List Property) : Prop where
  store : v.store.AgreeExcept w.store properties
  log : v.log = w.log
  warnings : v.warnings = w.warnings

namespace Vehicle.AgreeExcept

variable {v w : Vehicle α} {properties : List Property}

theorem refl (v : Vehicle α) (properties : List Property) : v.AgreeExcept v properties :=
  ⟨fun _ _ => rfl, rfl, rfl⟩

theorem put (same : v.AgreeExcept w properties) (path : String) (value : Option (Value α)) :
    (v.put path value).AgreeExcept (w.put path value) properties where
  store other elsewhere := by
    rw [store_put, store_put, Store.get?_put, Store.get?_put, same.store other elsewhere]
  log := same.log
  warnings := same.warnings

theorem put_left (same : v.AgreeExcept w properties) {p : Property} (changed : p ∈ properties)
    (value : Option (Value α)) : (v.put p.path value).AgreeExcept w properties where
  store other elsewhere := by
    rw [store_put, Store.get?_put, if_neg (elsewhere p changed), same.store other elsewhere]
  log := same.log
  warnings := same.warnings

theorem symm (same : v.AgreeExcept w properties) : w.AgreeExcept v properties :=
  ⟨fun path elsewhere => (same.store path elsewhere).symm, same.log.symm, same.warnings.symm⟩

theorem put_right (same : v.AgreeExcept w properties) {p : Property} (changed : p ∈ properties)
    (value : Option (Value α)) : v.AgreeExcept (w.put p.path value) properties :=
  (same.symm.put_left changed value).symm

theorem setAll (same : v.AgreeExcept w properties) (entries : List (Property × Value α)) :
    (v.setAll entries).AgreeExcept (w.setAll entries) properties := by
  induction entries generalizing v w with
  | nil => exact same
  | cons entry entries ih => exact ih (same.put entry.1.path (some entry.2))

theorem restore (same : v.AgreeExcept w properties) (saved : Saved α) :
    (v.mapStore saved.restore).AgreeExcept (w.mapStore saved.restore) properties := by
  obtain ⟨entries⟩ := saved
  induction entries generalizing v w with
  | nil => exact same
  | cons entry entries ih => exact ih (same.put entry.1.path entry.2)

theorem record (same : v.AgreeExcept w properties) (events : List Event) :
    (v.record events).AgreeExcept (w.record events) properties where
  store := same.store
  log := congrArg (·.append events) same.log
  warnings := same.warnings

theorem warn (same : v.AgreeExcept w properties) (warnings : List (Warning α)) :
    (v.warn warnings).AgreeExcept (w.warn warnings) properties where
  store := same.store
  log := same.log
  warnings := congrArg (· ++ warnings) same.warnings

end Vehicle.AgreeExcept

/-! ### Runs -/

/-- Whether somebody else writes or removes the value of one of some properties. -/
def Operation.Sets (properties : List Property) : Operation α → Prop
  | .put path _ => ∃ p ∈ properties, p.path = path
  | _ => False

theorem Operation.Sets.eq_put {properties : List Property} {operation : Operation α}
    (sets : operation.Sets properties) :
    ∃ p ∈ properties, ∃ value, operation = .put p.path value := by
  cases operation with
  | put path value =>
    obtain ⟨p, changed, rfl⟩ := sets
    exact ⟨p, changed, value, rfl⟩
  | _ => exact sets.elim

theorem Operation.Sets.not_isUpdate {properties : List Property} {operation : Operation α}
    (sets : operation.Sets properties) : operation.isUpdate = false := by
  obtain ⟨p, _, value, rfl⟩ := sets.eq_put
  rfl

namespace Flight

variable [TrigScalar α] [TwoPlaces α]

/-- For each update of a run, the report that it answers, if it does. -/
def outputs (flight : Flight α) : List (Operation α) → List (Option (Report α))
  | [] => []
  | operation :: operations =>
    (if operation.isUpdate then [(flight.step operation).2.report?] else [])
      ++ outputs (flight.step operation).1 operations

/-- Two runs of the same operations, but for writes of others to some properties, which each run may
have of its own. What an operation finds in the two runs is as `Finds` says. -/
inductive SideBySide (properties : List Property)
    (Finds : Operation α → Flight α → Flight α → Prop) :
    Flight α → Flight α → List (Operation α) → List (Operation α) → Prop where
  | nil (flight flight' : Flight α) : SideBySide properties Finds flight flight' [] []
  | left {flight flight' : Flight α} {operation : Operation α}
      {operations operations' : List (Operation α)} (sets : operation.Sets properties)
      (rest : SideBySide properties Finds (flight.step operation).1 flight' operations
        operations') :
      SideBySide properties Finds flight flight' (operation :: operations) operations'
  | right {flight flight' : Flight α} {operation : Operation α}
      {operations operations' : List (Operation α)} (sets : operation.Sets properties)
      (rest : SideBySide properties Finds flight (flight'.step operation).1 operations
        operations') :
      SideBySide properties Finds flight flight' operations (operation :: operations')
  | both {flight flight' : Flight α} {operation : Operation α}
      {operations operations' : List (Operation α)} (finds : Finds operation flight flight')
      (rest : SideBySide properties Finds (flight.step operation).1 (flight'.step operation).1
        operations operations') :
      SideBySide properties Finds flight flight' (operation :: operations)
        (operation :: operations')

/-- The two sides of a step that both runs make: a relation of the flights is preserved, and an
update answers and logs the same. -/
structure StepAlike (R : Flight α → Flight α → Prop) (flight flight' : Flight α)
    (operation : Operation α) : Prop where
  related : R (flight.step operation).1 (flight'.step operation).1
  answers : operation.isUpdate = true →
    (flight.step operation).2.report? = (flight'.step operation).2.report?
  events : operation.isUpdate = true → flight.appended operation = flight'.appended operation

theorem StepAlike.of_not_isUpdate {R : Flight α → Flight α → Prop} {flight flight' : Flight α}
    {operation : Operation α} (other : operation.isUpdate = false)
    (related : R (flight.step operation).1 (flight'.step operation).1) :
    StepAlike R flight flight' operation where
  related := related
  answers update := by rw [other] at update; cases update
  events update := by rw [other] at update; cases update

/-- Two updates that run the same cycle are alike. -/
theorem StepAlike.of_cycle {R : Flight α → Flight α → Prop} {flight flight' : Flight α}
    {g g' : Guidance α} {approach approach' : Approach α}
    (hg : flight.task.guidance = some g) (happroach : flight.task.approach = some approach)
    (hg' : flight'.task.guidance = some g') (happroach' : flight'.task.approach = some approach')
    (same : flight.cycle g approach = flight'.cycle g' approach')
    (related : R (flight.afterCycle (flight.cycle g approach))
      (flight'.afterCycle (flight.cycle g approach))) :
    StepAlike R flight flight' .update where
  related := by
    rw [step_update_of_some hg happroach, step_update_of_some hg' happroach', ← same]
    exact related
  answers _ := by
    rw [step_update_of_some hg happroach, step_update_of_some hg' happroach', ← same]
  events _ := by rw [appended_update hg happroach, appended_update hg' happroach', ← same]

theorem StepAlike.of_idle {R : Flight α → Flight α → Prop} {flight flight' : Flight α}
    (idle : flight.step .update = (flight, .report none))
    (idle' : flight'.step .update = (flight', .report none)) (related : R flight flight') :
    StepAlike R flight flight' .update where
  related := by rwa [idle, idle']
  answers _ := by rw [idle, idle']
  events _ := by rw [appended, appended, idle, idle', List.drop_length, List.drop_length]

/-- A relation of flights that the writes of either run and the steps of both preserve holds of the
two flights in the end. -/
theorem SideBySide.related {properties : List Property}
    {Finds : Operation α → Flight α → Flight α → Prop} {R : Flight α → Flight α → Prop}
    (left : ∀ flight flight' operation, operation.Sets properties → R flight flight' →
      R (flight.step operation).1 flight')
    (right : ∀ flight flight' operation, operation.Sets properties → R flight flight' →
      R flight (flight'.step operation).1)
    (both : ∀ flight flight' operation, Finds operation flight flight' → R flight flight' →
      R (flight.step operation).1 (flight'.step operation).1)
    {flight flight' : Flight α} {operations operations' : List (Operation α)}
    (runs : SideBySide properties Finds flight flight' operations operations')
    (initial : R flight flight') : R (flight.run operations) (flight'.run operations') := by
  induction runs with
  | nil flight flight' => exact initial
  | left sets rest ih => exact ih (left _ _ _ sets initial)
  | right sets rest ih => exact ih (right _ _ _ sets initial)
  | both finds rest ih => exact ih (both _ _ _ finds initial)

theorem SideBySide.run {properties : List Property}
    {Finds : Operation α → Flight α → Flight α → Prop} {R : Flight α → Flight α → Prop}
    (left : ∀ flight flight' operation, operation.Sets properties → R flight flight' →
      R (flight.step operation).1 flight')
    (right : ∀ flight flight' operation, operation.Sets properties → R flight flight' →
      R flight (flight'.step operation).1)
    (both : ∀ flight flight' operation, Finds operation flight flight' → R flight flight' →
      StepAlike R flight flight' operation)
    {flight flight' : Flight α} {operations operations' : List (Operation α)}
    (runs : SideBySide properties Finds flight flight' operations operations')
    (initial : R flight flight') :
    R (flight.run operations) (flight'.run operations') ∧
      flight.outputs operations = flight'.outputs operations' ∧
      flight.cycleEvents operations = flight'.cycleEvents operations' := by
  refine ⟨runs.related left right (fun _ _ _ finds held => (both _ _ _ finds held).related) initial,
    ?_⟩
  -- Over the way the two runs are paired. A write on one side is no update, so it neither answers nor
  -- logs anything for the run.
  induction runs with
  | nil flight flight' => exact ⟨rfl, rfl⟩
  | left sets rest ih =>
    simpa [outputs, cycleEvents, sets.not_isUpdate] using ih (left _ _ _ sets initial)
  | right sets rest ih =>
    simpa [outputs, cycleEvents, sets.not_isUpdate] using ih (right _ _ _ sets initial)
  | both finds rest ih =>
    have alike := both _ _ _ finds initial
    obtain ⟨answered, logged⟩ := ih alike.related
    constructor
    · simp only [outputs, answered]
      split
      next update => rw [alike.answers update]
      · rfl
    · simp only [cycleEvents, logged]
      split
      next update => rw [alike.events update]
      · rfl

end Flight

end LandingGuidance

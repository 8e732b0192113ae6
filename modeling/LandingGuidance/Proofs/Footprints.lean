import LandingGuidance.Proofs.Latches
import LandingGuidance.Proofs.NestedActivations
import LandingGuidance.Proofs.Readings

/-!
# Footprints

The footprint of an operation of the task are the properties that it reads and those that it writes.
It depends on the state: on whether an approach is planned, on what is saved, and on whether the
aircraft is on the circle and the flare begins. An operation does not notice a value that somebody
else puts anywhere else, and leaves it alone, so it does not matter which of the two comes first.
-/

namespace LandingGuidance

variable {α : Type}

/-! ### Writes that do not meet -/

namespace Store

theorem put_comm (s : Store α) {first second : String} (distinct : first ≠ second)
    (v w : Option (Value α)) :
    (s.put first v).put second w = (s.put second w).put first v := by
  ext path : 1
  simp only [get?_put]
  split
  next here => rw [if_neg (fun there => distinct (there.trans here.symm))]
  · rfl

/-- To write what is there changes nothing. -/
theorem put_get? (s : Store α) (path : String) : s.put path (s.get? path) = s := by
  ext other : 1
  rw [get?_put]
  split
  next here => rw [here]
  · rfl

theorem setAll_put (s : Store α) {entries : List (Property × Value α)} {path : String}
    (elsewhere : ∀ p ∈ entries.map Prod.fst, p.path ≠ path) (value : Option (Value α)) :
    (s.put path value).setAll entries = (s.setAll entries).put path value := by
  induction entries generalizing s with
  | nil => rfl
  | cons entry entries ih =>
    obtain ⟨p, v⟩ := entry
    rw [List.map_cons, List.forall_mem_cons] at elsewhere
    rw [setAll_cons, setAll_cons, ← ih _ elsewhere.2]
    congr 1
    exact s.put_comm (Ne.symm elsewhere.1) value (some v)

end Store

theorem Saved.restore_put (saved : Saved α) (s : Store α) {path : String}
    (elsewhere : ∀ p ∈ saved.entries.map Prod.fst, p.path ≠ path) (value : Option (Value α)) :
    saved.restore (s.put path value) = (saved.restore s).put path value := by
  unfold restore
  generalize saved.entries = entries at elsewhere
  induction entries generalizing s with
  | nil => rfl
  | cons entry entries ih =>
    rw [List.map_cons, List.forall_mem_cons] at elsewhere
    rw [List.foldl_cons, List.foldl_cons, s.put_comm (Ne.symm elsewhere.1), ih _ elsewhere.2]

theorem Saved.get?_restore_of_forall_ne (saved : Saved α) (s : Store α) {path : String}
    (elsewhere : ∀ p ∈ saved.entries.map Prod.fst, p.path ≠ path) :
    (saved.restore s).get? path = s.get? path := by
  have left := saved.restore_put s elsewhere (s.get? path)
  rw [s.put_get?] at left
  rw [left, Store.get?_put, if_pos rfl]

namespace Vehicle

/-- Somebody else writes or removes a value. -/
def put (v : Vehicle α) (path : String) (value : Option (Value α)) : Vehicle α :=
  v.mapStore (·.put path value)

@[simp] theorem store_put (v : Vehicle α) (path : String) (value : Option (Value α)) :
    (v.put path value).store = v.store.put path value := rfl

theorem setAll_put (v : Vehicle α) {entries : List (Property × Value α)} {path : String}
    (elsewhere : ∀ p ∈ entries.map Prod.fst, p.path ≠ path) (value : Option (Value α)) :
    (v.put path value).setAll entries = (v.setAll entries).put path value := by
  simp only [put, setAll, mapStore, v.store.setAll_put elsewhere]

theorem setAll_published_put [TwoPlaces α] (v : Vehicle α) (approach : Approach α) {path : String}
    (elsewhere : ∀ p ∈ Approach.publishedProperties, p.path ≠ path) (value : Option (Value α)) :
    (v.put path value).setAll approach.published =
      (v.setAll approach.published).put path value := by
  have written : ∀ p ∈ approach.published.map Prod.fst, p.path ≠ path := elsewhere
  exact v.setAll_put written value

end Vehicle

/-! ### The operations of the task -/

namespace LandingTask

variable [TrigScalar α]

/-- The properties that a cycle reads in a store, when it goes as `c` says. -/
def cycleReads (s : Store α) (c : Cycle α) : List Property :=
  Settings.tunables ++ Telemetry.properties ++ Telemetry.lateralProperties s
    ++ (if c.flareBegins then Telemetry.references else [])

/-- A cycle and the settings after it depend on what the cycle reads. -/
theorem cycle_congr (task : LandingTask α) {s t : Store α} {g : Guidance α} {approach : Approach α}
    (agree : s.Agree t (cycleReads s (task.cycle s g approach))) :
    task.settings.retuned s = task.settings.retuned t ∧
      task.cycle s g approach = task.cycle t g approach := by
  unfold cycleReads at agree
  simp only [Store.agree_append] at agree
  obtain ⟨⟨⟨tunables, always⟩, lateral⟩, references⟩ := agree
  have settings := task.settings.retuned_congr tunables
  have motion := Telemetry.sameMotion_ofStore always
  refine ⟨settings, ?_⟩
  rw [cycle, cycle, ← settings]
  apply Guidance.cycle_congr (Settings.SameTuning.refl _) rfl rfl motion
  · exact Guidance.lateral_congr motion lateral
  · intro begins
    rw [if_pos (show (task.cycle s g approach).flareBegins = true from begins)] at references
    exact ⟨references.number (p := .throttle) (by decide),
      references.number (p := .targetPitch) (by decide)⟩

variable (task : LandingTask α) (v : Vehicle α) {path : String} (value : Option (Value α))

theorem update_put {g : Guidance α} {approach : Approach α} (hg : task.guidance = some g)
    (happroach : task.approach = some approach)
    (unread : ∀ p ∈ cycleReads v.store (task.cycle v.store g approach), p.path ≠ path)
    (unwritten : ∀ p ∈ (task.cycle v.store g approach).commands.map Prod.fst, p.path ≠ path) :
    task.update (v.put path value) =
      ((task.update v).1, (task.update v).2.1, (task.update v).2.2.put path value) := by
  obtain ⟨settings, same⟩ := task.cycle_congr (v.store.agree_put unread value)
  rw [update_of_some hg happroach, update_of_some hg happroach]
  simp only [Vehicle.store_put, ← settings, ← same, v.setAll_put unwritten]
  rfl

/-- The properties that a close puts back. -/
def putBack (task : LandingTask α) : List Property :=
  match task.saved with
  | latest :: _ => latest.entries.map Prod.fst
  | [] => []

theorem close_put (unsaved : ∀ p ∈ task.putBack, p.path ≠ path)
    (other : Property.flaps.path ≠ path) :
    task.close (v.put path value) = ((task.close v).1, (task.close v).2.put path value) := by
  have flaps : ∀ p ∈ [(Property.flaps, Value.number (0.0 : α))].map Prod.fst, p.path ≠ path := by
    simpa using other
  unfold putBack at unsaved
  simp only [close]
  cases saved : task.saved with
  | nil => rw [v.setAll_put flaps]
  | cons latest rest =>
    rw [saved] at unsaved
    dsimp only
    rw [← Vehicle.setAll_put _ flaps]
    simp only [Vehicle.put, Vehicle.mapStore, latest.restore_put v.store unsaved]

variable [TwoPlaces α]

/-- The properties that an approach is planned from. -/
def plannedFrom : List Property := Settings.shaping ++ Home.properties

theorem rebuild_put (unread : ∀ p ∈ plannedFrom, p.path ≠ path)
    (unwritten : ∀ p ∈ Approach.publishedProperties, p.path ≠ path) :
    task.rebuild (v.put path value) =
      ((task.rebuild v).1, (task.rebuild v).2.1, (task.rebuild v).2.2.put path value) := by
  have agree := v.store.agree_put unread value
  rw [plannedFrom, Store.agree_append] at agree
  have settings := task.settings.reshaped_congr agree.1
  have warnings := task.settings.reshapingWarnings_congr agree.1
  have home := Home.ofStore_congr agree.2
  simp only [rebuild, Vehicle.store_put, ← settings, ← warnings, ← home]
  rw [← Vehicle.setAll_published_put _ _ unwritten]
  rfl

theorem prepare_put (unread : task.approach = none → ∀ p ∈ plannedFrom, p.path ≠ path)
    (unwritten : ∀ p ∈ Approach.publishedProperties, p.path ≠ path) :
    task.prepare (v.put path value) =
      ((task.prepare v).1, (task.prepare v).2.put path value) := by
  unfold prepare
  cases planned : task.approach with
  | some approach =>
    dsimp only
    rw [v.setAll_published_put approach unwritten]
  | none =>
    dsimp only
    rw [task.rebuild_put v value (unread planned) unwritten]

theorem activate_put (unread : task.approach = none → ∀ p ∈ plannedFrom, p.path ≠ path)
    (unsaved : ∀ p ∈ Scope.everything.properties, p.path ≠ path)
    (speed : Property.landApproachSpeed.path ≠ path)
    (unwritten : ∀ p ∈ Approach.publishedProperties ++ takenOverProperties, p.path ≠ path) :
    task.activate (v.put path value) =
      ((task.activate v).1, (task.activate v).2.put path value) := by
  rw [List.forall_mem_append] at unwritten
  have speedOnly : ∀ p ∈ [Property.landApproachSpeed], p.path ≠ path := by simpa using speed
  -- Both the saved state and the speed are read when the approach has been published.
  have captured := Saved.capture_congr ((task.prepare v).2.store.agree_put unsaved value)
  have takenOver : takeOver (task.prepare v).1.settings (task.prepare v).2.store =
      takeOver (task.prepare v).1.settings ((task.prepare v).2.store.put path value) :=
    takeOver_congr rfl rfl (Store.agree_put _ speedOnly value)
  have written : ∀ p ∈ (takeOver (task.prepare v).1.settings (task.prepare v).2.store).map
      Prod.fst, p.path ≠ path := unwritten.2
  simp only [activate, task.prepare_put v value unread unwritten.1, Vehicle.store_put, ← captured,
    ← takenOver, Vehicle.setAll_put _ written]
  rfl

end LandingTask

/-! ### What a cycle commands -/

namespace Cycle

theorem written_commands_targetPitch (c : Cycle α) :
    Store.written c.commands .targetPitch =
      c.touchdown.command.map fun command => .number command.pitch := by
  unfold Store.written commands
  split <;> split <;> cases c.touchdown.command <;> rfl

theorem written_commands_throttle (c : Cycle α) :
    Store.written c.commands .throttle =
      c.touchdown.command.map fun command => .number command.throttle := by
  unfold Store.written commands
  split <;> split <;> cases c.touchdown.command <;> rfl

end Cycle

/-! ### Footprints of operations -/

/-- Whether an operation is one of the task, and not of somebody else. -/
def Operation.OfTask : Operation α → Prop
  | .put _ _ | .log _ => False
  | _ => True

/-- Beginnings of the paths where others leave the tuning, home and the measurements. -/
def inputFolders : List String := ["/task/land", "/task/home", "/position", "/velocity", "/sensors"]

/-- The properties that the task may write in one state or another. -/
def outputProperties : List Property :=
  Approach.publishedProperties ++ LandingTask.takenOverProperties ++ Cycle.commandedProperties
    ++ Scope.everything.properties

theorem outputProperties_not_input : ∀ p ∈ outputProperties, ∀ folder ∈ inputFolders,
    ¬folder.toList <+: p.path.toList := by
  decide +kernel

namespace Flight

variable [TrigScalar α]

/-- The properties that an operation of the task reads. -/
def reads (flight : Flight α) : Operation α → List Property
  | .activate =>
    (if flight.task.approach.isSome then [] else LandingTask.plannedFrom)
      ++ Scope.everything.properties ++ [.landApproachSpeed]
  | .update =>
    match flight.task.guidance, flight.task.approach with
    | some g, some approach => LandingTask.cycleReads flight.vehicle.store (flight.cycle g approach)
    | _, _ => []
  | .rebuild => LandingTask.plannedFrom
  | _ => []

/-- The properties that an operation of the task writes. -/
def writes (flight : Flight α) : Operation α → List Property
  | .activate => Approach.publishedProperties ++ LandingTask.takenOverProperties
  | .update =>
    match flight.task.guidance, flight.task.approach with
    | some g, some approach => (flight.cycle g approach).commands.map Prod.fst
    | _, _ => []
  | .rebuild => Approach.publishedProperties
  | .close => flight.task.putBack ++ [.flaps]
  | _ => []

/-- Whether the flare has begun. -/
def isFlaring (flight : Flight α) : Bool := (flight.task.guidance.bind Guidance.flare).isSome

variable [TwoPlaces α]

/-- A value outside the footprint may be put before the operation or after it. -/
theorem step_put (flight : Flight α) {operation : Operation α} (own : operation.OfTask)
    {path : String}
    (elsewhere : ∀ p ∈ flight.reads operation ++ flight.writes operation, p.path ≠ path)
    (value : Option (Value α)) :
    (flight.step (.put path value)).1.step operation =
      (((flight.step operation).1.step (.put path value)).1, (flight.step operation).2) := by
  obtain ⟨task, v⟩ := flight
  rw [List.forall_mem_append] at elsewhere
  obtain ⟨unread, unwritten⟩ := elsewhere
  change step ⟨task, v.put path value⟩ operation = _
  cases operation with
  | activate =>
    simp only [reads, List.forall_mem_append, List.forall_mem_singleton] at unread
    have planning : task.approach = none → ∀ p ∈ LandingTask.plannedFrom, p.path ≠ path := by
      intro none
      simpa [none] using unread.1.1
    simp only [step, task.activate_put v value planning unread.1.2 unread.2 unwritten]
    rfl
  | update =>
    rcases task.update_cases v with ⟨g, approach, hg, happroach⟩ | ⟨notUnderway, idle⟩
    · simp only [reads, hg, happroach] at unread
      simp only [writes, hg, happroach] at unwritten
      simp only [step, task.update_put v value hg happroach unread unwritten]
      rfl
    · -- The task is not underway with another value in the store either.
      have stillIdle := (task.update_cases (v.put path value)).resolve_left notUnderway
      simp only [step, idle, stillIdle.2]
      rfl
  | rebuild =>
    simp only [step, task.rebuild_put v value unread unwritten]
    rfl
  | close =>
    simp only [writes, List.forall_mem_append, List.forall_mem_singleton] at unwritten
    simp only [step, task.close_put v value unwritten.1 unwritten.2]
    rfl
  | put other value => exact own.elim
  | log event => exact own.elim

/-- An operation of the task writes nothing outside its footprint. -/
theorem get?_step_of_forall_ne (flight : Flight α) {operation : Operation α}
    (own : operation.OfTask) {path : String}
    (unwritten : ∀ p ∈ flight.writes operation, p.path ≠ path) :
    (flight.step operation).1.vehicle.store.get? path = flight.vehicle.store.get? path := by
  cases operation with
  | activate =>
    simp only [writes, List.forall_mem_append] at unwritten
    exact flight.task.get?_activate_of_ne flight.vehicle unwritten.1 unwritten.2
  | update =>
    rcases flight.step_update_cases with ⟨g, approach, hg, happroach⟩ | ⟨_, idle⟩
    · simp only [writes, hg, happroach, List.forall_mem_map] at unwritten
      rw [step_update_of_some hg happroach]
      exact Store.get?_setAll_of_forall_ne _ unwritten
    · rw [idle]
  | rebuild => exact flight.task.get?_rebuild_of_ne flight.vehicle unwritten
  | close =>
    simp only [writes, List.forall_mem_append, List.forall_mem_singleton] at unwritten
    cases saved : flight.task.saved with
    | nil => exact flight.task.get?_close_of_nil flight.vehicle saved unwritten.2.symm
    | cons latest rest =>
      change (flight.task.close flight.vehicle).2.store.get? path = _
      rw [flight.task.get?_close_of_cons flight.vehicle saved unwritten.2.symm]
      apply latest.get?_restore_of_forall_ne
      simpa only [LandingTask.putBack, saved] using unwritten.1
  | put other value => exact own.elim
  | log event => exact own.elim

theorem putBack_of_saved {flight : Flight α} {opened : List (Flight α)}
    (saved : flight.task.saved = opened.map taken) :
    ∀ p ∈ flight.task.putBack, p ∈ Scope.everything.properties := by
  unfold LandingTask.putBack
  rw [saved]
  cases opened with
  | nil => simp
  | cons before rest =>
    intro p member
    -- The properties of a scope are saved in the order in which the scope has them.
    have captured : before.taken.entries.map Prod.fst = Scope.everything.properties := rfl
    rwa [← captured]

/-- In every state that a new task can reach, and with any store, an operation of the task writes
output properties only. -/
theorem mem_outputProperties_of_mem_writes (entry : LandEntry α) (v w : Vehicle α)
    (operations : List (Operation α)) (operation : Operation α) :
    ∀ p ∈ writes ⟨((start entry v).run operations).task, w⟩ operation, p ∈ outputProperties := by
  intro p member
  simp only [outputProperties, List.mem_append]
  cases operation with
  | activate => exact Or.inl (Or.inl (List.mem_append.mp member))
  | update =>
    simp only [writes] at member
    split at member
    · obtain ⟨entry, command, rfl⟩ := List.mem_map.mp member
      exact Or.inl (Or.inr (Cycle.mem_commands _ entry command))
    · cases member
  | rebuild => exact Or.inl (Or.inl (Or.inl member))
  | close =>
    simp only [writes, List.mem_append, List.mem_singleton] at member
    have saved : ((start entry v).run operations).task.saved =
        ((start entry v).openings [] operations).map taken := saved_run operations rfl
    rcases member with back | rfl
    · exact Or.inr (putBack_of_saved saved p back)
    · decide
  | put path value => cases member
  | log event => cases member

/-! ### What an update writes -/

/-- What an update of the flight writes: the autopilot mode when the flare begins, the navigation
mode when it logs the transition to final, and the pitch and the throttle of the flare command that
it reports, which it does while the flare goes on. -/
structure UpdateWrites (flight : Flight α) : Prop where
  others : ∀ path, (∀ p ∈ Cycle.commandedProperties, p.path ≠ path) →
    (flight.step .update).1.vehicle.store.get? path = flight.vehicle.store.get? path
  autopilotMode : (flight.step .update).1.vehicle.store.get? Property.autopilotMode =
    if !flight.isFlaring && (flight.step .update).1.isFlaring then
      some (.text AutopilotMode.direct.name)
    else flight.vehicle.store.get? Property.autopilotMode
  navigationMode : (flight.step .update).1.vehicle.store.get? Property.navigationMode =
    if .transitionToFinal ∈ flight.appended .update then some (.text NavigationMode.route.name)
    else flight.vehicle.store.get? Property.navigationMode
  targetPitch : (flight.step .update).1.vehicle.store.get? Property.targetPitch =
    (((flight.step .update).2.report?.bind Report.flare).map
      fun command => .number command.pitch).or (flight.vehicle.store.get? Property.targetPitch)
  throttle : (flight.step .update).1.vehicle.store.get? Property.throttle =
    (((flight.step .update).2.report?.bind Report.flare).map
      fun command => .number command.throttle).or (flight.vehicle.store.get? Property.throttle)
  flaring : ∀ report, (flight.step .update).2 = .report (some report) →
    report.flare.isSome = (flight.step .update).1.isFlaring
  idle : (flight.step .update).2 = .report none → (flight.step .update).1 = flight

theorem updateWrites_of_underway {flight : Flight α} {g : Guidance α} {approach : Approach α}
    (hg : flight.task.guidance = some g) (happroach : flight.task.approach = some approach) :
    flight.UpdateWrites := by
  have logged := appended_update hg happroach
  have before : flight.isFlaring = g.flare.isSome := by
    rw [isFlaring, hg]
    rfl
  have stored (p : Property) := Store.get?_setAll flight.vehicle.store
    (flight.cycle g approach).commands p
  constructor
  case others => exact fun path other => flight.task.get?_update_of_ne flight.vehicle other
  all_goals rw [step_update_of_some hg happroach]
  case autopilotMode =>
    refine (stored .autopilotMode).trans ?_
    rw [Cycle.written_commands_autopilotMode, before, Option.not_isSome]
    change _ = if (flight.cycle g approach).flareBegins then _ else _
    split <;> rfl
  case navigationMode =>
    refine (stored .navigationMode).trans ?_
    rw [Cycle.written_commands_navigationMode, logged]
    simp only [Cycle.transitionToFinal_mem_events]
    split <;> rfl
  case targetPitch =>
    exact (stored .targetPitch).trans (by rw [Cycle.written_commands_targetPitch]; rfl)
  case throttle => exact (stored .throttle).trans (by rw [Cycle.written_commands_throttle]; rfl)
  case flaring =>
    rintro report answered
    cases answered
    exact Option.isSome_map ..
  case idle =>
    intro answered
    cases answered

theorem updateWrites (flight : Flight α) : flight.UpdateWrites := by
  rcases flight.step_update_cases with ⟨g, approach, hg, happroach⟩ | ⟨_, idle⟩
  · exact updateWrites_of_underway hg happroach
  · -- Nothing happens, so nothing is logged and the flare does not begin.
    have logged : flight.appended .update = [] := by
      rw [appended, idle, List.drop_length]
    constructor <;> rw [idle]
    case others => exact fun path other => rfl
    case autopilotMode => simp
    case navigationMode => rw [logged]; rfl
    case targetPitch => rfl
    case throttle => rfl
    case flaring =>
      intro report answered
      cases answered
    case idle => exact fun _ => rfl

/-- In every state that a new task can reach, and with any store, a value outside the footprint of
an operation may be put before the operation or after it: the store, the task, what is logged and
the answer are the same. An update writes the five properties that it commands, each just when it
should, and no operation writes where others leave the tuning, home and the measurements. -/
theorem operations_commute_outside_footprint (entry : LandEntry α) (v w : Vehicle α)
    (operations : List (Operation α)) :
    let flight : Flight α := ⟨((start entry v).run operations).task, w⟩
    (∀ operation : Operation α, operation.OfTask → ∀ path,
      (∀ p ∈ flight.reads operation ++ flight.writes operation, p.path ≠ path) → ∀ value,
        (flight.step (.put path value)).1.step operation =
          (((flight.step operation).1.step (.put path value)).1, (flight.step operation).2)) ∧
    flight.UpdateWrites ∧
    ∀ operation : Operation α, operation.OfTask → ∀ folder ∈ inputFolders, ∀ path : String,
      folder.toList <+: path.toList →
        (flight.step operation).1.vehicle.store.get? path = w.store.get? path := by
  intro flight
  refine ⟨?_, flight.updateWrites, ?_⟩
  · intro operation own path elsewhere value
    exact flight.step_put own elsewhere value
  · intro operation own folder listed path within
    apply flight.get?_step_of_forall_ne own
    rintro p written rfl
    have output := mem_outputProperties_of_mem_writes entry v w operations operation p written
    exact outputProperties_not_input p output folder listed within

end Flight

end LandingGuidance

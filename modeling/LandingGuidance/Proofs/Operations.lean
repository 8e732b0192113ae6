import LandingGuidance.Flight
import Mathlib.Data.List.Induction

/-!
# What the operations of the task do

One description for each operation of the landing task: which part of the state of the task it
changes, what it appends to the log, and which paths of the store it may write.
-/

namespace LandingGuidance

variable {α : Type}

/-! ### Lists of writes -/

namespace Store

/-- What a list of writes leaves at a property: the last value written there. -/
def written (entries : List (Property × Value α)) (p : Property) : Option (Value α) :=
  entries.reverse.lookup p

theorem get?_setAll (s : Store α) (entries : List (Property × Value α)) (p : Property) :
    (s.setAll entries).get? p = (written entries p).or (s.get? p) := by
  -- The last write decides, so the list is taken from its end.
  induction entries using List.reverseRecOn with
  | nil => rfl
  | append_singleton entries entry ih =>
    obtain ⟨q, v⟩ := entry
    rw [setAll_append, setAll_cons, setAll_nil, get?_set, written, List.reverse_concat,
      List.lookup_cons]
    by_cases same : q = p
    · simp [same]
    · have differs : (p == q) = false := by simpa using Ne.symm same
      rw [if_neg (fun equal => same (Property.path_injective equal)), differs, ih]
      rfl

/-- Writing some properties leaves every path alone that is not the path of one of them. -/
theorem get?_setAll_of_properties (s : Store α) {entries : List (Property × Value α)}
    {properties : List Property} {path : String}
    (among : ∀ entry ∈ entries, entry.1 ∈ properties) (other : ∀ p ∈ properties, p.path ≠ path) :
    (s.setAll entries).get? path = s.get? path := by
  apply get?_setAll_of_forall_ne
  intro entry member
  exact other entry.1 (among entry member)

end Store

def Approach.publishedProperties : List Property :=
  [.circleLatitude, .circleLongitude, .circleDirection, .circleRadius, .routeRequest,
    .routeStartMode, .routeFollowMode, .routeCompletionMode, .routeDistance]

theorem Approach.mem_published [TwoPlaces α] (approach : Approach α) :
    ∀ entry ∈ approach.published, entry.1 ∈ publishedProperties := by
  intro entry member
  have : entry.1 ∈ approach.published.map Prod.fst := List.mem_map_of_mem member
  exact this

theorem Approach.isSome_written_published [TwoPlaces α] (approach : Approach α) {p : Property}
    (member : p ∈ publishedProperties) : (Store.written approach.published p).isSome = true := by
  simp only [publishedProperties, List.mem_cons, List.not_mem_nil, or_false] at member
  rcases member with rfl | rfl | rfl | rfl | rfl | rfl | rfl | rfl | rfl <;> rfl

def LandingTask.takenOverProperties : List Property :=
  [.autopilotMode, .navigationMode, .targetAirspeed, .flaps]

theorem LandingTask.mem_takeOver [TrigScalar α] (settings : Settings α) (s : Store α) :
    ∀ entry ∈ takeOver settings s, entry.1 ∈ takenOverProperties := by
  intro entry member
  have : entry.1 ∈ (takeOver settings s).map Prod.fst := List.mem_map_of_mem member
  exact this

def Cycle.commandedProperties : List Property :=
  [.navigationMode, .targetAltitude, .autopilotMode, .targetPitch, .throttle]

theorem Cycle.mem_commands (c : Cycle α) :
    ∀ entry ∈ c.commands, entry.1 ∈ commandedProperties := by
  intro entry member
  simp only [commands, List.mem_append] at member
  -- One case for each part of the list of commands.
  rcases member with ((handOver | altitude) | mode) | flare
  · split at handOver <;> simp_all [commandedProperties]
  · simp_all [commandedProperties]
  · split at mode <;> simp_all [commandedProperties]
  · split at flare
    · simp only [List.mem_cons, List.not_mem_nil, or_false] at flare
      rcases flare with rfl | rfl <;> simp [commandedProperties]
    · cases flare

/-- A cycle leaves the height that it reports. -/
theorem Cycle.written_commands_targetAltitude (c : Cycle α) :
    Store.written c.commands .targetAltitude = some (.number c.report.targetAltitude) := by
  unfold Store.written commands
  split <;> split <;> split <;> rfl

/-- A cycle writes the navigation mode only to hand over to the route. -/
theorem Cycle.written_commands_navigationMode (c : Cycle α) :
    Store.written c.commands .navigationMode =
      if c.lateral.handOver then some (.text NavigationMode.route.name) else none := by
  unfold Store.written commands
  split <;> split <;> split <;> rfl

/-- A cycle writes the autopilot mode only when the flare begins. -/
theorem Cycle.written_commands_autopilotMode (c : Cycle α) :
    Store.written c.commands .autopilotMode =
      if c.flareBegins then some (.text AutopilotMode.direct.name) else none := by
  unfold Store.written commands
  split <;> split <;> split <;> rfl

namespace LandingTask

/-! ### Updates -/

section Update

variable [TrigScalar α]

/-- The cycle of guidance that an update runs. -/
def cycle (task : LandingTask α) (s : Store α) (g : Guidance α) (approach : Approach α) :
    Cycle α :=
  g.cycle (task.settings.retuned s) approach (Telemetry.ofStore s)

variable {task : LandingTask α} {v : Vehicle α} {g : Guidance α} {approach : Approach α}

theorem update_of_some (hg : task.guidance = some g) (happroach : task.approach = some approach) :
    task.update v =
      (some (task.cycle v.store g approach).report,
        { task with
          settings := task.settings.retuned v.store
          guidance := some (task.cycle v.store g approach).after },
        (v.setAll (task.cycle v.store g approach).commands).record
          (task.cycle v.store g approach).events) := by
  unfold update
  rw [hg, happroach]
  rfl

theorem update_of_guidance_eq_none (hg : task.guidance = none) :
    task.update v = (none, task, v) := by
  simp only [update, hg]

theorem update_of_approach_eq_none (happroach : task.approach = none) :
    task.update v = (none, task, v) := by
  simp only [update, happroach]
  -- What guidance holds makes no difference then.
  split
  · contradiction
  · rfl

/-- Whether guidance and an approach are there, as they are in every activation. -/
def Underway (task : LandingTask α) : Prop :=
  ∃ g approach, task.guidance = some g ∧ task.approach = some approach

/-- An update either runs one cycle of guidance or does nothing at all. -/
theorem update_cases (task : LandingTask α) (v : Vehicle α) :
    task.Underway ∨ ¬task.Underway ∧ task.update v = (none, task, v) := by
  by_cases underway : task.Underway
  · exact Or.inl underway
  refine Or.inr ⟨underway, ?_⟩
  cases hg : task.guidance with
  | none => exact update_of_guidance_eq_none hg
  | some g =>
    cases happroach : task.approach with
    | none => exact update_of_approach_eq_none happroach
    | some approach => exact absurd ⟨g, approach, hg, happroach⟩ underway

theorem get?_update_of_ne (task : LandingTask α) (v : Vehicle α) {path : String}
    (other : ∀ p ∈ Cycle.commandedProperties, p.path ≠ path) :
    (task.update v).2.2.store.get? path = v.store.get? path := by
  rcases task.update_cases v with ⟨g, approach, hg, happroach⟩ | ⟨_, idle⟩
  · rw [update_of_some hg happroach]
    exact Store.get?_setAll_of_properties _ (Cycle.mem_commands _) other
  · rw [idle]

theorem approach_update (task : LandingTask α) (v : Vehicle α) :
    (task.update v).2.1.approach = task.approach := by
  rcases task.update_cases v with ⟨g, approach, hg, happroach⟩ | ⟨_, idle⟩
  · rw [update_of_some hg happroach]
  · rw [idle]

end Update

/-! ### Rebuilding and activating -/

section Rebuild

variable [TrigScalar α] [TwoPlaces α] (task : LandingTask α) (v : Vehicle α)

theorem get?_rebuild_of_ne {path : String}
    (other : ∀ p ∈ Approach.publishedProperties, p.path ≠ path) :
    (task.rebuild v).2.2.store.get? path = v.store.get? path :=
  Store.get?_setAll_of_properties _ (Approach.mem_published _) other

theorem prepare_approach_isSome : (task.prepare v).1.approach.isSome = true := by
  simp only [prepare]
  split
  next approach planned => rw [planned, Option.isSome_some]
  · rfl

/-- An approach that is there is published once more, and not planned anew. -/
theorem prepare_of_some {approach : Approach α} (planned : task.approach = some approach) :
    task.prepare v = (task, v.setAll approach.published) := by
  simp only [prepare, planned]

theorem prepare_of_none (unplanned : task.approach = none) :
    task.prepare v = (task.rebuild v).2 := by
  simp only [prepare, unplanned]

theorem get?_prepare_of_ne {path : String}
    (other : ∀ p ∈ Approach.publishedProperties, p.path ≠ path) :
    (task.prepare v).2.store.get? path = v.store.get? path := by
  simp only [prepare]
  split
  · exact Store.get?_setAll_of_properties _ (Approach.mem_published _) other
  · exact task.get?_rebuild_of_ne v other

theorem activate_underway : (task.activate v).1.Underway := by
  obtain ⟨approach, planned⟩ := Option.isSome_iff_exists.mp (task.prepare_approach_isSome v)
  exact ⟨Guidance.fresh, approach, rfl, planned⟩

theorem get?_activate_of_ne {path : String}
    (notPublished : ∀ p ∈ Approach.publishedProperties, p.path ≠ path)
    (notTakenOver : ∀ p ∈ takenOverProperties, p.path ≠ path) :
    (task.activate v).2.store.get? path = v.store.get? path := by
  rw [← task.get?_prepare_of_ne v notPublished]
  exact Store.get?_setAll_of_properties _ (mem_takeOver _ _) notTakenOver

/-- An activation writes what it takes over on top of the published approach. -/
theorem get?_activate (p : Property) :
    (task.activate v).2.store.get? p =
      (Store.written (takeOver (task.prepare v).1.settings (task.prepare v).2.store) p).or
        ((task.prepare v).2.store.get? p) :=
  Store.get?_setAll _ _ p

/-- Nothing is published but the approach that the task then holds. -/
theorem get?_prepare {approach : Approach α} (planned : (task.prepare v).1.approach = some approach)
    (p : Property) :
    (task.prepare v).2.store.get? p =
      (Store.written approach.published p).or (v.store.get? p) := by
  simp only [prepare] at planned ⊢
  split at planned
  next old held =>
    rw [held] at planned
    cases planned
    exact Store.get?_setAll _ _ p
  · cases planned
    exact Store.get?_setAll _ _ p

end Rebuild

/-! ### Saving and putting back -/

section Save

variable [TrigScalar α]

/-- A cycle of guidance saves nothing and puts nothing back. -/
theorem saved_update (task : LandingTask α) (v : Vehicle α) :
    (task.update v).2.1.saved = task.saved := by
  rcases task.update_cases v with ⟨g, approach, hg, happroach⟩ | ⟨_, idle⟩
  · rw [update_of_some hg happroach]
  · rw [idle]

theorem get?_close_flaps (task : LandingTask α) (v : Vehicle α) :
    (task.close v).2.store.get? Property.flaps = some (.number 0.0) :=
  Store.get?_set_self _ _ _

/-- With nothing saved, a close writes the flaps only. -/
theorem get?_close_of_nil {task : LandingTask α} (v : Vehicle α) {path : String}
    (nothing : task.saved = []) (other : path ≠ Property.flaps.path) :
    (task.close v).2.store.get? path = v.store.get? path := by
  simp only [close, nothing]
  exact (Store.get?_set _ _ _ _).trans (if_neg (Ne.symm other))

theorem get?_close_of_cons {task : LandingTask α} (v : Vehicle α) {saved : Saved α}
    {rest : List (Saved α)} {path : String} (latest : task.saved = saved :: rest)
    (other : path ≠ Property.flaps.path) :
    (task.close v).2.store.get? path = (saved.restore v.store).get? path := by
  simp only [close, latest]
  exact (Store.get?_set _ _ _ _).trans (if_neg (Ne.symm other))

variable [TwoPlaces α]

/-- What an activation saves: the store once the approach is published. -/
def takenBy (task : LandingTask α) (v : Vehicle α) : Saved α :=
  Saved.capture (task.prepare v).2.store Scope.everything

theorem saved_activate (task : LandingTask α) (v : Vehicle α) :
    (task.activate v).1.saved = task.takenBy v :: task.saved := by
  have kept : (task.prepare v).1.saved = task.saved := by
    simp only [prepare]
    split <;> rfl
  rw [← kept]
  rfl

end Save

end LandingTask

end LandingGuidance

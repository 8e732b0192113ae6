import LandingGuidance.Binary64.Arithmetic
import LandingGuidance.Proofs.Runs

/-!
# Latches and their events

Within an activation the two captures and the flare are kept once they are there, and each is logged
in the cycle that makes it. `LatchHistory` says how guidance stands to the events of all cycles so
far; a cycle preserves it, and so does a run.
-/

namespace LandingGuidance

variable {α : Type}

namespace Event

def circleCapture : Event := ⟨"land", "descent circle capture"⟩

def transitionToFinal : Event := ⟨"land", "transition to final"⟩

def glideslopeCapture : Event := ⟨"land", "glide slope capture"⟩

def flareStart : Event := ⟨"land", "start flare"⟩

end Event

/-! ### The events of one cycle -/

namespace Cycle

private theorem count_logged (logged : Bool) (e f : Event) :
    (if logged then [e] else []).count f = if logged ∧ e = f then 1 else 0 := by
  cases logged <;> simp [List.count_singleton]

theorem count_circleCapture (c : Cycle α) :
    c.events.count .circleCapture =
      if !c.before.circleCaptured && c.lateral.circleCaptured then 1 else 0 := by
  simp only [events, List.count_append, count_logged]
  simp [Event.circleCapture]

theorem count_glideslopeCapture (c : Cycle α) :
    c.events.count .glideslopeCapture =
      if !c.before.glideslopeCaptured && c.vertical.glideslopeCaptured then 1 else 0 := by
  simp only [events, List.count_append, count_logged]
  simp [Event.glideslopeCapture]

theorem count_flareStart (c : Cycle α) :
    c.events.count .flareStart =
      if !c.before.flare.isSome && c.touchdown.flare.isSome then 1 else 0 := by
  simp only [events, List.count_append, count_logged]
  simp [Event.flareStart, flareBegins]

theorem count_transitionToFinal (c : Cycle α) :
    c.events.count .transitionToFinal = if c.lateral.handOver then 1 else 0 := by
  simp only [events, List.count_append, count_logged]
  simp [Event.transitionToFinal]

theorem glideslopeCaptured_of_logged {c : Cycle α} (logged : .glideslopeCapture ∈ c.events) :
    c.vertical.glideslopeCaptured = true := by
  rw [← List.count_pos_iff, count_glideslopeCapture] at logged
  cases captured : c.vertical.glideslopeCaptured with
  | true => rfl
  | false => simp [captured] at logged

theorem transitionToFinal_mem_events {c : Cycle α} :
    .transitionToFinal ∈ c.events ↔ c.lateral.handOver = true := by
  simp [events, Event.transitionToFinal]

/-- In a cycle that makes the circle capture, the event of that comes first. -/
theorem events_of_circleCapture {c : Cycle α} (fresh : c.before.circleCaptured = false)
    (captured : c.lateral.circleCaptured = true) :
    ∃ others, c.events = .circleCapture :: others := by
  simp only [events, fresh, captured]
  exact ⟨_, rfl⟩

end Cycle

/-! ### What a cycle keeps -/

/-- The latches of guidance are still there later on, the flare with the values it began with. -/
structure Guidance.KeptBy (g later : Guidance α) : Prop where
  circle : g.circleCaptured = true → later.circleCaptured = true
  glideslope : g.glideslopeCaptured = true → later.glideslopeCaptured = true
  flare : ∀ flare, g.flare = some flare → later.flare = some flare

namespace Guidance

theorem KeptBy.refl (g : Guidance α) : g.KeptBy g := ⟨id, id, fun _ => id⟩

theorem KeptBy.trans {g h k : Guidance α} (first : g.KeptBy h) (second : h.KeptBy k) :
    g.KeptBy k where
  circle captured := second.circle (first.circle captured)
  glideslope captured := second.glideslope (first.glideslope captured)
  flare flare begun := second.flare flare (first.flare flare begun)

variable [TrigScalar α] (g : Guidance α) (settings : Settings α) (approach : Approach α)
  (t : Telemetry α)

theorem keptBy_cycle : g.KeptBy (g.cycle settings approach t).after where
  circle captured := by
    change (g.lateral approach t).circleCaptured = true
    simp only [lateral]
    split
    · simp [captured]
    · exact captured
  glideslope captured := by
    change (g.vertical settings approach t _).glideslopeCaptured = true
    simp [vertical, captured]
  flare flare begun := by
    change (g.touchdown settings t _).flare = some flare
    simp [touchdown, begun]

/-- The glideslope is captured on the circle only. -/
theorem circleCaptured_of_cycle_glideslopeCaptured
    (ordered : g.glideslopeCaptured = true → g.circleCaptured = true)
    (captured : (g.cycle settings approach t).after.glideslopeCaptured = true) :
    (g.cycle settings approach t).after.circleCaptured = true := by
  change (g.glideslopeCaptured ||
    ((g.lateral approach t).circleCaptured && decide _ && decide _)) = true at captured
  rw [Bool.or_eq_true] at captured
  rcases captured with earlier | now
  · exact (g.keptBy_cycle settings approach t).circle (ordered earlier)
  · rw [Bool.and_eq_true, Bool.and_eq_true] at now
    exact now.1.1

theorem circleCaptured_cycle_of_not_circling (off : t.circling = false) :
    (g.cycle settings approach t).after.circleCaptured = g.circleCaptured := by
  change (g.lateral approach t).circleCaptured = g.circleCaptured
  simp only [lateral, off]
  rfl

/-- The hand-over is made from a captured circle, and it waits for a glideslope capture of an
earlier cycle. -/
theorem captured_of_handOver
    (handOver : (g.cycle settings approach t).lateral.handOver = true) :
    t.circling = true ∧ (g.cycle settings approach t).lateral.circleCaptured = true ∧
      g.glideslopeCaptured = true := by
  change (g.lateral approach t).handOver = true at handOver
  change _ ∧ (g.lateral approach t).circleCaptured = true ∧ _
  simp only [lateral] at handOver ⊢
  split at handOver
  next circling =>
    rw [Bool.and_eq_true, Bool.and_eq_true] at handOver
    rw [if_pos circling]
    exact ⟨circling, handOver.1⟩
  · cases handOver

end Guidance

/-! ### The history of an activation -/

/-- An element of two lists put together is in the second one or in the first. -/
private theorem split_of_append {β : Type} {first second earlier later : List β} {x : β}
    (split : first ++ second = earlier ++ x :: later) :
    (∃ within, earlier = first ++ within ∧ second = within ++ x :: later) ∨
      ∃ rest, first = earlier ++ x :: rest := by
  rcases List.append_eq_append_iff.mp split with left | ⟨rest, before, after⟩
  · exact Or.inl left
  · cases rest with
    | nil => exact Or.inl ⟨[], by simpa using before.symm, by simpa using after.symm⟩
    | cons y rest =>
      rw [List.cons_append, List.cons.injEq] at after
      rw [after.1]
      exact Or.inr ⟨rest, before⟩

/-- How guidance stands to the events of the cycles of its activation. -/
structure LatchHistory (g : Guidance α) (cycles : List (List Event)) : Prop where
  circleCapture :
    cycles.flatten.count .circleCapture = if g.circleCaptured then 1 else 0
  glideslopeCapture :
    cycles.flatten.count .glideslopeCapture = if g.glideslopeCaptured then 1 else 0
  flareStart : cycles.flatten.count .flareStart = if g.flare.isSome then 1 else 0
  ordered : g.glideslopeCaptured = true → g.circleCaptured = true
  circle_first : ∀ earlier later,
    cycles.flatten = earlier ++ .glideslopeCapture :: later → .circleCapture ∈ earlier
  final_later : ∀ earlier cycle later, cycles = earlier ++ cycle :: later →
    .transitionToFinal ∈ cycle → ∃ capturing ∈ earlier, .glideslopeCapture ∈ capturing

namespace LatchHistory

theorem fresh [TrigScalar α] : LatchHistory (Guidance.fresh : Guidance α) [] where
  circleCapture := rfl
  glideslopeCapture := rfl
  flareStart := rfl
  ordered captured := by cases captured
  circle_first earlier later split := by simp at split
  final_later earlier cycle later split := by simp at split

/-- A latch that is kept is logged once, in the cycle that sets it. -/
private theorem count_append_latch {cycles : List (List Event)} {events : List Event}
    {event : Event} {before after : Bool}
    (earlier : cycles.flatten.count event = if before then 1 else 0)
    (now : events.count event = if !before && after then 1 else 0)
    (kept : before = true → after = true) :
    (cycles ++ [events]).flatten.count event = if after then 1 else 0 := by
  rw [List.flatten_concat, List.count_append, earlier, now]
  cases before with
  | false => simp
  | true => simp [kept rfl]

variable {g : Guidance α} {cycles : List (List Event)}

theorem circleCapture_mem (history : LatchHistory g cycles) (captured : g.circleCaptured = true) :
    .circleCapture ∈ cycles.flatten := by
  rw [← List.count_pos_iff, history.circleCapture, if_pos captured]
  exact Nat.one_pos

theorem glideslopeCapture_mem (history : LatchHistory g cycles)
    (captured : g.glideslopeCaptured = true) :
    ∃ capturing ∈ cycles, .glideslopeCapture ∈ capturing := by
  rw [← List.mem_flatten, ← List.count_pos_iff, history.glideslopeCapture, if_pos captured]
  exact Nat.one_pos

variable [TrigScalar α] (settings : Settings α) (approach : Approach α) (t : Telemetry α)

/-- When a cycle logs the glideslope capture, the circle capture is in the log already. -/
theorem circle_first_cycle (history : LatchHistory g cycles) {earlier later : List Event}
    (split : (g.cycle settings approach t).events = earlier ++ .glideslopeCapture :: later) :
    .circleCapture ∈ cycles.flatten ++ earlier := by
  -- The circle was captured in an earlier cycle or is in this one.
  cases known : g.circleCaptured with
  | true => exact List.mem_append_left _ (history.circleCapture_mem known)
  | false =>
    have logged : .glideslopeCapture ∈ (g.cycle settings approach t).events := by
      rw [split]
      exact List.mem_append_right _ List.mem_cons_self
    have captured : (g.cycle settings approach t).lateral.circleCaptured = true :=
      g.circleCaptured_of_cycle_glideslopeCaptured settings approach t history.ordered
        (Cycle.glideslopeCaptured_of_logged logged)
    -- Then its event is the first of the cycle, so nothing is logged ahead of it.
    obtain ⟨others, first⟩ := Cycle.events_of_circleCapture known captured
    rw [first] at split
    apply List.mem_append_right
    cases earlier with
    | nil =>
      rw [List.nil_append, List.cons.injEq] at split
      exact absurd split.1 (by decide)
    | cons event earlier =>
      rw [List.cons_append, List.cons.injEq] at split
      rw [split.1]
      exact List.mem_cons_self

/-- A cycle extends the history of its activation. -/
theorem cycle (history : LatchHistory g cycles) :
    LatchHistory (g.cycle settings approach t).after
      (cycles ++ [(g.cycle settings approach t).events]) where
  circleCapture :=
    count_append_latch history.circleCapture (Cycle.count_circleCapture _)
      (g.keptBy_cycle settings approach t).circle
  glideslopeCapture :=
    count_append_latch history.glideslopeCapture (Cycle.count_glideslopeCapture _)
      (g.keptBy_cycle settings approach t).glideslope
  flareStart := by
    refine count_append_latch history.flareStart (Cycle.count_flareStart _) ?_
    intro begun
    obtain ⟨flare, hflare⟩ := Option.isSome_iff_exists.mp begun
    exact Option.isSome_of_mem ((g.keptBy_cycle settings approach t).flare flare hflare)
  ordered := g.circleCaptured_of_cycle_glideslopeCaptured settings approach t history.ordered
  circle_first earlier later split := by
    rw [List.flatten_concat] at split
    rcases split_of_append split with ⟨within, rfl, now⟩ | ⟨rest, before⟩
    · exact history.circle_first_cycle settings approach t now
    · exact history.circle_first earlier rest before
  final_later earlier cycle later split final := by
    rcases split_of_append split with ⟨within, rfl, now⟩ | ⟨rest, before⟩
    · cases within with
      | nil =>
        -- The cycle in question is the new one.
        cases now
        rw [List.append_nil]
        have handOver := Cycle.transitionToFinal_mem_events.mp final
        obtain ⟨_, _, captured⟩ := g.captured_of_handOver settings approach t handOver
        exact history.glideslopeCapture_mem captured
      | cons _ within => simp at now
    · exact history.final_later earlier cycle rest before final

end LatchHistory

/-! ### Runs -/

namespace Flight

variable [TrigScalar α] [TwoPlaces α]

/-- In every state that a new task reaches, the glideslope is captured after the circle only. -/
theorem run_start_ordered (entry : LandEntry α) (v : Vehicle α) (operations : List (Operation α))
    {g : Guidance α} (hg : ((start entry v).run operations).task.guidance = some g) :
    g.glideslopeCaptured = true → g.circleCaptured = true := by
  have preserved : ∀ g, ((start entry v).run operations).task.guidance = some g →
      g.glideslopeCaptured = true → g.circleCaptured = true := by
    apply run_invariant (A := fun _ => True)
      (I := fun flight => ∀ g, flight.task.guidance = some g →
        g.glideslopeCaptured = true → g.circleCaptured = true)
    · intro flight operation _ ordered g hg
      rcases guidance_step_cases hg with rfl | kept | ⟨before, _, _, _, hbefore, rfl⟩
      · intro captured
        cases captured
      · exact ordered g kept
      · exact before.circleCaptured_of_cycle_glideslopeCaptured _ _ _ (ordered before hbefore)
    · exact fun _ _ => trivial
    · intro g hg
      cases hg
  exact preserved g hg

variable {flight : Flight α} {g : Guidance α} {operations : List (Operation α)}

/-- A run within an activation keeps what guidance has found. -/
theorem run_keptBy (within : ∀ operation ∈ operations, operation.WithinActivation)
    (hg : flight.task.guidance = some g) (planned : flight.task.approach.isSome = true) :
    ∃ last, (flight.run operations).task.guidance = some last ∧
      (flight.run operations).task.approach.isSome = true ∧ g.KeptBy last := by
  have preserves : ∀ (h : Guidance α) (cycles : List (List Event)) settings approach t,
      g.KeptBy h → g.KeptBy (h.cycle settings approach t).after := by
    intro h cycles settings approach t kept
    exact kept.trans (h.keptBy_cycle settings approach t)
  exact run_within preserves [] within hg planned (Guidance.KeptBy.refl g)

/-- From an activation on, until the next one or a close, the events of the cycles are those of the
latches that are set, and whatever was latched at an earlier time still is. -/
theorem activation_latches (flight : Flight α)
    (within : ∀ operation ∈ operations, operation.WithinActivation) :
    ∃ g, ((flight.step .activate).1.run operations).task.guidance = some g ∧
      LatchHistory g ((flight.step .activate).1.cycleEvents operations) ∧
      ∀ earlier later, operations = earlier ++ later →
        ∃ past, ((flight.step .activate).1.run earlier).task.guidance = some past ∧
          past.KeptBy g := by
  generalize opened_eq : (flight.step .activate).1 = opened
  have begun : opened.task.guidance = some Guidance.fresh := by
    rw [← opened_eq]
    rfl
  have planned : opened.task.approach.isSome = true := by
    rw [← opened_eq]
    exact flight.task.prepare_approach_isSome flight.vehicle
  obtain ⟨g, hg, _, history⟩ := run_within (fun _ _ settings approach t history =>
    history.cycle settings approach t) [] within begun planned LatchHistory.fresh
  refine ⟨g, hg, history, ?_⟩
  -- The latches of the earlier time are kept by what is left of the run.
  rintro earlier later rfl
  rw [List.forall_mem_append] at within
  obtain ⟨past, hpast, stillPlanned, _⟩ := run_keptBy within.1 begun planned
  obtain ⟨last, hlast, _, kept⟩ := run_keptBy within.2 hpast stillPlanned
  rw [run_append, hlast] at hg
  cases hg
  exact ⟨past, hpast, kept⟩

/-- An event of the same name that somebody else logs is not counted. -/
theorem activation_latches_foreign_event :
    let opened : Flight Float :=
      ((start LandEntry.blank (Vehicle.ofStore Store.empty)).step .activate).1
    let operations : List (Operation Float) := [.update, .log .flareStart, .rebuild, .update]
    (∀ operation ∈ operations, operation.WithinActivation) ∧
      ∃ g, (opened.run operations).task.guidance = some g ∧
        LatchHistory g (opened.cycleEvents operations) := by
  intro opened operations
  have within : ∀ operation ∈ operations, operation.WithinActivation := by
    simp [operations, Operation.WithinActivation]
  obtain ⟨g, hg, history, _⟩ :=
    activation_latches (start LandEntry.blank (Vehicle.ofStore Store.empty)) within
  exact ⟨within, g, hg, history⟩

end Flight

end LandingGuidance

import LandingGuidance.Binary64.Arithmetic
import LandingGuidance.Proofs.Footprints
import LandingGuidance.Proofs.Lifecycle

/-!
# Updates settle

While nobody else writes in the store, updates come to rest. What a cycle writes, the next one
reads, but little of that matters: the height is limited by itself, a flare keeps its references,
and the route distance stays. Only a hand-over and a capture of the glideslope are seen one cycle
later than they are made, and each is made once. So from the third update on all updates are the
same.
-/

namespace LandingGuidance

variable {α : Type}

private theorem getD_getD {β : Type} (o : Option β) (x : β) : o.getD (o.getD x) = o.getD x := by
  cases o <;> rfl

theorem Scalar.smaller_smaller [Scalar α] (x y : α) :
    Scalar.smaller x (Scalar.smaller x y) = Scalar.smaller x y := by
  -- The comparison is made again with the number that it chose, so no law of order is needed.
  by_cases second : Scalar.isUndefined x ∨ y < x
  · have given : Scalar.smaller x y = y := if_pos second
    rw [given, given]
  · have kept : Scalar.smaller x y = x := if_neg second
    rw [kept]
    exact ite_self x

theorem limitTarget_limitTarget [Scalar α] (target safe current : α) (captured : Bool) :
    limitTarget target safe (limitTarget target safe current captured) captured =
      limitTarget target safe current captured :=
  Scalar.smaller_smaller _ _

/-! ### Writing what is there -/

namespace Store

theorem setAll_of_forall_get? (s : Store α) {entries : List (Property × Value α)}
    (there : ∀ entry ∈ entries, s.get? entry.1 = some entry.2) : s.setAll entries = s := by
  induction entries with
  | nil => rfl
  | cons entry entries ih =>
    obtain ⟨p, v⟩ := entry
    rw [List.forall_mem_cons] at there
    have same : s.set p v = s := by
      have written := s.put_get? p
      rwa [there.1] at written
    rw [setAll_cons, same]
    exact ih there.2

/-- Writing once more what was written last changes nothing. -/
theorem setAll_setAll (s : Store α) {entries again : List (Property × Value α)}
    (last : ∀ entry ∈ again, written entries entry.1 = some entry.2) :
    (s.setAll entries).setAll again = s.setAll entries := by
  apply setAll_of_forall_get?
  intro entry member
  rw [get?_setAll, last entry member, Option.some_or]

end Store

/-! ### A cycle made again -/

namespace Cycle

/-- A cycle with the same findings, made from the guidance that the cycle left. -/
def again (c : Cycle α) : Cycle α := { c with before := c.after }

@[simp] theorem after_again (c : Cycle α) : c.again.after = c.after := rfl

@[simp] theorem report_again (c : Cycle α) : c.again.report = c.report := rfl

theorem flareBegins_again (c : Cycle α) : c.again.flareBegins = false := by
  change (c.touchdown.flare.isNone && c.touchdown.flare.isSome) = false
  cases c.touchdown.flare <;> rfl

/-- Whatever a cycle writes when it is made again, it has left there the first time. -/
theorem written_of_mem_commands_again (c : Cycle α) :
    ∀ entry ∈ c.again.commands, Store.written c.commands entry.1 = some entry.2 := by
  intro entry member
  simp only [commands, flareBegins_again, List.mem_append] at member
  -- One case for each part of the list of commands.
  rcases member with ((handOver | altitude) | mode) | flare
  · split at handOver
    next now =>
      rw [List.mem_singleton] at handOver
      subst handOver
      rw [written_commands_navigationMode]
      exact if_pos now
    · cases handOver
  · rw [List.mem_singleton] at altitude
    subst altitude
    exact c.written_commands_targetAltitude
  · cases mode
  · split at flare
    next command commanded =>
      have commanded : c.touchdown.command = some command := commanded
      simp only [List.mem_cons, List.not_mem_nil, or_false] at flare
      rcases flare with rfl | rfl
      · rw [written_commands_targetPitch, commanded, Option.map_some]
      · rw [written_commands_throttle, commanded, Option.map_some]
    · cases flare

/-- A cycle that makes neither the hand-over nor the capture of the glideslope. The other things
that a cycle changes are counted in the same cycle already. -/
structure Settled (c : Cycle α) : Prop where
  remains : c.lateral.handOver = false
  uncaptured : c.vertical.glideslopeCaptured = c.before.glideslopeCaptured

theorem Settled.again {c : Cycle α} (settled : c.Settled) : c.again.Settled :=
  ⟨settled.remains, rfl⟩

theorem Settled.events_again {c : Cycle α} (settled : c.Settled) : c.again.events = [] := by
  simp only [events, flareBegins_again]
  simp [Cycle.again, after, settled.remains]

end Cycle

/-! ### The readings after a cycle -/

theorem Cycle.agree_setAll_commands (c : Cycle α) (s : Store α) {properties : List Property}
    (unwritten : ∀ p ∈ properties, p ∉ commandedProperties) :
    (s.setAll c.commands).Agree s properties := by
  intro p member
  apply Store.get?_setAll_of_properties _ c.mem_commands
  intro q written same
  rw [Property.path_injective same] at written
  exact unwritten p member written

namespace Telemetry

/-- The readings of the cycle after `c`, when nothing but the commands of `c` has been written. -/
def following (t : Telemetry α) (c : Cycle α) : Telemetry α :=
  { t with
    circling := t.circling && !c.lateral.handOver
    targetAltitude := c.vertical.targetAltitude
    targetPitch := (c.touchdown.command.map FlareCommand.pitch).getD t.targetPitch
    throttle := (c.touchdown.command.map FlareCommand.throttle).getD t.throttle }

/-- The properties that a cycle reads and never writes. -/
def measured : List Property :=
  [.positionLatitude, .positionLongitude, .positionAltitude, .groundSpeed, .pilotElevator,
    .timestamp, .routeDistanceValid, .routeDistance]

theorem ofStore_setAll_commands [Scalar α] (s : Store α) (c : Cycle α) :
    ofStore (s.setAll c.commands) = (ofStore s).following c := by
  have measured : (s.setAll c.commands).Agree s measured := c.agree_setAll_commands s (by decide)
  have left (p : Property) := s.get?_setAll c.commands p
  have circling : ((s.setAll c.commands).text Property.navigationMode == NavigationMode.circle.name)
      = (s.text Property.navigationMode == NavigationMode.circle.name && !c.lateral.handOver) := by
    rw [Store.text, left, c.written_commands_navigationMode]
    cases c.lateral.handOver with
    | true => simp [Value.toText, NavigationMode.name]
    | false => simp [Store.text]
  have altitude : (s.setAll c.commands).number Property.targetAltitude =
      c.vertical.targetAltitude := by
    rw [Store.number, left, c.written_commands_targetAltitude]
    rfl
  have pitch : (s.setAll c.commands).number Property.targetPitch =
      (c.touchdown.command.map FlareCommand.pitch).getD (s.number Property.targetPitch) := by
    rw [Store.number, left, c.written_commands_targetPitch]
    cases c.touchdown.command <;> rfl
  have throttle : (s.setAll c.commands).number Property.throttle =
      (c.touchdown.command.map FlareCommand.throttle).getD (s.number Property.throttle) := by
    rw [Store.number, left, c.written_commands_throttle]
    cases c.touchdown.command <;> rfl
  unfold ofStore following
  rw [circling, altitude, pitch, throttle, measured.number (p := .positionLatitude) (by decide),
    measured.number (p := .positionLongitude) (by decide),
    measured.number (p := .positionAltitude) (by decide),
    measured.number (p := .groundSpeed) (by decide),
    measured.number (p := .pilotElevator) (by decide),
    measured.number (p := .timestamp) (by decide),
    measured.flag (p := .routeDistanceValid) (by decide),
    measured.number (p := .routeDistance) (by decide)]

end Telemetry

/-- The next cycle is tuned as the last one. -/
theorem Settings.retuned_setAll_commands [Scalar α] (settings : Settings α) (s : Store α)
    (c : Cycle α) : (settings.retuned s).retuned (s.setAll c.commands) = settings.retuned s := by
  rw [retuned_congr _ (c.agree_setAll_commands s (by decide))]
  simp only [retuned, getD_getD]

/-! ### The cycle after a cycle -/

namespace Guidance

variable [TrigScalar α] {g next : Guidance α} {settings : Settings α} {approach : Approach α}
  {t t' : Telemetry α}

/-- A capture is kept, and a held distance is held on. -/
theorem lateral_again (circleCaptured : next.circleCaptured = (g.lateral approach t).circleCaptured)
    (glideslopeCaptured : next.glideslopeCaptured = g.glideslopeCaptured)
    (distanceToGo : next.distanceToGo = (g.lateral approach t).distanceToGo)
    (circling : t'.circling = t.circling) (position : t'.position = t.position)
    (routeDistance : t'.routeDistance = t.routeDistance) :
    next.lateral approach t' = g.lateral approach t := by
  unfold lateral at circleCaptured distanceToGo ⊢
  by_cases on : t.circling = true
  · -- At the same fix, the circle is captured again or was captured before.
    rw [if_pos on] at circleCaptured
    rw [if_pos on, if_pos (circling.trans on), circleCaptured, glideslopeCaptured, position]
    dsimp only
    rw [Bool.or_assoc, Bool.or_self]
  · rw [if_neg on] at circleCaptured distanceToGo
    rw [if_neg on, if_neg (circling ▸ on), circleCaptured, distanceToGo, routeDistance]
    dsimp only
    rw [getD_getD]

/-- A height that was limited already is not limited any further. -/
theorem vertical_again {l : Lateral α}
    (glideslopeCaptured : next.glideslopeCaptured = g.glideslopeCaptured)
    (altitude : t'.altitude = t.altitude) (elevator : t'.elevator = t.elevator)
    (targetAltitude : t'.targetAltitude = (g.vertical settings approach t l).targetAltitude) :
    next.vertical settings approach t' l = g.vertical settings approach t l := by
  unfold vertical bias at targetAltitude ⊢
  rw [targetAltitude, glideslopeCaptured, altitude, elevator]
  dsimp only
  rw [limitTarget_limitTarget]

/-- A flare that has begun is kept with its references, so it does not build on its own commands. -/
theorem touchdown_again {l : Lateral α} (flare : next.flare = (g.touchdown settings t l).flare)
    (groundSpeed : t'.groundSpeed = t.groundSpeed) (time : t'.time = t.time) :
    next.touchdown settings t' l = g.touchdown settings t l := by
  unfold touchdown at flare ⊢
  rw [flare, groundSpeed, time]
  cases g.flare with
  | some begun => rfl
  | none =>
    by_cases begins : secondsToTouchdown l.distanceToGo t.groundSpeed ≤ settings.flareSeconds
    · simp only [if_pos begins]
    · simp only [if_neg begins]

/-- After a settled cycle the next one finds the same. -/
theorem cycle_following_of_settled (settled : (g.cycle settings approach t).Settled) :
    let c := g.cycle settings approach t
    c.after.cycle settings approach (t.following c) = c.again := by
  intro c
  have circling : (t.following c).circling = t.circling := by
    rw [Telemetry.following, settled.remains, Bool.not_false, Bool.and_true]
  have lateral : c.after.lateral approach (t.following c) = g.lateral approach t :=
    lateral_again rfl settled.uncaptured rfl circling rfl rfl
  have vertical : c.after.vertical settings approach (t.following c) (g.lateral approach t) =
      g.vertical settings approach t (g.lateral approach t) :=
    vertical_again settled.uncaptured rfl rfl rfl
  have touchdown : c.after.touchdown settings (t.following c) (g.lateral approach t) =
      g.touchdown settings t (g.lateral approach t) :=
    touchdown_again rfl rfl rfl
  rw [cycle, circling, lateral, vertical, touchdown]
  rfl

/-- When the glideslope was captured before, only a hand-over is left to be made. -/
theorem settled_of_captured (captured : g.glideslopeCaptured = true)
    (remains : (g.cycle settings approach t).lateral.handOver = false) :
    (g.cycle settings approach t).Settled :=
  ⟨remains, ((g.keptBy_cycle settings approach t).glideslope captured).trans captured.symm⟩

/-- Nor is there a hand-over without the glideslope. -/
theorem settled_of_uncaptured
    (uncaptured : (g.cycle settings approach t).after.glideslopeCaptured = false) :
    (g.cycle settings approach t).Settled := by
  have before : g.glideslopeCaptured = false := by
    rw [← Bool.not_eq_true] at uncaptured ⊢
    exact mt (g.keptBy_cycle settings approach t).glideslope uncaptured
  refine ⟨?_, uncaptured.trans before.symm⟩
  rw [← Bool.not_eq_true] at before ⊢
  exact fun handOver => before (g.captured_of_handOver settings approach t handOver).2.2

/-- After a hand-over the next cycle is off the circle. -/
theorem settled_following_of_handOver
    (handOver : (g.cycle settings approach t).lateral.handOver = true) :
    let c := g.cycle settings approach t
    (c.after.cycle settings approach (t.following c)).Settled := by
  intro c
  have captured := (g.captured_of_handOver settings approach t handOver).2.2
  have off : (t.following c).circling = false := by
    rw [Telemetry.following, handOver, Bool.not_true, Bool.and_false]
  apply settled_of_captured
  · exact (g.keptBy_cycle settings approach t).glideslope captured
  · rw [← Bool.not_eq_true]
    intro again
    have on := (c.after.captured_of_handOver settings approach (t.following c) again).1
    rw [off] at on
    cases on

end Guidance

/-! ### Updates -/

namespace Flight

variable [TrigScalar α] {flight : Flight α} {g : Guidance α} {approach : Approach α}

/-- What the next cycle finds, when nobody else writes before it. -/
theorem cycle_afterCycle (flight : Flight α) (c : Cycle α) (g : Guidance α)
    (approach : Approach α) :
    (flight.afterCycle c).cycle g approach =
      g.cycle (flight.task.settings.retuned flight.vehicle.store) approach
        ((Telemetry.ofStore flight.vehicle.store).following c) := by
  change g.cycle ((flight.task.settings.retuned flight.vehicle.store).retuned
    (flight.vehicle.store.setAll c.commands)) approach
      (Telemetry.ofStore (flight.vehicle.store.setAll c.commands)) = _
  rw [Settings.retuned_setAll_commands, Telemetry.ofStore_setAll_commands]

theorem cycle_afterCycle_of_settled (settled : (flight.cycle g approach).Settled) :
    (flight.afterCycle (flight.cycle g approach)).cycle (flight.cycle g approach).after approach =
      (flight.cycle g approach).again := by
  rw [cycle_afterCycle]
  exact Guidance.cycle_following_of_settled settled

/-- A settled cycle made again leaves everything as it is. -/
theorem afterCycle_again (flight : Flight α) {c : Cycle α} (settled : c.Settled) :
    (flight.afterCycle c).afterCycle c.again = flight.afterCycle c := by
  obtain ⟨task, ⟨s, log, warnings⟩⟩ := flight
  have settings := task.settings.retuned_setAll_commands s c
  have store := s.setAll_setAll c.written_of_mem_commands_again
  simp only [afterCycle, Vehicle.setAll, Vehicle.mapStore, Vehicle.record, EventLog.append,
    settings, store, settled.events_again, List.append_nil, Cycle.after_again]

/-- The next update runs a settled cycle. -/
def Settled (flight : Flight α) : Prop :=
  ∃ g approach, flight.task.guidance = some g ∧ flight.task.approach = some approach ∧
    (flight.cycle g approach).Settled

variable [TwoPlaces α]

theorem settled_step_update (settled : flight.Settled) : (flight.step .update).1.Settled := by
  obtain ⟨g, approach, hg, happroach, settled⟩ := settled
  rw [step_update_of_some hg happroach]
  refine ⟨_, approach, rfl, happroach, ?_⟩
  rw [cycle_afterCycle_of_settled settled]
  exact settled.again

/-- The update after a settled one answers the same and leaves everything as it is. -/
theorem step_update_again (settled : flight.Settled) :
    (flight.step .update).1.step .update = flight.step .update := by
  obtain ⟨g, approach, hg, happroach, settled⟩ := settled
  let later := flight.afterCycle (flight.cycle g approach)
  have guidance : later.task.guidance = some (flight.cycle g approach).after := rfl
  have planned : later.task.approach = some approach := happroach
  rw [step_update_of_some hg happroach, step_update_of_some guidance planned,
    cycle_afterCycle_of_settled settled, flight.afterCycle_again settled, Cycle.report_again]

theorem settled_step_of_captured (hg : flight.task.guidance = some g)
    (happroach : flight.task.approach = some approach) (captured : g.glideslopeCaptured = true) :
    (flight.step .update).1.Settled := by
  cases handOver : (flight.cycle g approach).lateral.handOver with
  | true =>
    rw [step_update_of_some hg happroach]
    refine ⟨_, approach, rfl, happroach, ?_⟩
    rw [cycle_afterCycle]
    exact Guidance.settled_following_of_handOver handOver
  | false =>
    apply settled_step_update
    exact ⟨g, approach, hg, happroach, Guidance.settled_of_captured captured handOver⟩

/-- Two updates leave nothing to be made: the one may capture the glideslope, and the other may then
hand over to the route. -/
theorem settled_run_two (underway : flight.task.Underway) :
    (flight.run [.update, .update]).Settled := by
  obtain ⟨g, approach, hg, happroach⟩ := underway
  rw [run_cons, run_cons, run_nil]
  cases captured : (flight.cycle g approach).after.glideslopeCaptured with
  | true =>
    rw [step_update_of_some hg happroach]
    exact settled_step_of_captured rfl happroach captured
  | false =>
    apply settled_step_update
    apply settled_step_update
    exact ⟨g, approach, hg, happroach, Guidance.settled_of_uncaptured captured⟩

/-! ### Runs of updates -/

theorem run_replicate_update (rests : (flight.step .update).1 = flight) (n : Nat) :
    flight.run (List.replicate n .update) = flight := by
  induction n with
  | zero => rfl
  | succ n ih => rw [List.replicate_succ, run_cons, rests, ih]

/-- In every state that a new task reaches and in which it is active, and with any store, updates
with nothing in between come to rest with the third. Later ones answer the same report, leave the
task and the vehicle as they are, and log nothing. -/
theorem updates_settle (entry : LandEntry α) (v w : Vehicle α) {operations : List (Operation α)}
    (active : ((start entry v).run operations).task.isActive = true) :
    let flight : Flight α := ⟨((start entry v).run operations).task, w⟩
    let third := (flight.run [.update, .update]).step .update
    ∃ report, third.2 = .report (some report) ∧ ∀ n, 3 ≤ n →
      let reached := flight.run (List.replicate n .update)
      reached = third.1 ∧ reached.step .update = (reached, .report (some report)) ∧
        reached.appended .update = [] := by
  intro flight third
  have underway : flight.task.Underway :=
    (equipped_run_start entry v operations).underway_iff.mpr active
  have settled := settled_run_two underway
  have again : third.1.step .update = third := step_update_again settled
  obtain ⟨g, approach, hg, happroach, _⟩ := settled
  have answered := congrArg Prod.snd (step_update_of_some hg happroach)
  refine ⟨_, answered, ?_⟩
  intro n enough reached
  have rested : reached = third.1 := by
    obtain ⟨more, rfl⟩ := Nat.exists_eq_add_of_le enough
    change flight.run (List.replicate (3 + more) .update) = third.1
    rw [← List.replicate_append_replicate, run_append]
    exact run_replicate_update (congrArg Prod.fst again) more
  have logged : third.1.appended .update = [] := by
    rw [appended, again, List.drop_length]
  rw [rested, again, logged]
  exact ⟨rfl, Prod.ext rfl answered, rfl⟩

/-- After an inner activation was closed and opened again, with undefined heights on the circle, a
thousand updates log nothing after the third, and the next one answers what the third did. -/
theorem updates_settle_undefined_heights :
    let operations : List (Operation Float) :=
      [.activate, .update, .activate, .close, .update, .activate]
    let v : Vehicle Float := Vehicle.ofStore Store.empty
    let w : Vehicle Float := v.setAll
      [(.navigationMode, .text NavigationMode.circle.name),
        (.positionAltitude, .number (0.0 / 0.0)), (.targetAltitude, .number (0.0 / 0.0))]
    let flight : Flight Float := ⟨((start LandEntry.blank v).run operations).task, w⟩
    let third := (flight.run [.update, .update]).step .update
    let reached := flight.run (List.replicate 1000 .update)
    flight.task.isActive = true ∧ reached.vehicle.log = third.1.vehicle.log ∧
      (reached.step .update).2 = third.2 := by
  intro operations v w flight third reached
  have active : ((start LandEntry.blank v).run operations).task.isActive = true := rfl
  obtain ⟨report, answered, later⟩ := updates_settle LandEntry.blank v w active
  obtain ⟨rested, stays, _⟩ := later 1000 (by decide)
  have same : reached = third.1 := rested
  exact ⟨active, by rw [same], (congrArg Prod.snd stays).trans answered.symm⟩

end Flight

end LandingGuidance

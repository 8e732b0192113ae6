import Mathlib
import LandingGuidance.Proofs.ExactOperations
import LandingGuidance.Proofs.FlareStart

/-!
# A flare without a bump

At its very beginning a flare commands the pitch and the throttle that it found, to the last bit but
for the sign of a zero. From then on it follows the clock and not itself: what it writes to the
pitch and the throttle is not what it reads its references from.
-/

namespace LandingGuidance

open Binary64

theorem OrderedScalar.lt_trans {α : Type} [Scalar α] [OrderedScalar α] {x y z : α} (first : x < y)
    (second : y < z) : x < z := by
  rw [lt_iff_le_not_ge] at second ⊢
  have below := le_of_lt first
  exact ⟨le_trans below second.1, fun above => second.2 (le_trans above below)⟩

namespace Flare

variable {now throttle pitch flarePitch seconds : Float}

/-- A flare of any length, also an infinite one, has not gone on at all when it begins. -/
theorem progress_begin (clock : now.isFinite = true) (lasting : 0.01 < seconds) :
    (Flare.begin now throttle pitch flarePitch).progress now seconds = 0.0 := by
  have small : (0.0 : Float) < 0.01 := by decide +kernel
  have positive := OrderedScalar.lt_trans small lasting
  -- On a finite clock the time gone is zero, and it stays so over any length, also an infinite one.
  have still : (now - now) / seconds = 0.0 := by
    rw [sub_self_of_isFinite clock]
    exact zero_div_of_pos positive
  change Scalar.clamp 0.0 1.0 ((now - now) / seconds) = 0.0
  rw [still]
  decide +kernel

/-- The first command of a flare is the throttle and the pitch that it found. Only for a pitch of
negative zero it can be the other zero. -/
theorem command_begin (clock : now.isFinite = true) (lasting : 0.01 < seconds)
    (thrust : throttle.isFinite = true) (attitude : pitch.isFinite = true)
    (range : (pitch - flarePitch).isFinite = true) (retuned : Float) :
    let command := (Flare.begin now throttle pitch flarePitch).command now seconds retuned
    command.throttle = throttle ∧ (command.pitch == pitch) = true ∧
      (pitch ≠ -0.0 → command.pitch = pitch) := by
  intro command
  have commanded : command =
      { pitch := pitch - 0.0 * (pitch - flarePitch), throttle := throttle * (1.0 - 0.0) } := by
    simp only [command, Flare.command, if_pos lasting, progress_begin clock lasting]
    rfl
  have full : (1.0 - 0.0 : Float) = 1.0 := by decide +kernel
  rw [commanded]
  dsimp only
  rw [full]
  refine ⟨mul_one_of_isFinite thrust, ?_⟩
  -- The part of the range that is over is a zero of either sign.
  rcases zero_mul_of_isFinite range with zero | zero
  · rw [zero, sub_zero_right]
    exact ⟨beq_self_of_isFinite attitude, fun _ => rfl⟩
  · rw [zero]
    by_cases negative : pitch = -0.0
    · rw [negative]
      exact ⟨by decide +kernel, fun other => absurd rfl other⟩
    · rw [sub_neg_zero_right negative]
      exact ⟨beq_self_of_isFinite attitude, fun _ => rfl⟩

example : ((Flare.begin 100.0 0.6 (-0.0) 8.0).command 100.0 5.0 8.0).pitch = 0.0 := by
  decide +kernel

end Flare

namespace Flight

/-- The update that begins a flare of more than a hundredth of a second commands the throttle and
the pitch that it reads, if the readings and the change of pitch are finite, and so it leaves both
properties with the value they had. It commands what the flare asks for, and so do all later updates
of the activation, at the time and with the length of the flare that each of them finds: the flare
keeps the references of its beginning, whatever is written to the pitch and the throttle. The flare
pitch that an update finds matters only to a flare of a hundredth of a second or less. -/
theorem flare_begins_without_bump {flight : Flight Float}
    (begins : .flareStart ∈ flight.appended .update) :
    let t := Telemetry.ofStore flight.vehicle.store
    let settings := flight.task.settings.retuned flight.vehicle.store
    let flare := Flare.begin t.time t.throttle t.targetPitch settings.flarePitch
    let next := (flight.step .update).1
    flight.UpdateCommands (flare.command t.time settings.flareSeconds settings.flarePitch) ∧
      (0.01 < settings.flareSeconds → t.time.isFinite = true → t.throttle.isFinite = true →
        t.targetPitch.isFinite = true → flare.pitchRange.isFinite = true →
        ∃ command, flight.UpdateCommands command ∧
          command.throttle = t.throttle ∧ (command.pitch == t.targetPitch) = true ∧
          (t.targetPitch ≠ -0.0 → command.pitch = t.targetPitch) ∧
          next.vehicle.store.number Property.throttle = t.throttle ∧
          (next.vehicle.store.number Property.targetPitch == t.targetPitch) = true) ∧
      ∀ operations : List (Operation Float),
        (∀ operation ∈ operations, operation.WithinActivation) →
        let reached := next.run operations
        let now := (Telemetry.ofStore reached.vehicle.store).time
        let tuned := reached.task.settings.retuned reached.vehicle.store
        reached.UpdateCommands (flare.command now tuned.flareSeconds tuned.flarePitch) ∧
          (0.01 < tuned.flareSeconds →
            ∀ pitch, reached.UpdateCommands (flare.command now tuned.flareSeconds pitch)) := by
  intro t settings flare next
  obtain ⟨g, approach, hg, happroach, _, begun⟩ := flare_step_of_flareStart begins
  have commands : flight.UpdateCommands
      (flare.command t.time settings.flareSeconds settings.flarePitch) :=
    updateCommands_of_flare hg happroach begun
  refine ⟨commands, ?_, ?_⟩
  · intro lasting clock thrust attitude range
    obtain ⟨throttle, pitch, exactly⟩ :=
      Flare.command_begin clock lasting thrust attitude range settings.flarePitch
    refine ⟨_, commands, throttle, pitch, exactly, ?_⟩
    -- The properties then hold the command.
    obtain ⟨_, _, _, writtenPitch, writtenThrottle⟩ := commands
    rw [Store.number, Store.number, writtenPitch, writtenThrottle]
    exact ⟨throttle, pitch⟩
  · intro operations within reached now tuned
    have later : reached.UpdateCommands
        (flare.command now tuned.flareSeconds tuned.flarePitch) :=
      updateCommands_of_flareStart begins within
    refine ⟨later, ?_⟩
    intro lasting pitch
    rwa [flare.command_congr lasting pitch tuned.flarePitch]

/-- Half way through a flare that began at a pitch of minus two degrees and a throttle of six
tenths. In between the flare was commanded once, and others wrote the pitch, the throttle and the
flare pitch. -/
theorem flare_begins_without_bump_under_foreign_writes :
    let flight : Flight Float :=
      ((start LandEntry.blank (Vehicle.ofStore Store.empty)).step .activate).1.run
        [.put Property.navigationMode (some (.text "route")),
          .put Property.routeDistanceValid (some (.flag true)),
          .put Property.routeDistance (some (.number 10.0)),
          .put Property.groundSpeed (some (.number 10.0)),
          .put Property.timestamp (some (.number 100.0)),
          .put Property.throttle (some (.number 0.6)),
          .put Property.targetPitch (some (.number (-2.0)))]
    let next := (flight.step .update).1
    let operations : List (Operation Float) :=
      [.put Property.targetPitch (some (.number 30.0)),
        .put Property.timestamp (some (.number 101.0)), .update, .put Property.throttle none,
        .put Property.landFlarePitch (some (.number 45.0)),
        .put Property.timestamp (some (.number 102.5))]
    .flareStart ∈ flight.appended .update ∧
      next.vehicle.store.number Property.throttle = 0.6 ∧
      (∀ operation ∈ operations, operation.WithinActivation) ∧
      (next.run operations).UpdateCommands { pitch := -1.0, throttle := 0.3 } := by
  intro flight next operations
  have begins : .flareStart ∈ flight.appended .update := by
    decide +kernel
  have within : ∀ operation ∈ operations, operation.WithinActivation := by
    simp [operations, Operation.WithinActivation]
  -- What the update reads, and what the last one reads.
  have readings : (Telemetry.ofStore flight.vehicle.store).time = 100.0 ∧
      (Telemetry.ofStore flight.vehicle.store).throttle = 0.6 ∧
      (Telemetry.ofStore flight.vehicle.store).targetPitch = -2.0 ∧
      (flight.task.settings.retuned flight.vehicle.store).flarePitch = 0.0 ∧
      (flight.task.settings.retuned flight.vehicle.store).flareSeconds = 5.0 := by
    decide +kernel
  have laterReadings :
      (Telemetry.ofStore (next.run operations).vehicle.store).time = 102.5 ∧
      ((next.run operations).task.settings.retuned
        (next.run operations).vehicle.store).flareSeconds = 5.0 := by
    decide +kernel
  obtain ⟨time, throttle, pitch, flarePitch, seconds⟩ := readings
  obtain ⟨laterTime, laterSeconds⟩ := laterReadings
  have bumpless := flare_begins_without_bump begins
  dsimp only at bumpless
  rw [time, throttle, pitch, flarePitch, seconds] at bumpless
  obtain ⟨_, first, later⟩ := bumpless
  obtain ⟨_, _, _, _, _, kept, _⟩ := first (by decide +kernel) (by decide +kernel)
    (by decide +kernel) (by decide +kernel) (by decide +kernel)
  refine ⟨begins, kept, within, ?_⟩
  have commands := (later operations within).2
  rw [laterTime, laterSeconds] at commands
  have halfway : (Flare.begin 100.0 0.6 (-2.0) 0.0).command 102.5 5.0 0.0 =
      ({ pitch := -1.0, throttle := 0.3 } : FlareCommand Float) :=
    congrArg₂ FlareCommand.mk (by decide +kernel) (by decide +kernel)
  rw [← halfway]
  exact commands (by decide +kernel) 0.0

end Flight

end LandingGuidance

import LandingGuidance.Guidance
import LandingGuidance.Store.Saved
import LandingGuidance.Vehicle

/-!
# The landing task

The landing task is activated, updated once in every control cycle, and closed. Activations nest:
each saves what it takes over and the matching close puts it back. The approach is planned at the
first activation and stays as it is until it is rebuilt, also over a close and a new activation.
-/

namespace LandingGuidance

/-- The state of the landing task. -/
structure LandingTask (α : Type) where
  name : String
  nickname : String
  settings : Settings α
  approach : Option (Approach α)
  /-- The state of guidance while the task is active. -/
  guidance : Option (Guidance α)
  /-- What the open activations saved, the latest first. -/
  saved : List (Saved α)

namespace LandingTask

variable {α : Type}

/-- A new task with the settings of a land entry, which it publishes. -/
def create [Scalar α] (entry : LandEntry α) (v : Vehicle α) : LandingTask α × Vehicle α :=
  ({ name := entry.name
     nickname := entry.nickname
     settings := entry.settings
     approach := none
     guidance := none
     saved := [] },
    (v.setAll entry.settings.published).warn entry.warnings)

def isActive (task : LandingTask α) : Bool := task.guidance.isSome

/-- The task goes on until it is closed. -/
def isComplete (_task : LandingTask α) : Bool := false

variable [TrigScalar α] [TwoPlaces α]

/-- Plans the approach anew from the values in the store, and publishes it. -/
def rebuild (task : LandingTask α) (v : Vehicle α) : Approach α × LandingTask α × Vehicle α :=
  let settings := task.settings.reshaped v.store
  let approach := Approach.plan settings (Home.ofStore v.store)
  (approach, { task with settings, approach := some approach },
    (v.warn (task.settings.reshapingWarnings v.store)).setAll approach.published)

/-- Publishes the approach, which is planned if there is none. -/
def prepare (task : LandingTask α) (v : Vehicle α) : LandingTask α × Vehicle α :=
  match task.approach with
  | some approach => (task, v.setAll approach.published)
  | none => (task.rebuild v).2

/-- What an activation takes over: both modes, the target airspeed and the flaps. -/
def takeOver (settings : Settings α) (s : Store α) : List (Property × Value α) :=
  [(.autopilotMode, .text AutopilotMode.energy.name),
    (.navigationMode, .text NavigationMode.circle.name),
    (.targetAirspeed,
      .number ((s.number? Property.landApproachSpeed).getD settings.approachSpeed)),
    (.flaps, .number settings.flaps)]

/-- Takes the vehicle over, with guidance that has found nothing yet. -/
def activate (task : LandingTask α) (v : Vehicle α) : LandingTask α × Vehicle α :=
  -- The approach is published before the state is saved.
  let (task, v) := task.prepare v
  ({ task with
      guidance := some Guidance.fresh
      saved := Saved.capture v.store Scope.everything :: task.saved },
    (v.setAll (takeOver task.settings v.store)).record [⟨"mission", "land"⟩])

/-- One control cycle. Nothing happens while the task is not active. -/
def update (task : LandingTask α) (v : Vehicle α) :
    Option (Report α) × LandingTask α × Vehicle α :=
  match task.guidance, task.approach with
  | some guidance, some approach =>
    let settings := task.settings.retuned v.store
    let cycle := guidance.cycle settings approach (Telemetry.ofStore v.store)
    (some cycle.report, { task with settings, guidance := some cycle.after },
      (v.setAll cycle.commands).record cycle.events)
  | _, _ => (none, task, v)

/-- Puts back what the latest open activation saved, and takes the flaps in. -/
def close (task : LandingTask α) (v : Vehicle α) : LandingTask α × Vehicle α :=
  let restored :=
    match task.saved with
    | saved :: _ => v.mapStore saved.restore
    | [] => v
  ({ task with guidance := none, saved := task.saved.tail },
    restored.setAll [(.flaps, .number 0.0)])

end LandingTask

end LandingGuidance

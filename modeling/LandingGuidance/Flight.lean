import LandingGuidance.LandingTask

/-!
# Flights

A flight is a landing task with its vehicle. It goes on by operations on the task, and by what
others do to the vehicle meanwhile: writes to the shared state and events of their own.
-/

namespace LandingGuidance

/-- A task and its vehicle. -/
structure Flight (α : Type) where
  task : LandingTask α
  vehicle : Vehicle α

/-- What can happen in a flight. -/
inductive Operation (α : Type) where
  | activate
  | update
  | rebuild
  | close
  /-- Somebody else writes or removes a value. -/
  | put (path : String) (value : Option (Value α))
  /-- Somebody else logs an event. -/
  | log (event : Event)

/-- What an operation answers. -/
inductive Answer (α : Type) where
  | done
  | report (report : Option (Report α))
  | approach (approach : Approach α)

namespace Flight

variable {α : Type}

def start [Scalar α] (entry : LandEntry α) (v : Vehicle α) : Flight α :=
  let (task, vehicle) := LandingTask.create entry v
  ⟨task, vehicle⟩

variable [TrigScalar α] [TwoPlaces α]

def step (flight : Flight α) : Operation α → Flight α × Answer α
  | .activate =>
    let (task, vehicle) := flight.task.activate flight.vehicle
    (⟨task, vehicle⟩, .done)
  | .update =>
    let (report, task, vehicle) := flight.task.update flight.vehicle
    (⟨task, vehicle⟩, .report report)
  | .rebuild =>
    let (approach, task, vehicle) := flight.task.rebuild flight.vehicle
    (⟨task, vehicle⟩, .approach approach)
  | .close =>
    let (task, vehicle) := flight.task.close flight.vehicle
    (⟨task, vehicle⟩, .done)
  | .put path value => (⟨flight.task, flight.vehicle.mapStore (·.put path value)⟩, .done)
  | .log event => (⟨flight.task, flight.vehicle.record [event]⟩, .done)

/-- The flight after some operations. -/
def run (flight : Flight α) (operations : List (Operation α)) : Flight α :=
  operations.foldl (fun flight operation => (flight.step operation).1) flight

end Flight

end LandingGuidance

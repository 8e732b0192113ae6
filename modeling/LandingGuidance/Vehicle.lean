import LandingGuidance.EventLog
import LandingGuidance.Settings.Limit
import LandingGuidance.Store

/-!
# The vehicle

What a task works on: the shared state, the log of events, and the warnings made so far.
-/

namespace LandingGuidance

/-- The shared state and what was recorded. -/
structure Vehicle (α : Type) where
  store : Store α
  log : EventLog
  /-- Oldest first. -/
  warnings : List (Warning α)

namespace Vehicle

variable {α : Type}

def ofStore (s : Store α) : Vehicle α := ⟨s, EventLog.empty, []⟩

/-- Changes the shared state. -/
def mapStore (v : Vehicle α) (f : Store α → Store α) : Vehicle α := { v with store := f v.store }

/-- Writes values one after the other. -/
def setAll (v : Vehicle α) (entries : List (Property × Value α)) : Vehicle α :=
  v.mapStore (·.setAll entries)

def record (v : Vehicle α) (events : List Event) : Vehicle α :=
  { v with log := v.log.append events }

def warn (v : Vehicle α) (warnings : List (Warning α)) : Vehicle α :=
  { v with warnings := v.warnings ++ warnings }

end Vehicle

end LandingGuidance

/-!
# The event log

Named transitions under a category, oldest first. The log only grows at its end.
-/

namespace LandingGuidance

/-- A named transition. -/
structure Event where
  category : String
  message : String
  deriving DecidableEq

/-- The events logged so far, oldest first. -/
structure EventLog where
  events : List Event := []

namespace EventLog

def empty : EventLog := ⟨[]⟩

def append (log : EventLog) (events : List Event) : EventLog := ⟨log.events ++ events⟩

def record (log : EventLog) (category message : String) : EventLog :=
  log.append [⟨category, message⟩]

def contains (log : EventLog) (category message : String) : Bool :=
  log.events.any fun event => event.category == category && event.message == message

/-- The messages of a category, oldest first. -/
def messages (log : EventLog) (category : String) : List String :=
  (log.events.filter fun event => event.category == category).map Event.message

theorem contains_iff {log : EventLog} {category message : String} :
    log.contains category message = true ↔ ⟨category, message⟩ ∈ log.events := by
  simp only [contains, List.any_eq_true, Bool.and_eq_true, beq_iff_eq]
  constructor
  · rintro ⟨⟨_, _⟩, h, rfl, rfl⟩
    exact h
  · exact fun h => ⟨_, h, rfl, rfl⟩

end EventLog

end LandingGuidance

import LandingGuidance.Scalar

/-!
# Turn directions
-/

namespace LandingGuidance

/-- Which way the descending circle is flown. -/
inductive Turn where
  | left
  | right
  deriving DecidableEq

namespace Turn

/-- Any name but `right` is a left turn. -/
def ofName (name : String) : Turn := if name = "right" then right else left

def name : Turn → String
  | left => "left"
  | right => "right"

/-- The side of the circle's center as seen along the final leg: minus one for left, one for
right. -/
def side {α : Type} [Scalar α] : Turn → α
  | left => -1.0
  | right => 1.0

@[simp] theorem ofName_name (turn : Turn) : ofName turn.name = turn := by
  cases turn <;> decide

end Turn

end LandingGuidance

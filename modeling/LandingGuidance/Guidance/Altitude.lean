import LandingGuidance.Scalar

/-!
# Heights and times on the final descent

Heights are in feet above ground, distances in meters along the path, and the glideslope is an angle
in radians.
-/

namespace LandingGuidance

variable {α : Type}

def feetToMeters [Scalar α] : α := 0.3048

def metersToFeet [Scalar α] : α := 1.0 / feetToMeters

/-- The height of the glideslope with a distance to go. -/
def glideslopeAltitude [TrigScalar α] (distance glideslope bias : α) : α :=
  distance * TrigScalar.tan glideslope * metersToFeet + bias

/-- The height of the glideslope at the start of a full half circle before the final leg. -/
def safeAltitude [TrigScalar α] (radius finalLeg glideslope bias : α) : α :=
  glideslopeAltitude (TrigScalar.pi * radius + finalLeg) glideslope bias

/-- The height to command next: not below the safe height until the glideslope is captured, and
never above the height commanded so far. -/
def limitTarget [Scalar α] (target safe current : α) (glideslopeCaptured : Bool) : α :=
  Scalar.smaller (if glideslopeCaptured then target else Scalar.larger target safe) current

/-- The seconds to touchdown at a ground speed in meters per second. An aircraft that hardly moves
takes a thousand seconds. -/
def secondsToTouchdown [Scalar α] (distance groundSpeed : α) : α :=
  if 0.01 < groundSpeed then distance / groundSpeed else 1000.0

/-- Whether a distance from the center of a circle is within a quarter of its radius from it. -/
def isCircleCapture [Scalar α] (distance radius : α) : Bool :=
  let fraction := Scalar.abs (distance / radius)
  decide (0.75 < fraction ∧ fraction < 1.25)

end LandingGuidance

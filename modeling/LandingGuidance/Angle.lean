import LandingGuidance.Scalar

/-!
# Angles in degrees

Conversions to and from radians, and the two ways to bring an angle into one turn: `wrap360` into
`[0, 360)` and `wrap180` into `[-180, 180)`.
-/

namespace LandingGuidance.Angle

variable {α : Type}

def toRadians [TrigScalar α] (degrees : α) : α := degrees * (TrigScalar.pi / 180.0)

def toDegrees [TrigScalar α] (radians : α) : α := radians * (180.0 / TrigScalar.pi)

/-- The angle in `[0, 360)` with the same direction. A tiny negative angle whose sum with a full
turn rounds up to a full turn becomes zero. -/
def wrap360 [Scalar α] (degrees : α) : α :=
  let rest := Scalar.remainder degrees 360.0
  let raised := if rest < 0.0 then rest + 360.0 else rest
  if 360.0 ≤ raised then 0.0 else raised

/-- The angle in `[-180, 180)` with the same direction. -/
def wrap180 [Scalar α] (degrees : α) : α := wrap360 (degrees + 180.0) - 180.0

end LandingGuidance.Angle

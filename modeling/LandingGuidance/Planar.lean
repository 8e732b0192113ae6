import LandingGuidance.Angle

/-!
# Offsets in the plane

An offset is seen from a reference point looking along a reference heading, so a bearing of zero is
straight ahead and ninety degrees is to the right.
-/

namespace LandingGuidance

/-- An offset in meters to the right of a reference heading and along it. -/
structure Offset (α : Type) where
  right : α
  ahead : α

/-- A distance in meters and a bearing in degrees from a reference point. -/
structure Polar (α : Type) where
  distance : α
  bearing : α

variable {α : Type} [TrigScalar α]

/-- The distance of an offset, and its bearing in `(-180, 180]`. -/
def Offset.toPolar (offset : Offset α) : Polar α where
  distance := TrigScalar.hypot offset.right offset.ahead
  bearing := Angle.toDegrees (TrigScalar.atan2 offset.right offset.ahead)

/-- The offset at a distance and a bearing. -/
def Polar.toOffset (polar : Polar α) : Offset α :=
  let bearing := Angle.toRadians polar.bearing
  { right := polar.distance * TrigScalar.sin bearing
    ahead := polar.distance * TrigScalar.cos bearing }

end LandingGuidance

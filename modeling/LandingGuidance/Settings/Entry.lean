import LandingGuidance.Scalar

/-!
# The land entry

The land entry of the configuration tree as it is written, before any check. What is not written is
zero, empty or absent.
-/

namespace LandingGuidance

/-- The land entry, field by field. -/
structure LandEntry (α : Type) where
  name : String
  nickname : String
  /-- The offset in meters of the final leg from home. -/
  lateralOffset : α
  /-- The descent angle in degrees. -/
  glideslope : α
  /-- The radius in meters of the descending circle. -/
  turnRadius : α
  direction : String
  /-- The length in meters added to the final leg. -/
  finalLegExtension : α
  /-- The height in feet added to the glideslope. -/
  altitudeBias : α
  /-- The airspeed in knots of the approach. -/
  approachSpeed : α
  /-- The pitch in degrees at the end of the flare. -/
  flarePitch : α
  /-- The duration in seconds of the flare. -/
  flareSeconds : α
  flaps : Option α

/-- The entry with nothing written. -/
def LandEntry.blank {α : Type} [Scalar α] : LandEntry α where
  name := ""
  nickname := ""
  lateralOffset := 0.0
  glideslope := 0.0
  turnRadius := 0.0
  direction := ""
  finalLegExtension := 0.0
  altitudeBias := 0.0
  approachSpeed := 0.0
  flarePitch := 0.0
  flareSeconds := 0.0
  flaps := none

end LandingGuidance

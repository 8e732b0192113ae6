import LandingGuidance.Scalar

/-!
# The flare

Near touchdown the throttle is drawn to idle and the pitch is led to the flare pitch, both over a
fixed time from the values that held when the flare began.
-/

namespace LandingGuidance

/-- The pitch in degrees and the throttle that are commanded. -/
structure FlareCommand (α : Type) where
  pitch : α
  throttle : α

/-- The values that held when the flare began. -/
structure Flare (α : Type) where
  /-- The time in seconds of the beginning. -/
  start : α
  throttle : α
  pitch : α
  /-- By how much the pitch exceeds the flare pitch. -/
  pitchRange : α

namespace Flare

variable {α : Type} [Scalar α]

def begin (now throttle pitch flarePitch : α) : Flare α :=
  { start := now, throttle, pitch, pitchRange := pitch - flarePitch }

/-- The part of the flare that is over, between zero and one. -/
def progress (flare : Flare α) (now seconds : α) : α :=
  Scalar.clamp 0.0 1.0 ((now - flare.start) / seconds)

/-- The command at a time. A flare of a hundredth of a second or less goes to its end at once. -/
def command (flare : Flare α) (now seconds flarePitch : α) : FlareCommand α :=
  if 0.01 < seconds then
    let progress := flare.progress now seconds
    { pitch := flare.pitch - progress * flare.pitchRange
      throttle := flare.throttle * (1.0 - progress) }
  else { pitch := flarePitch, throttle := 0.0 }

end Flare

end LandingGuidance

import LandingGuidance.Approach
import LandingGuidance.Ellipsoid.Course
import LandingGuidance.EventLog
import LandingGuidance.Guidance.Altitude
import LandingGuidance.Guidance.Flare
import LandingGuidance.Guidance.Telemetry

/-!
# Guidance

One cycle of guidance turns the state of guidance and the telemetry into a new state, a report,
commands for the store and events. It has three stages: the lateral one measures the distance to go
on the circle or the route, the vertical one sets the target height and captures the glideslope, and
the last one starts the flare and commands it.

Captures are kept once made. Each stage sees the circle capture of its own cycle; the hand-over to
the route and the limit on the target height see the glideslope capture as it was before the cycle.
-/

namespace LandingGuidance

/-- What guidance remembers from one cycle to the next. -/
structure Guidance (α : Type) where
  circleCaptured : Bool
  glideslopeCaptured : Bool
  /-- The flare, once it has begun. -/
  flare : Option (Flare α)
  /-- The distance in meters to touchdown. -/
  distanceToGo : α

/-- Which part of the approach is flown. -/
inductive Phase where
  | circleDescent
  | finalApproach
  deriving DecidableEq

/-- What a cycle computed and commanded. -/
structure Report (α : Type) where
  phase : Phase
  distanceToGo : α
  /-- The commanded height in feet above ground. -/
  targetAltitude : α
  /-- The least height in feet before the glideslope is captured. -/
  safeAltitude : α
  /-- The angle in degrees by which the aircraft is above the glideslope. -/
  glideslopeError : α
  secondsToTouchdown : α
  circleCaptured : Bool
  glideslopeCaptured : Bool
  flare : Option (FlareCommand α)

variable {α : Type}

/-- Where an aircraft is around the circle of an approach. -/
structure CircleFix (α : Type) where
  /-- The distance in meters from the center. -/
  distance : α
  /-- The angle in degrees that is left to turn to the start of the final leg, in `[-180, 180)`. -/
  angle : α

/-- The heading of the circle at the radial of a position, against that of the final leg. -/
def Approach.fix [TrigScalar α] (approach : Approach α) (position : Position α) : CircleFix α :=
  let radial := approach.center.courseTo position
  let heading := Angle.wrap360 (radial.initial + approach.turn.side * 90.0)
  { distance := radial.distance, angle := Angle.wrap180 (heading - approach.finalHeading) }

/-- The angle in radians that counts as left to turn: half a circle until the circle is captured,
and again from ten degrees past the start of the final leg. -/
def CircleFix.angleToGo [TrigScalar α] (fix : CircleFix α) (captured : Bool) : α :=
  if captured ∧ -10.0 < fix.angle then Angle.toRadians fix.angle else TrigScalar.pi

/-- The distance to touchdown: to the circle, around it, and down the final leg. -/
def Approach.distanceToGo [TrigScalar α] (approach : Approach α) (fix : CircleFix α)
    (captured : Bool) : α :=
  (fix.distance - approach.radius) + fix.angleToGo captured * approach.radius + approach.finalLeg

/-- What the lateral stage finds. -/
structure Lateral (α : Type) where
  circleCaptured : Bool
  /-- The angle of the fix on the circle, and zero off the circle. -/
  angle : α
  distanceToGo : α
  /-- Whether the route follower takes over. -/
  handOver : Bool

/-- What the vertical stage finds. -/
structure Vertical (α : Type) where
  safeAltitude : α
  targetAltitude : α
  glideslopeError : α
  glideslopeCaptured : Bool

/-- What the flare stage finds. -/
structure Touchdown (α : Type) where
  secondsToTouchdown : α
  flare : Option (Flare α)
  command : Option (FlareCommand α)

/-- The findings of a cycle. -/
structure Cycle (α : Type) where
  before : Guidance α
  circling : Bool
  lateral : Lateral α
  vertical : Vertical α
  touchdown : Touchdown α

namespace Guidance

variable [TrigScalar α]

/-- Guidance that has found nothing yet. -/
def fresh : Guidance α where
  circleCaptured := false
  glideslopeCaptured := false
  flare := none
  distanceToGo := 0.0

/-- Off the circle the route follower knows the distance, and while it does not, the last one
holds. -/
def lateral (g : Guidance α) (approach : Approach α) (t : Telemetry α) : Lateral α :=
  if t.circling then
    let fix := approach.fix t.position
    let captured := g.circleCaptured || isCircleCapture fix.distance approach.radius
    { circleCaptured := captured
      angle := fix.angle
      distanceToGo := approach.distanceToGo fix captured
      -- The glideslope of this cycle comes after the hand-over, so it counts from the next one.
      handOver := captured && g.glideslopeCaptured && decide (Scalar.abs fix.angle ≤ 10.0) }
  else
    { circleCaptured := g.circleCaptured
      angle := 0.0
      distanceToGo := t.routeDistance.getD g.distanceToGo
      handOver := false }

/-- The height in feet to add to the glideslope. The pilot raises it by pulling the nose up. -/
def bias (settings : Settings α) (t : Telemetry α) : α := settings.altitudeBias - t.elevator * 25.0

/-- The heights of the cycle and the capture of the glideslope, which needs the circle captured and
the start of the final leg ahead. -/
def vertical (g : Guidance α) (settings : Settings α) (approach : Approach α) (t : Telemetry α)
    (l : Lateral α) : Vertical α :=
  let glideslope := Angle.toRadians settings.glideslope
  let bias := bias settings t
  let safe := safeAltitude approach.radius approach.finalLeg glideslope bias
  let onSlope := glideslopeAltitude l.distanceToGo glideslope bias
  -- The error is an angle, so the height above the slope is taken in the unit of the distance.
  let error :=
    Angle.toDegrees
      (TrigScalar.atan2 ((t.altitude - onSlope) * feetToMeters) l.distanceToGo)
  { safeAltitude := safe
    -- The floor still holds in the cycle that captures the glideslope.
    targetAltitude := limitTarget onSlope safe t.targetAltitude g.glideslopeCaptured
    glideslopeError := error
    glideslopeCaptured :=
      g.glideslopeCaptured ||
        (l.circleCaptured && decide (error ≤ 1.0) && decide (0.0 ≤ l.angle)) }

/-- The flare begins when touchdown is no farther than the flare is long, and goes on from then. -/
def touchdown (g : Guidance α) (settings : Settings α) (t : Telemetry α) (l : Lateral α) :
    Touchdown α :=
  let seconds := LandingGuidance.secondsToTouchdown l.distanceToGo t.groundSpeed
  let flare :=
    match g.flare with
    | some flare => some flare
    | none =>
      -- The references are read before the command below overwrites them.
      if seconds ≤ settings.flareSeconds then
        some (Flare.begin t.time t.throttle t.targetPitch settings.flarePitch)
      else none
  { secondsToTouchdown := seconds
    flare
    command := flare.map fun flare =>
      flare.command t.time settings.flareSeconds settings.flarePitch }

/-- One cycle, stage by stage. -/
def cycle (g : Guidance α) (settings : Settings α) (approach : Approach α) (t : Telemetry α) :
    Cycle α :=
  let l := g.lateral approach t
  { before := g
    circling := t.circling
    lateral := l
    vertical := g.vertical settings approach t l
    touchdown := g.touchdown settings t l }

end Guidance

namespace Cycle

/-- The state of guidance after the cycle. -/
def after (c : Cycle α) : Guidance α where
  circleCaptured := c.lateral.circleCaptured
  glideslopeCaptured := c.vertical.glideslopeCaptured
  flare := c.touchdown.flare
  distanceToGo := c.lateral.distanceToGo

/-- Whether the flare begins in the cycle. -/
def flareBegins (c : Cycle α) : Bool := c.before.flare.isNone && c.touchdown.flare.isSome

/-- The phase after the cycle. -/
def phase (c : Cycle α) : Phase :=
  if c.circling && !c.lateral.handOver then .circleDescent else .finalApproach

/-- What the cycle reports to the flight loop. -/
def report (c : Cycle α) : Report α where
  phase := c.phase
  distanceToGo := c.lateral.distanceToGo
  targetAltitude := c.vertical.targetAltitude
  safeAltitude := c.vertical.safeAltitude
  glideslopeError := c.vertical.glideslopeError
  secondsToTouchdown := c.touchdown.secondsToTouchdown
  circleCaptured := c.lateral.circleCaptured
  glideslopeCaptured := c.vertical.glideslopeCaptured
  flare := c.touchdown.command

/-- The events of the cycle, in their order. -/
def events (c : Cycle α) : List Event :=
  (if !c.before.circleCaptured && c.lateral.circleCaptured then
    [⟨"land", "descent circle capture"⟩] else [])
    ++ (if c.lateral.handOver then [⟨"land", "transition to final"⟩] else [])
    ++ (if !c.before.glideslopeCaptured && c.vertical.glideslopeCaptured then
      [⟨"land", "glide slope capture"⟩] else [])
    ++ (if c.flareBegins then [⟨"land", "start flare"⟩] else [])

/-- What the cycle writes in the store. -/
def commands (c : Cycle α) : List (Property × Value α) :=
  (if c.lateral.handOver then [(.navigationMode, .text NavigationMode.route.name)] else [])
    ++ [(.targetAltitude, .number c.vertical.targetAltitude)]
    ++ (if c.flareBegins then [(.autopilotMode, .text AutopilotMode.direct.name)] else [])
    ++ (match c.touchdown.command with
      | some command =>
        [(.targetPitch, .number command.pitch), (.throttle, .number command.throttle)]
      | none => [])

end Cycle

end LandingGuidance

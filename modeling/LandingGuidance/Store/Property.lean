/-!
# Properties

The properties of the shared state that landing guidance reads or writes, and their paths. Different
properties have different paths.
-/

namespace LandingGuidance

/-- The catalogue of properties. -/
inductive Property where
  | homeLatitude
  | homeLongitude
  | homeAzimuth
  | landLateralOffset
  | landGlideslope
  | landTurnRadius
  | landDirection
  | landFinalLegExtension
  | landAltitudeBias
  | landApproachSpeed
  | landFlarePitch
  | landFlareSeconds
  | circleLatitude
  | circleLongitude
  | circleDirection
  | circleRadius
  | routeRequest
  | routeStartMode
  | routeFollowMode
  | routeCompletionMode
  | routeDistance
  | routeDistanceValid
  | autopilotMode
  | navigationMode
  | targetAltitude
  | targetPitch
  | targetAirspeed
  | positionLatitude
  | positionLongitude
  | positionAltitude
  | groundSpeed
  | pilotElevator
  | timestamp
  | flaps
  | throttle
  deriving DecidableEq

namespace Property

/-- Every property, in the order of the catalogue. -/
def all : List Property :=
  [homeLatitude, homeLongitude, homeAzimuth, landLateralOffset, landGlideslope, landTurnRadius,
    landDirection, landFinalLegExtension, landAltitudeBias, landApproachSpeed, landFlarePitch,
    landFlareSeconds, circleLatitude, circleLongitude, circleDirection, circleRadius, routeRequest,
    routeStartMode, routeFollowMode, routeCompletionMode, routeDistance, routeDistanceValid,
    autopilotMode, navigationMode, targetAltitude, targetPitch, targetAirspeed, positionLatitude,
    positionLongitude, positionAltitude, groundSpeed, pilotElevator, timestamp, flaps, throttle]

def path : Property → String
  | homeLatitude => "/task/home/latitude_deg"
  | homeLongitude => "/task/home/longitude_deg"
  | homeAzimuth => "/task/home/azimuth_deg"
  | landLateralOffset => "/task/land/lateral_offset_m"
  | landGlideslope => "/task/land/glideslope_deg"
  | landTurnRadius => "/task/land/turn_radius_m"
  | landDirection => "/task/land/direction"
  | landFinalLegExtension => "/task/land/extend_final_leg_m"
  | landAltitudeBias => "/task/land/altitude_bias_ft"
  | landApproachSpeed => "/task/land/approach_speed_kt"
  | landFlarePitch => "/task/land/flare_pitch_deg"
  | landFlareSeconds => "/task/land/flare_seconds"
  | circleLatitude => "/task/circle/latitude_deg"
  | circleLongitude => "/task/circle/longitude_deg"
  | circleDirection => "/task/circle/direction"
  | circleRadius => "/task/circle/radius_m"
  | routeRequest => "/task/route/route_request"
  | routeStartMode => "/task/route/start_mode"
  | routeFollowMode => "/task/route/follow_mode"
  | routeCompletionMode => "/task/route/completion_mode"
  | routeDistance => "/task/route/dist_remaining_m"
  | routeDistanceValid => "/task/route/dist_valid"
  | autopilotMode => "/autopilot/mode"
  | navigationMode => "/navigation/mode"
  | targetAltitude => "/autopilot/targets/altitude_agl_ft"
  | targetPitch => "/autopilot/targets/pitch_deg"
  | targetAirspeed => "/autopilot/targets/airspeed_kt"
  | positionLatitude => "/position/latitude_deg"
  | positionLongitude => "/position/longitude_deg"
  | positionAltitude => "/position/altitude_agl_ft"
  | groundSpeed => "/velocity/groundspeed_ms"
  | pilotElevator => "/sensors/pilot_input/elevator"
  | timestamp => "/sensors/imu/timestamp"
  | flaps => "/controls/flight/flaps_setpoint"
  | throttle => "/controls/engine/throttle"

instance : Coe Property String := ⟨path⟩

/-- The property with a given path. -/
def ofPath? (path : String) : Option Property := all.find? fun p => p.path == path

theorem ofPath?_path (p : Property) : ofPath? p.path = some p := by
  cases p <;> decide

theorem path_injective {p q : Property} (h : p.path = q.path) : p = q := by
  have := ofPath?_path p
  rw [h, ofPath?_path q] at this
  exact (Option.some.inj this).symm

@[simp] theorem path_inj {p q : Property} : p.path = q.path ↔ p = q :=
  ⟨path_injective, congrArg path⟩

end Property

end LandingGuidance

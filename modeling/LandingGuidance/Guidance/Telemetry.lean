import LandingGuidance.Ellipsoid
import LandingGuidance.Store

/-!
# Telemetry

What a guidance cycle reads from the store, besides the settings. Everything is read before anything
is written.
-/

namespace LandingGuidance

/-- Who steers the aircraft sideways. -/
inductive NavigationMode where
  | circle
  | route
  deriving DecidableEq

def NavigationMode.name : NavigationMode → String
  | circle => "circle"
  | route => "route"

/-- How height and speed are held. -/
inductive AutopilotMode where
  /-- By the total energy. -/
  | energy
  /-- By pitch and throttle as commanded. -/
  | direct
  deriving DecidableEq

def AutopilotMode.name : AutopilotMode → String
  | energy => "basic+tecs"
  | direct => "basic"

/-- The readings of one cycle. -/
structure Telemetry (α : Type) where
  /-- Whether the navigation mode is the circle. -/
  circling : Bool
  position : Position α
  /-- The height in feet above ground. -/
  altitude : α
  /-- The ground speed in meters per second. -/
  groundSpeed : α
  /-- The pilot's elevator; below zero is nose up. -/
  elevator : α
  /-- The time in seconds. -/
  time : α
  /-- The distance in meters that the route follower has to go, while it is valid. -/
  routeDistance : Option α
  targetAltitude : α
  targetPitch : α
  throttle : α

def Telemetry.ofStore {α : Type} [Scalar α] (s : Store α) : Telemetry α where
  circling := s.text Property.navigationMode == NavigationMode.circle.name
  position :=
    { latitude := s.number Property.positionLatitude
      longitude := s.number Property.positionLongitude }
  altitude := s.number Property.positionAltitude
  groundSpeed := s.number Property.groundSpeed
  elevator := s.number Property.pilotElevator
  time := s.number Property.timestamp
  routeDistance :=
    if s.flag Property.routeDistanceValid then some (s.number Property.routeDistance) else none
  targetAltitude := s.number Property.targetAltitude
  targetPitch := s.number Property.targetPitch
  throttle := s.number Property.throttle

end LandingGuidance

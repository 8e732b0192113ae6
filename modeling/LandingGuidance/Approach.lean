import LandingGuidance.Approach.Route
import LandingGuidance.Ellipsoid.Projection
import LandingGuidance.Settings

/-!
# The approach

An approach is a descending circle that touches a straight final leg, which ends at home. It is
planned from the settings and home, and published in the store for the controllers that fly it.
-/

namespace LandingGuidance

/-- The touchdown point and the heading in degrees of the final approach. -/
structure Home (α : Type) where
  position : Position α
  azimuth : α

/-- How a route is started. -/
inductive RouteStart where
  | firstWaypoint
  deriving DecidableEq

/-- How a route is tracked. -/
inductive RouteFollowing where
  | leader
  deriving DecidableEq

/-- What follows the last waypoint of a route. -/
inductive RouteCompletion where
  | extendLastLeg
  deriving DecidableEq

def RouteStart.name : RouteStart → String
  | firstWaypoint => "first_wpt"

def RouteFollowing.name : RouteFollowing → String
  | leader => "leader"

def RouteCompletion.name : RouteCompletion → String
  | extendLastLeg => "extend_last_leg"

/-- The route down the final leg, and how it is flown. -/
structure FinalRoute (α : Type) where
  route : Route α
  start : RouteStart
  following : RouteFollowing
  completion : RouteCompletion

/-- A circle and the final leg that it leads to. -/
structure Approach (α : Type) where
  /-- The center of the descending circle. -/
  center : Position α
  /-- The radius in meters of the descending circle. -/
  radius : α
  turn : Turn
  /-- The heading in degrees down the final leg. -/
  finalHeading : α
  /-- The length in meters of the final leg. -/
  finalLeg : α
  finalRoute : FinalRoute α

variable {α : Type}

def Home.ofStore [Scalar α] (s : Store α) : Home α where
  position :=
    { latitude := s.number Property.homeLatitude, longitude := s.number Property.homeLongitude }
  azimuth := s.number Property.homeAzimuth

namespace Settings

variable [Scalar α]

/-- The final leg is as long as the circle is wide, and the extension more. -/
def finalLeg (settings : Settings α) : α := 2.0 * settings.turnRadius + settings.finalLegExtension

/-- How far the final leg lies to the right of home. -/
def lateral (settings : Settings α) : α := -settings.lateralOffset * settings.turn.side

/-- The center of the circle as an offset from home: beside the start of the final leg. -/
def centerOffset (settings : Settings α) : Offset α where
  right := settings.turnRadius * settings.turn.side - settings.lateralOffset * settings.turn.side
  ahead := -settings.finalLeg

def startOfFinal (settings : Settings α) : Offset α where
  right := settings.lateral
  ahead := -settings.finalLeg

def touchdown (settings : Settings α) : Offset α where
  right := settings.lateral
  ahead := 0.0

end Settings

namespace Approach

/-- The distance and the true bearing from home at which the center of the circle is put. -/
def centerFromHome [TrigScalar α] (settings : Settings α) (home : Home α) : Polar α :=
  let offset := settings.centerOffset.toPolar
  { distance := offset.distance, bearing := Angle.wrap360 (home.azimuth + offset.bearing) }

/-- The approach to home with the given settings. -/
def plan [TrigScalar α] (settings : Settings α) (home : Home α) : Approach α :=
  let fromHome := centerFromHome settings home
  { center := (home.position.project fromHome.bearing fromHome.distance).position
    radius := settings.turnRadius
    turn := settings.turn
    finalHeading := home.azimuth
    finalLeg := settings.finalLeg
    finalRoute :=
      { route :=
          ⟨[.relativeToHome settings.startOfFinal.toPolar,
            .relativeToHome settings.touchdown.toPolar]⟩
        start := .firstWaypoint
        following := .leader
        completion := .extendLastLeg } }

/-- What an approach publishes: the circle for the controller that holds it, the route for the one
that follows it, and the length of the final leg in place of a distance left by another route. -/
def published [TwoPlaces α] (approach : Approach α) : List (Property × Value α) :=
  [(.circleLatitude, .number approach.center.latitude),
    (.circleLongitude, .number approach.center.longitude),
    (.circleDirection, .text approach.turn.name),
    (.circleRadius, .number approach.radius),
    (.routeRequest, .text approach.finalRoute.route.text),
    (.routeStartMode, .text approach.finalRoute.start.name),
    (.routeFollowMode, .text approach.finalRoute.following.name),
    (.routeCompletionMode, .text approach.finalRoute.completion.name),
    (.routeDistance, .number approach.finalLeg)]

end Approach

end LandingGuidance

import LandingGuidance.Planar
import LandingGuidance.Decimal.Fixed
import LandingGuidance.Decimal.Numeral
import LandingGuidance.Failure
import LandingGuidance.Text.Blank
import LandingGuidance.Text.Fields

/-!
# Route requests

A route is a list of waypoints given as polar offsets from home. It is asked for by a text with four
fields for each waypoint, `flag,distance,bearing,-`, all fields between commas and the numbers with
two decimal places. `Route.read` takes back what `Route.text` writes, and also white space around
the fields and other numerals.
-/

namespace LandingGuidance

/-- A point of a route. -/
structure Waypoint (α : Type) where
  /-- What the offset is relative to; zero is home. -/
  flag : UInt8
  offset : Polar α

/-- The points of a route, in the order in which they are flown. -/
structure Route (α : Type) where
  waypoints : List (Waypoint α)

variable {α : Type}

def Waypoint.relativeToHome (offset : Polar α) : Waypoint α := ⟨0, offset⟩

/-- The four fields of a waypoint. -/
def Waypoint.fields [TwoPlaces α] (w : Waypoint α) : List (List Char) :=
  [Decimal.digits w.flag.toNat, TwoPlaces.twoPlaces w.offset.distance,
    TwoPlaces.twoPlaces w.offset.bearing, ['-']]

namespace Route

def chars [TwoPlaces α] (route : Route α) : List Char :=
  [','].intercalate (route.waypoints.flatMap Waypoint.fields)

def text [TwoPlaces α] (route : Route α) : String := String.ofList route.chars

/-- The waypoints of groups of four fields. -/
def waypointsOfFields? : List (List Char) → Option (List (Waypoint Float))
  | [] => some []
  | flag :: distance :: bearing :: mark :: fields =>
    if mark = ['-'] then
      match Decimal.readByte flag, Decimal.readFloat distance, Decimal.readFloat bearing,
        waypointsOfFields? fields with
      | some flag, some distance, some bearing, some waypoints =>
        some (⟨flag, distance, bearing⟩ :: waypoints)
      | _, _, _, _ => none
    else none
  | _ => none

/-- Reads a route request. One bad field is enough to refuse the whole text. -/
def read (text : String) : Except Failure (Route Float) :=
  match waypointsOfFields? ((Text.fields ',' text.toList).map Text.trim) with
  | some waypoints => .ok ⟨waypoints⟩
  | none => .error (.routeRequest text)

end Route

end LandingGuidance

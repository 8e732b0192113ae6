import LandingGuidance.Json.Token

/-!
# Failures

What can be wrong with a text that is read from outside. Guidance itself never fails.
-/

namespace LandingGuidance

inductive Failure where
  /-- The text of a land entry cannot be read. -/
  | landEntry (fault : Json.Fault)
  /-- A text is no route request. -/
  | routeRequest (text : String)
  deriving DecidableEq

def Json.Fault.name : Json.Fault → String
  | truncated => "eof"
  | malformed => "syntax"
  | mistyped => "data"

def Failure.message : Failure → String
  | landEntry fault => "invalid land task configuration: " ++ fault.name
  | routeRequest text => "malformed route request `" ++ text ++ "`"

end LandingGuidance

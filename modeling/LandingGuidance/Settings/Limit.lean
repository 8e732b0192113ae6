import LandingGuidance.Binary64.Arithmetic
import LandingGuidance.Decimal.Shortest

/-!
# Limits and warnings

Four settings have a minimum; a value below it is replaced by a default, with a warning. A warning
is data, and `Warning.message` is its text.
-/

namespace LandingGuidance

/-- The settings with a minimum. -/
inductive LimitedSetting where
  | glideslope
  | turnRadius
  | approachSpeed
  | flareSeconds
  deriving DecidableEq

/-- Something about a setting that the pilot should know. -/
inductive Warning (α : Type) where
  /-- A setting was below its minimum and took its default. -/
  | belowMinimum (setting : LimitedSetting) (value : α)
  /-- A turn radius in the store was not accepted, and the old one was kept. -/
  | radiusIgnored (refused kept : α)

namespace LimitedSetting

/-- The name of a setting in the configuration tree. -/
def name : LimitedSetting → String
  | glideslope => "glideslope_deg"
  | turnRadius => "turn_radius_m"
  | approachSpeed => "approach_speed_kt"
  | flareSeconds => "flare_seconds"

variable {α : Type} [Scalar α]

def minimum : LimitedSetting → α
  | glideslope => 0.01
  | turnRadius => 1.0
  | approachSpeed => 0.1
  | flareSeconds => 0.1

def default : LimitedSetting → α
  | glideslope => 6.0
  | turnRadius => 75.0
  | approachSpeed => 25.0
  | flareSeconds => 5.0

/-- The value in force for a written one. An undefined value is not below the minimum, so it
stays. -/
def effective (setting : LimitedSetting) (value : α) : α :=
  if value < setting.minimum then setting.default else value

/-- The warning for a written value, if it is replaced. -/
def warning? (setting : LimitedSetting) (value : α) : Option (Warning α) :=
  if value < setting.minimum then some (.belowMinimum setting value) else none

end LimitedSetting

/-- The text of a warning, with numbers in as few digits as tell them apart. -/
def Warning.message : Warning Float → String
  | .belowMinimum setting value =>
    "land " ++ setting.name ++ " of " ++ number value ++ " is below " ++ number setting.minimum
      ++ ", using " ++ number setting.default
  | .radiusIgnored refused kept =>
    "ignoring turn radius of " ++ number refused ++ " m, keeping " ++ number kept ++ " m"
where
  number (x : Float) : String := String.ofList (Decimal.plain x)

end LandingGuidance

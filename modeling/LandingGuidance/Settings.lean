import LandingGuidance.Settings.Entry
import LandingGuidance.Settings.Limit
import LandingGuidance.Settings.Turn
import LandingGuidance.Store

/-!
# Approach settings

The settings in force for an approach. They come from the land entry, with a default for each value
below its minimum, and are published in the store, from where some are read again: the tunables in
every guidance cycle, and those that shape the approach when it is rebuilt.
-/

namespace LandingGuidance

/-- The settings in force. The units are those of the land entry. -/
structure Settings (α : Type) where
  lateralOffset : α
  glideslope : α
  turnRadius : α
  turn : Turn
  finalLegExtension : α
  altitudeBias : α
  approachSpeed : α
  flarePitch : α
  flareSeconds : α
  flaps : α

namespace LandEntry

variable {α : Type} [Scalar α]

/-- The settings in force for a land entry. -/
def settings (entry : LandEntry α) : Settings α where
  lateralOffset := entry.lateralOffset
  glideslope := LimitedSetting.glideslope.effective entry.glideslope
  turnRadius := LimitedSetting.turnRadius.effective entry.turnRadius
  turn := Turn.ofName entry.direction
  finalLegExtension := entry.finalLegExtension
  altitudeBias := entry.altitudeBias
  approachSpeed := LimitedSetting.approachSpeed.effective entry.approachSpeed
  flarePitch := entry.flarePitch
  flareSeconds := LimitedSetting.flareSeconds.effective entry.flareSeconds
  flaps := entry.flaps.getD 0.0

/-- The warnings that a land entry gives rise to. -/
def warnings (entry : LandEntry α) : List (Warning α) :=
  [LimitedSetting.glideslope.warning? entry.glideslope,
    LimitedSetting.turnRadius.warning? entry.turnRadius,
    LimitedSetting.approachSpeed.warning? entry.approachSpeed,
    LimitedSetting.flareSeconds.warning? entry.flareSeconds].filterMap id

end LandEntry

namespace Settings

variable {α : Type} [Scalar α]

/-- The settings of an empty land entry. -/
def standard : Settings α := LandEntry.blank.settings

/-- What the settings publish in the store. -/
def published (settings : Settings α) : List (Property × Value α) :=
  [(.landLateralOffset, .number settings.lateralOffset),
    (.landGlideslope, .number settings.glideslope),
    (.landTurnRadius, .number settings.turnRadius),
    (.landDirection, .text settings.turn.name),
    (.landFinalLegExtension, .number settings.finalLegExtension),
    (.landAltitudeBias, .number settings.altitudeBias),
    (.landApproachSpeed, .number settings.approachSpeed),
    (.landFlarePitch, .number settings.flarePitch),
    (.landFlareSeconds, .number settings.flareSeconds)]

/-- The settings with the tunables that are present in the store. -/
def retuned (settings : Settings α) (s : Store α) : Settings α :=
  { settings with
    glideslope := (s.number? Property.landGlideslope).getD settings.glideslope
    finalLegExtension := (s.number? Property.landFinalLegExtension).getD settings.finalLegExtension
    altitudeBias := (s.number? Property.landAltitudeBias).getD settings.altitudeBias
    flarePitch := (s.number? Property.landFlarePitch).getD settings.flarePitch
    flareSeconds := (s.number? Property.landFlareSeconds).getD settings.flareSeconds }

/-- The turn radius in the store if it is at least the minimum, and else the old one, so that the
circle never collapses. -/
def reshapedRadius (settings : Settings α) (s : Store α) : α :=
  match s.number? Property.landTurnRadius with
  | some radius =>
    if LimitedSetting.turnRadius.minimum ≤ radius then radius else settings.turnRadius
  | none => settings.turnRadius

/-- The settings with the values that shape the approach and are present in the store. -/
def reshaped (settings : Settings α) (s : Store α) : Settings α :=
  { settings with
    lateralOffset := (s.number? Property.landLateralOffset).getD settings.lateralOffset
    finalLegExtension := (s.number? Property.landFinalLegExtension).getD settings.finalLegExtension
    turnRadius := settings.reshapedRadius s
    turn :=
      if s.has Property.landDirection then Turn.ofName (s.text Property.landDirection)
      else settings.turn }

/-- The warning for a turn radius in the store that is not accepted. -/
def reshapingWarnings (settings : Settings α) (s : Store α) : List (Warning α) :=
  match s.number? Property.landTurnRadius with
  | some radius =>
    if LimitedSetting.turnRadius.minimum ≤ radius then []
    else [.radiusIgnored radius settings.turnRadius]
  | none => []

end Settings

end LandingGuidance

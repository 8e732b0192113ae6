import LandingGuidance.Flight
import LandingGuidance.Settings.EntryReader
import LandingGuidance.Proofs.Order
import LandingGuidance.Proofs.Angles
import LandingGuidance.Proofs.DoubleOrder
import LandingGuidance.Proofs.CircleDistance
import LandingGuidance.Proofs.Runs
import LandingGuidance.Proofs.Latches
import LandingGuidance.Proofs.TargetAltitude
import LandingGuidance.Proofs.Modes
import LandingGuidance.Proofs.NestedActivations
import LandingGuidance.Proofs.DoubleValue
import LandingGuidance.Proofs.TurnRadius
import LandingGuidance.Proofs.Readings
import LandingGuidance.Proofs.Footprints
import LandingGuidance.Proofs.TwoRuns
import LandingGuidance.Proofs.FrozenApproach
import LandingGuidance.Proofs.WholeTurns
import LandingGuidance.Proofs.Rounding
import LandingGuidance.Proofs.TwoPlaces
import LandingGuidance.Proofs.RouteText
import LandingGuidance.Proofs.Lifecycle
import LandingGuidance.Proofs.PublishedApproach
import LandingGuidance.Proofs.DistanceSource
import LandingGuidance.Proofs.Settling
import LandingGuidance.Proofs.SettingsInStore
import LandingGuidance.Proofs.HandOver
import LandingGuidance.Proofs.Numerals
import LandingGuidance.Proofs.RouteGrammar
import LandingGuidance.Proofs.JsonScalars
import LandingGuidance.Proofs.JsonValues
import LandingGuidance.Proofs.MachineRounding
import LandingGuidance.Proofs.RoundingError
import LandingGuidance.Proofs.KeptDigits
import LandingGuidance.Proofs.PowersOfTen
import LandingGuidance.Proofs.JsonNumbers
import LandingGuidance.Proofs.EntryText
import LandingGuidance.Proofs.EntryLayout
import LandingGuidance.Proofs.PolarForms
import LandingGuidance.Proofs.TangentLeg
import LandingGuidance.Proofs.FlareStart
import LandingGuidance.Proofs.CircleBounds
import LandingGuidance.Proofs.FlareBlend
import LandingGuidance.Proofs.ExactOperations
import LandingGuidance.Proofs.BumplessFlare
import LandingGuidance.Proofs.FiniteNumbers
import LandingGuidance.Proofs.SavedState
import LandingGuidance.Proofs.ValidSettings
import LandingGuidance.Proofs.SettingsOverRuns
import LandingGuidance.Proofs.StationaryFlare
import LandingGuidance.Proofs.CourseBack
import LandingGuidance.Proofs.WrappedAngles
import LandingGuidance.Proofs.LastWrite

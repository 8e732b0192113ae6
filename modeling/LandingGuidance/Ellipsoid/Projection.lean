import LandingGuidance.Ellipsoid

/-!
# Projecting a point along an azimuth
-/

namespace LandingGuidance

/-- Where a geodesic of a given length ends. -/
structure Projection (α : Type) where
  position : Position α
  /-- The azimuth in degrees from the end back to the start. -/
  backAzimuth : α

namespace Ellipsoid

variable {α : Type} [TrigScalar α]

/-- Iterates the arc length `sigma` on the sphere, and gives the settled one with the cosine of
twice its middle that it was computed from. `rounds` more rounds may follow the first. -/
def settleSigma (series : Series α) (sigma₀ sigma₁ : α) : (rounds : Nat) → (sigma : α) → α × α
  | rounds, sigma =>
    let cosTwoSigmaM := TrigScalar.cos (2.0 * sigma₁ + sigma)
    let next :=
      sigma₀ + series.deltaSigma (TrigScalar.sin sigma) (TrigScalar.cos sigma) cosTwoSigmaM
    match rounds with
    | 0 => (next, cosTwoSigmaM)
    | rounds + 1 =>
      if Scalar.abs (next - sigma) < tolerance then (next, cosTwoSigmaM)
      else settleSigma series sigma₀ sigma₁ rounds next

end Ellipsoid

open Ellipsoid in
/-- The point `distance` meters from a position along `azimuth` degrees. -/
def Position.project {α : Type} [TrigScalar α] (start : Position α) (azimuth distance : α) :
    Projection α :=
  let alpha₁ := Angle.toRadians azimuth
  let sinAlpha₁ := TrigScalar.sin alpha₁
  let cosAlpha₁ := TrigScalar.cos alpha₁
  let u₁ := reducedLatitude start.latitude
  let sinU₁ := TrigScalar.sin u₁
  let cosU₁ := TrigScalar.cos u₁
  let sigma₁ := TrigScalar.atan2 (TrigScalar.tan u₁) cosAlpha₁
  let sinAlpha := cosU₁ * sinAlpha₁
  let cosSqAlpha := 1.0 - sinAlpha * sinAlpha
  let series := Series.ofCosSqAlpha cosSqAlpha
  let sigma₀ := distance / (semiMinorAxis * series.scale)
  let settled := settleSigma series sigma₀ sigma₁ (maxRounds - 1) sigma₀
  let sigma := settled.1
  let cosTwoSigmaM := settled.2
  let sinSigma := TrigScalar.sin sigma
  let cosSigma := TrigScalar.cos sigma
  let inward := sinU₁ * sinSigma - cosU₁ * cosSigma * cosAlpha₁
  let latitude :=
    TrigScalar.atan2 (sinU₁ * cosSigma + cosU₁ * sinSigma * cosAlpha₁)
      ((1.0 - flattening) * TrigScalar.sqrt (sinAlpha * sinAlpha + inward * inward))
  let lambda :=
    TrigScalar.atan2 (sinSigma * sinAlpha₁) (cosU₁ * cosSigma - sinU₁ * sinSigma * cosAlpha₁)
  let longitude :=
    lambda - longitudeExcess cosSqAlpha sinAlpha sigma sinSigma cosSigma cosTwoSigmaM
  let alpha₂ := TrigScalar.atan2 sinAlpha (-inward)
  { position :=
      { latitude := Angle.toDegrees latitude
        longitude := Angle.wrap180 (start.longitude + Angle.toDegrees longitude) }
    backAzimuth := Angle.wrap360 (Angle.toDegrees alpha₂ + 180.0) }

end LandingGuidance

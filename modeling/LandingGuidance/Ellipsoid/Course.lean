import LandingGuidance.Ellipsoid

/-!
# Course and distance between two points
-/

namespace LandingGuidance

/-- How to go from one position to another. -/
structure Course (α : Type) where
  /-- The initial course in degrees, in `[0, 360)`. -/
  initial : α
  /-- The course in degrees from the second position back to the first, in `[0, 360)`. -/
  reverse : α
  /-- The distance in meters along the ellipsoid. -/
  distance : α

namespace Ellipsoid

/-- Sine and cosine of a reduced latitude. -/
structure Parallel (α : Type) where
  sinU : α
  cosU : α

/-- The great circle between two parallels with the longitude difference `lambda` on the sphere. -/
structure Arc (α : Type) where
  sinLambda : α
  cosLambda : α
  sinSigma : α
  cosSigma : α
  sigma : α
  sinAlpha : α
  cosSqAlpha : α
  cosTwoSigmaM : α

variable {α : Type} [TrigScalar α]

def Parallel.ofLatitude (latitude : α) : Parallel α :=
  let u := reducedLatitude latitude
  { sinU := TrigScalar.sin u, cosU := TrigScalar.cos u }

/-- The arc over the longitude difference `lambda`, or nothing if it has no length. A geodesic along
the equator has no middle to speak of, and takes zero for its cosine. -/
def Arc.between (p q : Parallel α) (lambda : α) : Option (Arc α) :=
  let sinLambda := TrigScalar.sin lambda
  let cosLambda := TrigScalar.cos lambda
  let cross := p.cosU * q.sinU - p.sinU * q.cosU * cosLambda
  let across := q.cosU * sinLambda
  let sinSigma := TrigScalar.sqrt (across * across + cross * cross)
  -- Without length there is no course, and the quotients below would be undefined.
  if sinSigma == 0.0 then none
  else
    let cosSigma := p.sinU * q.sinU + p.cosU * q.cosU * cosLambda
    let sinAlpha := p.cosU * q.cosU * sinLambda / sinSigma
    let cosSqAlpha := 1.0 - sinAlpha * sinAlpha
    some
      { sinLambda, cosLambda, sinSigma, cosSigma
        sigma := TrigScalar.atan2 sinSigma cosSigma
        sinAlpha, cosSqAlpha
        cosTwoSigmaM :=
          if cosSqAlpha == 0.0 then 0.0 else cosSigma - 2.0 * p.sinU * q.sinU / cosSqAlpha }

/-- The longitude difference on the sphere that the arc asks for, where `longitude` is the one on
the ellipsoid. -/
def Arc.nextLambda (arc : Arc α) (longitude : α) : α :=
  longitude
    + longitudeExcess arc.cosSqAlpha arc.sinAlpha arc.sigma arc.sinSigma arc.cosSigma
      arc.cosTwoSigmaM

/-- Iterates the longitude difference on the sphere until it settles, and gives the last arc.
`rounds` more rounds may follow the first. -/
def settleArc (p q : Parallel α) (longitude : α) : (rounds : Nat) → (lambda : α) → Option (Arc α)
  | 0, lambda => Arc.between p q lambda
  | rounds + 1, lambda =>
    match Arc.between p q lambda with
    | none => none
    | some arc =>
      let next := arc.nextLambda longitude
      if Scalar.abs (next - lambda) < tolerance then some arc
      else settleArc p q longitude rounds next

/-- The length in meters of an arc. -/
def Arc.length (arc : Arc α) : α :=
  let series := Series.ofCosSqAlpha arc.cosSqAlpha
  semiMinorAxis * series.scale
    * (arc.sigma - series.deltaSigma arc.sinSigma arc.cosSigma arc.cosTwoSigmaM)

/-- The courses at both ends of an arc between `p` and `q`, and its length. -/
def Arc.course (p q : Parallel α) (arc : Arc α) : Course α :=
  let alpha₁ :=
    TrigScalar.atan2 (q.cosU * arc.sinLambda)
      (p.cosU * q.sinU - p.sinU * q.cosU * arc.cosLambda)
  let alpha₂ :=
    TrigScalar.atan2 (p.cosU * arc.sinLambda)
      (-p.sinU * q.cosU + p.cosU * q.sinU * arc.cosLambda)
  { initial := Angle.wrap360 (Angle.toDegrees alpha₁)
    reverse := Angle.wrap360 (Angle.toDegrees alpha₂ + 180.0)
    distance := arc.length }

end Ellipsoid

open Ellipsoid in
/-- Course and distance from `start` to `goal`. Coincident points have the course zero, and nearly
antipodal points, whose iteration does not settle, take the last round. -/
def Position.courseTo {α : Type} [TrigScalar α] (start goal : Position α) : Course α :=
  let p := Parallel.ofLatitude start.latitude
  let q := Parallel.ofLatitude goal.latitude
  let longitude := Angle.toRadians (goal.longitude - start.longitude)
  match settleArc p q longitude (maxRounds - 1) longitude with
  | none => { initial := 0.0, reverse := 0.0, distance := 0.0 }
  | some arc => arc.course p q

end LandingGuidance

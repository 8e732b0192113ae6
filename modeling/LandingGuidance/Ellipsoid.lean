import LandingGuidance.Angle

/-!
# The reference ellipsoid

Positions on the WGS84 ellipsoid, and the series that carry lengths and longitudes between the
ellipsoid and the sphere of reduced latitudes on which geodesics are great circles.
-/

namespace LandingGuidance

/-- A geodetic position in degrees. -/
structure Position (α : Type) where
  latitude : α
  longitude : α

namespace Ellipsoid

variable {α : Type} [TrigScalar α]

/-- The equatorial radius in meters. -/
def semiMajorAxis : α := 6378137.0

def flattening : α := 1.0 / 298.257223563

/-- The polar radius in meters. -/
def semiMinorAxis : α := semiMajorAxis * (1.0 - flattening)

/-- An iteration ends after this many rounds even if it has not settled. -/
def maxRounds : Nat := 200

/-- An iteration has settled when two rounds differ by less than this, in radians. -/
def tolerance : α := 1e-12

/-- The latitude, in radians, at which a point is drawn on the sphere. -/
def reducedLatitude (latitude : α) : α :=
  TrigScalar.atan ((1.0 - flattening) * TrigScalar.tan (Angle.toRadians latitude))

/-- The factor `scale` stretches arc length on the sphere, and `correction` is the size of the
periodic part. -/
structure Series (α : Type) where
  scale : α
  correction : α

/-- The series for a geodesic whose azimuth at the equator has the squared cosine `cosSqAlpha`. -/
def Series.ofCosSqAlpha (cosSqAlpha : α) : Series α :=
  let major : α := semiMajorAxis
  let minor : α := semiMinorAxis
  let uSq := cosSqAlpha * (major * major - minor * minor) / (minor * minor)
  { scale :=
      1.0 + uSq / 16384.0 * (4096.0 + uSq * (-768.0 + uSq * (320.0 - 175.0 * uSq)))
    correction := uSq / 1024.0 * (256.0 + uSq * (-128.0 + uSq * (74.0 - 47.0 * uSq))) }

/-- The periodic difference between an arc on the sphere and its scaled length. -/
def Series.deltaSigma (series : Series α) (sinSigma cosSigma cosTwoSigmaM : α) : α :=
  let b := series.correction
  let cosSqTwoSigmaM := cosTwoSigmaM * cosTwoSigmaM
  b * sinSigma
    * (cosTwoSigmaM
      + b / 4.0
        * (cosSigma * (-1.0 + 2.0 * cosSqTwoSigmaM)
          - b / 6.0 * cosTwoSigmaM * (-3.0 + 4.0 * sinSigma * sinSigma)
            * (-3.0 + 4.0 * cosSqTwoSigmaM)))

def longitudeFactor (cosSqAlpha : α) : α :=
  flattening / 16.0 * cosSqAlpha * (4.0 + flattening * (4.0 - 3.0 * cosSqAlpha))

/-- By how much a longitude difference on the sphere exceeds the one on the ellipsoid. -/
def longitudeExcess (cosSqAlpha sinAlpha sigma sinSigma cosSigma cosTwoSigmaM : α) : α :=
  let c := longitudeFactor cosSqAlpha
  (1.0 - c) * flattening * sinAlpha
    * (sigma
      + c * sinSigma
        * (cosTwoSigmaM + c * cosSigma * (-1.0 + 2.0 * cosTwoSigmaM * cosTwoSigmaM)))

end Ellipsoid

end LandingGuidance

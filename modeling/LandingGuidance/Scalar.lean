/-!
# Scalars

Guidance is computed over any type with the operations of this module: the running program takes
double precision numbers, and statements in exact arithmetic take the real numbers.

`Scalar` holds what needs only arithmetic and comparison. `TrigScalar` adds the functions of plane
and spherical geometry.
-/

namespace LandingGuidance

/-- Arithmetic, comparison and a remainder. A comparison with an undefined number is false. -/
class Scalar (α : Type) extends
    Add α, Sub α, Mul α, Div α, Neg α, LT α, LE α, BEq α, OfScientific α where
  decidableLT : DecidableLT α
  decidableLE : DecidableLE α
  /-- What is left of the first number after taking the second away a whole number of times, where
  that number is the quotient without its fraction part. It has the sign of the first number. -/
  remainder : α → α → α

/-- Scalars with the functions of plane and spherical geometry. Angles are in radians. -/
class TrigScalar (α : Type) extends Scalar α where
  pi : α
  sqrt : α → α
  sin : α → α
  cos : α → α
  tan : α → α
  atan : α → α
  /-- The angle of the point whose second coordinate comes first and whose first comes second. -/
  atan2 : α → α → α
  /-- The length of the hypotenuse over two legs. -/
  hypot : α → α → α

namespace Scalar

variable {α : Type} [Scalar α]

instance : DecidableLT α := Scalar.decidableLT

instance : DecidableLE α := Scalar.decidableLE

/-- An undefined number is the one that differs from itself. -/
def isUndefined (x : α) : Bool := !(x == x)

/-- The size of a number, without its sign. -/
def abs (x : α) : α := if x < 0.0 then -x else x

/-- The larger of two numbers; an undefined one gives way to the other. -/
def larger (x y : α) : α := if isUndefined x ∨ x < y then y else x

/-- The smaller of two numbers; an undefined one gives way to the other. -/
def smaller (x y : α) : α := if isUndefined x ∨ y < x then y else x

/-- The nearest number between `low` and `high`; an undefined number stays undefined. -/
def clamp (low high x : α) : α :=
  let raised := if x < low then low else x
  if high < raised then high else raised

end Scalar

end LandingGuidance

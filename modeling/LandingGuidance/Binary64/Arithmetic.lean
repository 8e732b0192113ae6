import LandingGuidance.Binary64
import LandingGuidance.Scalar

/-!
# Double precision numbers as scalars

Arithmetic, comparison and the elementary functions are those of the machine. The remainder and the
hypotenuse are computed on mantissas over a common power of two: the one is exact, and the other is
rounded once.
-/

namespace LandingGuidance

namespace Binary64

def undefinedFloat : Float := 0.0 / 0.0

/-- The exact remainder of two numbers after a division without fraction part. It has the sign of
the first, also where it is zero. -/
def remainder (x y : Float) : Float :=
  match ofFloat x, ofFloat y with
  | .finite negative m e, .finite _ n f =>
    if n = 0 then undefinedFloat
    else
      -- Over a common power of two both numbers are whole, and the rest is exact.
      let common := min e f
      let a := m * Nat.pow 2 (e - common).toNat
      let b := n * Nat.pow 2 (f - common).toNat
      ofScaled negative (a % b) common
  | .finite _ _ _, .infinite _ => x
  | _, _ => undefinedFloat

/-- The number nearest to the square root of `n * 4 ^ exponent`. -/
def nearestRoot (n : Nat) (exponent : Int) : Float :=
  let scaled := n * Nat.pow 4 64
  let root := scaled.sqrt
  if root * root = scaled then ofScaled false root (exponent - 64)
  else
    -- The root lies between two whole numbers that are longer than a mantissa, and their middle is
    -- rounded as it is.
    ofScaled false (2 * root + 1) (exponent - 65)

/-- The number nearest to the length of the hypotenuse over two legs. An infinite leg has an
infinite hypotenuse, whatever the other is; else an undefined leg has an undefined one. -/
def hypot (x y : Float) : Float :=
  match ofFloat x, ofFloat y with
  | .infinite _, _ => signed false infinityBits
  | _, .infinite _ => signed false infinityBits
  | .finite _ m e, .finite _ n f =>
    let common := min e f
    let a := m * Nat.pow 2 (e - common).toNat
    let b := n * Nat.pow 2 (f - common).toNat
    nearestRoot (a * a + b * b) common
  | _, _ => undefinedFloat

end Binary64

instance : TrigScalar Float where
  decidableLT := inferInstance
  decidableLE := inferInstance
  remainder := Binary64.remainder
  pi := 3.141592653589793
  sqrt := Float.sqrt
  sin := Float.sin
  cos := Float.cos
  tan := Float.tan
  atan := Float.atan
  atan2 := Float.atan2
  hypot := Binary64.hypot

end LandingGuidance

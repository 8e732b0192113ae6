import LandingGuidance.Binary64
import LandingGuidance.Decimal.Digits

/-!
# Decimals with two places

The exact value of a number is rounded to a whole number of hundredths, a half to the even one, and
written without an exponent.
-/

namespace LandingGuidance.Decimal

/-- The whole number of hundredths nearest to `mantissa * 2 ^ exponent`. -/
def hundredths (mantissa : Nat) (exponent : Int) : Nat :=
  Binary64.roundQuotient (100 * mantissa * Nat.pow 2 exponent.toNat) (Nat.pow 2 (-exponent).toNat)

/-- A number of hundredths with a point before its last two digits. -/
def pointed (n : Nat) : List Char :=
  digits (n / 100) ++ ['.', digitChar (n / 10 % 10), digitChar (n % 10)]

def twoPlaces (x : Float) : List Char :=
  match Binary64.ofFloat x with
  | .undefined => ['N', 'a', 'N']
  | .infinite negative => sign negative ++ ['i', 'n', 'f']
  | .finite negative mantissa exponent => sign negative ++ pointed (hundredths mantissa exponent)

end LandingGuidance.Decimal

namespace LandingGuidance

/-- Numbers that can be written with two decimal places. -/
class TwoPlaces (α : Type) where
  twoPlaces : α → List Char

instance : TwoPlaces Float := ⟨Decimal.twoPlaces⟩

end LandingGuidance

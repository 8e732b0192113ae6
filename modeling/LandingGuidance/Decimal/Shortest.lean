import LandingGuidance.Binary64
import LandingGuidance.Decimal.Digits

/-!
# The shortest decimal that reads back

A double precision number stands for all numbers nearer to it than to its neighbours. Among the
decimals in that interval `shortest` takes one with the fewest digits, of those the nearest to the
number itself, and of two equally near the one farther from zero. `plain` writes it without an
exponent, and whole numbers without a point.
-/

namespace LandingGuidance.Decimal

/-- How far the interval reaches below a number, in quarters of the last place of its mantissa. It
reaches half as far where the neighbour below has a finer last place. -/
def intervalBelow (mantissa : Nat) (exponent : Int) : Nat :=
  if mantissa = Nat.pow 2 52 ∧ Binary64.leastExponent < exponent then 1 else 2

/-- Whether `10 ^ place` is at most `mantissa * 2 ^ exponent`. -/
def reaches (mantissa : Nat) (exponent place : Int) : Bool :=
  Nat.pow 10 place.toNat * Nat.pow 2 (-exponent).toNat ≤
    mantissa * Nat.pow 2 exponent.toNat * Nat.pow 10 (-place).toNat

/-- The decimal exponent of the first digit of `mantissa * 2 ^ exponent`. The binary exponent tells
it to within one. -/
def firstPlace (mantissa : Nat) (exponent : Int) : Int :=
  let guess := (mantissa.log2 + exponent) * 30103 / 100000
  if reaches mantissa exponent (guess + 1) then guess + 1
  else if reaches mantissa exponent guess then guess
  else guess - 1

/-- The multiple of `10 ^ place` nearest to `mantissa * 2 ^ exponent` among those that read back,
divided by `10 ^ place`. A number halfway between two takes the larger. -/
def onGrid (mantissa : Nat) (exponent place : Int) : Option Nat :=
  let quarter := exponent - 2
  let unit := Nat.pow 2 quarter.toNat * Nat.pow 10 (-place).toNat
  let step := Nat.pow 10 place.toNat * Nat.pow 2 (-quarter).toNat
  let value := 4 * mantissa * unit
  let low := (4 * mantissa - intervalBelow mantissa exponent) * unit
  let high := (4 * mantissa + 2) * unit
  let inside (n : Nat) : Bool :=
    if mantissa % 2 = 0 then low ≤ n * step && n * step ≤ high
    else low < n * step && n * step < high
  let below := value / step
  match inside below, inside (below + 1) with
  | true, true => if 2 * (value - below * step) < step then some below else some (below + 1)
  | true, false => some below
  | false, true => some (below + 1)
  | false, false => none

/-- The shortest decimal that reads back as `mantissa * 2 ^ exponent`, as a whole number and a power
of ten. Seventeen digits are always enough. -/
def shortest (mantissa : Nat) (exponent : Int) : Nat × Int :=
  let first := firstPlace mantissa exponent
  let found := (List.range 17).findSome? fun (more : Nat) =>
    (onGrid mantissa exponent (first - more)).map fun n => (n, first - (more : Int))
  match found with
  | some (n, place) => if n % 10 = 0 then (n / 10, place + 1) else (n, place)
  | none => (0, 0)

/-- The number `n * 10 ^ place` without an exponent. -/
def positional (n : Nat) (place : Int) : List Char :=
  let whole := digits n
  if 0 ≤ place then whole ++ List.replicate place.toNat '0'
  else
    let places := (-place).toNat
    if places < whole.length then
      whole.take (whole.length - places) ++ '.' :: whole.drop (whole.length - places)
    else '0' :: '.' :: (List.replicate (places - whole.length) '0' ++ whole)

def plain (x : Float) : List Char :=
  match Binary64.ofFloat x with
  | .undefined => ['N', 'a', 'N']
  | .infinite negative => sign negative ++ ['i', 'n', 'f']
  | .finite negative mantissa exponent =>
    sign negative ++
      (if mantissa = 0 then ['0']
      else
        let decimal := shortest mantissa exponent
        positional decimal.1 decimal.2)

end LandingGuidance.Decimal

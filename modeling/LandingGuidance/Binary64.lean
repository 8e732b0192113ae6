/-!
# Double precision numbers, exactly

A double precision number is undefined, infinite, or a whole mantissa times a power of two.
`Binary64.ofFloat` takes a number apart, and `Binary64.nearest` and `Binary64.ofDecimal` give the
number nearest to a quotient and to a decimal. A tie goes to the even mantissa.
-/

namespace LandingGuidance

/-- What the bits of a double precision number stand for. -/
inductive Binary64 where
  | undefined
  | infinite (negative : Bool)
  /-- The number `mantissa * 2 ^ exponent`, with a sign that zero has too. -/
  | finite (negative : Bool) (mantissa : Nat) (exponent : Int)
  deriving DecidableEq

namespace Binary64

/-- The exponent of the smallest positive number, `2 ^ (-1074)`. -/
def leastExponent : Int := -1074

/-- Bits of infinity without its sign. -/
def infinityBits : Nat := 2047 * Nat.pow 2 52

/-- Takes apart the 64 bits of a number: a sign, eleven bits of exponent and 52 of fraction. -/
def ofBits (bits : Nat) : Binary64 :=
  let negative := decide (Nat.pow 2 63 ≤ bits)
  let exponent := bits / Nat.pow 2 52 % Nat.pow 2 11
  let fraction := bits % Nat.pow 2 52
  if exponent = 2047 then
    if fraction = 0 then .infinite negative else .undefined
  else if exponent = 0 then .finite negative fraction leastExponent
  else .finite negative (Nat.pow 2 52 + fraction) (leastExponent + (exponent - 1 : Nat))

def ofFloat (x : Float) : Binary64 := ofBits x.toBits.toNat

/-- The quotient of two whole numbers, rounded to the nearest whole number. A half goes to the even
neighbour. -/
def roundQuotient (numerator denominator : Nat) : Nat :=
  let quotient := numerator / denominator
  let rest := numerator % denominator
  if 2 * rest < denominator then quotient
  else if denominator < 2 * rest then quotient + 1
  else quotient + quotient % 2

/-- The exponent of the largest power of two that is not above the quotient of two positive
numbers. -/
def logQuotient (numerator denominator : Nat) : Int :=
  let guess : Int := numerator.log2 - denominator.log2
  if denominator * Nat.pow 2 guess.toNat ≤ numerator * Nat.pow 2 (-guess).toNat then guess
  else guess - 1

/-- The bits of the number nearest to a quotient. The mantissa has 53 bits, or fewer where the
exponent is the least one. -/
def nearestBits (numerator denominator : Nat) : Nat :=
  if numerator = 0 then 0
  else
    -- 53 bits of mantissa, unless that asks for a place below the last one there is.
    let exponent := max leastExponent (logQuotient numerator denominator - 52)
    let mantissa :=
      roundQuotient (numerator * Nat.pow 2 (-exponent).toNat)
        (denominator * Nat.pow 2 exponent.toNat)
    -- A mantissa that was rounded up to 54 bits carries into the exponent field, as it should.
    min infinityBits ((exponent - leastExponent).toNat * Nat.pow 2 52 + mantissa)

/-- A number from its bits without the sign, and its sign. -/
def signed (negative : Bool) (bits : Nat) : Float :=
  Float.ofBits (UInt64.ofNat (if negative then Nat.pow 2 63 + bits else bits))

/-- The number nearest to a quotient of whole numbers, with the given sign. What is too large for
a finite number is infinite. -/
def nearest (negative : Bool) (numerator denominator : Nat) : Float :=
  signed negative (nearestBits numerator denominator)

/-- The number nearest to `mantissa * 2 ^ exponent`, with the given sign. -/
def ofScaled (negative : Bool) (mantissa : Nat) (exponent : Int) : Float :=
  nearest negative (mantissa * Nat.pow 2 exponent.toNat) (Nat.pow 2 (-exponent).toNat)

/-- The number nearest to `digits * 10 ^ exponent`, with the given sign. Exponents far outside the
range of finite numbers are decided without the power. -/
def ofDecimal (negative : Bool) (digits : Nat) (exponent : Int) : Float :=
  if digits = 0 then signed negative 0
  else if 400 < exponent then signed negative infinityBits
  else if exponent * 3 + digits.log2 < -1100 then signed negative 0
  else nearest negative (digits * Nat.pow 10 exponent.toNat) (Nat.pow 10 (-exponent).toNat)

end Binary64

end LandingGuidance

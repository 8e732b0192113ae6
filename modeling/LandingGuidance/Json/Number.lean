import LandingGuidance.Binary64
import LandingGuidance.Decimal.Digits
import LandingGuidance.Json.Numeral

/-!
# Numbers of a configuration text

The digits of a numeral are kept as long as they fit 64 bits, and the places of the others are
counted. The whole number kept is rounded to double precision, and then multiplied or divided by a
power of ten, which rounds once more. So a long numeral, or one with a large exponent, need not
give the number nearest to it. A number that leaves the range of finite numbers is refused.
-/

namespace LandingGuidance.Json

/-- Puts digits behind a whole number as long as it stays below `2 ^ 64`. The digits from the first
that does not fit are left over. -/
def keepDigits (n : Nat) : List Char → Nat × List Char
  | [] => (n, [])
  | c :: cs =>
    let next := n * 10 + Decimal.digitValue c
    if next < Nat.pow 2 64 then keepDigits next cs else (n, c :: cs)

/-- The whole number kept of a numeral, and the power of ten that it is multiplied by. A whole digit
left over still makes the number ten times as large, and a digit of the fraction counts only if it
is kept. -/
def Numeral.kept (n : Numeral) : Nat × Int :=
  let (whole, wholeLeft) := keepDigits 0 n.whole
  let (significand, fractionLeft) := keepDigits whole n.fraction
  (significand, n.exponent + wholeLeft.length + fractionLeft.length - n.fraction.length)

/-- The exponent of the largest power of ten that is a finite number. -/
def largestPower : Nat := 308

/-- The number nearest to a power of ten. -/
def powerOfTen (places : Nat) : Float := Binary64.nearest false (Nat.pow 10 places) 1

/-- Divides by a power of ten, in steps where the power is too large for one. -/
def scaleDown (x : Float) (places : Nat) : Float :=
  if x == 0.0 then x
  else if places ≤ largestPower then x / powerOfTen places
  else scaleDown (x / powerOfTen largestPower) (places - largestPower)
termination_by places
decreasing_by simp only [largestPower] at *; omega

/-- Multiplies by a power of ten. Nothing comes of a product that is too large, or of a power that
is, unless the number is zero. -/
def scaleUp (x : Float) (places : Nat) : Option Float :=
  if x == 0.0 then some x
  else if places ≤ largestPower then
    let product := x * powerOfTen places
    if product.isInf then none else some product
  else none

/-- The number that a numeral stands for, if it is not too large. -/
def Numeral.value (n : Numeral) : Option Float :=
  let (significand, exponent) := n.kept
  let start := Binary64.nearest false significand 1
  let size :=
    if exponent < 0 then some (scaleDown start exponent.natAbs)
    else scaleUp start exponent.toNat
  size.map fun x => if n.negative then -x else x

def number (cs : List Char) : Reading Float :=
  match numeral cs with
  | .error fault => .error fault
  | .ok (n, rest) =>
    match n.value with
    | none => .error .malformed
    | some x => .ok (x, rest)

theorem length_lt_of_number {cs rest : List Char} {x : Float} (h : number cs = .ok (x, rest)) :
    rest.length < cs.length := by
  unfold number at h
  split at h
  · simp at h
  · next hn =>
    split at h
    · simp at h
    · simp only [Except.ok.injEq, Prod.mk.injEq] at h
      exact h.2 ▸ length_lt_of_numeral hn

end LandingGuidance.Json

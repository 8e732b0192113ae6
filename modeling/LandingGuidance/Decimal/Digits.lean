/-!
# Decimal digits

Whole numbers as lists of the digits `0` to `9`, most significant digit first.
-/

namespace LandingGuidance.Decimal

/-- The digit that stands for a number below ten. -/
def digitChar (d : Nat) : Char := Char.ofNat (48 + d)

/-- The number that a digit stands for. -/
def digitValue (c : Char) : Nat := c.toNat - 48

/-- The digits of a whole number, without leading zeros. -/
def digits (n : Nat) : List Char :=
  if n < 10 then [digitChar n] else digits (n / 10) ++ [digitChar (n % 10)]

/-- The whole number that a list of digits stands for. -/
def ofDigits (cs : List Char) : Nat := cs.foldl (fun n c => n * 10 + digitValue c) 0

/-- The mark before a number below zero. Negative zero has it too. -/
def sign (negative : Bool) : List Char := if negative then ['-'] else []

end LandingGuidance.Decimal

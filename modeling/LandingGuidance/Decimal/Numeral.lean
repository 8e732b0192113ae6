import LandingGuidance.Binary64
import LandingGuidance.Decimal.Digits

/-!
# Reading numerals

A numeral for a number is an optional sign and then digits with an optional point among them and an
optional exponent, or the word `inf`, `infinity` or `nan` in any letter case. It stands for the
nearest double precision number. A numeral for a byte is an optional plus sign and digits. A reader
takes the whole text or nothing.
-/

namespace LandingGuidance.Decimal

/-- A decimal `digits * 10 ^ exponent` with a sign. -/
structure Numeral where
  negative : Bool
  digits : Nat
  exponent : Int

def Numeral.toFloat (n : Numeral) : Float := Binary64.ofDecimal n.negative n.digits n.exponent

/-- Splits a sign off. -/
def takeSign : List Char → Bool × List Char
  | '-' :: rest => (true, rest)
  | '+' :: rest => (false, rest)
  | cs => (false, cs)

/-- A text that consists of digits, and has one at least. -/
def readDigits (cs : List Char) : Option Nat :=
  if cs ≠ [] ∧ cs.all Char.isDigit then some (ofDigits cs) else none

/-- What follows the digits of a number: nothing, or an exponent. -/
def readExponent : List Char → Option Int
  | [] => some 0
  | c :: cs =>
    if c = 'e' ∨ c = 'E' then
      let (negative, rest) := takeSign cs
      (readDigits rest).map fun n => if negative then -(n : Int) else n
    else none

/-- The digits after a point, and the rest. -/
def takeFraction : List Char → List Char × List Char
  | '.' :: cs => (cs.takeWhile Char.isDigit, cs.dropWhile Char.isDigit)
  | cs => ([], cs)

/-- A numeral without its sign. -/
def readUnsigned (negative : Bool) (cs : List Char) : Option Numeral :=
  let whole := cs.takeWhile Char.isDigit
  let (fraction, rest) := takeFraction (cs.dropWhile Char.isDigit)
  if whole ++ fraction = [] then none
  else (readExponent rest).map fun exponent =>
    { negative, digits := ofDigits (whole ++ fraction), exponent := exponent - fraction.length }

/-- The words for what is no finite number. -/
def readWord (negative : Bool) (cs : List Char) : Option Float :=
  let word := cs.map Char.toLower
  if word = ['i', 'n', 'f'] ∨ word = ['i', 'n', 'f', 'i', 'n', 'i', 't', 'y'] then
    some (Binary64.signed negative Binary64.infinityBits)
  else if word = ['n', 'a', 'n'] then some (0.0 / 0.0)
  else none

def readFloat (cs : List Char) : Option Float :=
  let (negative, rest) := takeSign cs
  match readUnsigned negative rest with
  | some numeral => some numeral.toFloat
  -- No word starts like a number, so the order of the two does not matter.
  | none => readWord negative rest

/-- A number from 0 to 255. -/
def readByte (cs : List Char) : Option UInt8 :=
  let unsigned := match cs with
    | '+' :: rest => rest
    | _ => cs
  match readDigits unsigned with
  | some n => if n < 256 then some (UInt8.ofNat n) else none
  | none => none

end LandingGuidance.Decimal

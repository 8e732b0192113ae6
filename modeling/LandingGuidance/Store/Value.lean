import LandingGuidance.Scalar

/-!
# Values

A value of the shared state is a number, a text or a flag. It can be read as each of the three:
numbers and flags read as each other, a text as a number is zero, and what is no text reads as the
empty text. An absent value reads as zero, the empty text and false.
-/

namespace LandingGuidance

/-- A value of the shared state. -/
inductive Value (α : Type) where
  | number (x : α)
  | text (s : String)
  | flag (b : Bool)

namespace Value

variable {α : Type} [Scalar α]

def toNumber : Option (Value α) → α
  | some (.number x) => x
  | some (.flag true) => 1.0
  | _ => 0.0

def toText : Option (Value α) → String
  | some (.text s) => s
  | _ => ""

/-- Every number but zero is true, an undefined one too. -/
def toFlag : Option (Value α) → Bool
  | some (.flag b) => b
  | some (.number x) => !(x == 0.0)
  | _ => false

/-- Values are compared as what they hold, so an undefined number differs from itself and the two
zeros agree. -/
instance : BEq (Value α) where
  beq
    | .number x, .number y => x == y
    | .text s, .text t => s == t
    | .flag a, .flag b => a == b
    | _, _ => false

end Value

end LandingGuidance

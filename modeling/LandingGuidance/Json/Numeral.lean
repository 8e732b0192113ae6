import LandingGuidance.Decimal.Numeral
import LandingGuidance.Json.Token

/-!
# Numerals of a configuration text

A number is written as whole digits without leading zeros, with an optional minus sign before them
and an optional fraction and exponent behind them.
-/

namespace LandingGuidance.Json

/-- A number as it is written: its digits before and after the point, and its exponent. -/
structure Numeral where
  negative : Bool
  whole : List Char
  fraction : List Char
  exponent : Int
  deriving DecidableEq

/-- At least one digit. -/
def someDigits (cs : List Char) : Reading (List Char) :=
  match cs.takeWhile Char.isDigit with
  | [] => .error (if cs = [] then .truncated else .malformed)
  | c :: ds => .ok (c :: ds, cs.dropWhile Char.isDigit)

/-- The digits before a point: a single zero, or digits that start with another one. -/
def wholeDigits : List Char → Reading (List Char)
  | '0' :: cs => if cs.takeWhile Char.isDigit = [] then .ok (['0'], cs) else .error .malformed
  | cs => someDigits cs

/-- The digits after a point, if there is one. -/
def fractionDigits : List Char → Reading (List Char)
  | '.' :: cs => someDigits cs
  | cs => .ok ([], cs)

/-- The exponent, if there is one. -/
def exponent : List Char → Reading Int
  | [] => .ok (0, [])
  | c :: cs =>
    if c = 'e' ∨ c = 'E' then
      match someDigits (Decimal.takeSign cs).2 with
      | .error fault => .error fault
      | .ok (ds, rest) =>
        let size : Int := Decimal.ofDigits ds
        .ok (if (Decimal.takeSign cs).1 then -size else size, rest)
    else .ok (0, c :: cs)

/-- Splits a minus sign off. -/
def takeMinus : List Char → Bool × List Char
  | '-' :: rest => (true, rest)
  | cs => (false, cs)

def numeral (cs : List Char) : Reading Numeral :=
  match wholeDigits (takeMinus cs).2 with
  | .error fault => .error fault
  | .ok (whole, rest) =>
    match fractionDigits rest with
    | .error fault => .error fault
    | .ok (fraction, rest) =>
      match exponent rest with
      | .error fault => .error fault
      | .ok (exponent, rest) =>
        .ok ({ negative := (takeMinus cs).1, whole, fraction, exponent }, rest)

/-! ## Lengths -/

theorem length_lt_of_someDigits {cs ds rest : List Char} (h : someDigits cs = .ok (ds, rest)) :
    rest.length < cs.length := by
  unfold someDigits at h
  split at h
  · simp at h
  · next c ds' hds =>
    simp only [Except.ok.injEq, Prod.mk.injEq] at h
    have := congrArg List.length (List.takeWhile_append_dropWhile (p := Char.isDigit) (l := cs))
    rw [hds, h.2] at this
    simp only [List.length_append, List.length_cons] at this
    omega

theorem length_lt_of_wholeDigits {cs ds rest : List Char} (h : wholeDigits cs = .ok (ds, rest)) :
    rest.length < cs.length := by
  unfold wholeDigits at h
  split at h
  · split at h
    · simp only [Except.ok.injEq, Prod.mk.injEq] at h
      simp [← h.2]
    · simp at h
  · exact length_lt_of_someDigits h

theorem length_le_of_fractionDigits {cs ds rest : List Char}
    (h : fractionDigits cs = .ok (ds, rest)) : rest.length ≤ cs.length := by
  unfold fractionDigits at h
  split at h
  · exact Nat.le_of_lt (Nat.lt_succ_of_lt (length_lt_of_someDigits h))
  · simp only [Except.ok.injEq, Prod.mk.injEq] at h
    simp [h.2]

theorem length_takeSign_le (cs : List Char) : (Decimal.takeSign cs).2.length ≤ cs.length := by
  unfold Decimal.takeSign
  split <;> simp

theorem length_takeMinus_le (cs : List Char) : (takeMinus cs).2.length ≤ cs.length := by
  unfold takeMinus
  split <;> simp

theorem length_le_of_exponent {cs rest : List Char} {e : Int} (h : exponent cs = .ok (e, rest)) :
    rest.length ≤ cs.length := by
  unfold exponent at h
  split at h
  · simp_all
  · next c cs' =>
    split at h
    · split at h
      · simp at h
      · next hds =>
        simp only [Except.ok.injEq, Prod.mk.injEq] at h
        have h₁ := length_lt_of_someDigits hds
        have h₂ := length_takeSign_le cs'
        rw [h.2] at h₁
        simp only [List.length_cons]
        omega
    · simp only [Except.ok.injEq, Prod.mk.injEq] at h
      simp [← h.2]

theorem length_lt_of_numeral {cs rest : List Char} {n : Numeral}
    (h : numeral cs = .ok (n, rest)) : rest.length < cs.length := by
  unfold numeral at h
  split at h
  · simp at h
  · next hw =>
    split at h
    · simp at h
    · next hf =>
      split at h
      · simp at h
      · next he =>
        simp only [Except.ok.injEq, Prod.mk.injEq] at h
        have h₁ := length_lt_of_wholeDigits hw
        have h₂ := length_le_of_fractionDigits hf
        have h₃ := length_le_of_exponent he
        have h₄ := length_takeMinus_le cs
        rw [h.2] at h₃
        omega

end LandingGuidance.Json

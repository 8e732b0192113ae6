import LandingGuidance.Guidance.Altitude

/-!
# Comparing scalars

`OrderedScalar` says what a comparison of scalars can be trusted for: defined numbers are in a total
preorder, and an undefined number is neither below nor above anything. From this follow the bounds
of `Scalar.smaller` and `Scalar.larger`, and those of the height that guidance commands next.
-/

namespace LandingGuidance

namespace Scalar

variable {α : Type} [Scalar α]

/-- A number that equals itself. -/
def Defined (x : α) : Prop := isUndefined x = false

/-- The smallest of a number and those of a list. -/
def lowest (first : α) (rest : List α) : α := rest.foldl smaller first

end Scalar

open Scalar

/-- Scalars whose defined numbers can be compared, and whose undefined numbers cannot. -/
class OrderedScalar (α : Type) [Scalar α] : Prop where
  defined_left {x y : α} : x ≤ y → Defined x
  defined_right {x y : α} : x ≤ y → Defined y
  le_total {x y : α} : Defined x → Defined y → x ≤ y ∨ y ≤ x
  le_trans {x y z : α} : x ≤ y → y ≤ z → x ≤ z
  lt_iff_le_not_ge {x y : α} : x < y ↔ x ≤ y ∧ ¬y ≤ x

namespace OrderedScalar

variable {α : Type} [Scalar α] [OrderedScalar α] {x y z : α}

theorem le_refl (hx : Defined x) : x ≤ x := by
  rcases le_total hx hx with h | h <;> exact h

theorem le_of_lt (h : x < y) : x ≤ y := (lt_iff_le_not_ge.mp h).1

theorem le_of_not_lt (hx : Defined x) (hy : Defined y) (h : ¬y < x) : x ≤ y := by
  rcases le_total hx hy with below | above
  · exact below
  · by_cases below : x ≤ y
    · exact below
    · exact absurd (lt_iff_le_not_ge.mpr ⟨above, below⟩) h

/-! ### The smaller and the larger of two numbers -/

theorem smaller_le_right (hy : Defined y) : smaller x y ≤ y := by
  simp only [smaller]
  split
  · exact le_refl hy
  next no =>
    -- The first number is kept, so it is defined and the second is not below it.
    rw [not_or] at no
    exact le_of_not_lt (by simpa [Defined] using no.1) hy no.2

theorem smaller_le_left (hx : Defined x) : smaller x y ≤ x := by
  simp only [smaller]
  split
  next either =>
    rcases either with undefined | less
    · rw [hx] at undefined
      cases undefined
    · exact le_of_lt less
  · exact le_refl hx

omit [OrderedScalar α] in
theorem le_smaller (hx : z ≤ x) (hy : z ≤ y) : z ≤ smaller x y := by
  simp only [smaller]
  split
  · exact hy
  · exact hx

theorem smaller_mono_left (hx : x ≤ z) (hy : Defined y) : smaller x y ≤ smaller z y := by
  apply le_smaller
  · exact le_trans (smaller_le_left (defined_left hx)) hx
  · exact smaller_le_right hy

theorem le_larger_right (hy : Defined y) : y ≤ larger x y := by
  simp only [larger]
  split
  · exact le_refl hy
  next no =>
    rw [not_or] at no
    exact le_of_not_lt hy (by simpa [Defined] using no.1) no.2

/-! ### The smallest number of a list -/

omit [OrderedScalar α] in
theorem lowest_append_singleton (first : α) (rest : List α) (last : α) :
    lowest first (rest ++ [last]) = smaller (lowest first rest) last := by
  simp [lowest]

omit [OrderedScalar α] in
/-- What is at most each of some numbers is at most the smallest of them. -/
theorem le_lowest {first : α} {rest : List α} (hfirst : z ≤ first) (hrest : ∀ x ∈ rest, z ≤ x) :
    z ≤ lowest first rest := by
  -- The smallest so far takes the place of the first number.
  induction rest generalizing first with
  | nil => exact hfirst
  | cons next rest ih =>
    simp only [List.forall_mem_cons] at hrest
    exact ih (le_smaller hfirst hrest.1) hrest.2

/-! ### The height to command next -/

variable {target safe current : α} {captured : Bool}

/-- Whatever the target and the safe height are, the height commanded does not climb. -/
theorem limitTarget_le (hcurrent : Defined current) :
    limitTarget target safe current captured ≤ current :=
  smaller_le_right hcurrent

/-- Until the glideslope is captured, the height is cut off at the safe height and not below. -/
theorem smaller_le_limitTarget (hcurrent : Defined current) (hsafe : Defined safe) :
    smaller current safe ≤ limitTarget target safe current false := by
  apply le_smaller
  · exact le_trans (smaller_le_right hsafe) (le_larger_right hsafe)
  · exact smaller_le_left hcurrent

end OrderedScalar

end LandingGuidance

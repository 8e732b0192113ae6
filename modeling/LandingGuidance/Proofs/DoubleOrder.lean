import Mathlib
import LandingGuidance.Binary64.Arithmetic
import LandingGuidance.Proofs.Order

/-!
# The order of double precision numbers

The comparisons of the machine are those of a standing: infinities are outermost, numbers of one
sign stand by exponent and then by mantissa, and the two zeros stand together. An undefined number
has no standing, so double precision numbers are `OrderedScalar`.
-/

namespace LandingGuidance.Binary64

open Float.Model Float.Model.UnpackedFloat

/-- Where a defined number stands among the others: sign and size class, exponent, mantissa. -/
def standing : UnpackedFloat → Option (Int ×ₗ Int ×ₗ Int)
  | .notANumber => none
  | .infinity .negative => some (toLex (-2, toLex (0, 0)))
  | .finite .negative m e _ => some (toLex (-1, toLex (-e, -m)))
  | .zero _ => some (toLex (0, toLex (0, 0)))
  | .finite .positive m e _ => some (toLex (1, toLex (e, m)))
  | .infinity .positive => some (toLex (2, toLex (0, 0)))

private theorem then_eq_lt {e f : Int} {m n : Nat} :
    (compare e f).then (compare m n) = .lt ↔ e < f ∨ e = f ∧ m < n := by
  rw [Ordering.then_eq_lt, Int.compare_eq_lt, Int.compare_eq_eq, Nat.compare_eq_lt]

private theorem then_eq_gt {e f : Int} {m n : Nat} :
    (compare e f).then (compare m n) = .gt ↔ f < e ∨ e = f ∧ n < m := by
  rw [Ordering.then_eq_gt, Int.compare_eq_gt, Int.compare_eq_eq, Nat.compare_eq_gt]

private theorem then_isLE {e f : Int} {m n : Nat} :
    ((compare e f).then (compare m n)).isLE = true ↔ e < f ∨ e = f ∧ m ≤ n := by
  rw [Ordering.isLE_iff_ne_gt, then_eq_gt]
  omega

private theorem then_isGE {e f : Int} {m n : Nat} :
    ((compare e f).then (compare m n)).isGE = true ↔ f < e ∨ e = f ∧ n ≤ m := by
  rw [Ordering.isGE_iff_ne_lt, then_eq_lt]
  omega

/-- One number is at most another if both have a standing and the one stands no higher. -/
theorem unpacked_le_iff (a b : UnpackedFloat) :
    a.le b = true ↔ ∃ k l, standing a = some k ∧ standing b = some l ∧ k ≤ l := by
  -- One case for each pair of constructors, with the signs of infinite and finite numbers apart.
  rcases a with (_ | _) | _ | _ | ⟨_ | _, m, e, hm⟩ <;>
    rcases b with (_ | _) | _ | _ | ⟨_ | _, n, f, hn⟩ <;>
    simp [UnpackedFloat.le, UnpackedFloat.compare, standing, Prod.Lex.toLex_le_toLex, then_isLE,
      then_isGE] <;> rfl

/-- One number is below another if both have a standing and the one stands lower. -/
theorem unpacked_lt_iff (a b : UnpackedFloat) :
    a.lt b = true ↔ ∃ k l, standing a = some k ∧ standing b = some l ∧ k < l := by
  rcases a with (_ | _) | _ | _ | ⟨_ | _, m, e, hm⟩ <;>
    rcases b with (_ | _) | _ | _ | ⟨_ | _, n, f, hn⟩ <;>
    simp [UnpackedFloat.lt, UnpackedFloat.compare, standing, Prod.Lex.toLex_lt_toLex, then_eq_lt,
      then_eq_gt]
  rfl

/-- Two numbers are equal if both have a standing and it is the same. -/
theorem unpacked_beq_iff (a b : UnpackedFloat) :
    a.beq b = true ↔ ∃ k, standing a = some k ∧ standing b = some k := by
  rcases a with (_ | _) | _ | _ | ⟨_ | _, m, e, hm⟩ <;>
    rcases b with (_ | _) | _ | _ | ⟨_ | _, n, f, hn⟩ <;>
    simp [UnpackedFloat.beq, UnpackedFloat.compare, standing]
  · rfl
  · rfl
  · exact and_congr eq_comm eq_comm
  · exact and_congr eq_comm eq_comm

/-- The standing of a number of the machine. -/
def rank (x : Float) : Option (Int ×ₗ Int ×ₗ Int) := standing x.toModel.unpack

theorem beq_iff {x y : Float} : (x == y) = true ↔ ∃ k, rank x = some k ∧ rank y = some k :=
  unpacked_beq_iff x.toModel.unpack y.toModel.unpack

theorem defined_iff {x : Float} : Scalar.Defined x ↔ ∃ k, rank x = some k := by
  rw [Scalar.Defined, Scalar.isUndefined, Bool.not_eq_false', beq_iff]
  simp only [and_self]

theorem le_iff {x y : Float} : x ≤ y ↔ ∃ k l, rank x = some k ∧ rank y = some l ∧ k ≤ l := by
  have model : x ≤ y ↔ x.toModel.unpack.le y.toModel.unpack = true := decide_eq_true_iff
  exact model.trans (unpacked_le_iff _ _)

theorem lt_iff {x y : Float} : x < y ↔ ∃ k l, rank x = some k ∧ rank y = some l ∧ k < l := by
  have model : x < y ↔ x.toModel.unpack.lt y.toModel.unpack = true := decide_eq_true_iff
  exact model.trans (unpacked_lt_iff _ _)

theorem le_of_beq {x y : Float} (equal : (x == y) = true) : x ≤ y := by
  obtain ⟨k, hx, hy⟩ := beq_iff.mp equal
  exact le_iff.mpr ⟨k, k, hx, hy, le_refl k⟩

instance : OrderedScalar Float where
  defined_left h := by
    obtain ⟨k, _, hk, _, _⟩ := le_iff.mp h
    exact defined_iff.mpr ⟨k, hk⟩
  defined_right h := by
    obtain ⟨_, l, _, hl, _⟩ := le_iff.mp h
    exact defined_iff.mpr ⟨l, hl⟩
  le_total hx hy := by
    obtain ⟨k, hk⟩ := defined_iff.mp hx
    obtain ⟨l, hl⟩ := defined_iff.mp hy
    rcases le_total k l with h | h
    · exact Or.inl (le_iff.mpr ⟨k, l, hk, hl, h⟩)
    · exact Or.inr (le_iff.mpr ⟨l, k, hl, hk, h⟩)
  le_trans hxy hyz := by
    obtain ⟨k, l, hk, hl, below⟩ := le_iff.mp hxy
    obtain ⟨l', m, hl', hm, above⟩ := le_iff.mp hyz
    rw [hl, Option.some.injEq] at hl'
    subst hl'
    exact le_iff.mpr ⟨k, m, hk, hm, below.trans above⟩
  lt_iff_le_not_ge := by
    intro x y
    constructor
    · intro h
      obtain ⟨k, l, hk, hl, less⟩ := lt_iff.mp h
      refine ⟨le_iff.mpr ⟨k, l, hk, hl, less.le⟩, fun above => ?_⟩
      obtain ⟨l', k', hl', hk', le⟩ := le_iff.mp above
      rw [hk, Option.some.injEq] at hk'
      rw [hl, Option.some.injEq] at hl'
      subst hk' hl'
      exact absurd less le.not_gt
    · rintro ⟨below, not_above⟩
      obtain ⟨k, l, hk, hl, le⟩ := le_iff.mp below
      refine lt_iff.mpr ⟨k, l, hk, hl, lt_of_le_not_ge le fun ge => ?_⟩
      exact not_above (le_iff.mpr ⟨l, k, hl, hk, ge⟩)

end LandingGuidance.Binary64

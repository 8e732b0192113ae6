import Mathlib
import LandingGuidance.Proofs.KeptDigits
import LandingGuidance.Proofs.PowersOfTen

/-!
# What numerals are read as

A numeral is read with a few roundings, so a long one, or one with a large exponent, may miss the
number nearest to it, and one next to the largest finite number may be refused. A numeral that is
smaller than that by one part in `2 ^ 51` is read, and its value is off by one part in `2 ^ 50` at
most. A short numeral is read as the number nearest to it.
-/

namespace LandingGuidance.Json

open Binary64

/-! ### Values -/

theorem NumeralText.isDigit {cs : List Char} {n : Numeral} (text : NumeralText cs n) :
    (∀ c ∈ n.whole, c.isDigit = true) ∧ ∀ c ∈ n.fraction, c.isDigit = true := by
  cases text with
  | mk minus whole part power =>
    refine ⟨whole.isRun.2, ?_⟩
    cases part with
    | absent => simp
    | present run => exact run.2

/-- The value of a numeral without its sign. -/
def Numeral.size (n : Numeral) : Option Float :=
  if n.kept.2 < 0 then some (scaleDown (nearest false n.kept.1 1) n.kept.2.natAbs)
  else scaleUp (nearest false n.kept.1 1) n.kept.2.toNat

theorem value_eq_map_size (n : Numeral) :
    n.value = n.size.map fun x => if n.negative then -x else x :=
  rfl

theorem exists_size {n : Numeral} (hw : ∀ c ∈ n.whole, c.isDigit = true)
    (hf : ∀ c ∈ n.fraction, c.isDigit = true)
    (small : n.magnitude ≤ largest * (1 - 1 / 2 ^ 51)) :
    ∃ x z, n.size = some x ∧ HasValue x z ∧
      |z - n.magnitude| ≤ n.magnitude / 2 ^ 50 + smallest := by
  have kept := abs_kept_sub_le hw hf
  obtain ⟨below, above⟩ := abs_le.mp kept
  have nonneg : 0 ≤ n.magnitude := by
    rw [Numeral.magnitude]
    positivity
  have scaled : ∃ x z, n.size = some x ∧ HasValue x z ∧ |z - n.kept.1 * 10 ^ n.kept.2| ≤
      n.kept.1 * 10 ^ n.kept.2 * (7 / 2 ^ 53) + smallest := by
    rw [Numeral.size]
    split
    next negative =>
      obtain ⟨places, same⟩ := Int.eq_negSucc_of_lt_zero negative
      obtain ⟨z, value, near⟩ := exists_scaleDown (kept_lt n) (Nat.le_add_left 1 places)
      rw [same, Int.natAbs_negSucc, zpow_negSucc, ← div_eq_mul_inv]
      exact ⟨_, z, rfl, value, near⟩
    next nonneg =>
      obtain ⟨places, same⟩ := Int.eq_ofNat_of_zero_le (not_lt.mp nonneg)
      rw [same, zpow_natCast] at above ⊢
      obtain ⟨x, z, size, value, near⟩ := @exists_scaleUp n.kept.1 places (by linarith)
      have part : (0 : ℚ) ≤ n.kept.1 * 10 ^ places := by positivity
      exact ⟨x, z, size, value, by linarith [smallest_pos]⟩
  obtain ⟨x, z, size, value, near⟩ := scaled
  refine ⟨x, z, size, value, ?_⟩
  calc |z - n.magnitude| ≤ |z - n.kept.1 * 10 ^ n.kept.2| +
        |(n.kept.1 * 10 ^ n.kept.2 : ℚ) - n.magnitude| := abs_sub_le _ _ _
    _ ≤ n.magnitude / 2 ^ 50 + smallest := by linarith

/-- A numeral that is not next to the largest finite number has a value, which is off by one part in
`2 ^ 50` and the smallest positive number at most. -/
theorem exists_value {cs : List Char} {n : Numeral} (text : NumeralText cs n)
    (small : n.magnitude ≤ largest * (1 - 1 / 2 ^ 51)) :
    ∃ x q, n.value = some x ∧ value? x = some q ∧
      |q - n.exact| ≤ n.magnitude / 2 ^ 50 + smallest := by
  obtain ⟨x, z, size, value, near⟩ := exists_size text.isDigit.1 text.isDigit.2 small
  rw [value_eq_map_size, size, Numeral.exact]
  cases n.negative with
  | false => exact ⟨x, z, rfl, value.value?_eq, near⟩
  | true =>
    refine ⟨-x, -z, rfl, value.value?_neg, ?_⟩
    rw [if_pos rfl, neg_sub_neg, abs_sub_comm]
    exact near

/-! ### Short numerals -/

theorem ofDecimal_of_short (negative : Bool) {digits : Nat} {scale : Int} (positive : 0 < digits)
    (range : scale.natAbs ≤ 22) :
    ofDecimal negative digits scale =
      nearest negative (digits * Nat.pow 10 scale.toNat) (Nat.pow 10 (-scale).toNat) := by
  rw [ofDecimal, if_neg positive.ne', if_neg (by omega), if_neg (by omega)]

theorem hasValue_short {digits : Nat} {scale : Int} (short : digits < 2 ^ 53)
    (range : scale.natAbs ≤ 22) :
    ∃ q, HasValue
      (nearest false (digits * Nat.pow 10 scale.toNat) (Nat.pow 10 (-scale).toNat)) q := by
  have denominator : 0 < Nat.pow 10 (-scale).toNat := Nat.pow_pos (by norm_num)
  have numerator : digits * Nat.pow 10 scale.toNat ≤ 2 ^ 53 * Nat.pow 10 22 :=
    Nat.mul_le_mul short.le (Nat.pow_le_pow_right (by norm_num) (by omega))
  have bounded : ((2 ^ 53 : ℕ) * 10 ^ ((22 : ℕ) : ℤ) : ℚ) ≤ largest :=
    le_largest (by decide +kernel)
  have small : ((digits * Nat.pow 10 scale.toNat : ℕ) : ℚ) / (Nat.pow 10 (-scale).toNat : ℕ) ≤
      largest := by
    refine (div_le_self (Nat.cast_nonneg _) (by exact_mod_cast denominator)).trans ?_
    refine le_trans ?_ bounded
    exact_mod_cast numerator
  obtain ⟨q, value, _⟩ := hasValue_nearest _ denominator small
  exact ⟨q, value⟩

theorem size_of_short {n : Numeral} (hw : ∀ c ∈ n.whole, c.isDigit = true)
    (hf : ∀ c ∈ n.fraction, c.isDigit = true) (short : n.digits < 2 ^ 53)
    (range : n.scale.natAbs ≤ 22) : n.size = some (ofDecimal false n.digits n.scale) := by
  rw [Numeral.size, kept_of_short hw hf short]
  dsimp only
  generalize n.digits = digits at short
  generalize n.scale = scale at range
  have start : HasValue (nearest false digits 1) digits := by
    have value := hasValue_of_short short (Nat.zero_le 971)
    rwa [pow_zero, mul_one] at value
  rcases Nat.eq_zero_or_pos digits with rfl | positive
  · have zero : (nearest false 0 1 == 0.0) = true := start.beq_zero_iff.mpr rfl
    rw [scaleDown_of_zero zero, scaleUp, if_pos zero, ite_self]
    rfl
  · have nonzero : ¬(nearest false digits 1 == 0.0) = true := fun zero =>
      positive.ne' (Nat.cast_eq_zero.mp (start.beq_zero_iff.mp zero))
    have size : (0 : ℚ) < digits := by exact_mod_cast positive
    obtain ⟨q, value⟩ := hasValue_short short range
    have one : Nat.pow 10 0 = 1 := rfl
    rw [ofDecimal_of_short false positive range]
    split
    next negative =>
      have places : scale.toNat = 0 ∧ (-scale).toNat = scale.natAbs := by omega
      have power := hasValue_powerOfTen_exact range
      have quotient := start.div_eq power size (by positivity) (b := Nat.pow 10 scale.natAbs)
        (a := digits) (Nat.pow_pos (by norm_num)) (by simp)
      rw [scaleDown, if_neg nonzero, if_pos (range.trans (by decide)), quotient, places.1, places.2,
        one, mul_one]
    next nonneg =>
      have places : (-scale).toNat = 0 ∧ scale.toNat ≤ 22 := by omega
      have power := hasValue_powerOfTen_exact places.2
      have product := start.mul_eq power size (by positivity) (b := 1)
        (a := digits * Nat.pow 10 scale.toNat) one_pos (by simp)
      rw [places.1, one] at value ⊢
      rw [scaleUp, if_neg nonzero, if_pos (places.2.trans (by decide)), product]
      simp only [value.isInf_eq_false, Bool.false_eq_true, if_false]

/-- A numeral whose digits fit 53 bits and whose power of ten is not rounded has the nearest number
for its value. -/
theorem value_of_short {cs : List Char} {n : Numeral} (text : NumeralText cs n)
    (short : n.digits < 2 ^ 53) (range : n.scale.natAbs ≤ 22) :
    n.value = some (ofDecimal n.negative n.digits n.scale) := by
  rw [value_eq_map_size, size_of_short text.isDigit.1 text.isDigit.2 short range]
  cases n.negative with
  | false => rfl
  | true =>
    rcases Nat.eq_zero_or_pos n.digits with zero | positive
    · rw [zero, ofDecimal, ofDecimal, if_pos rfl, if_pos rfl]
      decide +kernel
    · obtain ⟨q, m, e, finite, _⟩ := hasValue_short short range
      rw [ofDecimal_of_short _ positive range, ofDecimal_of_short _ positive range,
        ← neg_nearest finite]
      rfl

end LandingGuidance.Json

import Mathlib
import LandingGuidance.Proofs.MachineRounding

/-!
# How far rounding goes

A number that is not negative stands for a rational number. What the machine gives for a product or
a quotient is off by one part in `2 ^ 53` of it at most, or by half of the smallest number where the
mantissa is short, and it is the nearest number where the operands are exact.
-/

namespace LandingGuidance.Binary64

open Float.Model Float.Model.UnpackedFloat

/-- The largest finite number. -/
def largest : ℚ := (2 ^ 53 - 1) * 2 ^ (971 : ℤ)

theorem largest_pos : 0 < largest := by
  rw [largest]
  positivity

theorem largest_lt : largest < 2 ^ (1024 : ℤ) := by
  have unit : (0 : ℚ) < 2 ^ (971 : ℤ) := by positivity
  calc largest < 2 ^ (53 : ℤ) * 2 ^ (971 : ℤ) := by
        rw [largest]
        exact mul_lt_mul_of_pos_right (by norm_num) unit
    _ = 2 ^ (1024 : ℤ) := by rw [← zpow_add₀ two_ne_zero]; rfl

/-- The smallest positive number. -/
def smallest : ℚ := 2 ^ leastExponent

theorem smallest_pos : 0 < smallest := by
  rw [smallest]
  positivity

theorem smallest_le : smallest ≤ 1 / 2 ^ 60 := by
  calc smallest ≤ 2 ^ (-60 : ℤ) := zpow_le_zpow_right₀ one_le_two (by decide)
    _ = 1 / 2 ^ 60 := by norm_num

/-- The most that rounding takes a positive number away from what it is. -/
def roundingError (q : ℚ) : ℚ := max (q / 2 ^ 53) (smallest / 2)

theorem roundingError_le {q : ℚ} (nonneg : 0 ≤ q) :
    roundingError q ≤ q / 2 ^ 53 + smallest / 2 := by
  have part : 0 ≤ q / 2 ^ 53 := by positivity
  exact max_le (by linarith [smallest_pos]) (by linarith)

theorem roundingError_of_one_le {q : ℚ} (large : 1 ≤ q) : roundingError q = q / 2 ^ 53 := by
  refine max_eq_left ?_
  linarith [smallest_le]

/-! ### Numbers that are not negative -/

/-- A finite number without a minus sign, and the rational number that it stands for. -/
def HasValue (x : Float) (q : ℚ) : Prop := ∃ m e, ofFloat x = .finite false m e ∧ q = m * 2 ^ e

namespace HasValue

variable {x y : Float} {p q : ℚ}

theorem nonneg (value : HasValue x q) : 0 ≤ q := by
  obtain ⟨m, e, _, rfl⟩ := value
  positivity

theorem value?_eq (value : HasValue x q) : value? x = some q := by
  obtain ⟨m, e, finite, rfl⟩ := value
  rw [value?, finite]
  rfl

theorem value?_neg (value : HasValue x q) : value? (-x) = some (-q) := by
  obtain ⟨m, e, finite, rfl⟩ := value
  rw [value?, ofFloat_neg finite]
  rfl

theorem isInf_eq_false (value : HasValue x q) : x.isInf = false := by
  obtain ⟨m, e, finite, _⟩ := value
  rw [ofFloat_eq_unpack] at finite
  change x.toModel.unpack.isInf = false
  cases unpacked : x.toModel.unpack with
  | notANumber | infinity =>
    rw [unpacked] at finite
    cases finite
  | zero | finite => rfl

theorem le_largest (value : HasValue x q) : q ≤ largest := by
  obtain ⟨m, e, finite, rfl⟩ := value
  obtain ⟨normal, high⟩ := normal_and_exponent_le finite
  have digits : (m : ℚ) ≤ 2 ^ 53 - 1 := by
    have : m + 1 ≤ 2 ^ 53 := normal.bounded
    have : ((m + 1 : ℕ) : ℚ) ≤ (2 ^ 53 : ℕ) := by exact_mod_cast this
    push_cast at this
    linarith
  rw [largest]
  gcongr
  norm_num

theorem beq_zero_iff (value : HasValue x q) : (x == 0.0) = true ↔ q = 0 := by
  obtain ⟨m, e, finite, rfl⟩ := value
  have zero : rank 0.0 = some (toLex (0, toLex (0, 0))) := rfl
  rw [beq_iff, zero]
  rw [ofFloat_eq_unpack] at finite
  unfold rank
  cases unpacked : x.toModel.unpack with
  | notANumber | infinity =>
    rw [unpacked] at finite
    cases finite
  | zero sign =>
    rw [unpacked] at finite
    cases sign with
    | negative => cases finite
    | positive =>
      cases finite
      simp [standing]
  | finite sign m' e' pos =>
    rw [unpacked] at finite
    cases sign with
    | negative => cases finite
    | positive =>
      cases finite
      have unit : (2 : ℚ) ^ e ≠ 0 := by positivity
      simp [standing, pos.ne', unit]

theorem pos_of_ne (value : HasValue x q) (nonzero : ¬(x == 0.0) = true) : 0 < q :=
  value.nonneg.lt_of_ne' fun zero => nonzero (value.beq_zero_iff.mpr zero)

end HasValue

/-! ### The nearest number -/

section

variable {a b : Nat} (ha : 0 < a) (hb : 0 < b)

include ha hb

theorem lastPlace_le (small : (a / b : ℚ) ≤ largest) : lastPlace a b ≤ 971 := by
  have := (zpow_lt_zpow_iff_right₀ (one_lt_two (α := ℚ))).mp
    (((logQuotient_spec ha hb).1.trans small).trans_lt largest_lt)
  rw [lastPlace, leastExponent]
  omega

theorem half_lastPlace_le : (2 : ℚ) ^ lastPlace a b / 2 ≤ roundingError (a / b) := by
  rcases max_choice leastExponent (logQuotient a b - 52) with least | above
  · refine le_max_of_le_right (le_of_eq ?_)
    rw [lastPlace, least, smallest]
  · refine le_max_of_le_left ?_
    calc (2 : ℚ) ^ lastPlace a b / 2 = 2 ^ logQuotient a b / 2 ^ 53 := by
          rw [lastPlace, above, zpow_sub₀ two_ne_zero]
          norm_cast
          ring
      _ ≤ a / b / 2 ^ 53 := by
          gcongr
          exact (logQuotient_spec ha hb).1

omit ha in
/-- In the last binade the mantissa is rounded to one that is not above the largest. -/
theorem nearestMantissa_lt_of_last (small : (a / b : ℚ) ≤ largest) (last : lastPlace a b = 971) :
    nearestMantissa a b < 2 ^ 53 := by
  have unit : (0 : ℚ) < 2 ^ (971 : ℤ) := by positivity
  have near := (abs_le.mp (abs_sub_nearestMantissa_le a hb)).1
  have inUnits : (a / b * 2 ^ (-lastPlace a b) : ℚ) ≤ 2 ^ 53 - 1 := by
    rw [last, zpow_neg, mul_inv_le_iff₀ unit]
    exact small
  have : (nearestMantissa a b : ℚ) < 2 ^ 53 := by linarith
  exact_mod_cast this

end

theorem hasValue_zero (b : Nat) : HasValue (nearest false 0 b) 0 := by
  refine ⟨0, leastExponent, ?_, by simp⟩
  rw [nearest, nearestBits, if_pos rfl]
  rfl

/-- The number nearest to a quotient is finite if that is not above the largest finite number. -/
theorem hasValue_nearest (a : Nat) {b : Nat} (hb : 0 < b) (small : (a / b : ℚ) ≤ largest) :
    ∃ q, HasValue (nearest false a b) q ∧ |q - a / b| ≤ roundingError (a / b) := by
  rcases Nat.eq_zero_or_pos a with rfl | ha
  · refine ⟨0, hasValue_zero b, ?_⟩
    simp only [Nat.cast_zero, zero_div, sub_zero, abs_zero]
    exact le_max_of_le_right (half_pos smallest_pos).le
  · rcases (lastPlace_le ha hb small).lt_or_eq with lower | last
    · obtain ⟨m, e, finite, near⟩ := ofFloat_nearest ha hb false (by omega)
      rw [abs_sub_comm] at near
      exact ⟨_, ⟨m, e, finite, rfl⟩, near.trans (half_lastPlace_le ha hb)⟩
    · have fits := nearestMantissa_lt_of_last hb small last
      have near := abs_sub_nearest_le a hb
      rw [abs_sub_comm] at near
      exact ⟨_, ⟨_, _, ofFloat_nearest_of_fits ha hb false fits last.le, rfl⟩,
        near.trans (half_lastPlace_le ha hb)⟩

/-- A whole number is rounded by one part in `2 ^ 53` at most. -/
theorem hasValue_whole (a : Nat) (small : (a : ℚ) ≤ largest) :
    ∃ q, HasValue (nearest false a 1) q ∧ |q - a| ≤ a / 2 ^ 53 := by
  rcases Nat.eq_zero_or_pos a with rfl | ha
  · exact ⟨0, hasValue_zero 1, by simp⟩
  · have large : (1 : ℚ) ≤ a := by exact_mod_cast ha
    have nearest := hasValue_nearest a one_pos (by rwa [Nat.cast_one, div_one])
    rwa [Nat.cast_one, div_one, roundingError_of_one_le large] at nearest

/-- A whole number is not rounded if 53 bits are enough for it, with a power of two behind them. -/
theorem hasValue_of_short {c k : Nat} (short : c < 2 ^ 53) (small : k ≤ 971) :
    HasValue (nearest false (c * 2 ^ k) 1) (c * 2 ^ k : ℕ) := by
  rcases Nat.eq_zero_or_pos c with rfl | positive
  · rw [zero_mul, Nat.cast_zero]
    exact hasValue_zero 1
  have lower := Nat.log2_self_le positive.ne'
  have upper := Nat.lt_log2_self (n := c)
  have log : c.log2 ≤ 52 := Nat.le_of_lt_succ ((Nat.log2_lt positive.ne').mpr short)
  have split : c.log2 + (52 - c.log2) = 52 := by omega
  -- The mantissa is filled up with zeros to 53 bits.
  have filled : Normal (c * 2 ^ (52 - c.log2)) (k - (52 - c.log2 : ℕ)) := by
    refine ⟨?_, by rw [leastExponent]; omega, .inl ?_⟩
    · calc c * 2 ^ (52 - c.log2) < 2 ^ (c.log2 + 1) * 2 ^ (52 - c.log2) :=
            Nat.mul_lt_mul_of_pos_right upper (Nat.two_pow_pos _)
        _ = 2 ^ 53 := by rw [← pow_add]; congr 1; omega
    · calc 2 ^ 52 = 2 ^ c.log2 * 2 ^ (52 - c.log2) := by rw [← pow_add, split]
        _ ≤ c * 2 ^ (52 - c.log2) := Nat.mul_le_mul_right _ lower
  have whole : ((c * 2 ^ k : ℕ) : ℚ) =
      ((c * 2 ^ (52 - c.log2) : ℕ) : ℚ) * 2 ^ (k - (52 - c.log2 : ℕ) : ℤ) := by
    rw [zpow_sub₀ two_ne_zero, zpow_natCast, zpow_natCast]
    push_cast
    field_simp
  have place : 52 + (k - (52 - c.log2 : ℕ) : ℤ) = (c.log2 + k : ℕ) := by omega
  refine ⟨_, _, ofFloat_nearest_of_near (Nat.mul_pos positive (Nat.two_pow_pos k)) one_pos false
    filled (by omega) ?_ ?_ ?_, whole⟩
  · rw [place, zpow_natCast, Nat.cast_one, div_one, pow_add]
    exact_mod_cast Nat.mul_le_mul_right (2 ^ k) lower
  · rw [place, Nat.cast_one, div_one, ← Nat.cast_succ, zpow_natCast]
    have : c * 2 ^ k < 2 ^ (c.log2 + k).succ := by
      calc c * 2 ^ k < 2 ^ (c.log2 + 1) * 2 ^ k :=
            Nat.mul_lt_mul_of_pos_right upper (Nat.two_pow_pos k)
        _ = 2 ^ (c.log2 + k).succ := by rw [← pow_add]; congr 1; omega
    exact_mod_cast this
  · rw [Nat.cast_one, div_one, whole, sub_self, abs_zero]
    positivity

/-! ### Operations on numbers that are not negative -/

theorem nearest_congr_of_eq {a b c d : Nat} (hb : 0 < b) (hd : 0 < d) (same : (a / b : ℚ) = c / d)
    (negative : Bool) : nearest negative a b = nearest negative c d := by
  refine nearest_congr negative hb hd ?_
  rw [div_eq_div_iff (by positivity) (by positivity)] at same
  exact_mod_cast same

theorem exists_quotient {r : ℚ} (nonneg : 0 ≤ r) : ∃ a b : Nat, 0 < b ∧ (a / b : ℚ) = r := by
  refine ⟨r.num.toNat, r.den, r.pos, ?_⟩
  have whole : ((r.num.toNat : ℤ) : ℚ) = r.num := by
    rw [Int.toNat_of_nonneg (Rat.num_nonneg.mpr nonneg)]
  rw [← Int.cast_natCast, whole, Rat.num_div_den]

namespace HasValue

variable {x y : Float} {p q : ℚ} (hx : HasValue x p) (hy : HasValue y q) (hp : 0 < p) (hq : 0 < q)

include hx hy hp hq

/-- A product is the number nearest to a quotient with the same value. -/
theorem mul_eq {a b : Nat} (hb : 0 < b) (same : (a / b : ℚ) = p * q) :
    x * y = nearest false a b := by
  obtain ⟨m, e, finiteX, rfl⟩ := hx
  obtain ⟨n, f, finiteY, rfl⟩ := hy
  have hm : 0 < m := Nat.cast_pos.mp (pos_of_mul_pos_left hp (by positivity))
  have hn : 0 < n := Nat.cast_pos.mp (pos_of_mul_pos_left hq (by positivity))
  obtain ⟨_, hd⟩ := scaled_pos (Nat.mul_pos hm hn) one_pos (e + f)
  rw [mul_eq_nearest finiteX finiteY hm hn]
  refine nearest_congr_of_eq hd hb ?_ false
  have value : (scaledUp (m * n) (e + f) : ℚ) / scaledDown 1 (e + f) =
      ((m * n : ℕ) : ℚ) / (1 : ℕ) * 2 ^ (e + f) := scaled_quotient (m * n) 1 (e + f)
  rw [value, same, zpow_add₀ two_ne_zero]
  push_cast
  ring

/-- A quotient is the number nearest to a quotient of whole numbers with the same value. -/
theorem div_eq {a b : Nat} (hb : 0 < b) (same : (a / b : ℚ) = p / q) :
    x / y = nearest false a b := by
  obtain ⟨m, e, finiteX, rfl⟩ := hx
  obtain ⟨n, f, finiteY, rfl⟩ := hy
  have hm : 0 < m := Nat.cast_pos.mp (pos_of_mul_pos_left hp (by positivity))
  have hn : 0 < n := Nat.cast_pos.mp (pos_of_mul_pos_left hq (by positivity))
  obtain ⟨_, hd⟩ := scaled_pos hm hn (e - f)
  rw [div_eq_nearest finiteX finiteY hm hn]
  refine nearest_congr_of_eq hd hb ?_ false
  have value : (scaledUp m (e - f) : ℚ) / scaledDown n (e - f) = m / n * 2 ^ (e - f) :=
    scaled_quotient m n (e - f)
  rw [value, same, zpow_sub₀ two_ne_zero]
  field_simp

theorem mul (small : p * q ≤ largest) :
    ∃ r, HasValue (x * y) r ∧ |r - p * q| ≤ roundingError (p * q) := by
  obtain ⟨a, b, hb, same⟩ := exists_quotient (mul_pos hp hq).le
  rw [hx.mul_eq hy hp hq hb same, ← same]
  exact hasValue_nearest a hb (same ▸ small)

theorem div (small : p / q ≤ largest) :
    ∃ r, HasValue (x / y) r ∧ |r - p / q| ≤ roundingError (p / q) := by
  obtain ⟨a, b, hb, same⟩ := exists_quotient (div_pos hp hq).le
  rw [hx.div_eq hy hp hq hb same, ← same]
  exact hasValue_nearest a hb (same ▸ small)

end HasValue

end LandingGuidance.Binary64

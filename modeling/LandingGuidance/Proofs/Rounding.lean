import Mathlib
import LandingGuidance.Proofs.DoubleValue

/-!
# Rounding to the nearest number

A quotient that is rounded to a whole number is off by a half at most, and nothing else is as near
to a quotient that is nearer than that. A number is found by rounding a quotient in units of the
last place of its mantissa, so it is off by half of that place.
-/

namespace LandingGuidance.Binary64

open Float.Model Float.Model.UnpackedFloat

/-! ### Whole numbers -/

theorem abs_sub_roundQuotient_le (a : Nat) {b : Nat} (positive : 0 < b) :
    |(a / b : ℚ) - roundQuotient a b| ≤ 1 / 2 := by
  have pos : (0 : ℚ) < b := by exact_mod_cast positive
  have split : (a / b : ℚ) = (a / b : ℕ) + (a % b : ℕ) / b := by
    have whole : (b : ℚ) * (a / b : ℕ) + (a % b : ℕ) = a := by exact_mod_cast Nat.div_add_mod a b
    rw [div_eq_iff pos.ne', add_mul, div_mul_cancel₀ _ pos.ne']
    linarith
  have nonneg : (0 : ℚ) ≤ (a % b : ℕ) / b := by positivity
  have below : ((a % b : ℕ) : ℚ) / b < 1 := by
    rw [div_lt_one pos]
    exact_mod_cast Nat.mod_lt a positive
  rw [split, roundQuotient, abs_le]
  split_ifs with low high
  · have : ((a % b : ℕ) : ℚ) / b < 1 / 2 := by
      rw [div_lt_div_iff₀ pos two_pos]
      exact_mod_cast (by omega : a % b * 2 < 1 * b)
    constructor <;> linarith
  · have : (1 : ℚ) / 2 < (a % b : ℕ) / b := by
      rw [div_lt_div_iff₀ two_pos pos]
      exact_mod_cast (by omega : 1 * b < a % b * 2)
    push_cast
    constructor <;> linarith
  · -- Either neighbour of a tie is half away.
    have tie : ((a % b : ℕ) : ℚ) / b = 1 / 2 := by
      rw [div_eq_div_iff pos.ne' two_ne_zero]
      exact_mod_cast (by omega : a % b * 2 = 1 * b)
    rcases Nat.mod_two_eq_zero_or_one (a / b) with even | odd
    · rw [even, tie]
      norm_num
    · rw [odd, tie]
      norm_num

theorem roundQuotient_eq_of_abs_sub_lt {a b n : Nat} (positive : 0 < b)
    (near : |(a / b : ℚ) - n| < 1 / 2) : roundQuotient a b = n := by
  have rounded := abs_sub_roundQuotient_le a positive
  rw [abs_sub_comm] at rounded
  by_contra other
  have apart : (1 : ℚ) ≤ |(roundQuotient a b : ℚ) - n| := by
    exact_mod_cast Int.one_le_abs (show (roundQuotient a b : ℤ) - n ≠ 0 by omega)
  have := abs_sub_le (roundQuotient a b : ℚ) (a / b) n
  linarith

/-! ### Powers of two -/

/-- A power of two goes to the side of a quotient where it is whole. -/
theorem scaled_quotient (a b : Nat) (e : Int) :
    ((a * Nat.pow 2 e.toNat : ℕ) : ℚ) / (b * Nat.pow 2 (-e).toNat : ℕ) = a / b * 2 ^ e := by
  obtain ⟨n, rfl | rfl⟩ := e.eq_nat_or_neg
  · simp
    ring
  · simp
    field_simp

theorem scaled_le_iff {a b : Nat} (positive : 0 < b) (e : Int) :
    b * Nat.pow 2 e.toNat ≤ a * Nat.pow 2 (-e).toNat ↔ (2 : ℚ) ^ e ≤ a / b := by
  have pos : (0 : ℚ) < b := by exact_mod_cast positive
  rw [le_div_iff₀ pos, ← Nat.cast_le (α := ℚ)]
  obtain ⟨n, rfl | rfl⟩ := e.eq_nat_or_neg
  · simp [mul_comm]
  · have power : (0 : ℚ) < 2 ^ n := by positivity
    simp [inv_mul_le_iff₀ power, mul_comm (a : ℚ)]

theorem logQuotient_spec {a b : Nat} (ha : 0 < a) (hb : 0 < b) :
    (2 : ℚ) ^ logQuotient a b ≤ a / b ∧ (a / b : ℚ) < 2 ^ (logQuotient a b + 1) := by
  have pos : (0 : ℚ) < b := by exact_mod_cast hb
  have lower : (2 : ℚ) ^ a.log2 ≤ a := by exact_mod_cast Nat.log2_self_le ha.ne'
  have upper : (a : ℚ) < 2 ^ (a.log2 + 1) := by exact_mod_cast Nat.lt_log2_self
  have lower' : (2 : ℚ) ^ b.log2 ≤ b := by exact_mod_cast Nat.log2_self_le hb.ne'
  have upper' : (b : ℚ) < 2 ^ (b.log2 + 1) := by exact_mod_cast Nat.lt_log2_self
  -- The logarithms tell the exponent to within one.
  have above : (a / b : ℚ) < 2 ^ ((a.log2 - b.log2 : ℤ) + 1) := by
    rw [div_lt_iff₀ pos]
    calc (a : ℚ) < 2 ^ (a.log2 + 1) := upper
      _ = 2 ^ ((a.log2 - b.log2 : ℤ) + 1) * 2 ^ b.log2 := by
        rw [← zpow_natCast, ← zpow_natCast, ← zpow_add₀ two_ne_zero]
        congr 1
        push_cast
        ring
      _ ≤ 2 ^ ((a.log2 - b.log2 : ℤ) + 1) * b := by gcongr
  have below : (2 : ℚ) ^ ((a.log2 - b.log2 : ℤ) - 1) ≤ a / b := by
    rw [le_div_iff₀ pos]
    calc (2 : ℚ) ^ ((a.log2 - b.log2 : ℤ) - 1) * b
        ≤ 2 ^ ((a.log2 - b.log2 : ℤ) - 1) * 2 ^ (b.log2 + 1) := by gcongr
      _ = 2 ^ a.log2 := by
        rw [← zpow_natCast, ← zpow_natCast, ← zpow_add₀ two_ne_zero]
        congr 1
        push_cast
        ring
      _ ≤ a := lower
  simp only [logQuotient, scaled_le_iff hb]
  split_ifs with fits
  · exact ⟨fits, above⟩
  · exact ⟨below, by simpa using fits⟩

/-! ### The bits of a number -/

theorem ofFloat_ofBits {bits : UInt64} (defined : ofBits bits.toNat ≠ .undefined) :
    ofFloat (Float.ofBits bits) = ofBits bits.toNat := by
  have valid : Format.binary64.Valid bits.toBitVec := by
    constructor
    intro largest nonzero
    refine absurd ?_ defined
    change ofBits bits.toBitVec.toNat = _
    rw [ofBits_eq_unpack, UnpackedFloat.unpack, if_pos largest, if_neg nonzero, ofUnpacked]
  change ofBits (pack Format.binary64 (unpack Format.binary64 bits.toBitVec)).toNat = _
  rw [pack_unpack_of_valid valid]
  rfl

theorem ofBits_signed (negative : Bool) {bits : Nat} (bounded : bits < 2 ^ 63) :
    ofBits (if negative then Nat.pow 2 63 + bits else bits) =
      if bits / 2 ^ 52 = 2047 then
        if bits % 2 ^ 52 = 0 then .infinite negative else .undefined
      else if bits / 2 ^ 52 = 0 then .finite negative (bits % 2 ^ 52) leastExponent
      else .finite negative (2 ^ 52 + bits % 2 ^ 52) (leastExponent + (bits / 2 ^ 52 - 1 : Nat)) := by
  unfold ofBits
  simp only [Nat.pow_eq]
  cases negative with
  | false =>
    have exponent : bits / 2 ^ 52 % 2 ^ 11 = bits / 2 ^ 52 := by omega
    simp only [Bool.false_eq_true, if_false, exponent, decide_eq_false (by omega : ¬2 ^ 63 ≤ bits)]
  | true =>
    have exponent : (2 ^ 63 + bits) / 2 ^ 52 % 2 ^ 11 = bits / 2 ^ 52 := by omega
    have fraction : (2 ^ 63 + bits) % 2 ^ 52 = bits % 2 ^ 52 := by omega
    simp only [if_true, exponent, fraction, decide_eq_true (by omega : 2 ^ 63 ≤ 2 ^ 63 + bits)]

/-- Bits up to those of infinity are not those of an undefined number. -/
theorem ofBits_ne_undefined (negative : Bool) {bits : Nat} (inRange : bits ≤ infinityBits) :
    ofBits (if negative then Nat.pow 2 63 + bits else bits) ≠ .undefined := by
  have bounded : bits ≤ 2047 * 2 ^ 52 := inRange
  rw [ofBits_signed negative (by omega)]
  split
  next last =>
    rw [if_pos (by omega)]
    exact Binary64.noConfusion
  next => split <;> exact Binary64.noConfusion

/-- Bits up to those of infinity are kept as they are. -/
theorem ofFloat_signed (negative : Bool) {bits : Nat} (inRange : bits ≤ infinityBits) :
    ofFloat (signed negative bits) = ofBits (if negative then Nat.pow 2 63 + bits else bits) := by
  have bounded : bits ≤ 2047 * 2 ^ 52 := inRange
  have stored : (UInt64.ofNat (if negative then Nat.pow 2 63 + bits else bits)).toNat =
      if negative then Nat.pow 2 63 + bits else bits := by
    apply UInt64.toNat_ofNat_of_lt'
    simp only [Nat.pow_eq, UInt64.size]
    split <;> omega
  have defined := ofBits_ne_undefined negative inRange
  rw [← stored] at defined
  rw [signed, ofFloat_ofBits defined, stored]

/-- The bits of a mantissa and its exponent stand for these. -/
theorem ofFloat_signed_of_normal (negative : Bool) {mantissa : Nat} {exponent : Int}
    (normal : Normal mantissa exponent) (finite : exponent ≤ 971) :
    ofFloat (signed negative ((exponent - leastExponent).toNat * Nat.pow 2 52 + mantissa)) =
      .finite negative mantissa exponent := by
  obtain ⟨bounded, least, full⟩ := normal
  obtain ⟨place, rfl⟩ : ∃ place : Nat, exponent = leastExponent + place :=
    ⟨(exponent - leastExponent).toNat, by omega⟩
  have last : place ≤ 2045 := by
    rw [leastExponent] at finite
    omega
  have inRange : place * 2 ^ 52 + mantissa ≤ infinityBits := by
    simp only [infinityBits, Nat.pow_eq]
    omega
  rw [add_sub_cancel_left, Int.toNat_natCast, Nat.pow_eq, ofFloat_signed negative inRange,
    ofBits_signed negative (by omega), if_neg (by omega)]
  split
  next zero =>
    -- Only the least exponent has a mantissa without its first bit.
    have zero : place = 0 := by omega
    subst zero
    congr 1
    omega
  next nonzero =>
    have stored : 2 ^ 52 ≤ mantissa := by omega
    congr 1 <;> omega

/-! ### The nearest number -/

/-- The exponent of the last place of the mantissa of the number nearest to a quotient. -/
def lastPlace (numerator denominator : Nat) : Int :=
  max leastExponent (logQuotient numerator denominator - 52)

/-- The quotient in units of that place, as a whole number. -/
def nearestMantissa (numerator denominator : Nat) : Nat :=
  roundQuotient (numerator * Nat.pow 2 (-lastPlace numerator denominator).toNat)
    (denominator * Nat.pow 2 (lastPlace numerator denominator).toNat)

theorem nearestBits_le (a b : Nat) : nearestBits a b ≤ infinityBits := by
  unfold nearestBits
  split
  · exact Nat.zero_le _
  · exact min_le_left _ _

theorem nearestBits_of_pos {a : Nat} (b : Nat) (ha : 0 < a) :
    nearestBits a b = min infinityBits
      ((lastPlace a b - leastExponent).toNat * Nat.pow 2 52 + nearestMantissa a b) := by
  rw [nearestBits, if_neg ha.ne']
  rfl

/-- The quotient that is rounded to the mantissa. -/
theorem inUnits_eq (a b : Nat) :
    ((a * Nat.pow 2 (-lastPlace a b).toNat : ℕ) : ℚ) / (b * Nat.pow 2 (lastPlace a b).toNat : ℕ) =
      a / b * 2 ^ (-lastPlace a b) := by
  have scaled := scaled_quotient a b (-lastPlace a b)
  rwa [neg_neg] at scaled

theorem inUnits_pos (a : Nat) {b : Nat} (hb : 0 < b) : 0 < b * Nat.pow 2 (lastPlace a b).toNat :=
  Nat.mul_pos hb (Nat.pow_pos two_pos)

theorem abs_sub_nearestMantissa_le (a : Nat) {b : Nat} (hb : 0 < b) :
    |(a / b * 2 ^ (-lastPlace a b) : ℚ) - nearestMantissa a b| ≤ 1 / 2 := by
  rw [← inUnits_eq]
  exact abs_sub_roundQuotient_le _ (inUnits_pos a hb)

theorem abs_sub_nearest_le (a : Nat) {b : Nat} (hb : 0 < b) :
    |(a / b : ℚ) - nearestMantissa a b * 2 ^ lastPlace a b| ≤ 2 ^ lastPlace a b / 2 := by
  have unit : (0 : ℚ) < 2 ^ lastPlace a b := by positivity
  have rounded := mul_le_mul_of_nonneg_right (abs_sub_nearestMantissa_le a hb) unit.le
  rw [← abs_of_pos unit, ← abs_mul, abs_of_pos unit, sub_mul, mul_assoc, ← zpow_add₀ two_ne_zero,
    neg_add_cancel, zpow_zero, mul_one] at rounded
  linarith

section

variable {a b : Nat} (ha : 0 < a) (hb : 0 < b)

include ha hb

theorem nearestMantissa_le : nearestMantissa a b ≤ 2 ^ 53 := by
  have near := abs_le.mp (abs_sub_nearestMantissa_le a hb)
  have below : (a / b * 2 ^ (-lastPlace a b) : ℚ) < 2 ^ 53 := by
    rw [zpow_neg, mul_inv_lt_iff₀ (by positivity)]
    calc (a / b : ℚ) < 2 ^ (logQuotient a b + 1) := (logQuotient_spec ha hb).2
      _ ≤ 2 ^ (53 + lastPlace a b) := by
        have place : logQuotient a b - 52 ≤ lastPlace a b := le_max_right _ _
        exact zpow_le_zpow_right₀ one_le_two (by omega)
      _ = 2 ^ 53 * 2 ^ lastPlace a b := by
        rw [zpow_add₀ two_ne_zero]
        norm_cast
  have : (nearestMantissa a b : ℚ) < 2 ^ 53 + 1 := by linarith
  exact Nat.le_of_lt_succ (by exact_mod_cast this)

theorem nearestMantissa_full : 2 ^ 52 ≤ nearestMantissa a b ∨ lastPlace a b = leastExponent := by
  rcases max_choice leastExponent (logQuotient a b - 52) with least | above
  · exact Or.inr least
  left
  have near := abs_le.mp (abs_sub_nearestMantissa_le a hb)
  have full : (2 : ℚ) ^ 52 ≤ a / b * 2 ^ (-lastPlace a b) := by
    rw [zpow_neg, le_mul_inv_iff₀ (by positivity)]
    calc (2 : ℚ) ^ 52 * 2 ^ lastPlace a b = 2 ^ (52 + lastPlace a b) := by
          rw [zpow_add₀ two_ne_zero]
          norm_cast
      _ = 2 ^ logQuotient a b := by rw [lastPlace, above, add_sub_cancel]
      _ ≤ a / b := (logQuotient_spec ha hb).1
  have : ((2 ^ 52 : ℕ) : ℚ) < (nearestMantissa a b + 1 : ℕ) := by
    push_cast
    linarith
  exact Nat.le_of_lt_succ (by exact_mod_cast this)

theorem ofFloat_nearest_of_fits (negative : Bool) (fits : nearestMantissa a b < 2 ^ 53)
    (finite : lastPlace a b ≤ 971) :
    ofFloat (nearest negative a b) = .finite negative (nearestMantissa a b) (lastPlace a b) := by
  have least : leastExponent ≤ lastPlace a b := le_max_left _ _
  have inRange : (lastPlace a b - leastExponent).toNat * Nat.pow 2 52 + nearestMantissa a b ≤
      infinityBits := by
    simp only [infinityBits, Nat.pow_eq, leastExponent] at least ⊢
    omega
  rw [nearest, nearestBits_of_pos b ha, min_eq_right inRange]
  exact ofFloat_signed_of_normal negative ⟨fits, least, nearestMantissa_full ha hb⟩ finite

/-- Half of the last place is the most by which the nearest number is off, where the quotient is not
too large for it. -/
theorem ofFloat_nearest (negative : Bool) (finite : lastPlace a b ≤ 970) :
    ∃ mantissa exponent, ofFloat (nearest negative a b) = .finite negative mantissa exponent ∧
      |(a / b : ℚ) - mantissa * 2 ^ exponent| ≤ 2 ^ lastPlace a b / 2 := by
  have near := abs_sub_nearest_le a hb
  rcases (nearestMantissa_le ha hb).lt_or_eq with fits | carries
  · exact ⟨_, _, ofFloat_nearest_of_fits ha hb negative fits (by omega), near⟩
  · -- The mantissa carries into the exponent, and its own bits become those of a power of two.
    have least : leastExponent ≤ lastPlace a b := le_max_left _ _
    have carried : (lastPlace a b - leastExponent).toNat * Nat.pow 2 52 + 2 ^ 53 =
        (lastPlace a b + 1 - leastExponent).toNat * Nat.pow 2 52 + 2 ^ 52 := by
      simp only [Nat.pow_eq]
      omega
    have inRange : (lastPlace a b + 1 - leastExponent).toNat * Nat.pow 2 52 + 2 ^ 52 ≤
        infinityBits := by
      simp only [infinityBits, Nat.pow_eq, leastExponent] at least ⊢
      omega
    have sameValue : ((2 ^ 52 : ℕ) : ℚ) * 2 ^ (lastPlace a b + 1) =
        nearestMantissa a b * 2 ^ lastPlace a b := by
      rw [carries, zpow_add_one₀ two_ne_zero]
      push_cast
      ring
    refine ⟨2 ^ 52, lastPlace a b + 1, ?_, sameValue ▸ near⟩
    rw [nearest, nearestBits_of_pos b ha, carries, carried, min_eq_right inRange]
    exact ofFloat_signed_of_normal negative ⟨by omega, by omega, Or.inl le_rfl⟩ (by omega)

theorem logQuotient_eq {n : Int} (low : (2 : ℚ) ^ n ≤ a / b) (high : (a / b : ℚ) < 2 ^ (n + 1)) :
    logQuotient a b = n := by
  obtain ⟨low', high'⟩ := logQuotient_spec ha hb
  have := (zpow_lt_zpow_iff_right₀ (one_lt_two (α := ℚ))).mp (low.trans_lt high')
  have := (zpow_lt_zpow_iff_right₀ (one_lt_two (α := ℚ))).mp (low'.trans_lt high)
  omega

/-- A mantissa of 53 bits is the nearest one to what is less than half a place away. -/
theorem ofFloat_nearest_of_near (negative : Bool) {mantissa : Nat} {exponent : Int}
    (normal : Normal mantissa exponent) (finite : exponent ≤ 971)
    (low : (2 : ℚ) ^ (52 + exponent) ≤ a / b) (high : (a / b : ℚ) < 2 ^ (52 + exponent + 1))
    (near : |(a / b : ℚ) - mantissa * 2 ^ exponent| < 2 ^ exponent / 2) :
    ofFloat (nearest negative a b) = .finite negative mantissa exponent := by
  have place : lastPlace a b = exponent := by
    rw [lastPlace, logQuotient_eq ha hb low high, add_sub_cancel_left]
    exact max_eq_right normal.least_le
  have rounded : nearestMantissa a b = mantissa := by
    apply roundQuotient_eq_of_abs_sub_lt (inUnits_pos a hb)
    rw [inUnits_eq, place]
    have unit : (0 : ℚ) < 2 ^ exponent := by positivity
    have inUnits : (a / b * 2 ^ (-exponent) : ℚ) - mantissa =
        (a / b - mantissa * 2 ^ exponent) / 2 ^ exponent := by
      rw [zpow_neg]
      field_simp
    rw [inUnits, abs_div, abs_of_pos unit, div_lt_iff₀ unit]
    linarith
  have fits : nearestMantissa a b < 2 ^ 53 := rounded ▸ normal.bounded
  rw [ofFloat_nearest_of_fits ha hb negative fits (place ▸ finite), rounded, place]

end

end LandingGuidance.Binary64

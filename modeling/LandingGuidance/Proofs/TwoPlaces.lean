import Mathlib
import LandingGuidance.Decimal.Fixed
import LandingGuidance.Decimal.Numeral
import LandingGuidance.Proofs.Rounding

/-!
# Two decimal places

A number that is written with two decimal places is rounded to hundredths, and what is written is
rounded again to the nearest double precision number where it is read. The second rounding does not
spoil the first: what was read is written the same.
-/

namespace LandingGuidance.Decimal

open Binary64

/-! ### Hundredths -/

theorem hundredths_quotient (mantissa : Nat) (exponent : Int) :
    ((100 * mantissa * Nat.pow 2 exponent.toNat : ℕ) : ℚ) / (Nat.pow 2 (-exponent).toNat : ℕ) =
      100 * (mantissa * 2 ^ exponent) := by
  have scaled := scaled_quotient (100 * mantissa) 1 exponent
  rw [one_mul] at scaled
  rw [scaled]
  push_cast
  ring

theorem abs_sub_hundredths_le (mantissa : Nat) (exponent : Int) :
    |(100 * (mantissa * 2 ^ exponent) : ℚ) - hundredths mantissa exponent| ≤ 1 / 2 := by
  rw [← hundredths_quotient]
  exact abs_sub_roundQuotient_le _ (Nat.pow_pos two_pos)

theorem hundredths_eq_of_abs_sub_lt {mantissa n : Nat} {exponent : Int}
    (near : |(100 * (mantissa * 2 ^ exponent) : ℚ) - n| < 1 / 2) :
    hundredths mantissa exponent = n := by
  rw [← hundredths_quotient] at near
  exact roundQuotient_eq_of_abs_sub_lt (Nat.pow_pos two_pos) near

theorem ofDecimal_hundredths (negative : Bool) {n : Nat} (positive : 0 < n) :
    ofDecimal negative n (-2) = nearest negative n 100 := by
  have notSmall : ¬((-2 : Int) * 3 + n.log2 < -1100) := by omega
  rw [ofDecimal, if_neg positive.ne', if_neg (by decide), if_neg notSmall]
  simp

section

variable {mantissa : Nat} {exponent : Int} (normal : Normal mantissa exponent)

include normal

theorem cast_mantissa_le : (mantissa : ℚ) ≤ 2 ^ 53 - 1 := by
  rw [le_sub_iff_add_le]
  exact_mod_cast normal.bounded

/-- From the exponent `-6` on, doubles are a 64th or more apart. Half a hundredth is less than half of
that, so the hundredths read back as the number itself. -/
theorem ofFloat_nearest_hundredths_of_coarse (negative : Bool) (finite : exponent ≤ 971)
    (coarse : -6 ≤ exponent) (positive : 0 < hundredths mantissa exponent) :
    ofFloat (nearest negative (hundredths mantissa exponent) 100) =
      .finite negative mantissa exponent := by
  have near := abs_le.mp (abs_sub_hundredths_le mantissa exponent)
  have full : 2 ^ 52 ≤ mantissa := normal.full.resolve_right (by rw [leastExponent]; omega)
  have place : (1 / 64 : ℚ) ≤ 2 ^ exponent := by
    calc (1 / 64 : ℚ) = 2 ^ (-6 : ℤ) := by norm_num
      _ ≤ 2 ^ exponent := zpow_le_zpow_right₀ one_le_two coarse
  have first : (2 : ℚ) ^ (52 + exponent) = 2 ^ 52 * 2 ^ exponent := by
    rw [zpow_add₀ two_ne_zero]
    norm_cast
  apply ofFloat_nearest_of_near positive (by norm_num) negative normal finite
  case low =>
    -- The least number with this exponent is whole, so its hundredths are not rounded.
    have whole : (2 : ℚ) ^ (52 + exponent) = (2 ^ (52 + exponent).toNat : ℕ) := by
      rw [Nat.cast_pow, Nat.cast_ofNat, ← zpow_natCast, Int.toNat_of_nonneg (by omega)]
    have reached : (2 : ℚ) ^ (52 + exponent) ≤ mantissa * 2 ^ exponent := by
      rw [first]
      gcongr
      exact_mod_cast full
    rw [whole] at reached ⊢
    have : ((100 * 2 ^ (52 + exponent).toNat : ℕ) : ℚ) < (hundredths mantissa exponent + 1 : ℕ) := by
      push_cast at reached ⊢
      linarith
    have below : 100 * 2 ^ (52 + exponent).toNat ≤ hundredths mantissa exponent :=
      Nat.le_of_lt_succ (by exact_mod_cast this)
    rw [le_div_iff₀ (by norm_num)]
    exact_mod_cast (mul_comm _ _).trans_le below
  case high =>
    have last : (mantissa : ℚ) * 2 ^ exponent ≤ (2 ^ 53 - 1) * 2 ^ exponent := by
      gcongr
      exact cast_mantissa_le normal
    rw [zpow_add_one₀ two_ne_zero, first]
    push_cast
    linarith
  case near =>
    push_cast
    rw [abs_lt]
    constructor <;> linarith

/-- Up to the exponent `-7`, doubles are a 128th or less apart. Half of that is less than half a
hundredth, so the number that the hundredths read back as has the same hundredths. -/
theorem ofFloat_nearest_hundredths_of_fine (negative : Bool) (fine : exponent ≤ -7)
    (positive : 0 < hundredths mantissa exponent) :
    ∃ mantissa' exponent', ofFloat (nearest negative (hundredths mantissa exponent) 100) =
        .finite negative mantissa' exponent' ∧
      hundredths mantissa' exponent' = hundredths mantissa exponent := by
  have near := abs_le.mp (abs_sub_hundredths_le mantissa exponent)
  -- Rounding to hundredths does not reach the power of two where doubles get farther apart.
  have below : (hundredths mantissa exponent / (100 : ℕ) : ℚ) < 2 ^ (46 : ℤ) := by
    have bounded : (mantissa * 2 ^ exponent : ℚ) ≤ (2 ^ 53 - 1) * 2 ^ (-7 : ℤ) := by
      gcongr ?_ * ?_
      · exact cast_mantissa_le normal
      · exact zpow_le_zpow_right₀ one_le_two fine
    norm_num at bounded ⊢
    linarith
  have place : lastPlace (hundredths mantissa exponent) 100 ≤ -7 := by
    have reached := (logQuotient_spec positive (by norm_num : 0 < 100)).1.trans_lt below
    have := (zpow_lt_zpow_iff_right₀ (one_lt_two (α := ℚ))).mp reached
    rw [lastPlace, leastExponent]
    omega
  have unit : (2 : ℚ) ^ lastPlace (hundredths mantissa exponent) 100 ≤ 2 ^ (-7 : ℤ) :=
    zpow_le_zpow_right₀ one_le_two place
  obtain ⟨mantissa', exponent', finite, off⟩ :=
    ofFloat_nearest positive (by norm_num : 0 < 100) negative (by omega)
  refine ⟨mantissa', exponent', finite, hundredths_eq_of_abs_sub_lt ?_⟩
  have off := abs_le.mp off
  norm_num at unit off
  rw [abs_lt]
  constructor <;> linarith

end

/-- The hundredths of a number read back as a number with the same sign and as many hundredths. -/
theorem hundredths_stable {x : Float} {negative : Bool} {mantissa : Nat} {exponent : Int}
    (finite : ofFloat x = .finite negative mantissa exponent) :
    ∃ mantissa' exponent', ofFloat (ofDecimal negative (hundredths mantissa exponent) (-2)) =
        .finite negative mantissa' exponent' ∧
      hundredths mantissa' exponent' = hundredths mantissa exponent := by
  obtain ⟨normal, last⟩ := normal_and_exponent_le finite
  rcases Nat.eq_zero_or_pos (hundredths mantissa exponent) with zero | positive
  · -- Zero keeps the sign of a number that is rounded to it.
    have normal : Normal 0 leastExponent := ⟨by norm_num, le_rfl, Or.inr rfl⟩
    have zeroBits := ofFloat_signed_of_normal negative normal (by decide)
    rw [zero]
    exact ⟨0, leastExponent, zeroBits, hundredths_eq_of_abs_sub_lt (by norm_num)⟩
  rw [ofDecimal_hundredths negative positive]
  -- A hundredth lies between the spacings of the exponents -7 and -6.
  by_cases coarse : -6 ≤ exponent
  · exact ⟨_, _, ofFloat_nearest_hundredths_of_coarse normal negative last coarse positive, rfl⟩
  · exact ofFloat_nearest_hundredths_of_fine normal negative (by omega) positive

/-! ### Digits -/

theorem isDigit_digitChar {d : Nat} (h : d < 10) : (digitChar d).isDigit = true := by
  interval_cases d <;> decide

theorem digitValue_digitChar {d : Nat} (h : d < 10) : digitValue (digitChar d) = d := by
  interval_cases d <;> decide

theorem isDigit_of_mem_digits {n : Nat} {c : Char} (member : c ∈ digits n) : c.isDigit = true := by
  induction n using digits.induct with
  | case1 n small =>
    rw [digits, if_pos small, List.mem_singleton] at member
    rw [member]
    exact isDigit_digitChar small
  | case2 n large ih =>
    rw [digits, if_neg large, List.mem_append, List.mem_singleton] at member
    rcases member with front | rfl
    · exact ih front
    · exact isDigit_digitChar (Nat.mod_lt n (by norm_num))

theorem digits_ne_nil (n : Nat) : digits n ≠ [] := by
  rw [digits]
  split <;> simp

theorem ofDigits_append_digitChar (cs : List Char) {d : Nat} (h : d < 10) :
    ofDigits (cs ++ [digitChar d]) = ofDigits cs * 10 + d := by
  rw [ofDigits, List.foldl_append, List.foldl_cons, List.foldl_nil, digitValue_digitChar h]
  rfl

theorem ofDigits_digits (n : Nat) : ofDigits (digits n) = n := by
  induction n using digits.induct with
  | case1 n small =>
    rw [digits, if_pos small]
    simpa [ofDigits] using digitValue_digitChar small
  | case2 n large ih =>
    rw [digits, if_neg large, ofDigits_append_digitChar _ (Nat.mod_lt n (by norm_num)), ih]
    omega

/-! ### Numerals -/

theorem takeSign_sign_append (negative : Bool) {c : Char} (cs : List Char) (minus : c ≠ '-')
    (plus : c ≠ '+') : takeSign (sign negative ++ c :: cs) = (negative, c :: cs) := by
  cases negative with
  | true => rfl
  | false =>
    rw [sign, if_neg Bool.false_ne_true, List.nil_append]
    unfold takeSign
    split <;> simp_all

theorem readUnsigned_pointed (negative : Bool) (n : Nat) :
    readUnsigned negative (pointed n) = some ⟨negative, n, -2⟩ := by
  have whole : ∀ c ∈ digits (n / 100), c.isDigit = true := fun c => isDigit_of_mem_digits
  have places : ∀ c ∈ [digitChar (n / 10 % 10), digitChar (n % 10)], c.isDigit = true := by
    simp [isDigit_digitChar, Nat.mod_lt]
  have fraction : takeFraction ('.' :: [digitChar (n / 10 % 10), digitChar (n % 10)]) =
      ([digitChar (n / 10 % 10), digitChar (n % 10)], []) := by
    rw [takeFraction, List.takeWhile_eq_self_iff.mpr places, List.dropWhile_eq_nil_iff.mpr places]
  have value : ofDigits (digits (n / 100) ++ [digitChar (n / 10 % 10), digitChar (n % 10)]) = n := by
    rw [List.append_cons, ofDigits_append_digitChar _ (Nat.mod_lt _ (by norm_num)),
      ofDigits_append_digitChar _ (Nat.mod_lt _ (by norm_num)), ofDigits_digits]
    omega
  have point : ('.' : Char).isDigit = false := by decide
  rw [readUnsigned, pointed, List.takeWhile_append_of_pos whole, List.dropWhile_append_of_pos whole,
    List.takeWhile_cons_of_neg (by simp [point]), List.dropWhile_cons_of_neg (by simp [point]),
    List.append_nil, fraction]
  simp [digits_ne_nil, value, readExponent]

theorem pointed_eq_cons (n : Nat) : ∃ c cs, pointed n = c :: cs ∧ c.isDigit = true := by
  obtain ⟨c, cs, whole⟩ := List.exists_cons_of_ne_nil (digits_ne_nil (n / 100))
  refine ⟨c, _, by rw [pointed, whole, List.cons_append], ?_⟩
  exact isDigit_of_mem_digits (whole ▸ List.mem_cons_self)

theorem readFloat_pointed (negative : Bool) (n : Nat) :
    readFloat (sign negative ++ pointed n) = some (ofDecimal negative n (-2)) := by
  obtain ⟨c, cs, starts, digit⟩ := pointed_eq_cons n
  have minus : c ≠ '-' := by
    rintro rfl
    cases digit
  have plus : c ≠ '+' := by
    rintro rfl
    cases digit
  have read := readUnsigned_pointed negative n
  rw [starts] at read ⊢
  rw [readFloat, takeSign_sign_append negative cs minus plus]
  simp only [read]
  rfl

/-- What is written with two places is read as a number that is written the same. -/
theorem readFloat_twoPlaces (x : Float) :
    ∃ y, readFloat (twoPlaces x) = some y ∧ twoPlaces y = twoPlaces x := by
  unfold twoPlaces
  cases kind : ofFloat x with
  | undefined =>
    have undefined : ofFloat (0.0 / 0.0) = .undefined := rfl
    refine ⟨0.0 / 0.0, rfl, ?_⟩
    rw [undefined]
  | infinite negative =>
    have infinite : ofFloat (signed negative infinityBits) = .infinite negative := by
      cases negative <;> rfl
    refine ⟨signed negative infinityBits, ?_, ?_⟩
    · cases negative <;> rfl
    · rw [infinite]
  | finite negative mantissa exponent =>
    obtain ⟨mantissa', exponent', finite, same⟩ := hundredths_stable kind
    refine ⟨_, readFloat_pointed negative _, ?_⟩
    rw [finite]
    simp only [same]

end LandingGuidance.Decimal

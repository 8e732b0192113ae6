import Mathlib
import LandingGuidance.Proofs.MachineRounding

/-!
# Operations of the machine that lose nothing

A finite number less itself is zero, zero stays zero under a division and a multiplication, and
taking zero away or multiplying by one leaves a finite number as it is. The one thing that can
change is the sign of a zero.
-/

namespace LandingGuidance.Binary64

open Float.Model Float.Model.UnpackedFloat

/-! ### Numbers taken apart -/

/-- A number is what its parts are packed to. -/
theorem ofModel_pack_unpack (x : Float) :
    Float.ofModel (Float.Model.pack x.toModel.unpack) = x := by
  obtain ⟨bits, valid⟩ := x
  have kept : UnpackedFloat.pack Format.binary64 (UnpackedFloat.unpack Format.binary64
      bits.toBitVec) = bits.toBitVec := pack_unpack_of_valid valid
  simp only [Float.Model.pack, Float.Model.unpack, kept]

theorem unpack_cases_of_isFinite {x : Float} (finite : x.isFinite = true) :
    (∃ sign, x.toModel.unpack = .zero sign) ∨
      ∃ sign mantissa exponent, ∃ positive : 0 < mantissa,
        x.toModel.unpack = .finite sign mantissa exponent positive := by
  change x.toModel.unpack.isFinite = true at finite
  cases unpacked : x.toModel.unpack with
  | notANumber | infinity =>
    rw [unpacked] at finite
    cases finite
  | zero sign => exact Or.inl ⟨sign, rfl⟩
  | finite sign mantissa exponent positive =>
    exact Or.inr ⟨sign, mantissa, exponent, positive, rfl⟩

theorem beq_self_of_isFinite {x : Float} (finite : x.isFinite = true) :
    (x == x) = true := by
  rw [beq_iff]
  unfold rank
  rcases unpack_cases_of_isFinite finite with ⟨sign, unpacked⟩ | ⟨sign, m, e, pos, unpacked⟩
  · rw [unpacked]
    exact ⟨_, rfl, rfl⟩
  · rw [unpacked]
    cases sign <;> exact ⟨_, rfl, rfl⟩

theorem unpack_zero : (0.0 : Float).toModel.unpack = .zero .positive := rfl

theorem unpack_neg_zero : (-0.0 : Float).toModel.unpack = .zero .negative := rfl

theorem ofModel_pack_positive_zero :
    Float.ofModel (Float.Model.pack (.zero .positive)) = 0.0 := by
  rw [← unpack_zero, ofModel_pack_unpack]

theorem ofModel_pack_negative_zero :
    Float.ofModel (Float.Model.pack (.zero .negative)) = -0.0 := by
  rw [← unpack_neg_zero, ofModel_pack_unpack]

theorem ofModel_pack_of_zero (sign : Sign) :
    Float.ofModel (Float.Model.pack (.zero sign)) = 0.0 ∨
      Float.ofModel (Float.Model.pack (.zero sign)) = -0.0 := by
  cases sign with
  | negative => exact Or.inr ofModel_pack_negative_zero
  | positive => exact Or.inl ofModel_pack_positive_zero

/-- What stands above zero has a positive sign. -/
theorem unpack_cases_of_pos {x : Float} (positive : 0.0 < x) :
    x.toModel.unpack = .infinity .positive ∨
      ∃ mantissa exponent, ∃ pos : 0 < mantissa,
        x.toModel.unpack = .finite .positive mantissa exponent pos := by
  obtain ⟨low, high, hlow, hhigh, below⟩ := lt_iff.mp positive
  unfold rank at hlow hhigh
  rw [unpack_zero] at hlow
  cases hlow
  -- One case for each kind of number; those that do not stand above zero contradict the order.
  rcases unpacked : x.toModel.unpack with (_ | _) | _ | _ | ⟨_ | _, mantissa, exponent, pos⟩ <;>
    rw [unpacked] at hhigh <;> cases hhigh
  all_goals simp [Prod.Lex.toLex_lt_toLex] at below
  · exact Or.inl rfl
  · exact Or.inr ⟨mantissa, exponent, pos, rfl⟩

/-! ### The operations -/

theorem sub_self_of_isFinite {x : Float} (finite : x.isFinite = true) : x - x = 0.0 := by
  change Float.ofModel (Float.Model.pack (UnpackedFloat.sub Format.binary64 x.toModel.unpack
    x.toModel.unpack)) = _
  rcases unpack_cases_of_isFinite finite with ⟨sign, unpacked⟩ | ⟨sign, m, e, pos, unpacked⟩
  · rw [unpacked]
    cases sign <;> exact ofModel_pack_positive_zero
  · rw [unpacked]
    simp only [UnpackedFloat.sub, sub_self]
    exact ofModel_pack_positive_zero

theorem zero_div_of_pos {x : Float} (positive : 0.0 < x) : 0.0 / x = 0.0 := by
  change Float.ofModel (Float.Model.pack (UnpackedFloat.div Format.binary64
    (0.0 : Float).toModel.unpack x.toModel.unpack)) = _
  rcases unpack_cases_of_pos positive with unpacked | ⟨m, e, pos, unpacked⟩
  · rw [unpacked]
    exact ofModel_pack_positive_zero
  · rw [unpacked]
    exact ofModel_pack_positive_zero

/-- A product with zero is a zero, and it has the sign of the other factor. -/
theorem zero_mul_of_isFinite {x : Float} (finite : x.isFinite = true) :
    0.0 * x = 0.0 ∨ 0.0 * x = -0.0 := by
  change Float.ofModel (Float.Model.pack (UnpackedFloat.mul Format.binary64
    (0.0 : Float).toModel.unpack x.toModel.unpack)) = _ ∨ Float.ofModel (Float.Model.pack
      (UnpackedFloat.mul Format.binary64 (0.0 : Float).toModel.unpack x.toModel.unpack)) = _
  rw [unpack_zero]
  rcases unpack_cases_of_isFinite finite with ⟨sign, unpacked⟩ | ⟨sign, m, e, pos, unpacked⟩
  · rw [unpacked]
    exact ofModel_pack_of_zero _
  · rw [unpacked]
    exact ofModel_pack_of_zero _

theorem sub_zero_right (x : Float) : x - 0.0 = x := by
  have kept : UnpackedFloat.sub Format.binary64 x.toModel.unpack (0.0 : Float).toModel.unpack =
      x.toModel.unpack := by
    rw [unpack_zero]
    rcases x.toModel.unpack with _ | _ | (_ | _) | _ <;> rfl
  change Float.ofModel (Float.Model.pack (UnpackedFloat.sub _ _ _)) = x
  rw [kept, ofModel_pack_unpack]

/-- The negative zero is the one number that taking a negative zero away changes. -/
theorem sub_neg_zero_right {x : Float} (other : x ≠ -0.0) : x - -0.0 = x := by
  have kept : UnpackedFloat.sub Format.binary64 x.toModel.unpack (-0.0 : Float).toModel.unpack =
      x.toModel.unpack := by
    rw [unpack_neg_zero]
    cases unpacked : x.toModel.unpack with
    | notANumber | infinity | finite => rfl
    | zero sign =>
      cases sign with
      | positive => rfl
      | negative =>
        refine absurd ?_ other
        rw [← ofModel_pack_unpack x, unpacked]
        exact ofModel_pack_negative_zero
  change Float.ofModel (Float.Model.pack (UnpackedFloat.sub _ _ _)) = x
  rw [kept, ofModel_pack_unpack]

/-- A finite number is the one nearest to itself. -/
theorem eq_nearest {x : Float} {s : Bool} {m : Nat} {e : Int} (hx : ofFloat x = .finite s m e)
    (positive : 0 < m) : x = nearest s (scaledUp m e) (scaledDown 1 e) := by
  obtain ⟨normal, high⟩ := normal_and_exponent_le hx
  obtain ⟨hu, hd⟩ := scaled_pos positive one_pos e
  have value : (scaledUp m e : ℚ) / scaledDown 1 e = m * 2 ^ e := by
    refine (scaled_quotient m 1 e).trans ?_
    rw [Nat.cast_one, div_one]
  have log : logQuotient (scaledUp m e) (scaledDown 1 e) = m.log2 + e := by
    apply logQuotient_eq hu hd
    · rw [value, zpow_add₀ two_ne_zero, zpow_natCast]
      gcongr
      exact_mod_cast Nat.log2_self_le positive.ne'
    · rw [value, add_right_comm, zpow_add₀ two_ne_zero]
      gcongr
      exact_mod_cast Nat.lt_log2_self (n := m)
  have short : m.log2 ≤ 52 := Nat.le_of_lt_succ ((Nat.log2_lt positive.ne').mpr normal.bounded)
  have place : lastPlace (scaledUp m e) (scaledDown 1 e) = e := by
    rw [lastPlace, log]
    rcases normal.full with full | least
    · have long : 52 ≤ m.log2 := (Nat.le_log2 positive.ne').mpr full
      have := normal.least_le
      omega
    · omega
  have mantissa : nearestMantissa (scaledUp m e) (scaledDown 1 e) = m := by
    apply roundQuotient_eq_of_abs_sub_lt (inUnits_pos _ hd)
    rw [inUnits_eq, value, place, mul_assoc, ← zpow_add₀ two_ne_zero]
    simp
  obtain ⟨sign, unpacked, rfl⟩ := exists_unpack hx positive
  have inRange : (e - leastExponent).toNat * Nat.pow 2 52 + m ≤ infinityBits := by
    have := normal.bounded
    simp only [infinityBits, Nat.pow_eq, leastExponent]
    omega
  rw [nearest, nearestBits_of_pos _ hu, place, mantissa, ← ofModel_pack_finite sign normal positive,
    ← unpacked, ofModel_pack_unpack]

theorem mul_one_of_isFinite {x : Float} (finite : x.isFinite = true) : x * 1.0 = x := by
  rcases unpack_cases_of_isFinite finite with ⟨sign, unpacked⟩ | ⟨sign, m, e, positive, unpacked⟩
  · have kept : UnpackedFloat.mul Format.binary64 x.toModel.unpack (1.0 : Float).toModel.unpack =
        x.toModel.unpack := by
      rw [unpacked]
      cases sign <;> rfl
    change Float.ofModel (Float.Model.pack (UnpackedFloat.mul _ _ _)) = x
    rw [kept, ofModel_pack_unpack]
  · have hx : ofFloat x = .finite (sign == .negative) m e := by
      rw [ofFloat_eq_unpack, unpacked]
      rfl
    have one : ofFloat 1.0 = .finite false (2 ^ 52) (-52) := rfl
    -- The mantissa of one is a power of two, so the exact product has the mantissa of the factor.
    have powers : 2 ^ 52 * 2 ^ (e + -52).toNat * 2 ^ (-e).toNat =
        2 ^ e.toNat * 2 ^ (-(e + -52)).toNat := by
      rw [← pow_add, ← pow_add, ← pow_add]
      congr 1
      omega
    have same : scaledUp (m * 2 ^ 52) (e + -52) * scaledDown 1 e =
        scaledUp m e * scaledDown 1 (e + -52) := by
      simp only [scaledUp, scaledDown, Nat.pow_eq]
      linear_combination m * powers
    rw [mul_eq_nearest hx one positive (by norm_num), Bool.xor_false,
      nearest_congr _ (scaled_pos positive one_pos _).2 (scaled_pos positive one_pos _).2 same,
      ← eq_nearest hx positive]

end LandingGuidance.Binary64

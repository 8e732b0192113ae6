import Mathlib
import LandingGuidance.Proofs.Rounding

/-!
# Products and quotients of the machine

The machine multiplies and divides mantissas exactly, shifts the result to the right and keeps two
bits of what it shifts out: the first of it, and whether there is more. That is enough to round to
the nearest number, so a product is the number nearest to the exact one, and a quotient too.
-/

namespace LandingGuidance.Binary64

open Float.Model Float.Model.UnpackedFloat

/-! ### Mantissas with two more bits -/

/-- A mantissa and the bits behind it stand for a quotient: its whole part, whether the rest is a
half or more, and whether the rest is neither a half nor nothing. -/
structure StandsFor (em : ExtendedMantissa) (a b : Nat) : Prop where
  whole : em.mantissa = a / b
  half : em.roundBit = decide (b ≤ 2 * (a % b))
  more : em.stickyBit = decide (a % b ≠ 0 ∧ 2 * (a % b) ≠ b)

theorem standsFor_of_accuracy (a : Nat) {b : Nat} (positive : 0 < b) :
    StandsFor (.ofMantissaAndAccuracy (a / b) (accuracyOfFraction (a % b) b)) a b := by
  have below := Nat.mod_lt a positive
  unfold accuracyOfFraction
  split
  next exact =>
    constructor <;> simp [ExtendedMantissa.ofMantissaAndAccuracy, exact]
    omega
  next rest =>
    rcases lt_trichotomy (2 * (a % b)) b with less | same | greater
    · rw [Nat.compare_eq_lt.mpr less]
      constructor <;> simp [ExtendedMantissa.ofMantissaAndAccuracy] <;> omega
    · rw [Nat.compare_eq_eq.mpr same]
      constructor <;> simp [ExtendedMantissa.ofMantissaAndAccuracy] <;> omega
    · rw [Nat.compare_eq_gt.mpr greater]
      constructor <;> simp [ExtendedMantissa.ofMantissaAndAccuracy] <;> omega

theorem StandsFor.shiftRightOne {em : ExtendedMantissa} {a b : Nat} (positive : 0 < b)
    (stands : StandsFor em a b) : StandsFor em.shiftRightOne a (b * 2) := by
  obtain ⟨whole, half, more⟩ := stands
  have below := Nat.mod_lt a positive
  -- The bit that is shifted out says whether the rest has the old unit in it.
  have rest : a % (b * 2) = a % b + b * (a / b % 2) := Nat.mod_mul
  constructor
  · rw [ExtendedMantissa.shiftRightOne, whole, Nat.div_div_eq_div_mul]
  · rcases Nat.mod_two_eq_zero_or_one (a / b) with parity | parity <;>
      simp [ExtendedMantissa.shiftRightOne, whole, rest, parity] <;> omega
  · simp only [ExtendedMantissa.shiftRightOne, half, more, rest, ← Bool.decide_or]
    congr 1
    rcases Nat.mod_two_eq_zero_or_one (a / b) with parity | parity <;>
      simp only [parity, eq_iff_iff] <;> omega

theorem StandsFor.shiftRight {em : ExtendedMantissa} {a b : Nat} (positive : 0 < b)
    (stands : StandsFor em a b) (shift : Nat) : StandsFor (em >>> shift) a (b * 2 ^ shift) := by
  change StandsFor (Nat.repeat ExtendedMantissa.shiftRightOne shift em) a (b * 2 ^ shift)
  induction shift with
  | zero => simpa [Nat.repeat] using stands
  | succ shift ih =>
    rw [Nat.repeat, pow_succ, ← mul_assoc]
    exact ih.shiftRightOne (Nat.mul_pos positive (Nat.two_pow_pos shift))

/-- Two bits behind the mantissa are enough to round it. -/
theorem StandsFor.roundedMantissa {em : ExtendedMantissa} {a b : Nat}
    (stands : StandsFor em a b) : em.roundedMantissa = roundQuotient a b := by
  obtain ⟨mantissa, half, more⟩ := em
  obtain ⟨rfl, rfl, rfl⟩ := stands
  unfold roundQuotient ExtendedMantissa.roundedMantissa
  -- Both ask whether the rest is less than a half, a half or more.
  rcases lt_trichotomy (2 * (a % b)) b with less | same | greater
  · rw [if_pos less, decide_eq_false (not_le.mpr less)]
    cases decide (a % b ≠ 0 ∧ 2 * (a % b) ≠ b) <;> rfl
  · rw [if_neg same.not_lt, if_neg same.not_gt, decide_eq_true same.ge,
      decide_eq_false (fun more => more.2 same)]
    rfl
  · have more : a % b ≠ 0 ∧ 2 * (a % b) ≠ b := by omega
    rw [if_neg greater.not_gt, if_pos greater, decide_eq_true greater.le, decide_eq_true more]
    rfl

/-! ### Equal quotients -/

theorem roundQuotient_mul (a b : Nat) {k : Nat} (positive : 0 < k) :
    roundQuotient (a * k) (b * k) = roundQuotient a b := by
  unfold roundQuotient
  simp only [Nat.mul_div_mul_right _ _ positive, Nat.mul_mod_mul_right, ← mul_assoc,
    Nat.mul_lt_mul_right positive]

theorem roundQuotient_congr {a b c d : Nat} (hb : 0 < b) (hd : 0 < d) (same : a * d = c * b) :
    roundQuotient a b = roundQuotient c d := by
  rw [← roundQuotient_mul a b hd, same, mul_comm b d, roundQuotient_mul c d hb]

theorem lastPlace_congr {a b c d : Nat} (ha : 0 < a) (hb : 0 < b) (hc : 0 < c) (hd : 0 < d)
    (same : a * d = c * b) : lastPlace a b = lastPlace c d := by
  have quotient : (a / b : ℚ) = c / d := by
    rw [div_eq_div_iff (by positivity) (by positivity)]
    exact_mod_cast same
  have spec := logQuotient_spec hc hd
  rw [← quotient] at spec
  rw [lastPlace, lastPlace, logQuotient_eq ha hb spec.1 spec.2]

theorem nearestBits_congr {a b c d : Nat} (hb : 0 < b) (hd : 0 < d) (same : a * d = c * b) :
    nearestBits a b = nearestBits c d := by
  rcases Nat.eq_zero_or_pos a with rfl | ha
  · have zero : c = 0 := by
      rw [zero_mul] at same
      exact (Nat.mul_eq_zero.mp same.symm).resolve_right hb.ne'
    rw [zero, nearestBits, nearestBits, if_pos rfl, if_pos rfl]
  · have hc : 0 < c := Nat.pos_of_mul_pos_right (same ▸ Nat.mul_pos ha hd)
    have place := lastPlace_congr ha hb hc hd same
    have mantissa : nearestMantissa a b = nearestMantissa c d := by
      rw [nearestMantissa, nearestMantissa, ← place]
      apply roundQuotient_congr (Nat.mul_pos hb (Nat.pow_pos two_pos))
        (Nat.mul_pos hd (Nat.pow_pos two_pos))
      simp only [Nat.pow_eq]
      linear_combination 2 ^ (-lastPlace a b).toNat * 2 ^ (lastPlace a b).toNat * same
    rw [nearestBits_of_pos b ha, nearestBits_of_pos d hc, place, mantissa]

/-- The number nearest to a quotient depends on the quotient only. -/
theorem nearest_congr (negative : Bool) {a b c d : Nat} (hb : 0 < b) (hd : 0 < d)
    (same : a * d = c * b) : nearest negative a b = nearest negative c d := by
  rw [nearest, nearest, nearestBits_congr hb hd same]

/-! ### Rounding in two shifts -/

section

variable {a b : Nat} (ha : 0 < a) (hb : 0 < b) (e : Int)

/-- The numerator of a quotient times a power of two. -/
def scaledUp (a : Nat) (e : Int) : Nat := a * Nat.pow 2 e.toNat

/-- The denominator of a quotient times a power of two. -/
def scaledDown (b : Nat) (e : Int) : Nat := b * Nat.pow 2 (-e).toNat

include ha hb

theorem scaled_pos : 0 < scaledUp a e ∧ 0 < scaledDown b e :=
  ⟨Nat.mul_pos ha (Nat.pow_pos two_pos), Nat.mul_pos hb (Nat.pow_pos two_pos)⟩

/-- The machine takes the exponent of the nearest number for its target, where that is not below the
exponent it has. -/
theorem targetExponent_eq (low : e ≤ lastPlace (scaledUp a e) (scaledDown b e)) :
    Format.binary64.targetExponent (totalExponent (a / b) e) =
      lastPlace (scaledUp a e) (scaledDown b e) := by
  obtain ⟨hu, hd⟩ := scaled_pos ha hb e
  have pos : (0 : ℚ) < b := by exact_mod_cast hb
  have unit : (0 : ℚ) < 2 ^ e := by positivity
  have value : (scaledUp a e : ℚ) / scaledDown b e = a / b * 2 ^ e := scaled_quotient a b e
  have digits : (Format.binary64.mantissaBits : Int) = 53 := rfl
  have least : Format.binary64.minExponent = -1074 := rfl
  have upper : (a / b : ℚ) < (a / b : ℕ) + 1 := by
    rw [div_lt_iff₀ pos]
    exact_mod_cast Nat.lt_mul_of_div_lt (Nat.lt_succ_self (a / b)) hb
  rcases Nat.eq_zero_or_pos (a / b) with zero | positive
  · -- A quotient below the unit is to be rounded at the least exponent.
    have below : (2 : ℚ) ^ logQuotient (scaledUp a e) (scaledDown b e) < 2 ^ e := by
      refine (logQuotient_spec hu hd).1.trans_lt ?_
      rw [value]
      rw [zero, Nat.cast_zero, zero_add] at upper
      exact mul_lt_of_lt_one_left unit upper
    have := (zpow_lt_zpow_iff_right₀ (one_lt_two (α := ℚ))).mp below
    simp only [lastPlace, leastExponent, Format.targetExponent, totalExponent, zero, digits, least,
      Nat.log2_zero] at low ⊢
    omega
  · have lower : ((a / b : ℕ) : ℚ) ≤ a / b := Nat.cast_div_le
    have log : logQuotient (scaledUp a e) (scaledDown b e) = (a / b).log2 + e := by
      apply logQuotient_eq hu hd
      · rw [value, zpow_add₀ two_ne_zero, zpow_natCast]
        gcongr
        refine le_trans ?_ lower
        exact_mod_cast Nat.log2_self_le positive.ne'
      · rw [value, add_right_comm, zpow_add₀ two_ne_zero]
        gcongr
        refine upper.trans_le ?_
        have := Nat.lt_log2_self (n := a / b)
        exact_mod_cast this
    simp only [lastPlace, leastExponent, Format.targetExponent, totalExponent, digits, least, log]
    omega

omit ha in
theorem nearestMantissa_scaled (low : e ≤ lastPlace (scaledUp a e) (scaledDown b e)) :
    nearestMantissa (scaledUp a e) (scaledDown b e) =
      roundQuotient a (b * 2 ^ (lastPlace (scaledUp a e) (scaledDown b e) - e).toNat) := by
  generalize place : lastPlace (scaledUp a e) (scaledDown b e) = p at low
  rw [nearestMantissa, place]
  -- Both are the same quotient in units of the place, with the powers on other sides.
  have powers :
      2 ^ e.toNat * 2 ^ (-p).toNat * 2 ^ (p - e).toNat = 2 ^ (-e).toNat * 2 ^ p.toNat := by
    rw [← pow_add, ← pow_add, ← pow_add]
    congr 1
    omega
  apply roundQuotient_congr
  · exact Nat.mul_pos (Nat.mul_pos hb (Nat.pow_pos two_pos)) (Nat.pow_pos two_pos)
  · exact Nat.mul_pos hb (Nat.two_pow_pos _)
  · simp only [scaledUp, scaledDown, Nat.pow_eq]
    linear_combination a * b * powers

end

/-! ### Packing -/

theorem ofModel_pack (u : UnpackedFloat) :
    Float.ofModel (Float.Model.pack u) =
      Float.ofBits (UInt64.ofNat (UnpackedFloat.pack Format.binary64 u).toNat) := by
  have stored : (UInt64.ofNat (UnpackedFloat.pack Format.binary64 u).toNat).toBitVec =
      UnpackedFloat.pack Format.binary64 u := by
    rw [UInt64.toBitVec_ofNat', BitVec.ofNat_toNat]
    exact BitVec.setWidth_eq _
  have packed : UnpackedFloat.pack Format.binary64 (UnpackedFloat.unpack Format.binary64
      (UnpackedFloat.pack Format.binary64 u)) = UnpackedFloat.pack Format.binary64 u :=
    pack_unpack_of_valid valid_pack
  have model : Float.Model.pack u =
      Float.Model.ofBits (UInt64.ofNat (UnpackedFloat.pack Format.binary64 u).toNat) := by
    simp only [Float.Model.ofBits, Float.Model.pack, stored, packed]
  rw [model]
  rfl

theorem toNat_packComponents (sign : Sign) (exponent : BitVec 11) (mantissa : BitVec 52) :
    (packComponents Format.binary64 sign exponent mantissa).toNat =
      (if sign == .negative then 2 ^ 63 else 0) + (exponent.toNat * 2 ^ 52 + mantissa.toNat) := by
  have signBit : sign.toBitVec.toNat = if sign == .negative then 1 else 0 := by
    cases sign <;> rfl
  rw [packComponents, BitVec.toNat_append, ← Nat.shiftLeft_add_eq_or_of_lt mantissa.isLt,
    BitVec.toNat_append, ← Nat.shiftLeft_add_eq_or_of_lt exponent.isLt, Nat.shiftLeft_eq,
    Nat.shiftLeft_eq, signBit]
  split <;> omega

/-- What the machine packs a mantissa and its exponent to. Exponents that are too large give
infinity. -/
theorem ofModel_pack_finite (sign : Sign) {mantissa : Nat} {exponent : Int}
    (normal : Normal mantissa exponent) (positive : 0 < mantissa) :
    Float.ofModel (Float.Model.pack (.finite sign mantissa exponent positive)) =
      signed (sign == .negative)
        (min infinityBits ((exponent - leastExponent).toNat * Nat.pow 2 52 + mantissa)) := by
  obtain ⟨bounded, least, full⟩ := normal
  obtain ⟨place, rfl⟩ : ∃ place : Nat, exponent = leastExponent + place :=
    ⟨(exponent - leastExponent).toNat, by omega⟩
  have bias : (leastExponent + place + Format.binary64.exponentBias + (52 : Nat)).toNat =
      place + 1 := by
    have : (Format.binary64.exponentBias : Int) = 1023 := rfl
    rw [leastExponent]
    omega
  have digits : Format.binary64.mantissaBits = 53 := rfl
  rw [add_sub_cancel_left, Int.toNat_natCast, ofModel_pack, signed]
  congr 2
  have total : ∀ bits : Nat, (if sign == .negative then 2 ^ 63 else 0) + bits =
      if sign == .negative then Nat.pow 2 63 + bits else bits := by
    intro bits
    split <;> simp
  simp only [UnpackedFloat.pack, bias, digits]
  rw [← total]
  split
  next large =>
    have fullMantissa : 2 ^ 52 ≤ mantissa := by omega
    have last : (-1#11).toNat = 2047 := rfl
    have none : (0#52).toNat = 0 := rfl
    rw [packedInfinity, toNat_packComponents]
    congr 1
    change (-1#11).toNat * 2 ^ 52 + (0#52).toNat = _
    rw [last, none]
    simp only [infinityBits, Nat.pow_eq]
    omega
  next small =>
    split
    next stored =>
      have fullMantissa : 2 ^ 52 ≤ mantissa := by
        have := Nat.log2_self_le positive.ne'
        rwa [Nat.add_right_cancel stored] at this
      rw [toNat_packComponents]
      congr 1
      simp only [infinityBits, Nat.pow_eq, BitVec.toNat_ofNat]
      omega
    next short =>
      have low : mantissa < 2 ^ 52 := by
        have := (Nat.log2_lt positive.ne').mpr bounded
        exact (Nat.log2_lt positive.ne').mp (by omega)
      rw [toNat_packComponents]
      congr 1
      simp only [infinityBits, Nat.pow_eq, BitVec.toNat_ofNat]
      omega

theorem ofModel_pack_zero (sign : Sign) :
    Float.ofModel (Float.Model.pack (.zero sign)) = signed (sign == .negative) 0 := by
  cases sign <;> rfl

/-! ### Rounding to the nearest number -/

/-- A mantissa of 53 bits is not shifted. -/
theorem shiftToTargetExponent_of_fits {mantissa : Nat} {place : Int} (bounded : mantissa < 2 ^ 53)
    (least : leastExponent ≤ place) :
    shiftToTargetExponent Format.binary64 mantissa place .exact =
      (⟨mantissa, false, false⟩, place) := by
  have digits : (Format.binary64.mantissaBits : Int) = 53 := rfl
  have lowest : Format.binary64.minExponent = -1074 := rfl
  have log : mantissa.log2 ≤ 52 := by
    rcases Nat.eq_zero_or_pos mantissa with rfl | positive
    · simp
    · exact Nat.le_of_lt_succ ((Nat.log2_lt positive.ne').mpr bounded)
  have shift :
      (Format.binary64.targetExponent (totalExponent mantissa place) - place).toNat = 0 := by
    rw [leastExponent] at least
    simp only [Format.targetExponent, totalExponent, digits, lowest]
    omega
  simp only [shiftToTargetExponent, shiftToExponent, shift]
  rw [Nat.cast_zero, add_zero]
  rfl

/-- A mantissa that was rounded up to 54 bits is shifted by one. -/
theorem shiftToTargetExponent_of_carries {place : Int} (least : leastExponent ≤ place) :
    shiftToTargetExponent Format.binary64 (2 ^ 53) place .exact =
      (⟨2 ^ 52, false, false⟩, place + 1) := by
  have digits : (Format.binary64.mantissaBits : Int) = 53 := rfl
  have lowest : Format.binary64.minExponent = -1074 := rfl
  have shift :
      (Format.binary64.targetExponent (totalExponent (2 ^ 53) place) - place).toNat = 1 := by
    rw [leastExponent] at least
    simp only [Format.targetExponent, totalExponent, digits, lowest, Nat.log2_two_pow]
    omega
  simp only [shiftToTargetExponent, shiftToExponent, shift]
  rfl

/-- What the machine rounds a quotient to, at an exponent that is not above the one for the nearest
number. -/
theorem ofModel_pack_round {a b : Nat} (ha : 0 < a) (hb : 0 < b) {e : Int}
    (low : e ≤ lastPlace (scaledUp a e) (scaledDown b e)) (sign : Sign) :
    Float.ofModel (Float.Model.pack (roundWithAccuracy Format.binary64 sign (a / b) e
      (accuracyOfFraction (a % b) b))) =
      nearest (sign == .negative) (scaledUp a e) (scaledDown b e) := by
  obtain ⟨hu, hd⟩ := scaled_pos ha hb e
  have target := targetExponent_eq ha hb e low
  have mantissa := nearestMantissa_scaled hb e low
  have least : leastExponent ≤ lastPlace (scaledUp a e) (scaledDown b e) := le_max_left _ _
  have full := nearestMantissa_full hu hd
  have bounded := nearestMantissa_le hu hd
  rw [nearest, nearestBits_of_pos _ hu]
  generalize lastPlace (scaledUp a e) (scaledDown b e) = place at *
  generalize nearestMantissa (scaledUp a e) (scaledDown b e) = rounded at *
  -- The first shift goes to the place of the nearest number. The second one is for a mantissa that
  -- was rounded up to 54 bits.
  have stands := (standsFor_of_accuracy a hb).shiftRight hb (place - e).toNat
  have first : shiftToTargetExponent Format.binary64 (a / b) e (accuracyOfFraction (a % b) b) =
      (ExtendedMantissa.ofMantissaAndAccuracy (a / b) (accuracyOfFraction (a % b) b) >>>
        (place - e).toNat, place) := by
    have shifted : e + ((place - e).toNat : Int) = place := by omega
    simp only [shiftToTargetExponent, shiftToExponent, target, shifted]
  unfold roundWithAccuracy
  rw [first]
  dsimp only
  rw [stands.roundedMantissa, ← mantissa]
  rcases bounded.lt_or_eq with fits | rfl
  · rw [shiftToTargetExponent_of_fits fits least]
    dsimp only
    split
    next zero =>
      -- Only at the least exponent is a quotient rounded to nothing.
      have lowest : place = leastExponent := full.resolve_left (by omega)
      rw [ofModel_pack_zero, lowest, zero, sub_self]
      rfl
    next nonzero =>
      exact ofModel_pack_finite sign ⟨fits, least, full⟩ _
  · rw [shiftToTargetExponent_of_carries least]
    have carried : (place - leastExponent).toNat * Nat.pow 2 52 + 2 ^ 53 =
        (place + 1 - leastExponent).toNat * Nat.pow 2 52 + 2 ^ 52 := by
      simp only [Nat.pow_eq]
      omega
    rw [carried]
    dsimp only
    rw [dif_neg (by norm_num)]
    exact ofModel_pack_finite sign ⟨by norm_num, by omega, .inl le_rfl⟩ _

theorem le_lastPlace {a b : Nat} (ha : 0 < a) (hb : 0 < b) {place : Int}
    (large : (2 : ℚ) ^ (place + 52) ≤ a / b) : place ≤ lastPlace a b := by
  have := (zpow_lt_zpow_iff_right₀ (one_lt_two (α := ℚ))).mp
    (large.trans_lt (logQuotient_spec ha hb).2)
  rw [lastPlace]
  omega

/-! ### Products and quotients -/

theorem exists_unpack {x : Float} {negative : Bool} {mantissa : Nat} {exponent : Int}
    (finite : ofFloat x = .finite negative mantissa exponent) (positive : 0 < mantissa) :
    ∃ sign : Sign, x.toModel.unpack = .finite sign mantissa exponent positive ∧
      (sign == .negative) = negative := by
  rw [ofFloat_eq_unpack] at finite
  cases unpacked : x.toModel.unpack with
  | notANumber | infinity =>
    rw [unpacked] at finite
    cases finite
  | zero =>
    rw [unpacked] at finite
    cases finite
    exact absurd positive (lt_irrefl 0)
  | finite sign m e pos =>
    rw [unpacked] at finite
    cases finite
    exact ⟨sign, rfl, rfl⟩

section

variable {x y : Float} {s t : Bool} {m n : Nat} {e f : Int}
  (hx : ofFloat x = .finite s m e) (hy : ofFloat y = .finite t n f) (hm : 0 < m) (hn : 0 < n)

include hx hy hm hn

/-- A product of the machine is the number nearest to the exact product. -/
theorem mul_eq_nearest :
    x * y = nearest (s ^^ t) (scaledUp (m * n) (e + f)) (scaledDown 1 (e + f)) := by
  have normalX := normal_ofFloat hx
  have normalY := normal_ofFloat hy
  have positive : 0 < m * n := Nat.mul_pos hm hn
  obtain ⟨hu, hd⟩ := scaled_pos positive one_pos (e + f)
  have low : e + f ≤ lastPlace (scaledUp (m * n) (e + f)) (scaledDown 1 (e + f)) := by
    have value : (scaledUp (m * n) (e + f) : ℚ) / scaledDown 1 (e + f) =
        ((m * n : ℕ) : ℚ) / (1 : ℕ) * 2 ^ (e + f) := scaled_quotient (m * n) 1 (e + f)
    -- If one of the mantissas is full, the product has as many bits at least.
    have large : 2 ^ 52 ≤ m * n →
        e + f ≤ lastPlace (scaledUp (m * n) (e + f)) (scaledDown 1 (e + f)) := by
      intro full
      apply le_lastPlace hu hd
      rw [value, Nat.cast_one, div_one, add_comm, zpow_add₀ two_ne_zero]
      gcongr
      exact_mod_cast full
    rcases normalX.full with fullX | leastX
    · exact large (fullX.trans (Nat.le_mul_of_pos_right m hn))
    rcases normalY.full with fullY | leastY
    · exact large (fullY.trans (Nat.le_mul_of_pos_left n hm))
    · refine le_trans ?_ (le_max_left _ _)
      rw [leastX, leastY, leastExponent]
      omega
  obtain ⟨sign, unpackX, rfl⟩ := exists_unpack hx hm
  obtain ⟨sign', unpackY, rfl⟩ := exists_unpack hy hn
  have product := ofModel_pack_round positive one_pos low (sign * sign')
  have signs : (sign * sign' == .negative) = ((sign == .negative) ^^ (sign' == .negative)) := by
    cases sign <;> cases sign' <;> rfl
  rw [Nat.div_one, Nat.mod_one, signs] at product
  rw [← product]
  change Float.ofModel (Float.Model.pack (UnpackedFloat.mul Format.binary64 x.toModel.unpack
    y.toModel.unpack)) = _
  rw [unpackX, unpackY]
  rfl

end

/-- The exponent that the machine divides at is not above the one for the nearest number. -/
theorem le_lastPlace_quotient {m n : Nat} (hm : 0 < m) (hn : 0 < n) {c e f : Int}
    (low : c ≤ Format.binary64.targetExponent (totalExponent m e - totalExponent n f)) :
    c ≤ lastPlace (scaledUp m (e - f)) (scaledDown n (e - f)) := by
  have digits : (Format.binary64.mantissaBits : Int) = 53 := rfl
  have lowest : Format.binary64.minExponent = -1074 := rfl
  obtain ⟨hu, hd⟩ := scaled_pos hm hn (e - f)
  rw [Format.targetExponent, digits, lowest] at low
  rcases le_max_iff.mp low with above | least
  · apply le_lastPlace hu hd
    have value : (scaledUp m (e - f) : ℚ) / scaledDown n (e - f) = m / n * 2 ^ (e - f) :=
      scaled_quotient m n (e - f)
    have lower : (2 : ℚ) ^ m.log2 ≤ m := by exact_mod_cast Nat.log2_self_le hm.ne'
    have upper : (n : ℚ) ≤ 2 ^ (n.log2 + 1) := by exact_mod_cast (Nat.lt_log2_self (n := n)).le
    have pos : (0 : ℚ) < n := by exact_mod_cast hn
    rw [value]
    simp only [totalExponent] at above
    calc (2 : ℚ) ^ (c + 52) ≤ 2 ^ ((m.log2 - (n.log2 + 1 : ℕ) : ℤ) + (e - f)) :=
          zpow_le_zpow_right₀ one_le_two (by push_cast; omega)
      _ = 2 ^ m.log2 / 2 ^ (n.log2 + 1) * 2 ^ (e - f) := by
          rw [zpow_add₀ two_ne_zero, zpow_sub₀ two_ne_zero, zpow_natCast, zpow_natCast]
      _ ≤ m / n * 2 ^ (e - f) := by gcongr
  · exact least.trans (le_max_left _ _)

section

variable {x y : Float} {s t : Bool} {m n : Nat} {e f : Int}
  (hx : ofFloat x = .finite s m e) (hy : ofFloat y = .finite t n f) (hm : 0 < m) (hn : 0 < n)

include hx hy hm hn

/-- A quotient of the machine is the number nearest to the exact quotient. -/
theorem div_eq_nearest :
    x / y = nearest (s ^^ t) (scaledUp m (e - f)) (scaledDown n (e - f)) := by
  obtain ⟨sign, unpackX, rfl⟩ := exists_unpack hx hm
  obtain ⟨sign', unpackY, rfl⟩ := exists_unpack hy hn
  have signs : (sign / sign' == .negative) = ((sign == .negative) ^^ (sign' == .negative)) := by
    cases sign <;> cases sign' <;> rfl
  -- The numerator is shifted to the left, which lowers its exponent by as much.
  let c := min (e - f)
    (Format.binary64.targetExponent (totalExponent m e - totalExponent n f))
  let k := (e - f - c).toNat
  have shifted : 0 < m <<< k := by
    rw [Nat.shiftLeft_eq]
    exact Nat.mul_pos hm (Nat.two_pow_pos k)
  obtain ⟨hu, hd⟩ := scaled_pos shifted hn c
  obtain ⟨hu', hd'⟩ := scaled_pos hm hn (e - f)
  have same : scaledUp (m <<< k) c * scaledDown n (e - f) =
      scaledUp m (e - f) * scaledDown n c := by
    have powers : 2 ^ k * 2 ^ c.toNat * 2 ^ (-(e - f)).toNat =
        2 ^ (e - f).toNat * 2 ^ (-c).toNat := by
      rw [← pow_add, ← pow_add, ← pow_add]
      congr 1
      omega
    simp only [scaledUp, scaledDown, Nat.shiftLeft_eq, Nat.pow_eq]
    linear_combination m * n * powers
  have low : c ≤ lastPlace (scaledUp (m <<< k) c) (scaledDown n c) := by
    rw [lastPlace_congr hu hd hu' hd' same]
    exact le_lastPlace_quotient hm hn (min_le_right _ _)
  have quotient := ofModel_pack_round shifted hn low (sign / sign')
  rw [signs, nearest_congr _ hd hd' same] at quotient
  rw [← quotient]
  change Float.ofModel (Float.Model.pack (UnpackedFloat.div Format.binary64 x.toModel.unpack
    y.toModel.unpack)) = _
  rw [unpackX, unpackY]
  rfl

end

/-! ### Negation -/

theorem neg_of_finite {x : Float} {s : Bool} {m : Nat} {e : Int} (hx : ofFloat x = .finite s m e) :
    -x = signed (!s) ((e - leastExponent).toNat * Nat.pow 2 52 + m) := by
  obtain ⟨normal, high⟩ := normal_and_exponent_le hx
  have flip : ∀ sign : Sign, (-sign == .negative) = !(sign == .negative) := by
    intro sign
    cases sign <;> rfl
  change Float.ofModel (Float.Model.pack x.toModel.unpack.neg) = _
  rcases Nat.eq_zero_or_pos m with rfl | positive
  · -- A zero has a constructor of its own.
    obtain rfl := normal.full.resolve_left (by norm_num)
    rw [ofFloat_eq_unpack] at hx
    cases unpacked : x.toModel.unpack with
    | notANumber | infinity =>
      rw [unpacked] at hx
      cases hx
    | finite sign m e pos =>
      rw [unpacked] at hx
      cases hx
      exact absurd pos (lt_irrefl 0)
    | zero sign =>
      rw [unpacked] at hx
      cases hx
      rw [UnpackedFloat.neg, ofModel_pack_zero, flip, sub_self]
      rfl
  · obtain ⟨sign, unpacked, rfl⟩ := exists_unpack hx positive
    have inRange : (e - leastExponent).toNat * Nat.pow 2 52 + m ≤ infinityBits := by
      have := normal.bounded
      simp only [infinityBits, Nat.pow_eq, leastExponent]
      omega
    rw [unpacked, UnpackedFloat.neg, ofModel_pack_finite _ normal, flip, min_eq_right inRange]

theorem ofFloat_neg {x : Float} {s : Bool} {m : Nat} {e : Int} (hx : ofFloat x = .finite s m e) :
    ofFloat (-x) = .finite (!s) m e := by
  obtain ⟨normal, high⟩ := normal_and_exponent_le hx
  rw [neg_of_finite hx, ofFloat_signed_of_normal _ normal high]

theorem neg_nearest {a b m : Nat} {e : Int} (hx : ofFloat (nearest false a b) = .finite false m e) :
    -nearest false a b = nearest true a b := by
  have inRange := nearestBits_le a b
  -- The mantissa and the exponent are those of the bits, which the negation keeps.
  have bits : (e - leastExponent).toNat * Nat.pow 2 52 + m = nearestBits a b := by
    have bounded : nearestBits a b ≤ 2047 * 2 ^ 52 := inRange
    rw [nearest, ofFloat_signed false inRange, ofBits_signed false (by omega)] at hx
    rw [Nat.pow_eq]
    split at hx
    next => split at hx <;> cases hx
    next =>
      split at hx
      all_goals
        cases hx
        omega
  rw [neg_of_finite hx, bits]
  rfl

end LandingGuidance.Binary64

import Mathlib
import LandingGuidance.Proofs.DoubleOrder

/-!
# The rational numbers that doubles stand for

The bits of a double are read as the machine reads them, so a finite double stands for a rational
number, and the order of the machine is that of the rational numbers.
-/

namespace LandingGuidance.Binary64

open Float.Model Float.Model.UnpackedFloat

/-- What the machine takes a number apart into, as a reading of its bits. -/
def ofUnpacked : UnpackedFloat → Binary64
  | .notANumber => .undefined
  | .infinity sign => .infinite (sign == .negative)
  | .zero sign => .finite (sign == .negative) 0 leastExponent
  | .finite sign mantissa exponent _ => .finite (sign == .negative) mantissa exponent

private theorem sign_of_bits (b : BitVec 64) :
    (Sign.ofBitVec (@unpackSign Format.binary64 b) == .negative) =
      decide (2 ^ 63 ≤ b.toNat) := by
  have sign : (@unpackSign Format.binary64 b).toNat = b.toNat / 2 ^ 63 % 2 := by
    simp [unpackSign, Nat.shiftRight_eq_div_pow]
  have bound := b.isLt
  unfold Sign.ofBitVec
  split
  next zero =>
    rw [zero] at sign
    have below : ¬2 ^ 63 ≤ b.toNat := by
      simp only [BitVec.toNat_ofNat] at sign
      omega
    rw [decide_eq_false below]
    rfl
  next nonzero =>
    have above : 2 ^ 63 ≤ b.toNat := by
      by_contra below
      apply nonzero
      apply BitVec.eq_of_toNat_eq
      rw [sign]
      simp only [BitVec.toNat_ofNat]
      omega
    rw [decide_eq_true above]
    rfl

/-- The bits are read as the machine reads them. -/
theorem ofBits_eq_unpack (b : BitVec 64) :
    ofBits b.toNat = ofUnpacked (UnpackedFloat.unpack Format.binary64 b) := by
  have exponent : (@unpackExponent Format.binary64 b).toNat =
      b.toNat / 2 ^ 52 % 2 ^ 11 := by
    simp [unpackExponent, Nat.shiftRight_eq_div_pow]
  have mantissa : (@unpackMantissa Format.binary64 b).toNat = b.toNat % 2 ^ 52 := by
    simp [unpackMantissa]
  unfold ofBits UnpackedFloat.unpack
  simp only [Nat.pow_eq]
  rw [← exponent, ← mantissa, ← sign_of_bits]
  -- The largest exponent is kept for the infinite and the undefined.
  by_cases largest : (@unpackExponent Format.binary64 b).toNat = 2047
  · rw [if_pos largest, if_pos (BitVec.eq_of_toNat_eq largest)]
    by_cases zero : (@unpackMantissa Format.binary64 b).toNat = 0
    · rw [if_pos zero, if_pos (BitVec.eq_of_toNat_eq zero)]
      rfl
    · rw [if_neg zero, if_neg (fun equal => zero (congrArg BitVec.toNat equal))]
      rfl
  rw [if_neg largest, if_neg (fun equal => largest (congrArg BitVec.toNat equal))]
  -- The least one is that of zero and of the mantissas with fewer bits.
  by_cases least : (@unpackExponent Format.binary64 b).toNat = 0
  · rw [if_pos least, if_pos (BitVec.eq_of_toNat_eq least), least]
    by_cases zero : (@unpackMantissa Format.binary64 b).toNat = 0
    · rw [dif_pos (BitVec.eq_of_toNat_eq zero), zero]
      rfl
    · rw [dif_neg (fun equal => zero (congrArg BitVec.toNat equal))]
      rfl
  · rw [if_neg least, if_neg (fun equal => least (congrArg BitVec.toNat equal))]
    -- A full mantissa is stored without its first bit.
    have full : (1#1 ++ @unpackMantissa Format.binary64 b).toNat =
        2 ^ 52 + (@unpackMantissa Format.binary64 b).toNat := by
      rw [BitVec.toNat_append, ← Nat.shiftLeft_add_eq_or_of_lt (BitVec.isLt _)]
      rfl
    have place : leastExponent + ((@unpackExponent Format.binary64 b).toNat - 1 : Nat) =
        ((@unpackExponent Format.binary64 b).toNat : Int)
          - (Format.binary64.exponentBias + 52) := by
      have bias : Format.binary64.exponentBias = 1023 := rfl
      rw [bias, leastExponent]
      omega
    rw [ofUnpacked, full, place]
    rfl

theorem ofFloat_eq_unpack (x : Float) : ofFloat x = ofUnpacked x.toModel.unpack :=
  ofBits_eq_unpack x.toModel.toBits.toBitVec

/-- A mantissa has 53 bits, or fewer at the least exponent. -/
structure Normal (mantissa : Nat) (exponent : Int) : Prop where
  bounded : mantissa < 2 ^ 53
  least_le : leastExponent ≤ exponent
  full : 2 ^ 52 ≤ mantissa ∨ exponent = leastExponent

/-- The largest exponent of a finite number is that of `(2 ^ 53 - 1) * 2 ^ 971`. -/
theorem normal_and_exponent_le {x : Float} {negative : Bool} {mantissa : Nat} {exponent : Int}
    (finite : ofFloat x = .finite negative mantissa exponent) :
    Normal mantissa exponent ∧ exponent ≤ 971 := by
  have fraction := Nat.mod_lt x.toBits.toNat (Nat.two_pow_pos 52)
  have field := Nat.mod_lt (x.toBits.toNat / 2 ^ 52) (Nat.two_pow_pos 11)
  unfold ofFloat ofBits at finite
  simp only [Nat.pow_eq] at finite
  split at finite
  next largest => split at finite <;> cases finite
  next notLargest =>
    split at finite
    next least =>
      cases finite
      exact ⟨⟨by omega, le_refl _, Or.inr rfl⟩, by decide⟩
    next higher =>
      cases finite
      exact ⟨⟨by omega, by omega, Or.inl (by omega)⟩, by rw [leastExponent]; omega⟩

theorem normal_ofFloat {x : Float} {negative : Bool} {mantissa : Nat} {exponent : Int}
    (finite : ofFloat x = .finite negative mantissa exponent) : Normal mantissa exponent :=
  (normal_and_exponent_le finite).1

/-! ### The rational number of a double -/

/-- The rational number that a finite number stands for. -/
def toRat? : Binary64 → Option ℚ
  | .finite negative mantissa exponent =>
    some (if negative then -(mantissa * 2 ^ exponent) else mantissa * 2 ^ exponent)
  | _ => none

/-- The rational number that a number of the machine stands for, if it is finite. -/
def value? (x : Float) : Option ℚ := (ofFloat x).toRat?

/-- The number with the lower exponent is the smaller one, and with one exponent the number with the
lower mantissa. -/
theorem magnitude_le {m n : Nat} {e f : Int} (hm : Normal m e) (hn : Normal n f)
    (below : e < f ∨ e = f ∧ m ≤ n) : (m : ℚ) * 2 ^ e ≤ n * 2 ^ f := by
  rcases below with lower | ⟨rfl, smaller⟩
  · -- The higher exponent is not the least one, so its mantissa is full.
    have least := hm.least_le
    have full : 2 ^ 52 ≤ n := hn.full.resolve_right (by omega)
    calc (m : ℚ) * 2 ^ e ≤ 2 ^ 53 * 2 ^ e := by gcongr; exact_mod_cast hm.bounded.le
      _ = 2 ^ 52 * 2 ^ (e + 1) := by rw [zpow_add_one₀ (by norm_num)]; ring
      _ ≤ n * 2 ^ f := by
        gcongr
        · exact_mod_cast full
        · norm_num
        · omega
  · gcongr

/-- The standing of a finite number against the rational number that it stands for. -/
theorem rank_of_value? {x : Float} {a : ℚ} (ha : value? x = some a) :
    (∃ m e, Normal m e ∧ rank x = some (toLex (-1, toLex (-e, -(m : Int)))) ∧ a = -(m * 2 ^ e)) ∨
      (rank x = some (toLex (0, toLex (0, 0))) ∧ a = 0) ∨
      ∃ m e, Normal m e ∧ rank x = some (toLex (1, toLex (e, (m : Int)))) ∧ a = m * 2 ^ e := by
  have normal := @normal_ofFloat x
  unfold value? at ha
  unfold rank
  rw [ofFloat_eq_unpack] at ha normal
  cases unpacked : x.toModel.unpack with
  | notANumber => simp [unpacked, ofUnpacked, toRat?] at ha
  | infinity sign => simp [unpacked, ofUnpacked, toRat?] at ha
  | zero sign =>
    refine Or.inr (Or.inl ⟨rfl, ?_⟩)
    simpa [unpacked, ofUnpacked, toRat?] using ha.symm
  | finite sign m e positive =>
    rw [unpacked] at ha normal
    cases sign with
    | negative => exact Or.inl ⟨m, e, normal rfl, rfl, (Option.some.inj ha).symm⟩
    | positive => exact Or.inr (Or.inr ⟨m, e, normal rfl, rfl, (Option.some.inj ha).symm⟩)

/-- Finite numbers of the machine are in the order of the rational numbers they stand for. -/
theorem value?_mono {x y : Float} {a b : ℚ} (h : x ≤ y) (ha : value? x = some a)
    (hb : value? y = some b) : a ≤ b := by
  obtain ⟨k, l, hk, hl, below⟩ := le_iff.mp h
  have nonneg (n : Nat) (f : Int) : (0 : ℚ) ≤ n * 2 ^ f := by positivity
  rcases rank_of_value? ha with ⟨m, e, hm, hx, rfl⟩ | ⟨hx, rfl⟩ | ⟨m, e, hm, hx, rfl⟩ <;>
    rcases rank_of_value? hb with ⟨n, f, hn, hy, rfl⟩ | ⟨hy, rfl⟩ | ⟨n, f, hn, hy, rfl⟩ <;>
    cases hx.symm.trans hk <;> cases hy.symm.trans hl <;>
    simp only [Prod.Lex.toLex_le_toLex] at below
  -- One case for each pair of signs; those with the signs the wrong way round contradict the order.
  · exact neg_le_neg (magnitude_le hn hm (by omega))
  · linarith [nonneg m e]
  · linarith [nonneg m e, nonneg n f]
  · omega
  · exact le_refl _
  · exact nonneg n f
  · omega
  · omega
  · exact magnitude_le hm hn (by omega)

theorem value?_one : value? 1.0 = some 1 := by
  have bits : ofFloat 1.0 = .finite false (2 ^ 52) (-52) := rfl
  rw [value?, bits, toRat?]
  norm_num

end LandingGuidance.Binary64

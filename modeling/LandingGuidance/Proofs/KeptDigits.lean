import Mathlib
import LandingGuidance.Proofs.JsonScalars
import LandingGuidance.Json.Number

/-!
# The digits of a numeral that are kept

Digits are kept as long as they fit 64 bits, so what is left over is small against what is kept, and
nothing is left over of a short numeral.
-/

namespace LandingGuidance.Json

open Decimal

/-- The digits of a numeral, as a whole number. -/
def Numeral.digits (n : Numeral) : Nat := ofDigits (n.whole ++ n.fraction)

/-- The power of ten that the digits of a numeral are multiplied by. -/
def Numeral.scale (n : Numeral) : Int := n.exponent - n.fraction.length

/-- What a numeral stands for without its sign, exactly. -/
def Numeral.magnitude (n : Numeral) : ℚ := n.digits * 10 ^ n.scale

/-- What a numeral stands for, exactly. -/
def Numeral.exact (n : Numeral) : ℚ := if n.negative then -n.magnitude else n.magnitude

/-! ### Digits that are kept -/

theorem foldl_digits (n : Nat) (cs : List Char) :
    cs.foldl (fun n c => n * 10 + digitValue c) n = n * 10 ^ cs.length + ofDigits cs := by
  induction cs generalizing n with
  | nil => simp [ofDigits]
  | cons c cs ih =>
    rw [ofDigits, List.foldl_cons, List.foldl_cons, ih, ih, List.length_cons]
    ring

theorem ofDigits_append (cs ds : List Char) :
    ofDigits (cs ++ ds) = ofDigits cs * 10 ^ ds.length + ofDigits ds := by
  rw [ofDigits, List.foldl_append, foldl_digits]
  rfl

theorem ofDigits_cons (c : Char) (cs : List Char) :
    ofDigits (c :: cs) = digitValue c * 10 ^ cs.length + ofDigits cs := by
  rw [ofDigits, List.foldl_cons, foldl_digits]
  ring

theorem digitValue_le {c : Char} (digit : c.isDigit = true) : digitValue c ≤ 9 := by
  have := bounds_of_isDigit digit
  rw [digitValue]
  omega

theorem ofDigits_lt {cs : List Char} (digits : ∀ c ∈ cs, c.isDigit = true) :
    ofDigits cs < 10 ^ cs.length := by
  induction cs with
  | nil => simp [ofDigits]
  | cons c cs ih =>
    rw [List.forall_mem_cons] at digits
    have := digitValue_le digits.1
    have := ih digits.2
    rw [ofDigits_cons, List.length_cons, pow_succ]
    nlinarith

/-- What is kept of digits behind a whole number. The digits left over are less than a unit of it,
and it is large where there are any. -/
structure Keeps (n : Nat) (cs : List Char) (kept : Nat × List Char) : Prop where
  start_le : n * 10 ^ cs.length ≤ kept.1 * 10 ^ kept.2.length
  le : kept.1 * 10 ^ kept.2.length ≤ n * 10 ^ cs.length + ofDigits cs
  lt : n * 10 ^ cs.length + ofDigits cs < (kept.1 + 1) * 10 ^ kept.2.length
  long : kept.2 ≠ [] → 2 ^ 60 ≤ kept.1

theorem keepDigits_keeps (n : Nat) {cs : List Char} (digits : ∀ c ∈ cs, c.isDigit = true) :
    Keeps n cs (keepDigits n cs) := by
  fun_induction keepDigits n cs with
  | case1 n => constructor <;> simp [ofDigits]
  | case2 n c cs next fits ih =>
    rw [List.forall_mem_cons] at digits
    obtain ⟨start_le, le, lt, long⟩ := ih digits.2
    have behind : next * 10 ^ cs.length + ofDigits cs =
        n * 10 ^ (c :: cs).length + ofDigits (c :: cs) := by
      rw [ofDigits_cons, List.length_cons]
      ring
    rw [behind] at le lt
    refine ⟨le_trans ?_ start_le, le, lt, long⟩
    rw [List.length_cons, pow_succ, ← mul_assoc, mul_right_comm]
    exact Nat.mul_le_mul_right _ (Nat.le_add_right _ _)
  | case3 n c cs next full =>
    have := digitValue_le (digits c List.mem_cons_self)
    refine ⟨le_rfl, Nat.le_add_right _ _, ?_, fun _ => ?_⟩
    · rw [add_mul, one_mul]
      exact Nat.add_lt_add_left (ofDigits_lt digits) _
    · simp only [Nat.pow_eq, next] at full
      simp only
      omega

/-- What is kept of the whole digits. -/
def Numeral.keptWhole (n : Numeral) : Nat × List Char := keepDigits 0 n.whole

/-- What is kept of the digits of the fraction behind them. -/
def Numeral.keptAll (n : Numeral) : Nat × List Char := keepDigits n.keptWhole.1 n.fraction

/-- The power of ten that belongs to the digits left over. -/
def Numeral.unitKept (n : Numeral) : Nat := 10 ^ (n.keptWhole.2.length + n.keptAll.2.length)

section

variable {n : Numeral} (hw : ∀ c ∈ n.whole, c.isDigit = true)
  (hf : ∀ c ∈ n.fraction, c.isDigit = true)

include hw in
theorem keptWhole_keeps : Keeps 0 n.whole n.keptWhole := keepDigits_keeps 0 hw

include hf in
theorem keptAll_keeps : Keeps n.keptWhole.1 n.fraction n.keptAll := keepDigits_keeps _ hf

theorem digits_eq (n : Numeral) :
    n.digits = ofDigits n.whole * 10 ^ n.fraction.length + ofDigits n.fraction :=
  ofDigits_append _ _

include hw hf

/-- What is kept of the digits stands for no more than them by one part in `2 ^ 60`. Digits of the
fraction may be kept behind whole digits that were left over. -/
theorem keptAll_le : n.keptAll.1 * n.unitKept * 2 ^ 60 ≤ n.digits * (2 ^ 60 + 1) := by
  have first := (keptWhole_keeps hw).le
  have long := (keptWhole_keeps hw).long
  have second := (keptAll_keeps hf).le
  have below := ofDigits_lt hf
  rw [zero_mul, zero_add] at first
  rw [digits_eq, Numeral.unitKept, pow_add]
  generalize n.keptWhole.1 = w at *
  generalize n.keptWhole.2 = left at *
  generalize n.keptAll = kept at *
  cases left with
  | nil =>
    -- No whole digit is left over, so the digits are kept as they are written.
    rw [List.length_nil, pow_zero, mul_one] at first
    have all : kept.1 * 10 ^ kept.2.length ≤
        ofDigits n.whole * 10 ^ n.fraction.length + ofDigits n.fraction :=
      second.trans (Nat.add_le_add_right (Nat.mul_le_mul_right _ first) _)
    rw [List.length_nil, pow_zero, one_mul]
    exact Nat.mul_le_mul all (Nat.le_succ _)
  | cons c left =>
    -- What is kept of the fraction is less than a unit of a large number.
    have long : 2 ^ 60 ≤ w := long (List.cons_ne_nil c left)
    calc kept.1 * (10 ^ (c :: left).length * 10 ^ kept.2.length) * 2 ^ 60
        = kept.1 * 10 ^ kept.2.length * 10 ^ (c :: left).length * 2 ^ 60 := by ring
      _ ≤ (w * 10 ^ n.fraction.length + 10 ^ n.fraction.length) * 10 ^ (c :: left).length *
          2 ^ 60 := by
          gcongr
          omega
      _ = (w + 1) * 2 ^ 60 * (10 ^ (c :: left).length * 10 ^ n.fraction.length) := by ring
      _ ≤ w * (2 ^ 60 + 1) * (10 ^ (c :: left).length * 10 ^ n.fraction.length) :=
          Nat.mul_le_mul_right _ (by omega)
      _ = w * 10 ^ (c :: left).length * 10 ^ n.fraction.length * (2 ^ 60 + 1) := by ring
      _ ≤ (ofDigits n.whole * 10 ^ n.fraction.length + ofDigits n.fraction) * (2 ^ 60 + 1) := by
          gcongr
          exact (Nat.mul_le_mul_right _ first).trans (Nat.le_add_right _ _)

/-- What is kept of the digits stands for no less than them by one part in `2 ^ 60`. -/
theorem le_keptAll : n.digits * 2 ^ 60 ≤ n.keptAll.1 * n.unitKept * (2 ^ 60 + 1) := by
  obtain ⟨_, first_le, first, long⟩ := keptWhole_keeps hw
  obtain ⟨start, second_le, second, longAll⟩ := keptAll_keeps hf
  have below := ofDigits_lt hf
  rw [zero_mul, zero_add] at first first_le
  rw [digits_eq, Numeral.unitKept, pow_add]
  generalize n.keptWhole.1 = w at *
  generalize n.keptWhole.2 = left at *
  generalize n.keptAll = kept at *
  cases left with
  | nil =>
    rw [List.length_nil, pow_zero, mul_one] at first first_le
    obtain rfl : ofDigits n.whole = w := by omega
    rw [List.length_nil, pow_zero, one_mul]
    rcases eq_or_ne kept.2 [] with none | some
    · rw [none, List.length_nil, pow_zero, mul_one] at second ⊢
      exact Nat.mul_le_mul (Nat.le_of_lt_succ second) (Nat.le_succ _)
    · have long := longAll some
      calc (ofDigits n.whole * 10 ^ n.fraction.length + ofDigits n.fraction) * 2 ^ 60
          ≤ (kept.1 + 1) * 10 ^ kept.2.length * 2 ^ 60 := Nat.mul_le_mul_right _ second.le
        _ = (kept.1 + 1) * 2 ^ 60 * 10 ^ kept.2.length := by ring
        _ ≤ kept.1 * (2 ^ 60 + 1) * 10 ^ kept.2.length := Nat.mul_le_mul_right _ (by omega)
        _ = kept.1 * 10 ^ kept.2.length * (2 ^ 60 + 1) := by ring
  | cons c left =>
    have long : 2 ^ 60 ≤ w := long (List.cons_ne_nil c left)
    -- All digits behind those kept of the whole ones are less than a unit of a large number.
    calc (ofDigits n.whole * 10 ^ n.fraction.length + ofDigits n.fraction) * 2 ^ 60
        ≤ (ofDigits n.whole + 1) * 10 ^ n.fraction.length * 2 ^ 60 := by
          gcongr
          rw [add_mul, one_mul]
          exact Nat.add_le_add_left below.le _
      _ ≤ (w + 1) * 10 ^ (c :: left).length * 10 ^ n.fraction.length * 2 ^ 60 := by
          gcongr
          exact first
      _ = (w + 1) * 2 ^ 60 * (10 ^ (c :: left).length * 10 ^ n.fraction.length) := by ring
      _ ≤ w * (2 ^ 60 + 1) * (10 ^ (c :: left).length * 10 ^ n.fraction.length) :=
          Nat.mul_le_mul_right _ (by omega)
      _ = w * 10 ^ n.fraction.length * (10 ^ (c :: left).length * (2 ^ 60 + 1)) := by ring
      _ ≤ kept.1 * 10 ^ kept.2.length * (10 ^ (c :: left).length * (2 ^ 60 + 1)) :=
          Nat.mul_le_mul_right _ start
      _ = kept.1 * (10 ^ (c :: left).length * 10 ^ kept.2.length) * (2 ^ 60 + 1) := by ring

/-- What is kept of a numeral is off by one part in `2 ^ 60` at most. -/
theorem abs_kept_sub_le :
    |(n.kept.1 * 10 ^ n.kept.2 : ℚ) - n.magnitude| ≤ n.magnitude / 2 ^ 60 := by
  have unit : (0 : ℚ) < 10 ^ n.scale := by positivity
  have kept : (n.kept.1 * 10 ^ n.kept.2 : ℚ) = n.keptAll.1 * n.unitKept * 10 ^ n.scale := by
    have place : n.kept.2 = (n.keptWhole.2.length + n.keptAll.2.length : ℕ) + n.scale := by
      simp only [Numeral.kept, Numeral.keptWhole, Numeral.keptAll, Numeral.scale]
      push_cast
      ring
    rw [place, zpow_add₀ (by norm_num), zpow_natCast, ← mul_assoc, Numeral.unitKept, Nat.cast_pow]
    rfl
  have above : (n.keptAll.1 * n.unitKept : ℚ) * 2 ^ 60 ≤ n.digits * (2 ^ 60 + 1) := by
    exact_mod_cast keptAll_le hw hf
  have below : (n.digits : ℚ) * 2 ^ 60 ≤ n.keptAll.1 * n.unitKept * (2 ^ 60 + 1) := by
    exact_mod_cast le_keptAll hw hf
  have near : |(n.keptAll.1 * n.unitKept : ℚ) - n.digits| ≤ n.digits / 2 ^ 60 := by
    rw [abs_le]
    constructor <;> linarith
  calc |(n.kept.1 * 10 ^ n.kept.2 : ℚ) - n.magnitude|
      = |(n.keptAll.1 * n.unitKept : ℚ) - n.digits| * 10 ^ n.scale := by
        rw [kept, Numeral.magnitude, ← sub_mul, abs_mul, abs_of_pos unit]
    _ ≤ n.digits / 2 ^ 60 * 10 ^ n.scale := by gcongr
    _ = n.magnitude / 2 ^ 60 := by
        rw [Numeral.magnitude]
        ring

end

/-- What is kept fits 64 bits, whatever the characters are. -/
theorem keepDigits_lt {n : Nat} (small : n < 2 ^ 64) (cs : List Char) :
    (keepDigits n cs).1 < 2 ^ 64 := by
  fun_induction keepDigits n cs with
  | case1 => exact small
  | case2 n c cs next fits ih => exact ih fits
  | case3 => exact small

theorem kept_lt (n : Numeral) : n.kept.1 < 2 ^ 64 :=
  keepDigits_lt (keepDigits_lt (by norm_num) n.whole) n.fraction

theorem Keeps.eq_of_lt {n : Nat} {cs : List Char} {kept : Nat × List Char} (keeps : Keeps n cs kept)
    (small : n * 10 ^ cs.length + ofDigits cs < 2 ^ 60) :
    kept = (n * 10 ^ cs.length + ofDigits cs, []) := by
  obtain ⟨k, left⟩ := kept
  obtain ⟨_, le, lt, long⟩ := keeps
  cases left with
  | nil =>
    simp only [List.length_nil, pow_zero, mul_one] at le lt
    rw [le_antisymm le (Nat.le_of_lt_succ lt)]
  | cons c left =>
    have large : 2 ^ 60 ≤ k := long (List.cons_ne_nil c left)
    have part : k ≤ k * 10 ^ (c :: left).length :=
      Nat.le_mul_of_pos_right k (Nat.pow_pos (by norm_num))
    exact absurd (large.trans (part.trans le)) small.not_ge

/-- All digits of a short numeral are kept. -/
theorem kept_of_short {n : Numeral} (hw : ∀ c ∈ n.whole, c.isDigit = true)
    (hf : ∀ c ∈ n.fraction, c.isDigit = true) (short : n.digits < 2 ^ 53) :
    n.kept = (n.digits, n.scale) := by
  rw [digits_eq] at short ⊢
  have whole : ofDigits n.whole ≤ ofDigits n.whole * 10 ^ n.fraction.length :=
    Nat.le_mul_of_pos_right _ (Nat.pow_pos (by norm_num))
  have first := (keptWhole_keeps hw).eq_of_lt (by omega)
  rw [zero_mul, zero_add] at first
  have second := keptAll_keeps hf
  rw [first] at second
  dsimp only at second
  have all := second.eq_of_lt (by omega)
  have kept : n.kept = (n.keptAll.1, n.exponent + n.keptWhole.2.length + n.keptAll.2.length -
    n.fraction.length) := rfl
  rw [kept, all, first, Numeral.scale]
  simp

end LandingGuidance.Json

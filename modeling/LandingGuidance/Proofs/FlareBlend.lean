import Mathlib
import LandingGuidance.Guidance.Flare
import LandingGuidance.Proofs.ExactArithmetic

/-!
# The blend of the flare

A flare goes by the part of it that is still to come: that part of the throttle is left, and that
part of the way from the flare pitch back to the pitch it began with. A flare of a hundredth of a
second or less has nothing to come. In exact arithmetic the part only gets smaller as time goes on
and as the flare is made shorter, also past the length at which it is cut off.
-/

namespace LandingGuidance

open Set

theorem Scalar.clamp_real {low high : ℝ} (ordered : low ≤ high) (x : ℝ) :
    Scalar.clamp low high x = max low (min high x) := by
  have raised : (if x < low then low else x) = max low x := by
    split
    next below => exact (max_eq_left below.le).symm
    next above => exact (max_eq_right (not_lt.mp above)).symm
  unfold clamp
  simp only [raised]
  rw [max_min_distrib_left, max_eq_right ordered]
  split
  next beyond => exact (min_eq_left beyond.le).symm
  next within => exact (min_eq_right (not_lt.mp within)).symm

namespace Flare

/-- The part of a flare that is still to come. -/
def remaining {α : Type} [Scalar α] (flare : Flare α) (now seconds : α) : α :=
  if 0.01 < seconds then 1.0 - flare.progress now seconds else 0.0

variable (flare : Flare ℝ) {now seconds : ℝ}

theorem progress_eq (now seconds : ℝ) :
    flare.progress now seconds = max 0 (min 1 ((now - flare.start) / seconds)) := by
  have zero : (0.0 : ℝ) = 0 := by norm_num
  have one : (1.0 : ℝ) = 1 := by norm_num
  unfold progress
  rw [Scalar.clamp_real (by norm_num), zero, one]

theorem remaining_of_lasting (now : ℝ) (lasting : 0.01 < seconds) :
    flare.remaining now seconds = 1 - max 0 (min 1 ((now - flare.start) / seconds)) := by
  have one : (1.0 : ℝ) = 1 := by norm_num
  rw [remaining, if_pos lasting, flare.progress_eq, one]

theorem remaining_of_cut (now : ℝ) (cut : seconds ≤ 0.01) : flare.remaining now seconds = 0 := by
  have zero : (0.0 : ℝ) = 0 := by norm_num
  rw [remaining, if_neg (not_lt.mpr cut), zero]

theorem remaining_mem_Icc (now seconds : ℝ) : flare.remaining now seconds ∈ Icc 0 1 := by
  by_cases lasting : 0.01 < seconds
  · rw [flare.remaining_of_lasting now lasting]
    constructor
    · exact sub_nonneg.mpr (max_le zero_le_one (min_le_left _ _))
    · exact sub_le_self _ (le_max_left _ _)
  · rw [flare.remaining_of_cut now (not_lt.mp lasting)]
    exact ⟨le_rfl, zero_le_one⟩

/-- All of a flare is to come up to its beginning, also for a clock that runs backwards. -/
theorem remaining_of_le_start (early : now ≤ flare.start) (lasting : 0.01 < seconds) :
    flare.remaining now seconds = 1 := by
  have positive : 0 < seconds := lt_trans (by norm_num) lasting
  have back : (now - flare.start) / seconds ≤ 0 :=
    div_nonpos_of_nonpos_of_nonneg (sub_nonpos.mpr early) positive.le
  rw [flare.remaining_of_lasting now lasting, max_eq_left ((min_le_right _ _).trans back), sub_zero]

theorem remaining_of_ended (ended : flare.start + seconds ≤ now ∨ seconds ≤ 0.01) :
    flare.remaining now seconds = 0 := by
  by_cases lasting : 0.01 < seconds
  · have positive : 0 < seconds := lt_trans (by norm_num) lasting
    have past : flare.start + seconds ≤ now := ended.resolve_right (not_le.mpr lasting)
    have whole : 1 ≤ (now - flare.start) / seconds := by
      rw [one_le_div positive]
      linarith
    rw [flare.remaining_of_lasting now lasting, min_eq_left whole, max_eq_right zero_le_one,
      sub_self]
  · exact flare.remaining_of_cut now (not_lt.mp lasting)

/-- Later and in a shorter flare there is no more to come. -/
theorem remaining_le_remaining {later shorter : ℝ} (time : now ≤ later)
    (length : shorter ≤ seconds) :
    flare.remaining later shorter ≤ flare.remaining now seconds := by
  -- Below the cut there is nothing left to compare, and before the beginning there is everything.
  by_cases cut : shorter ≤ 0.01
  · rw [flare.remaining_of_cut later cut]
    exact (flare.remaining_mem_Icc now seconds).1
  have lasting : 0.01 < shorter := not_le.mp cut
  by_cases early : now ≤ flare.start
  · rw [flare.remaining_of_le_start early (lasting.trans_le length)]
    exact (flare.remaining_mem_Icc later shorter).2
  have positive : 0 < shorter := lt_trans (by norm_num) lasting
  -- More time over a shorter flare is a larger part of it, as long as the time is not negative.
  have further : (now - flare.start) / seconds ≤ (later - flare.start) / shorter := by
    have elapsed : 0 ≤ later - flare.start := by linarith
    exact div_le_div₀ elapsed (sub_le_sub_right time _) positive length
  rw [flare.remaining_of_lasting later lasting,
    flare.remaining_of_lasting now (lasting.trans_le length)]
  exact sub_le_sub_left (max_le_max le_rfl (min_le_min le_rfl further)) 1

/-- Both formulas of the command are one blend by the part that is still to come. -/
theorem command_eq_blend (began throttle pitch flarePitch now seconds : ℝ) :
    let flare := Flare.begin began throttle pitch flarePitch
    flare.command now seconds flarePitch =
      { pitch := flarePitch + flare.remaining now seconds * (pitch - flarePitch)
        throttle := throttle * flare.remaining now seconds } := by
  intro flare
  by_cases lasting : 0.01 < seconds
  · have one : (1.0 : ℝ) = 1 := by norm_num
    have blend : pitch - flare.progress now seconds * (pitch - flarePitch) =
        flarePitch + (1 - flare.progress now seconds) * (pitch - flarePitch) := by
      ring
    rw [command, remaining, if_pos lasting, if_pos lasting, one, ← blend]
    rfl
  · have zero : (0.0 : ℝ) = 0 := by norm_num
    rw [command, remaining, if_neg lasting, if_neg lasting, zero, zero_mul, mul_zero, add_zero]

/-- A flare blends its command from the throttle and the pitch that it began with to no throttle and
the flare pitch. The command never leaves the range between them. It is the former up to the
beginning, and the latter from the end on or if the flare is cut off. As time goes on or the flare
is made shorter, the throttle does not rise and the pitch does not move away from the flare
pitch. -/
theorem command_blends {throttle : ℝ} (thrust : 0 ≤ throttle) (began pitch flarePitch : ℝ) :
    let command := fun now seconds =>
      (Flare.begin began throttle pitch flarePitch).command now seconds flarePitch
    (∀ now seconds, (command now seconds).throttle ∈ Icc 0 throttle ∧
      (command now seconds).pitch ∈ uIcc pitch flarePitch) ∧
    (∀ now seconds, now ≤ began → 0.01 < seconds →
      command now seconds = { pitch := pitch, throttle := throttle }) ∧
    (∀ now seconds, began + seconds ≤ now ∨ seconds ≤ 0.01 →
      command now seconds = { pitch := flarePitch, throttle := 0 }) ∧
    ∀ now later seconds shorter, now ≤ later → shorter ≤ seconds →
      (command later shorter).throttle ≤ (command now seconds).throttle ∧
      |(command later shorter).pitch - flarePitch| ≤ |(command now seconds).pitch - flarePitch| := by
  intro command
  let flare := Flare.begin began throttle pitch flarePitch
  have blend (now seconds : ℝ) : command now seconds =
      { pitch := flarePitch + flare.remaining now seconds * (pitch - flarePitch)
        throttle := throttle * flare.remaining now seconds } :=
    command_eq_blend began throttle pitch flarePitch now seconds
  refine ⟨?_, ?_, ?_, ?_⟩
  · intro now seconds
    have part := flare.remaining_mem_Icc now seconds
    rw [blend]
    constructor
    · exact ⟨mul_nonneg thrust part.1, mul_le_of_le_one_right thrust part.2⟩
    · exact (convex_uIcc pitch flarePitch).add_smul_sub_mem right_mem_uIcc left_mem_uIcc part
  · intro now seconds early lasting
    rw [blend, flare.remaining_of_le_start early lasting, mul_one, one_mul, add_sub_cancel]
  · intro now seconds ended
    rw [blend, flare.remaining_of_ended ended, mul_zero, zero_mul, add_zero]
  · intro now later seconds shorter time length
    have less := flare.remaining_le_remaining time length
    -- How far the pitch is from the flare pitch is that part of the whole way.
    have apart (now seconds : ℝ) : |(command now seconds).pitch - flarePitch| =
        flare.remaining now seconds * |pitch - flarePitch| := by
      rw [blend, add_sub_cancel_left, abs_mul, abs_of_nonneg (flare.remaining_mem_Icc _ _).1]
    constructor
    · rw [blend, blend]
      exact mul_le_mul_of_nonneg_left less thrust
    · rw [apart, apart]
      exact mul_le_mul_of_nonneg_right less (abs_nonneg _)

/-- A flare of five seconds keeps its references before it begins, is at its end when it is cut off,
and does not go back on the way there. -/
theorem command_blends_across_cut :
    let flare : Flare ℝ := Flare.begin 100 0.6 (-2) 8
    flare.command 99 5 8 = { pitch := -2, throttle := 0.6 } ∧
      flare.command 102 0.005 8 = { pitch := 8, throttle := 0 } ∧
      (flare.command 102 0.005 8).throttle ≤ (flare.command 101 5 8).throttle ∧
      |(flare.command 102 0.005 8).pitch - 8| ≤ |(flare.command 101 5 8).pitch - 8| := by
  intro flare
  have thrust : (0 : ℝ) ≤ 0.6 := by norm_num
  obtain ⟨_, before, after, onward⟩ := command_blends thrust 100 (-2) 8
  exact ⟨before 99 5 (by norm_num) (by norm_num), after 102 0.005 (Or.inr (by norm_num)),
    onward 101 102 5 0.005 (by norm_num) (by norm_num)⟩

end Flare

end LandingGuidance

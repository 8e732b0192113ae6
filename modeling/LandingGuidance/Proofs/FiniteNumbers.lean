import Mathlib
import LandingGuidance.Proofs.ExactOperations
import LandingGuidance.Proofs.JsonNumbers
import LandingGuidance.Settings.EntryReader

/-!
# Numbers of a land entry are finite

A numeral that leaves the range of finite numbers is refused, and no other step of the reader comes
to an infinite or an undefined number: a whole number that fits 64 bits is finite, dividing it by
powers of ten keeps it so, and a product of two finite numbers is finite unless it is infinite. So
every number of a land entry that was read is finite.
-/

namespace LandingGuidance

/-! ### Finite numbers of the machine -/

namespace Binary64

theorem isFinite_iff {x : Float} :
    x.isFinite = true ↔
      ∃ negative mantissa exponent, ofFloat x = .finite negative mantissa exponent := by
  rw [ofFloat_eq_unpack]
  change x.toModel.unpack.isFinite = true ↔ _
  cases x.toModel.unpack <;> simp [ofUnpacked, Float.Model.UnpackedFloat.isFinite]

theorem isInf_of_infinite {x : Float} {negative : Bool} (infinite : ofFloat x = .infinite negative) :
    x.isInf = true := by
  rw [ofFloat_eq_unpack] at infinite
  change x.toModel.unpack.isInf = true
  cases unpacked : x.toModel.unpack with
  | infinity => rfl
  | notANumber | zero | finite =>
    rw [unpacked] at infinite
    cases infinite

theorem defined_of_isFinite {x : Float} (finite : x.isFinite = true) : Scalar.Defined x := by
  rw [Scalar.Defined, Scalar.isUndefined, beq_self_of_isFinite finite]
  rfl

theorem HasValue.isFinite {x : Float} {q : ℚ} (value : HasValue x q) : x.isFinite = true := by
  obtain ⟨m, e, finite, _⟩ := value
  exact isFinite_iff.mpr ⟨_, m, e, finite⟩

theorem isFinite_neg {x : Float} (finite : x.isFinite = true) : (-x).isFinite = true := by
  obtain ⟨s, m, e, parts⟩ := isFinite_iff.mp finite
  exact isFinite_iff.mpr ⟨_, m, e, ofFloat_neg parts⟩

/-- The number nearest to a quotient is finite or infinite, and never undefined. -/
theorem isFinite_nearest {negative : Bool} {a b : Nat}
    (inRange : (nearest negative a b).isInf = false) :
    (nearest negative a b).isFinite = true := by
  have bits : ofFloat (nearest negative a b) = _ := ofFloat_signed negative (nearestBits_le a b)
  have defined := ofBits_ne_undefined negative (nearestBits_le a b)
  rw [← bits] at defined
  cases parts : ofFloat (nearest negative a b) with
  | undefined => exact absurd parts defined
  | infinite s =>
    rw [isInf_of_infinite parts] at inRange
    cases inRange
  | finite s m e => exact isFinite_iff.mpr ⟨s, m, e, parts⟩

end Binary64

/-! ### Numerals -/

namespace Json

open Binary64

theorem exists_hasValue_of_kept (n : Numeral) : ∃ q, HasValue (nearest false n.kept.1 1) q := by
  have short : (n.kept.1 : ℚ) ≤ 2 ^ 64 := by exact_mod_cast (kept_lt n).le
  have top : ((2 ^ 64 : ℕ) * 10 ^ ((0 : ℕ) : ℤ) : ℚ) ≤ largest := le_largest (by decide +kernel)
  norm_num at top
  obtain ⟨q, value, _⟩ := hasValue_whole n.kept.1 (by linarith)
  exact ⟨q, value⟩

/-- A product that would be infinite is refused. -/
theorem isFinite_of_scaleUp {x y : Float} {q : ℚ} {places : Nat} (value : HasValue x q)
    (scaled : scaleUp x places = some y) : y.isFinite = true := by
  unfold scaleUp at scaled
  split at scaled
  next zero =>
    cases scaled
    exact value.isFinite
  next nonzero =>
    split at scaled
    next bounded =>
      obtain ⟨t, power, near⟩ := hasValue_powerOfTen bounded
      have positivePower : 0 < t := by
        have unit : (0 : ℚ) < 10 ^ places := by positivity
        have := (abs_le.mp near).1
        linarith
      have positive := value.pos_of_ne nonzero
      obtain ⟨a, b, hb, same⟩ := exists_quotient (mul_pos positive positivePower).le
      rw [value.mul_eq power positive positivePower hb same] at scaled
      dsimp only at scaled
      split at scaled
      next => cases scaled
      next inRange =>
        cases scaled
        exact isFinite_nearest (Bool.eq_false_of_not_eq_true inRange)
    next => cases scaled

theorem isFinite_of_value {n : Numeral} {x : Float} (value : n.value = some x) :
    x.isFinite = true := by
  rw [value_eq_map_size, Option.map_eq_some_iff] at value
  obtain ⟨y, size, rfl⟩ := value
  have finite : y.isFinite = true := by
    rw [Numeral.size] at size
    split at size
    next negative =>
      cases size
      have one_le : 1 ≤ n.kept.2.natAbs := by omega
      obtain ⟨z, scaled, _⟩ := exists_scaleDown (kept_lt n) one_le
      exact scaled.isFinite
    next nonneg =>
      obtain ⟨q, start⟩ := exists_hasValue_of_kept n
      exact isFinite_of_scaleUp start size
  split
  · exact isFinite_neg finite
  · exact finite

theorem isFinite_of_number {cs rest : List Char} {x : Float} (read : number cs = .ok (x, rest)) :
    x.isFinite = true := by
  unfold number at read
  split at read
  · cases read
  · split at read
    · cases read
    next value =>
      cases read
      exact isFinite_of_value value

theorem isFinite_of_readNumber {cs rest : List Char} {x : Float}
    (read : readNumber cs = .ok (x, rest)) : x.isFinite = true := by
  unfold readNumber at read
  split at read
  · cases read
  · split at read
    · exact isFinite_of_number read
    · cases read

theorem isFinite_of_readNullable {cs rest : List Char} {x : Option Float}
    (read : readNullable cs = .ok (x, rest)) : ∀ y ∈ x, y.isFinite = true := by
  unfold readNullable at read
  split at read
  · split at read
    · cases read
    · cases read
      exact nofun
  · split at read
    · cases read
    next number =>
      cases read
      intro y same
      cases same
      exact isFinite_of_readNumber number

end Json

/-! ### Land entries -/

namespace LandEntry

open Json

/-- The numbers of an entry. -/
def numbers {α : Type} (entry : LandEntry α) : List α :=
  [entry.lateralOffset, entry.glideslope, entry.turnRadius, entry.finalLegExtension,
    entry.altitudeBias, entry.approachSpeed, entry.flarePitch, entry.flareSeconds]
    ++ entry.flaps.toList

/-- All numbers of an entry are finite. -/
def AllFinite (entry : LandEntry Float) : Prop := ∀ x ∈ entry.numbers, x.isFinite = true

theorem allFinite_blank : AllFinite blank := by
  have zero : (0.0 : Float).isFinite = true := rfl
  simp [AllFinite, numbers, blank, zero]

theorem exists_of_readInto {β : Type} {reader : List Char → Reading β}
    {put : β → LandEntry Float} {cs rest : List Char} {entry : LandEntry Float}
    (read : readInto reader put cs = .ok (entry, rest)) :
    ∃ x, reader cs = .ok (x, rest) ∧ put x = entry := by
  unfold readInto at read
  split at read
  · cases read
  next value =>
    cases read
    exact ⟨_, value, rfl⟩

namespace AllFinite

variable {entry entry' : LandEntry Float} {cs rest : List Char}

theorem readField {field : EntryField} (finite : entry.AllFinite)
    (read : entry.readField field cs = .ok (entry', rest)) : entry'.AllFinite := by
  simp only [AllFinite, numbers, List.forall_mem_append, List.forall_mem_cons] at finite ⊢
  cases field <;> obtain ⟨x, value, rfl⟩ := exists_of_readInto read
  case name | nickname | direction => exact finite
  case flaps =>
    have := isFinite_of_readNullable value
    simp_all
  all_goals
    have := isFinite_of_readNumber value
    simp_all

theorem readElements {fields : List EntryField} (finite : entry.AllFinite)
    (read : LandEntry.readElements fields entry cs = .ok (entry', rest)) : entry'.AllFinite := by
  fun_induction LandEntry.readElements fields entry cs with
  | case4 =>
    cases read
    exact finite.readField ‹_›
  | case8 =>
    -- Another element follows, and the entry with this one in it is finite.
    rename_i ih
    exact ih (finite.readField ‹_›) read
  | _ => cases read

/-- A member is entered into a field, or stepped over. -/
theorem readMember {seen seen' : List EntryField} (finite : entry.AllFinite)
    (read : LandEntry.readMember seen entry cs = .ok ((seen', entry'), rest)) :
    entry'.AllFinite := by
  revert read
  fun_cases LandEntry.readMember seen entry cs with
  | case5 =>
    rintro ⟨⟩
    exact finite.readField ‹_›
  | case8 =>
    rintro ⟨⟩
    exact finite
  | _ => exact nofun

theorem readMembers {seen : List EntryField} (finite : entry.AllFinite)
    (read : LandEntry.readMembers seen entry cs = .ok (entry', rest)) : entry'.AllFinite := by
  fun_induction LandEntry.readMembers seen entry cs with
  | case3 =>
    cases read
    exact finite.readMember ‹_›
  | case5 =>
    rename_i ih
    exact ih (finite.readMember ‹_›) read
  | _ => cases read

theorem readArray (read : LandEntry.readArray cs = .ok (entry, rest)) : entry.AllFinite := by
  revert read
  fun_cases LandEntry.readArray cs with
  | case1 => exact nofun
  | case2 =>
    rintro ⟨⟩
    exact allFinite_blank
  | case3 => exact allFinite_blank.readElements

theorem readObject (read : LandEntry.readObject cs = .ok (entry, rest)) : entry.AllFinite := by
  revert read
  fun_cases LandEntry.readObject cs with
  | case2 =>
    rintro ⟨⟩
    exact allFinite_blank
  | case3 => exact allFinite_blank.readMembers
  | _ => exact nofun

theorem readChars (read : LandEntry.readChars cs = .ok entry) : entry.AllFinite := by
  unfold LandEntry.readChars at read
  split at read
  next => cases read
  next =>
    dsimp only at read
    split at read
    next => cases read
    next form =>
      split at read
      next =>
        cases read
        split at form
        next => exact AllFinite.readObject form
        next =>
          split at form
          next => exact AllFinite.readArray form
          next => cases form
      next => cases read

end AllFinite

/-- Every number of an entry that was read is finite. -/
theorem allFinite_of_read {text : String} {entry : LandEntry Float} (h : read text = .ok entry) :
    entry.AllFinite := by
  unfold read at h
  cases chars : readChars text.toList with
  | error fault =>
    rw [chars] at h
    cases h
  | ok found =>
    rw [chars] at h
    cases h
    exact AllFinite.readChars chars

end LandEntry

end LandingGuidance

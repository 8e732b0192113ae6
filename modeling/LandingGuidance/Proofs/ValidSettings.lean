import Mathlib
import LandingGuidance.Proofs.EntryLayout
import LandingGuidance.Proofs.FiniteNumbers
import LandingGuidance.Proofs.TurnRadius

/-!
# Checked settings

The check of a land entry gives four settings the value that is written or, below their minimum,
their default. The defaults pass the check, so a warning stands for a changed value and only for
one, and an entry with the settings in force written in it passes as it is.
-/

namespace LandingGuidance

open Json Scalar

/-! ### The check of one value -/

namespace LimitedSetting

/-- The settings with a minimum, in the order in which they are checked. -/
def all : List LimitedSetting := [glideslope, turnRadius, approachSpeed, flareSeconds]

theorem mem_all (setting : LimitedSetting) : setting ∈ all := by
  cases setting <;> decide

variable {setting : LimitedSetting}

theorem not_lt_minimum_of_le {value : Float} (least : setting.minimum ≤ value) :
    ¬value < setting.minimum :=
  fun below => (OrderedScalar.lt_iff_le_not_ge.mp below).2 least

theorem effective_of_not_lt {value : Float} (least : ¬value < setting.minimum) :
    setting.effective value = value :=
  if_neg least

theorem effective_of_lt {value : Float} (below : value < setting.minimum) :
    setting.effective value = setting.default :=
  if_pos below

/-- What the check answers is not below the minimum, also for an undefined value. -/
theorem not_lt_effective (setting : LimitedSetting) (value : Float) :
    ¬setting.effective value < setting.minimum := by
  unfold effective
  split
  next => exact not_lt_minimum_of_le (minimum_le_default setting)
  next notBelow => exact notBelow

/-- A value is changed just if it is below the minimum: the default is not. -/
theorem effective_ne_iff (setting : LimitedSetting) (value : Float) :
    setting.effective value ≠ value ↔ value < setting.minimum := by
  constructor
  · intro changed
    by_contra notBelow
    exact changed (effective_of_not_lt notBelow)
  · intro below same
    -- A value that stays has passed the check.
    have passed := not_lt_effective setting value
    rw [same] at passed
    exact passed below

theorem not_lt_of_undefined {value : Float} (undefined : ¬Defined value) :
    ¬value < setting.minimum :=
  fun below => undefined (OrderedScalar.defined_left (OrderedScalar.le_of_lt below))

theorem warning?_eq_some_iff {value : Float} {warning : Warning Float} :
    setting.warning? value = some warning ↔
      value < setting.minimum ∧ warning = .belowMinimum setting value := by
  rw [warning?, Option.ite_none_right_eq_some, Option.some_inj, eq_comm (a := warning)]

end LimitedSetting

/-! ### The check of an entry -/

/-- The values of an entry that have a minimum. -/
def LandEntry.limited {α : Type} (entry : LandEntry α) : LimitedSetting → α
  | .glideslope => entry.glideslope
  | .turnRadius => entry.turnRadius
  | .approachSpeed => entry.approachSpeed
  | .flareSeconds => entry.flareSeconds

/-- The values of the settings that have a minimum. -/
def Settings.limited {α : Type} (settings : Settings α) : LimitedSetting → α
  | .glideslope => settings.glideslope
  | .turnRadius => settings.turnRadius
  | .approachSpeed => settings.approachSpeed
  | .flareSeconds => settings.flareSeconds

namespace LandEntry

variable {α : Type}

/-- An entry with the settings in force written in it. -/
def rewritten (entry : LandEntry α) (settings : Settings α) : LandEntry α :=
  { entry with
    lateralOffset := settings.lateralOffset
    glideslope := settings.glideslope
    turnRadius := settings.turnRadius
    direction := settings.turn.name
    finalLegExtension := settings.finalLegExtension
    altitudeBias := settings.altitudeBias
    approachSpeed := settings.approachSpeed
    flarePitch := settings.flarePitch
    flareSeconds := settings.flareSeconds
    flaps := some settings.flaps }

@[simp] theorem limited_rewritten (entry : LandEntry α) (settings : Settings α) :
    (entry.rewritten settings).limited = settings.limited := by
  funext setting
  cases setting <;> rfl

@[simp] theorem settings_limited [Scalar α] (entry : LandEntry α) (setting : LimitedSetting) :
    entry.settings.limited setting = setting.effective (entry.limited setting) := by
  cases setting <;> rfl

theorem warnings_eq_filterMap [Scalar α] (entry : LandEntry α) :
    entry.warnings =
      LimitedSetting.all.filterMap (fun setting => setting.warning? (entry.limited setting)) :=
  rfl

variable (entry : LandEntry Float)

theorem mem_warnings_iff {warning : Warning Float} :
    warning ∈ entry.warnings ↔
      ∃ setting, entry.settings.limited setting ≠ entry.limited setting ∧
        warning = .belowMinimum setting (entry.limited setting) := by
  simp only [warnings_eq_filterMap, List.mem_filterMap, LimitedSetting.mem_all, true_and,
    LimitedSetting.warning?_eq_some_iff, settings_limited, LimitedSetting.effective_ne_iff]

/-- The warnings of two settings differ, and each setting is checked once. -/
theorem nodup_warnings : entry.warnings.Nodup := by
  rw [warnings_eq_filterMap]
  refine List.Nodup.filterMap ?_ (by decide)
  -- A warning names its setting.
  intro first second warning hfirst hsecond
  obtain ⟨_, rfl⟩ := LimitedSetting.warning?_eq_some_iff.mp hfirst
  obtain ⟨_, same⟩ := LimitedSetting.warning?_eq_some_iff.mp hsecond
  injection same

/-- Settings that come from an entry pass the check as they are. -/
theorem settings_rewritten (other : LandEntry Float) :
    (other.rewritten entry.settings).settings = entry.settings := by
  -- What the first check answers is not below the minimum, so the second one keeps it.
  have kept (setting : LimitedSetting) (value : Float) :
      setting.effective (setting.effective value) = setting.effective value :=
    LimitedSetting.effective_of_not_lt (setting.not_lt_effective value)
  simp only [settings, rewritten, kept, Turn.ofName_name, Option.getD_some]

theorem warnings_rewritten (other : LandEntry Float) :
    (other.rewritten entry.settings).warnings = [] := by
  rw [List.eq_nil_iff_forall_not_mem]
  intro warning member
  obtain ⟨setting, changed, -⟩ := (mem_warnings_iff _).mp member
  rw [settings_rewritten, limited_rewritten] at changed
  exact changed rfl

/-- The values with a minimum are among the numbers of an entry. -/
theorem limited_mem_numbers (setting : LimitedSetting) : entry.limited setting ∈ entry.numbers := by
  cases setting <;> simp [limited, numbers]

/-- For each value with a minimum that is not undefined, the one in force is at least the minimum.
There is one warning for each value that is changed and no other, and a value is only changed to
its default. An undefined value stays and gives no warning, but none can be read. An entry with the
settings in force written in it has these settings and no warnings. -/
theorem settings_are_valid (entry : LandEntry Float) :
    let settings := entry.settings
    ((Defined entry.glideslope → 0.01 ≤ settings.glideslope) ∧
      (Defined entry.turnRadius → 1.0 ≤ settings.turnRadius) ∧
      (Defined entry.approachSpeed → 0.1 ≤ settings.approachSpeed) ∧
      (Defined entry.flareSeconds → 0.1 ≤ settings.flareSeconds)) ∧
    (entry.warnings.Nodup ∧
      (∀ warning, warning ∈ entry.warnings ↔
        ∃ setting, settings.limited setting ≠ entry.limited setting ∧
          warning = .belowMinimum setting (entry.limited setting)) ∧
      ∀ setting, settings.limited setting ≠ entry.limited setting →
        settings.limited setting = setting.default) ∧
    (∀ setting, ¬Defined (entry.limited setting) →
      settings.limited setting = entry.limited setting ∧
        ∀ value, Warning.belowMinimum setting value ∉ entry.warnings) ∧
    (∀ other : LandEntry Float, (other.rewritten settings).settings = settings ∧
      (other.rewritten settings).warnings = []) ∧
    ∀ text, read text = .ok entry →
      entry.AllFinite ∧ ∀ setting, Defined (entry.limited setting) := by
  intro settings
  have least (setting : LimitedSetting) (defined : Defined (entry.limited setting)) :
      setting.minimum ≤ settings.limited setting := by
    rw [settings_limited]
    exact LimitedSetting.minimum_le_effective setting.minimum_le_default defined
  have default (setting : LimitedSetting)
      (changed : settings.limited setting ≠ entry.limited setting) :
      settings.limited setting = setting.default := by
    rw [settings_limited, LimitedSetting.effective_ne_iff] at changed
    rw [settings_limited, LimitedSetting.effective_of_lt changed]
  refine ⟨⟨least .glideslope, least .turnRadius, least .approachSpeed, least .flareSeconds⟩,
    ⟨entry.nodup_warnings, fun warning => entry.mem_warnings_iff, default⟩, ?_,
    fun other => ⟨entry.settings_rewritten other, entry.warnings_rewritten other⟩, ?_⟩
  · intro setting undefined
    have kept : settings.limited setting = entry.limited setting := by
      rw [settings_limited]
      exact LimitedSetting.effective_of_not_lt (LimitedSetting.not_lt_of_undefined undefined)
    refine ⟨kept, ?_⟩
    intro value member
    obtain ⟨other, changed, same⟩ := entry.mem_warnings_iff.mp member
    injection same with setting_eq
    exact changed (setting_eq ▸ kept)
  · intro text read
    have finite := allFinite_of_read read
    exact ⟨finite, fun setting =>
      Binary64.defined_of_isFinite (finite _ (entry.limited_mem_numbers setting))⟩

/-- Three absent values give way to their defaults with a warning, and a radius of 60 meters stays.
An undefined descent angle stays as well. -/
theorem settings_are_valid_of_radius_alone :
    ∃ entry : LandEntry Float, read "\x7b\"turn_radius_m\":60\x7d" = .ok entry ∧
      Defined entry.turnRadius ∧ entry.settings.turnRadius = 60.0 ∧
      (.belowMinimum .flareSeconds 0.0 : Warning Float) ∈ entry.warnings ∧
      entry.settings.flareSeconds = 5.0 ∧
      (entry.rewritten entry.settings).settings = entry.settings ∧
      let undefined : LandEntry Float := { entry with glideslope := 0.0 / 0.0 }
      ¬Defined undefined.glideslope ∧ undefined.settings.glideslope = undefined.glideslope ∧
        ∀ value, Warning.belowMinimum .glideslope value ∉ undefined.warnings := by
  have numeral : NumeralText ['6', '0'] ⟨false, ['6', '0'], [], 0⟩ :=
    .mk .absent (.other (by decide : Decimal.IsRun ['6', '0']) (by decide)) .absent .absent
  have radius : EntryField.turnRadius.ValueText ['6', '0'] (60.0 : Float) :=
    ⟨_, numeral, by decide +kernel⟩
  let entry : LandEntry Float := { blank with turnRadius := 60.0 }
  have reading : read "\x7b\"turn_radius_m\":60\x7d" = .ok entry := read_single radius (by rfl)
  obtain ⟨⟨-, atLeast, -, -⟩, ⟨-, warned, default⟩, -, again, finite⟩ := settings_are_valid entry
  have changed : entry.settings.limited .flareSeconds ≠ entry.limited .flareSeconds := by
    rw [settings_limited, LimitedSetting.effective_ne_iff]
    decide +kernel
  refine ⟨entry, reading, (finite _ reading).2 .turnRadius, ?_, ?_, default _ changed,
    (again entry).1, ?_⟩
  · decide +kernel
  · exact (warned _).mpr ⟨.flareSeconds, changed, rfl⟩
  · have undefined : ¬Defined (0.0 / 0.0 : Float) := by
      unfold Defined isUndefined
      decide +kernel
    obtain ⟨-, -, stays, -⟩ := settings_are_valid { entry with glideslope := 0.0 / 0.0 }
    exact ⟨undefined, stays .glideslope undefined⟩

end LandEntry

end LandingGuidance

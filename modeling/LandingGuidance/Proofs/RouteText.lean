import Mathlib
import LandingGuidance.Approach.Route
import LandingGuidance.Proofs.TwoPlaces

/-!
# The text of a route

What is written between commas has no commas and no white space of its own, so a route request falls
into the fields that it was made of. Each field is read as something that is written the same.
-/

namespace LandingGuidance

/-! ### Fields -/

namespace Text

theorem fields_eq_splitOn (separator : Char) (cs : List Char) :
    fields separator cs = cs.splitOn separator := by
  induction cs with
  | nil => rfl
  | cons c cs ih =>
    rw [fields, ih, List.splitOn, List.splitOn, List.splitOnP_cons_eq_if_modifyHead]
    by_cases same : c = separator
    · simp [same]
    · obtain ⟨part, parts, split⟩ := List.exists_cons_of_ne_nil
        (List.splitOnP_ne_nil (· == separator) cs)
      simp [same, split]

theorem dropWhile_isBlank_of_forall {cs : List Char} (inked : ∀ c ∈ cs, isBlank c = false) :
    cs.dropWhile isBlank = cs := by
  cases cs with
  | nil => rfl
  | cons c cs => rw [List.dropWhile_cons_of_neg (by simp [inked c List.mem_cons_self])]

theorem trim_of_forall {cs : List Char} (inked : ∀ c ∈ cs, isBlank c = false) : trim cs = cs := by
  have reversed : ∀ c ∈ cs.reverse, isBlank c = false := by simpa using inked
  rw [trim, dropWhile_isBlank_of_forall inked, dropWhile_isBlank_of_forall reversed,
    List.reverse_reverse]

/-- A character that may stand in a field: no comma and no white space. -/
def Inner (c : Char) : Prop := c ≠ ',' ∧ isBlank c = false

instance (c : Char) : Decidable (Inner c) := inferInstanceAs (Decidable (_ ∧ _))

theorem inner_of_isDigit {c : Char} (digit : c.isDigit = true) : Inner c := by
  have bounds : 48 ≤ c.toNat ∧ c.toNat ≤ 57 := by
    simpa [Char.isDigit, UInt32.le_iff_toNat_le] using digit
  constructor
  · rintro rfl
    cases digit
  · simp [isBlank, blankRanges]
    omega

end Text

namespace Decimal

open Binary64

theorem inner_of_mem_sign {negative : Bool} {c : Char} (member : c ∈ sign negative) :
    Text.Inner c := by
  cases negative with
  | true =>
    rw [List.mem_singleton.mp member]
    decide
  | false => cases member

theorem inner_of_mem_pointed {n : Nat} {c : Char} (member : c ∈ pointed n) : Text.Inner c := by
  simp only [pointed, List.mem_append, List.mem_cons, List.not_mem_nil, or_false] at member
  rcases member with whole | rfl | rfl | rfl
  · exact Text.inner_of_isDigit (isDigit_of_mem_digits whole)
  · decide
  · exact Text.inner_of_isDigit (isDigit_digitChar (Nat.mod_lt _ (by norm_num)))
  · exact Text.inner_of_isDigit (isDigit_digitChar (Nat.mod_lt _ (by norm_num)))

theorem inner_of_mem_twoPlaces {x : Float} {c : Char} (member : c ∈ twoPlaces x) :
    Text.Inner c := by
  have words : ∀ c ∈ ['N', 'a', 'N', 'i', 'n', 'f'], Text.Inner c := by
    simp only [List.forall_mem_cons]
    exact ⟨by decide, by decide, by decide, by decide, by decide, by decide, by simp⟩
  unfold twoPlaces at member
  cases kind : ofFloat x with
  | undefined =>
    rw [kind] at member
    exact words c (List.mem_append_left ['i', 'n', 'f'] member)
  | infinite negative =>
    rw [kind] at member
    rcases List.mem_append.mp member with mark | word
    · exact inner_of_mem_sign mark
    · exact words c (List.mem_append_right ['N', 'a', 'N'] word)
  | finite negative mantissa exponent =>
    rw [kind] at member
    rcases List.mem_append.mp member with mark | number
    · exact inner_of_mem_sign mark
    · exact inner_of_mem_pointed number

theorem readByte_digits (byte : UInt8) : readByte (digits byte.toNat) = some byte := by
  have digit : ∀ c ∈ digits byte.toNat, c.isDigit = true := fun c => isDigit_of_mem_digits
  have value : readDigits (digits byte.toNat) = some byte.toNat := by
    rw [readDigits, if_pos ⟨digits_ne_nil _, List.all_eq_true.mpr digit⟩, ofDigits_digits]
  unfold readByte
  split
  next rest starts =>
    -- No digit is a plus sign.
    have plus := digit '+' (starts ▸ List.mem_cons_self)
    cases plus
  next =>
    simp only [value, if_pos byte.toNat_lt, UInt8.ofNat_toNat]

end Decimal

namespace Route

theorem inner_of_mem_fields {w : Waypoint Float} {field : List Char} (part : field ∈ w.fields)
    {c : Char} (member : c ∈ field) : Text.Inner c := by
  simp only [Waypoint.fields, List.mem_cons, List.not_mem_nil, or_false] at part
  rcases part with rfl | rfl | rfl | rfl
  · exact Text.inner_of_isDigit (Decimal.isDigit_of_mem_digits member)
  · exact Decimal.inner_of_mem_twoPlaces member
  · exact Decimal.inner_of_mem_twoPlaces member
  · rw [List.mem_singleton.mp member]
    decide

/-- The groups of fields of some waypoints are read as waypoints with the same fields. -/
theorem waypointsOfFields?_fields (waypoints : List (Waypoint Float)) :
    ∃ again, waypointsOfFields? (waypoints.flatMap Waypoint.fields) = some again ∧
      again.map (·.flag) = waypoints.map (·.flag) ∧
      again.flatMap Waypoint.fields = waypoints.flatMap Waypoint.fields := by
  -- The four fields of a waypoint are one group, so the groups go along with the waypoints.
  induction waypoints with
  | nil => exact ⟨[], rfl, rfl, rfl⟩
  | cons w waypoints ih =>
    obtain ⟨again, read, flags, fields⟩ := ih
    obtain ⟨distance, readDistance, sameDistance⟩ := Decimal.readFloat_twoPlaces w.offset.distance
    obtain ⟨bearing, readBearing, sameBearing⟩ := Decimal.readFloat_twoPlaces w.offset.bearing
    refine ⟨⟨w.flag, distance, bearing⟩ :: again, ?_, ?_, ?_⟩
    · simp only [List.flatMap_cons, Waypoint.fields, List.cons_append, List.nil_append]
      rw [waypointsOfFields?, if_pos rfl]
      simp only [Decimal.readByte_digits, TwoPlaces.twoPlaces, readDistance, readBearing, read]
    · rw [List.map_cons, List.map_cons, flags]
    · rw [List.flatMap_cons, List.flatMap_cons, fields]
      simp only [Waypoint.fields, TwoPlaces.twoPlaces, sameDistance, sameBearing]

theorem fields_chars {route : Route Float} (waypoints : route.waypoints ≠ []) :
    (Text.fields ',' route.chars).map Text.trim = route.waypoints.flatMap Waypoint.fields := by
  have inner : ∀ field ∈ route.waypoints.flatMap Waypoint.fields, ∀ c ∈ field, Text.Inner c := by
    intro field part c member
    obtain ⟨w, _, part⟩ := List.mem_flatMap.mp part
    exact inner_of_mem_fields part member
  have nonempty : route.waypoints.flatMap Waypoint.fields ≠ [] := by
    obtain ⟨w, others, first⟩ := List.exists_cons_of_ne_nil waypoints
    simp [first, Waypoint.fields]
  have parted : ∀ field ∈ route.waypoints.flatMap Waypoint.fields, ',' ∉ field :=
    fun field part member => (inner field part _ member).1 rfl
  rw [chars, Text.fields_eq_splitOn, List.splitOn_intercalate _ parted nonempty]
  conv_rhs => rw [← List.map_id (route.waypoints.flatMap Waypoint.fields)]
  exact List.map_congr_left fun field part =>
    Text.trim_of_forall fun c member => (inner field part c member).2

/-- A route with waypoints is read from its own text, with the same flags in the same order, and what
is read has the same text again. -/
theorem reads_own_text (route : Route Float) (waypoints : route.waypoints ≠ []) :
    ∃ again, read route.text = .ok again ∧
      again.waypoints.length = route.waypoints.length ∧
      again.waypoints.map (·.flag) = route.waypoints.map (·.flag) ∧
      again.text = route.text := by
  obtain ⟨again, read, flags, fields⟩ := waypointsOfFields?_fields route.waypoints
  refine ⟨⟨again⟩, ?_, ?_, flags, ?_⟩
  · rw [Route.read, text, String.toList_ofList, fields_chars waypoints, read]
  · simpa using congrArg List.length flags
  · rw [text, text, chars, chars, fields]

/-- The text is read also where the numbers are undefined, infinite, negative zero or next to zero. -/
theorem reads_own_text_of_undefined_distance :
    let route : Route Float :=
      ⟨[⟨255, 0.0 / 0.0, -1.0 / 0.0⟩, ⟨0, -0.0, 5.0e-324⟩, ⟨7, 1.0e300, -0.005⟩]⟩
    route.waypoints ≠ [] ∧
      ∃ again, read route.text = .ok again ∧
        again.waypoints.length = 3 ∧
        again.waypoints.map (·.flag) = [255, 0, 7] ∧
        again.text = route.text := by
  intro route
  have waypoints : route.waypoints ≠ [] := List.cons_ne_nil _ _
  obtain ⟨again, accepted, length, flags, same⟩ := reads_own_text route waypoints
  exact ⟨waypoints, again, accepted, length, flags, same⟩

end Route

end LandingGuidance

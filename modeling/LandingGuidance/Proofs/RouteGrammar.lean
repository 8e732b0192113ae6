import Mathlib
import LandingGuidance.Proofs.Numerals
import LandingGuidance.Proofs.RouteText

/-!
# The grammar of route requests

A text is read as a route exactly if its fields between commas come in groups of four, one group or
more, each with the numerals of a waypoint and a dash between white space. The route has one
waypoint for each group, and every other text is refused as a whole.
-/

namespace LandingGuidance

/-! ### White space around a text -/

namespace Text

/-- A field holds a text between white space. -/
def Holds (field inner : List Char) : Prop :=
  ∃ before after, (∀ c ∈ before, isBlank c = true) ∧ (∀ c ∈ after, isBlank c = true) ∧
    field = before ++ (inner ++ after)

theorem holds_trim (field : List Char) : Holds field (trim field) := by
  let rest := field.dropWhile isBlank
  refine ⟨field.takeWhile isBlank, (rest.reverse.takeWhile isBlank).reverse, ?_, ?_, ?_⟩
  · exact fun c member => List.mem_takeWhile_imp member
  · intro c member
    exact List.mem_takeWhile_imp (List.mem_reverse.mp member)
  · have ends : trim field ++ (rest.reverse.takeWhile isBlank).reverse = rest := by
      rw [trim, ← List.reverse_append, List.takeWhile_append_dropWhile, List.reverse_reverse]
    rw [ends, List.takeWhile_append_dropWhile]

/-- White space is removed, and what has none itself is left as it is. -/
theorem trim_of_holds {field inner : List Char} (holds : Holds field inner)
    (inked : ∀ c ∈ inner, isBlank c = false) : trim field = inner := by
  obtain ⟨before, after, blankBefore, blankAfter, rfl⟩ := holds
  rw [trim, List.dropWhile_append_of_pos blankBefore]
  cases inner with
  | nil => simp [List.dropWhile_eq_nil_iff.mpr blankAfter]
  | cons c inner =>
    have first : isBlank c = false := inked c List.mem_cons_self
    have reversed : ∀ d ∈ (c :: inner).reverse, isBlank d = false :=
      fun d member => inked d (List.mem_reverse.mp member)
    rw [List.cons_append, List.dropWhile_cons_of_neg (by simp [first]), ← List.cons_append,
      List.reverse_append, List.dropWhile_append_of_pos (by simpa using blankAfter),
      dropWhile_isBlank_of_forall reversed, List.reverse_reverse]

theorem separator_notMem_of_mem_fields {separator : Char} {cs : List Char} :
    ∀ part ∈ fields separator cs, separator ∉ part := by
  induction cs with
  | nil => simp [fields]
  | cons c cs ih =>
    rw [fields]
    split
    next => simpa using ih
    next other =>
      -- The character is put in front of the first part.
      split
      next => simpa using Ne.symm other
      next part parts split =>
        rw [split, List.forall_mem_cons] at ih
        rw [List.forall_mem_cons]
        exact ⟨by simpa [Ne.symm other] using ih.1, ih.2⟩

/-- The parts of a text are those that make it up with separators between them and none inside. -/
theorem fields_eq_iff {separator : Char} {cs : List Char} {parts : List (List Char)} :
    fields separator cs = parts ↔
      parts ≠ [] ∧ (∀ part ∈ parts, separator ∉ part) ∧ cs = [separator].intercalate parts := by
  constructor
  · rintro rfl
    refine ⟨?_, separator_notMem_of_mem_fields, ?_⟩
    · rw [fields_eq_splitOn]
      exact List.splitOnP_ne_nil _ cs
    · rw [fields_eq_splitOn, List.intercalate_splitOn]
  · rintro ⟨nonempty, parted, rfl⟩
    rw [fields_eq_splitOn, List.splitOn_intercalate separator parted nonempty]

/-- No white space has another lower case. -/
theorem toLower_of_isBlank {c : Char} (blank : isBlank c = true) : c.toLower = c := by
  simp only [isBlank, blankRanges, List.any_cons, List.any_nil, Bool.or_false, Bool.or_eq_true,
    Bool.and_eq_true, decide_eq_true_eq] at blank
  exact Decimal.toLower_of_not_upper (by omega)

end Text

/-! ### Numerals have no white space -/

namespace Decimal

open Text

theorem isBlank_of_isDigit {c : Char} (digit : c.isDigit = true) : isBlank c = false :=
  (inner_of_isDigit digit).2

theorem SignText.inked {s : List Char} {negative : Bool} (sign : SignText s negative) :
    ∀ c ∈ s, isBlank c = false := by
  cases sign with
  | absent => simp
  | plus => exact List.forall_mem_singleton.mpr (by decide)
  | minus => exact List.forall_mem_singleton.mpr (by decide)

theorem ByteText.inked {cs : List Char} {byte : UInt8} (text : ByteText cs byte) :
    ∀ c ∈ cs, isBlank c = false := by
  cases text with
  | bare run => exact fun c member => isBlank_of_isDigit (run.2 c member)
  | signed run =>
    rw [List.forall_mem_cons]
    exact ⟨by decide, fun c member => isBlank_of_isDigit (run.2 c member)⟩

theorem ExponentText.inked {cs : List Char} {exponent : Int} (text : ExponentText cs exponent) :
    ∀ c ∈ cs, isBlank c = false := by
  cases text with
  | absent => simp
  | present marked sign run =>
    rw [List.forall_mem_cons, List.forall_mem_append]
    refine ⟨?_, sign.inked, fun c member => isBlank_of_isDigit (run.2 c member)⟩
    rcases marked with rfl | rfl <;> decide

theorem UnsignedText.inked {negative : Bool} {cs : List Char} {n : Numeral}
    (text : UnsignedText negative cs n) : ∀ c ∈ cs, isBlank c = false := by
  cases text with
  | mk digits point some_digit scale =>
    rw [List.forall_mem_append, List.forall_mem_append]
    refine ⟨fun c member => isBlank_of_isDigit (digits c member), ?_, scale.inked⟩
    cases point with
    | absent => simp
    | present digits =>
      rw [List.forall_mem_cons]
      exact ⟨by decide, fun c member => isBlank_of_isDigit (digits c member)⟩

/-- A text whose letters are known has no white space if these letters are none. -/
theorem inked_of_spelled {word letters : List Char} (spelled : word.map Char.toLower = letters)
    (inked : ∀ c ∈ letters, isBlank c = false) : ∀ c ∈ word, isBlank c = false := by
  intro c member
  by_contra blank
  rw [Bool.not_eq_false] at blank
  have letter : c.toLower ∈ letters := spelled ▸ List.mem_map_of_mem member
  rw [toLower_of_isBlank blank] at letter
  rw [inked c letter] at blank
  cases blank

theorem FloatText.inked {cs : List Char} {x : Float} (text : FloatText cs x) :
    ∀ c ∈ cs, isBlank c = false := by
  have letters : ∀ c ∈ ['i', 'n', 'f', 'i', 'n', 'i', 't', 'y', 'n', 'a', 'n'],
      isBlank c = false := by
    simp only [List.forall_mem_cons]
    refine ⟨?_, ?_, ?_, ?_, ?_, ?_, ?_, ?_, ?_, ?_, ?_, by simp⟩ <;> decide
  cases text with
  | decimal sign unsigned => exact List.forall_mem_append.mpr ⟨sign.inked, unsigned.inked⟩
  | infinite sign spelled =>
    refine List.forall_mem_append.mpr ⟨sign.inked, ?_⟩
    rcases spelled with short | long
    · exact inked_of_spelled short fun c member => letters c (List.mem_append_left _ member)
    · exact inked_of_spelled long fun c member => letters c (List.mem_append_left _ member)
  | undefined sign spelled =>
    refine List.forall_mem_append.mpr ⟨sign.inked, inked_of_spelled spelled ?_⟩
    exact fun c member => letters c
      (List.mem_append_right ['i', 'n', 'f', 'i', 'n', 'i', 't', 'y'] member)

end Decimal

/-! ### Groups of fields -/

namespace Route

open Decimal Text

/-- The four fields of a waypoint in a request. -/
structure Group where
  flag : List Char
  distance : List Char
  bearing : List Char
  mark : List Char

def Group.fields (group : Group) : List (List Char) :=
  [group.flag, group.distance, group.bearing, group.mark]

/-- The fields of a group hold the numerals of a waypoint and a dash. -/
structure Group.Describes (group : Group) (w : Waypoint Float) : Prop where
  flag : ∃ cs, Holds group.flag cs ∧ ByteText cs w.flag
  distance : ∃ cs, Holds group.distance cs ∧ FloatText cs w.offset.distance
  bearing : ∃ cs, Holds group.bearing cs ∧ FloatText cs w.offset.bearing
  mark : Holds group.mark ['-']

/-- A text asks for a route: its fields are those of groups that describe the waypoints of the route
one by one, and there is one at least. -/
def Requests (text : String) (route : Route Float) : Prop :=
  ∃ groups : List Group, groups ≠ [] ∧
    (∀ field ∈ groups.flatMap Group.fields, ',' ∉ field) ∧
    text.toList = [','].intercalate (groups.flatMap Group.fields) ∧
    List.Forall₂ Group.Describes groups route.waypoints

theorem readByte_trim_iff {field : List Char} {byte : UInt8} :
    readByte (trim field) = some byte ↔ ∃ cs, Holds field cs ∧ ByteText cs byte := by
  rw [readByte_eq_some_iff]
  constructor
  · exact fun text => ⟨_, holds_trim field, text⟩
  · rintro ⟨cs, holds, text⟩
    rwa [trim_of_holds holds text.inked]

theorem readFloat_trim_iff {field : List Char} {x : Float} :
    readFloat (trim field) = some x ↔ ∃ cs, Holds field cs ∧ FloatText cs x := by
  rw [readFloat_eq_some_iff]
  constructor
  · exact fun text => ⟨_, holds_trim field, text⟩
  · rintro ⟨cs, holds, text⟩
    rwa [trim_of_holds holds text.inked]

theorem trim_eq_dash_iff {field : List Char} : trim field = ['-'] ↔ Holds field ['-'] :=
  ⟨fun dash => dash ▸ holds_trim field,
    fun holds => trim_of_holds holds (List.forall_mem_singleton.mpr (by decide))⟩

theorem Group.describes_iff {group : Group} {w : Waypoint Float} :
    group.Describes w ↔ readByte (trim group.flag) = some w.flag ∧
      readFloat (trim group.distance) = some w.offset.distance ∧
      readFloat (trim group.bearing) = some w.offset.bearing ∧ trim group.mark = ['-'] := by
  rw [readByte_trim_iff, readFloat_trim_iff, readFloat_trim_iff, trim_eq_dash_iff]
  constructor
  · rintro ⟨flag, distance, bearing, mark⟩
    exact ⟨flag, distance, bearing, mark⟩
  · rintro ⟨flag, distance, bearing, mark⟩
    exact ⟨flag, distance, bearing, mark⟩

/-- The first group is read by itself, and the groups behind it by themselves. -/
theorem waypointsOfFields?_group_iff {flag distance bearing mark : List Char}
    {fields : List (List Char)} {waypoints : List (Waypoint Float)} :
    waypointsOfFields? (flag :: distance :: bearing :: mark :: fields) = some waypoints ↔
      ∃ w others, (readByte flag = some w.flag ∧ readFloat distance = some w.offset.distance ∧
        readFloat bearing = some w.offset.bearing ∧ mark = ['-']) ∧
        waypointsOfFields? fields = some others ∧ waypoints = w :: others := by
  rw [waypointsOfFields?]
  constructor
  · intro read
    split at read
    next dash =>
      split at read
      next readFlag readDistance readBearing readOthers =>
        cases read
        exact ⟨_, _, ⟨readFlag, readDistance, readBearing, dash⟩, readOthers, rfl⟩
      next => cases read
    next => cases read
  · rintro ⟨w, others, ⟨readFlag, readDistance, readBearing, dash⟩, readOthers, rfl⟩
    simp only [if_pos dash, readFlag, readDistance, readBearing, readOthers]

theorem waypointsOfFields?_trim_iff : ∀ (fields : List (List Char))
    (waypoints : List (Waypoint Float)),
    waypointsOfFields? (fields.map trim) = some waypoints ↔
      ∃ groups : List Group, fields = groups.flatMap Group.fields ∧
        List.Forall₂ Group.Describes groups waypoints
  | [], waypoints => by
    constructor
    · intro read
      cases read
      exact ⟨[], rfl, .nil⟩
    · rintro ⟨groups, parts, described⟩
      cases described with
      | nil => rfl
      | cons => cases parts
  | flag :: distance :: bearing :: mark :: fields, waypoints => by
    simp only [List.map_cons]
    rw [waypointsOfFields?_group_iff]
    constructor
    · rintro ⟨w, others, first, read, rfl⟩
      obtain ⟨groups, rfl, described⟩ := (waypointsOfFields?_trim_iff fields others).mp read
      exact ⟨⟨flag, distance, bearing, mark⟩ :: groups, rfl,
        .cons (Group.describes_iff.mpr first) described⟩
    · rintro ⟨groups, parts, described⟩
      cases described with
      | nil => cases parts
      | cons first described =>
        cases parts
        exact ⟨_, _, Group.describes_iff.mp first,
          (waypointsOfFields?_trim_iff _ _).mpr ⟨_, rfl, described⟩, rfl⟩
  | [_], _ => by
    constructor
    · rintro ⟨⟩
    · rintro ⟨_ | ⟨group, groups⟩, parts, _⟩ <;> cases parts
  | [_, _], _ => by
    constructor
    · rintro ⟨⟩
    · rintro ⟨_ | ⟨group, groups⟩, parts, _⟩ <;> cases parts
  | [_, _, _], _ => by
    constructor
    · rintro ⟨⟩
    · rintro ⟨_ | ⟨group, groups⟩, parts, _⟩ <;> cases parts

theorem fields_eq_groups_iff {text : String} {groups : List Group} :
    Text.fields ',' text.toList = groups.flatMap Group.fields ↔
      groups ≠ [] ∧ (∀ field ∈ groups.flatMap Group.fields, ',' ∉ field) ∧
        text.toList = [','].intercalate (groups.flatMap Group.fields) := by
  have nonempty : groups.flatMap Group.fields ≠ [] ↔ groups ≠ [] := by
    cases groups with
    | nil => simp
    | cons => simp [Group.fields]
  rw [fields_eq_iff, nonempty]

theorem read_eq_ok_iff {text : String} {route : Route Float} :
    read text = .ok route ↔ Requests text route := by
  have described := waypointsOfFields?_trim_iff (Text.fields ',' text.toList) route.waypoints
  simp only [fields_eq_groups_iff, and_assoc] at described
  rw [Requests, ← described, read]
  constructor
  · intro accepted
    split at accepted
    next waypoints =>
      cases accepted
      exact waypoints
    next => cases accepted
  · intro waypoints
    rw [waypoints]

theorem read_ok_or_error (text : String) :
    (∃ route, read text = .ok route) ∨ read text = .error (.routeRequest text) := by
  unfold read
  split
  next => exact .inl ⟨_, rfl⟩
  next => exact .inr rfl

theorem length_groups_fields (groups : List Group) :
    (groups.flatMap Group.fields).length = 4 * groups.length := by
  induction groups with
  | nil => rfl
  | cons group groups ih =>
    rw [List.flatMap_cons, List.length_append, ih, List.length_cons]
    simp only [Group.fields, List.length_cons, List.length_nil]
    omega

/-- A text is read as a route exactly if it asks for that route, and a text that asks for none is
refused as it stands. In particular no text is accepted in which a group lacks one of its fields. -/
theorem read_iff_requests (text : String) :
    (∀ route, read text = .ok route ↔ Requests text route) ∧
      ((∃ route, Requests text route) ∨ read text = .error (.routeRequest text)) ∧
      ∀ start, 4 * start < (Text.fields ',' text.toList).length →
        (((Text.fields ',' text.toList).drop (4 * start)).take 4).length = 4 ∨
          read text = .error (.routeRequest text) := by
  refine ⟨fun route => read_eq_ok_iff, ?_, ?_⟩
  · simpa only [read_eq_ok_iff] using read_ok_or_error text
  · intro start inside
    refine (read_ok_or_error text).imp_left ?_
    rintro ⟨route, accepted⟩
    obtain ⟨groups, nonempty, parted, whole, _⟩ := read_eq_ok_iff.mp accepted
    rw [fields_eq_groups_iff.mpr ⟨nonempty, parted, whole⟩, length_groups_fields] at inside
    rw [fields_eq_groups_iff.mpr ⟨nonempty, parted, whole⟩, List.length_take, List.length_drop,
      length_groups_fields]
    omega

example : read "0,1,2,-,1,2,3," = .error (.routeRequest "0,1,2,-,1,2,3,") := by rfl

end Route

end LandingGuidance

import LandingGuidance.Proofs.JsonValues
import LandingGuidance.Settings.EntryReader
import Mathlib.Data.List.Nodup

/-!
# Texts of a land entry

The grammar of a land entry in the object form, with its fields in any order, unknown members among
them and blanks between all tokens, and in the array form. What is written is entered field by
field, each field once.
-/

namespace LandingGuidance

open Json

/-! ### Fields and their values -/

namespace EntryField

/-- What the value of a field is. -/
def Value : EntryField → Type
  | name | nickname | direction => String
  | flaps => Option Float
  | lateralOffset | glideslope | turnRadius | finalLegExtension | altitudeBias | approachSpeed
  | flarePitch | flareSeconds => Float

/-- The text of a value of a field. -/
def ValueText : (field : EntryField) → List Char → field.Value → Prop
  | name | nickname | direction => QuotedText
  | flaps => NullableText
  | lateralOffset | glideslope | turnRadius | finalLegExtension | altitudeBias | approachSpeed
  | flarePitch | flareSeconds => NumberText

/-- No value begins like a blank or like the end of an array. -/
theorem ValueText.exists_cons {field : EntryField} {cs : List Char} {v : field.Value}
    (text : field.ValueText cs v) : ∃ c ds, cs = c :: ds ∧ isBlank c = false ∧ c ≠ ']' := by
  have number : ∀ {cs : List Char} {x : Float}, NumberText cs x →
      ∃ c ds, cs = c :: ds ∧ isBlank c = false ∧ c ≠ ']' := by
    intro cs x text
    obtain ⟨c, ds, rfl, start⟩ := text.exists_cons
    exact ⟨c, ds, rfl, isBlank_of_numeral start, bracket_ne_of_numeral start⟩
  cases field
  case name | nickname | direction =>
    cases text with
    | mk => exact ⟨_, _, rfl, rfl, by decide⟩
  case flaps =>
    cases text with
    | null => exact ⟨_, _, rfl, rfl, by decide⟩
    | number text => exact number text
  all_goals exact number text

theorem ValueText.first_append {field : EntryField} {b cs : List Char} {v : field.Value}
    (text : field.ValueText cs v) (before : Blanks b) (behind : List Char) :
    ∃ d tail, cs ++ behind = d :: tail ∧ skipBlanks (b ++ (cs ++ behind)) = d :: tail ∧
      d ≠ ']' := by
  obtain ⟨c, ds, rfl, solid, other⟩ := text.exists_cons
  refine ⟨c, ds ++ behind, rfl, ?_, other⟩
  rw [skipBlanks_append before, List.cons_append, skipBlanks_of_solid solid]

/-- A key may stand as it is. -/
theorem stringText_key (field : EntryField) : StringText field.key.toList field.key.toList := by
  apply stringText_of_plain
  cases field <;> simp [key]

theorem ofKey?_of_forall_ne {s : List Char}
    (stranger : ∀ field : EntryField, field.key.toList ≠ s) : ofKey? (String.ofList s) = none := by
  rw [ofKey?, List.find?_eq_none]
  intro field _ same
  exact stranger field (by rw [beq_iff_eq.mp same, String.toList_ofList])

end EntryField

namespace LandEntry

/-- The value of a field. -/
def get (entry : LandEntry Float) : (field : EntryField) → field.Value
  | .name => entry.name
  | .nickname => entry.nickname
  | .lateralOffset => entry.lateralOffset
  | .glideslope => entry.glideslope
  | .turnRadius => entry.turnRadius
  | .direction => entry.direction
  | .finalLegExtension => entry.finalLegExtension
  | .altitudeBias => entry.altitudeBias
  | .approachSpeed => entry.approachSpeed
  | .flarePitch => entry.flarePitch
  | .flareSeconds => entry.flareSeconds
  | .flaps => entry.flaps

/-- The entry with another value of one field. -/
def put (entry : LandEntry Float) : (field : EntryField) → field.Value → LandEntry Float
  | .name, s => { entry with name := s }
  | .nickname, s => { entry with nickname := s }
  | .lateralOffset, x => { entry with lateralOffset := x }
  | .glideslope, x => { entry with glideslope := x }
  | .turnRadius, x => { entry with turnRadius := x }
  | .direction, s => { entry with direction := s }
  | .finalLegExtension, x => { entry with finalLegExtension := x }
  | .altitudeBias, x => { entry with altitudeBias := x }
  | .approachSpeed, x => { entry with approachSpeed := x }
  | .flarePitch, x => { entry with flarePitch := x }
  | .flareSeconds, x => { entry with flareSeconds := x }
  | .flaps, x => { entry with flaps := x }

@[simp] theorem get_put_self (entry : LandEntry Float) (field : EntryField) (v : field.Value) :
    (entry.put field v).get field = v := by
  cases field <;> rfl

theorem get_put_of_ne (entry : LandEntry Float) {field other : EntryField} (v : field.Value)
    (ne : other ≠ field) : (entry.put field v).get other = entry.get other := by
  cases field <;> cases other <;> first | rfl | exact absurd rfl ne

theorem ext_get {entry entry' : LandEntry Float}
    (same : ∀ field, entry.get field = entry'.get field) : entry = entry' := by
  cases entry
  cases entry'
  rw [mk.injEq]
  exact ⟨same .name, same .nickname, same .lateralOffset, same .glideslope, same .turnRadius,
    same .direction, same .finalLegExtension, same .altitudeBias, same .approachSpeed,
    same .flarePitch, same .flareSeconds, same .flaps⟩

theorem readField_append {field : EntryField} {b cs rest : List Char} {v : field.Value}
    (text : field.ValueText cs v) (blanks : Blanks b) (ends : Ends rest) (entry : LandEntry Float) :
    readField entry field (b ++ (cs ++ rest)) = .ok (entry.put field v, rest) := by
  cases field
  case name | nickname | direction =>
    simp only [readField, readInto, readText_append text blanks]
    rfl
  case flaps =>
    simp only [readField, readInto, readNullable_append text blanks ends]
    rfl
  all_goals
    simp only [readField, readInto, readNumber_append text blanks ends]
    rfl

end LandEntry

/-! ### Texts of an entry -/

/-- A field and the value that is written for it. -/
structure Written where
  field : EntryField
  value : field.Value

/-- A member of an object: one of a field, with its value, or one with a name that is no field's. A
name may be written with escapes. -/
inductive MemberText : List Written → List Char → Prop where
  | known {w : Written} {name b b' cs : List Char} (key : StringText name w.field.key.toList)
      (before : Blanks b) (after : Blanks b') (value : w.field.ValueText cs w.value) :
      MemberText [w] ('"' :: (name ++ '"' :: (b ++ ':' :: (b' ++ cs))))
  | unknown {name s b b' cs : List Char} (key : StringText name s)
      (stranger : ∀ field : EntryField, field.key.toList ≠ s) (before : Blanks b)
      (after : Blanks b') (value : ValueText cs) :
      MemberText [] ('"' :: (name ++ '"' :: (b ++ ':' :: (b' ++ cs))))

/-- The members of an object, and what is written in them for fields. -/
inductive MembersText : List Written → List Char → Prop where
  | last {ws : List Written} {b cs b' : List Char} (before : Blanks b) (member : MemberText ws cs)
      (after : Blanks b') : MembersText ws (b ++ (cs ++ b'))
  | more {ws ws' : List Written} {b cs b' others : List Char} (before : Blanks b)
      (member : MemberText ws cs) (after : Blanks b') (members : MembersText ws' others) :
      MembersText (ws ++ ws') (b ++ (cs ++ (b' ++ ',' :: others)))

/-- The elements of an array, and what is written in them if each is for the field named. -/
inductive ElementsText : List Written → List Char → Prop where
  | last {w : Written} {b cs b' : List Char} (before : Blanks b)
      (value : w.field.ValueText cs w.value) (after : Blanks b') :
      ElementsText [w] (b ++ (cs ++ b'))
  | more {w : Written} {ws : List Written} {b cs b' others : List Char} (before : Blanks b)
      (value : w.field.ValueText cs w.value) (after : Blanks b')
      (elements : ElementsText ws others) :
      ElementsText (w :: ws) (b ++ (cs ++ (b' ++ ',' :: others)))

theorem ElementsText.ne_nil {ws : List Written} {cs : List Char} (elements : ElementsText ws cs) :
    ws ≠ [] := by
  cases elements <;> exact List.cons_ne_nil _ _

inductive ObjectText : List Written → List Char → Prop where
  | empty {b : List Char} (blanks : Blanks b) : ObjectText [] ('{' :: (b ++ ['}']))
  | members {ws : List Written} {cs : List Char} (members : MembersText ws cs) :
      ObjectText ws ('{' :: (cs ++ ['}']))

inductive ArrayText : List Written → List Char → Prop where
  | empty {b : List Char} (blanks : Blanks b) : ArrayText [] ('[' :: (b ++ [']']))
  | elements {ws : List Written} {cs : List Char} (elements : ElementsText ws cs) :
      ArrayText ws ('[' :: (cs ++ [']']))

/-- A text consists of a given one and blanks around it. -/
def Holding (form : List Char → Prop) (text : String) : Prop :=
  ∃ b cs b', Blanks b ∧ form cs ∧ Blanks b' ∧ text.toList = b ++ (cs ++ b')

/-- An entry has the values that are written, and what a blank entry has for every other field. -/
structure LandEntry.Holds (entry : LandEntry Float) (ws : List Written) : Prop where
  listed : ∀ w ∈ ws, entry.get w.field = w.value
  others : ∀ field ∉ ws.map Written.field, entry.get field = LandEntry.blank.get field

/-! ### Entering values one by one -/

namespace LandEntry

/-- Puts written values into an entry, where each field may be entered once. -/
def enter (seen : List EntryField) (entry : LandEntry Float) :
    List Written → Except Fault (List EntryField × LandEntry Float)
  | [] => .ok (seen, entry)
  | w :: ws =>
    if w.field ∈ seen then .error .mistyped
    else enter (w.field :: seen) (entry.put w.field w.value) ws

def putAll (entry : LandEntry Float) (ws : List Written) : LandEntry Float :=
  ws.foldl (fun entry w => entry.put w.field w.value) entry

theorem enter_append (seen : List EntryField) (entry : LandEntry Float) (ws ws' : List Written) :
    enter seen entry (ws ++ ws') = (enter seen entry ws).bind fun r => enter r.1 r.2 ws' := by
  induction ws generalizing seen entry with
  | nil => rfl
  | cons w ws ih =>
    rw [List.cons_append, enter, enter]
    by_cases again : w.field ∈ seen
    · rw [if_pos again, if_pos again]
      rfl
    · rw [if_neg again, if_neg again, ih]

theorem reverse_cons_append_map (w : Written) (seen : List EntryField) (ws : List Written) :
    (w.field :: seen).reverse ++ ws.map Written.field =
      seen.reverse ++ (w :: ws).map Written.field := by
  simp

theorem enter_of_nodup {seen : List EntryField} {ws : List Written}
    (once : (seen.reverse ++ ws.map Written.field).Nodup) (entry : LandEntry Float) :
    ∃ seen', enter seen entry ws = .ok (seen', entry.putAll ws) := by
  induction ws generalizing seen entry with
  | nil => exact ⟨seen, rfl⟩
  | cons w ws ih =>
    have fresh : w.field ∉ seen := fun member =>
      List.disjoint_of_nodup_append once (List.mem_reverse.mpr member) List.mem_cons_self
    rw [enter, if_neg fresh]
    rw [← reverse_cons_append_map] at once
    exact ih once (entry.put w.field w.value)

theorem enter_of_not_nodup {seen : List EntryField} {ws : List Written} (before : seen.Nodup)
    (again : ¬(seen.reverse ++ ws.map Written.field).Nodup) (entry : LandEntry Float) :
    enter seen entry ws = .error .mistyped := by
  induction ws generalizing seen entry with
  | nil =>
    rw [List.map_nil, List.append_nil, List.nodup_reverse] at again
    exact absurd before again
  | cons w ws ih =>
    rw [enter]
    by_cases member : w.field ∈ seen
    · rw [if_pos member]
    · rw [if_neg member]
      rw [← reverse_cons_append_map] at again
      exact ih (List.nodup_cons.mpr ⟨member, before⟩) again (entry.put w.field w.value)

theorem get_putAll_of_notMem {field : EntryField} {ws : List Written}
    (absent : field ∉ ws.map Written.field) (entry : LandEntry Float) :
    (entry.putAll ws).get field = entry.get field := by
  induction ws generalizing entry with
  | nil => rfl
  | cons w ws ih =>
    rw [List.map_cons, List.mem_cons, not_or] at absent
    rw [putAll, List.foldl_cons, ← putAll, ih absent.2, get_put_of_ne entry w.value absent.1]

theorem get_putAll_of_mem {w : Written} {ws : List Written} (once : (ws.map Written.field).Nodup)
    (listed : w ∈ ws) (entry : LandEntry Float) : (entry.putAll ws).get w.field = w.value := by
  induction ws generalizing entry with
  | nil => cases listed
  | cons first ws ih =>
    rw [List.map_cons, List.nodup_cons] at once
    rw [putAll, List.foldl_cons, ← putAll]
    cases listed with
    | head => rw [get_putAll_of_notMem once.1, get_put_self]
    | tail _ listed => exact ih once.2 listed _

theorem holds_putAll {ws : List Written} (once : (ws.map Written.field).Nodup) :
    (blank.putAll ws).Holds ws :=
  ⟨fun _ listed => get_putAll_of_mem once listed blank, fun _ absent =>
    get_putAll_of_notMem absent blank⟩

/-- What an entry holds determines it. -/
theorem Holds.unique {entry entry' : LandEntry Float} {ws ws' : List Written}
    (holds : entry.Holds ws) (holds' : entry'.Holds ws') (same : ws.Perm ws') : entry = entry' := by
  refine ext_get fun field => ?_
  by_cases written : field ∈ ws.map Written.field
  · obtain ⟨w, listed, rfl⟩ := List.mem_map.mp written
    rw [holds.listed w listed, holds'.listed w (same.mem_iff.mp listed)]
  · have absent : field ∉ ws'.map Written.field := fun member =>
      written ((same.map Written.field).mem_iff.mpr member)
    rw [holds.others field written, holds'.others field absent]

end LandEntry

end LandingGuidance

import LandingGuidance.Binary64.Arithmetic
import LandingGuidance.Failure
import LandingGuidance.Json.Scalar
import LandingGuidance.Json.Skip
import LandingGuidance.Settings.Entry

/-!
# Reading a land entry

A land entry is written as a JSON object with any of its fields, or as an array of the first few
fields in their order. Unknown members of an object are stepped over; a field that comes twice is
mistyped, as soon as its key has been read.
-/

namespace LandingGuidance

open Json

/-- The fields of a land entry. -/
inductive EntryField where
  | name
  | nickname
  | lateralOffset
  | glideslope
  | turnRadius
  | direction
  | finalLegExtension
  | altitudeBias
  | approachSpeed
  | flarePitch
  | flareSeconds
  | flaps
  deriving DecidableEq

namespace EntryField

/-- Every field, in the order of the array form. -/
def all : List EntryField :=
  [name, nickname, lateralOffset, glideslope, turnRadius, direction, finalLegExtension,
    altitudeBias, approachSpeed, flarePitch, flareSeconds, flaps]

/-- The key of a field in the object form. -/
def key : EntryField → String
  | name => "name"
  | nickname => "nickname"
  | lateralOffset => "lateral_offset_m"
  | glideslope => "glideslope_deg"
  | turnRadius => "turn_radius_m"
  | direction => "direction"
  | finalLegExtension => "extend_final_leg_m"
  | altitudeBias => "alt_bias_ft"
  | approachSpeed => "approach_speed_kt"
  | flarePitch => "flare_pitch_deg"
  | flareSeconds => "flare_seconds"
  | flaps => "flaps"

def ofKey? (key : String) : Option EntryField := all.find? fun f => f.key == key

theorem ofKey?_key (f : EntryField) : ofKey? f.key = some f := by
  cases f <;> decide

end EntryField

namespace LandEntry

/-- Reads a value and puts it into an entry. -/
def readInto {β : Type} (read : List Char → Reading β) (put : β → LandEntry Float)
    (cs : List Char) : Reading (LandEntry Float) :=
  match read cs with
  | .error fault => .error fault
  | .ok (x, rest) => .ok (put x, rest)

/-- Reads the value of a field into an entry. -/
def readField (entry : LandEntry Float) :
    EntryField → List Char → Reading (LandEntry Float)
  | .name => readInto readText fun s => { entry with name := s }
  | .nickname => readInto readText fun s => { entry with nickname := s }
  | .lateralOffset => readInto readNumber fun x => { entry with lateralOffset := x }
  | .glideslope => readInto readNumber fun x => { entry with glideslope := x }
  | .turnRadius => readInto readNumber fun x => { entry with turnRadius := x }
  | .direction => readInto readText fun s => { entry with direction := s }
  | .finalLegExtension => readInto readNumber fun x => { entry with finalLegExtension := x }
  | .altitudeBias => readInto readNumber fun x => { entry with altitudeBias := x }
  | .approachSpeed => readInto readNumber fun x => { entry with approachSpeed := x }
  | .flarePitch => readInto readNumber fun x => { entry with flarePitch := x }
  | .flareSeconds => readInto readNumber fun x => { entry with flareSeconds := x }
  | .flaps => readInto readNullable fun x => { entry with flaps := x }

/-- Reads the elements of an array into the given fields, where the first element has begun. -/
def readElements : List EntryField → LandEntry Float → List Char → Reading (LandEntry Float)
  | [], _, _ => .error .malformed
  | field :: fields, entry, cs =>
    match readField entry field cs with
    | .error fault => .error fault
    | .ok (entry, rest) =>
      match skipBlanks rest with
      | [] => .error .truncated
      | c :: rest =>
        if c = ']' then .ok (entry, rest)
        else if c = ',' then
          match fields, skipBlanks rest with
          -- There is no field left for another element.
          | [], _ => .error .malformed
          | _ :: _, [] => .error .truncated
          | _ :: _, d :: after =>
            if d = ']' then .error .malformed else readElements fields entry (d :: after)
        else .error .malformed

/-- The array form, whose opening bracket has been read. -/
def readArray (cs : List Char) : Reading (LandEntry Float) :=
  match skipBlanks cs with
  | [] => .error .truncated
  | c :: rest =>
    if c = ']' then .ok (blank, rest) else readElements EntryField.all blank (c :: rest)

/-- A member of an object from behind the opening quote of its key to the end of its value. -/
def readMember (seen : List EntryField) (entry : LandEntry Float) (cs : List Char) :
    Reading (List EntryField × LandEntry Float) :=
  match string cs with
  | .error fault => .error fault
  | .ok (key, rest) =>
    match EntryField.ofKey? (String.ofList key) with
    | some field =>
      -- A repeated field is found before the colon is looked for.
      if field ∈ seen then .error .mistyped
      else
        match skipKey.colon rest with
        | .error fault => .error fault
        | .ok rest =>
          match readField entry field rest with
          | .error fault => .error fault
          | .ok (entry, rest) => .ok ((field :: seen, entry), rest)
    | none =>
      match skipKey.colon rest with
      | .error fault => .error fault
      | .ok rest =>
        match skipValue rest with
        | .error fault => .error fault
        | .ok rest => .ok ((seen, entry), rest)

theorem length_lt_of_readInto {β : Type} {read : List Char → Reading β}
    {put : β → LandEntry Float} {cs rest : List Char} {entry : LandEntry Float}
    (hread : ∀ {x rest}, read cs = .ok (x, rest) → rest.length < cs.length)
    (h : readInto read put cs = .ok (entry, rest)) : rest.length < cs.length := by
  unfold readInto at h
  split at h
  · simp at h
  · next hr =>
    simp only [Except.ok.injEq, Prod.mk.injEq] at h
    exact h.2 ▸ hread hr

theorem length_lt_of_readField {entry entry' : LandEntry Float} {field : EntryField}
    {cs rest : List Char} (h : readField entry field cs = .ok (entry', rest)) :
    rest.length < cs.length := by
  cases field
  case name | nickname | direction => exact length_lt_of_readInto length_lt_of_readText h
  case flaps => exact length_lt_of_readInto length_lt_of_readNullable h
  all_goals exact length_lt_of_readInto length_lt_of_readNumber h

theorem length_lt_of_readMember {seen seen' : List EntryField} {entry entry' : LandEntry Float}
    {cs rest : List Char} (h : readMember seen entry cs = .ok ((seen', entry'), rest)) :
    rest.length < cs.length := by
  unfold readMember at h
  split at h
  · simp at h
  · next hs =>
    have h₁ := length_lt_of_string hs
    split at h
    -- The member of a field, then one that is stepped over.
    · split at h
      · simp at h
      · split at h
        · simp at h
        · next hc =>
          have h₂ := length_lt_of_colon hc
          split at h
          · simp at h
          · next hf =>
            simp only [Except.ok.injEq, Prod.mk.injEq] at h
            have h₃ := length_lt_of_readField hf
            rw [h.2] at h₃
            omega
    · split at h
      · simp at h
      · next hc =>
        have h₂ := length_lt_of_colon hc
        split at h
        · simp at h
        · next hv =>
          simp only [Except.ok.injEq, Prod.mk.injEq] at h
          have h₃ := length_le_of_skip hv
          rw [h.2] at h₃
          omega

/-- The members of an object, where the opening quote of the first key has been read. `seen` holds
the fields that came before. -/
def readMembers (seen : List EntryField) (entry : LandEntry Float) (cs : List Char) :
    Reading (LandEntry Float) :=
  match _h : readMember seen entry cs with
  | .error fault => .error fault
  | .ok ((seen, entry), rest) =>
    match _hb : skipBlanks rest with
    | [] => .error .truncated
    | c :: rest =>
      if c = '}' then .ok (entry, rest)
      else if c = ',' then
        match _hb' : skipBlanks rest with
        | [] => .error .truncated
        | d :: after => if d = '"' then readMembers seen entry after else .error .malformed
      else .error .malformed
termination_by cs.length
decreasing_by
  exact Nat.lt_trans (length_lt_of_skipBlanks _hb')
    (Nat.lt_trans (length_lt_of_skipBlanks _hb) (length_lt_of_readMember _h))

/-- The object form, whose opening brace has been read. -/
def readObject (cs : List Char) : Reading (LandEntry Float) :=
  match skipBlanks cs with
  | [] => .error .truncated
  | c :: rest =>
    if c = '}' then .ok (blank, rest)
    else if c = '"' then readMembers [] blank rest
    else .error .malformed

/-- Reads a land entry that is the whole of a text but for blanks. -/
def readChars (cs : List Char) : Except Fault (LandEntry Float) :=
  match skipBlanks cs with
  | [] => .error .truncated
  | c :: rest =>
    let reading :=
      if c = '{' then readObject rest
      else if c = '[' then readArray rest
      else .error (mismatch (c :: rest))
    match reading with
    | .error fault => .error fault
    | .ok (entry, rest) => if skipBlanks rest = [] then .ok entry else .error .malformed

def read (text : String) : Except Failure (LandEntry Float) :=
  (readChars text.toList).mapError .landEntry

end LandEntry

end LandingGuidance

import LandingGuidance.Proofs.JsonScalars

/-!
# Which texts are values

The grammar of values in a configuration text, with lists and objects in one another to any depth.
Stepping over a value stops behind it, whatever frames are open around it.
-/

namespace LandingGuidance.Json

/-! ### Grammar -/

def Frame.opening : Frame → Char
  | list => '['
  | object => '{'

/-- What stands before the value of an item: the key of a member with the colon behind it, or
nothing. -/
inductive KeyText : Frame → List Char → Prop where
  | element : KeyText .list []
  | member {b name b' : List Char} (before : Blanks b) (text : LooseText name) (after : Blanks b') :
      KeyText .object (b ++ '"' :: (name ++ '"' :: (b' ++ [':'])))

/-- What a text is of: a value, or the items between the brackets of a frame. -/
inductive Part where
  | value
  | items (frame : Frame)

inductive PartText : Part → List Char → Prop where
  | scalar {cs : List Char} (text : ScalarText cs) : PartText .value cs
  | empty {b : List Char} (frame : Frame) (blanks : Blanks b) :
      PartText .value (frame.opening :: (b ++ [frame.close]))
  | framed {frame : Frame} {cs : List Char} (items : PartText (.items frame) cs) :
      PartText .value (frame.opening :: (cs ++ [frame.close]))
  | last {frame : Frame} {key b cs b' : List Char} (start : KeyText frame key) (before : Blanks b)
      (value : PartText .value cs) (after : Blanks b') :
      PartText (.items frame) (key ++ (b ++ (cs ++ b')))
  | more {frame : Frame} {key b cs b' others : List Char} (start : KeyText frame key)
      (before : Blanks b) (value : PartText .value cs) (after : Blanks b')
      (items : PartText (.items frame) others) :
      PartText (.items frame) (key ++ (b ++ (cs ++ (b' ++ ',' :: others))))

/-- A well-formed value, without blanks around it. -/
def ValueText (cs : List Char) : Prop := PartText .value cs

/-! ### Where texts begin -/

theorem Frame.isBlank_opening (frame : Frame) : isBlank frame.opening = false := by
  cases frame <;> rfl

theorem Frame.isBlank_close (frame : Frame) : isBlank frame.close = false := by
  cases frame <;> rfl

theorem Frame.ends_close (frame : Frame) (rest : List Char) : Ends (frame.close :: rest) := by
  rintro c starts
  cases starts
  cases frame <;> decide

theorem ends_comma (rest : List Char) : Ends (',' :: rest) := by
  rintro c starts
  cases starts
  decide

theorem ValueText.exists_cons {cs : List Char} (value : ValueText cs) :
    ∃ c ds, cs = c :: ds ∧ isBlank c = false ∧ c ≠ ']' := by
  cases value with
  | scalar text =>
    obtain ⟨c, ds, rfl, solid, _, _, other⟩ := text.exists_cons
    exact ⟨c, ds, rfl, solid, other⟩
  | empty frame | @framed frame =>
    refine ⟨frame.opening, _, rfl, frame.isBlank_opening, ?_⟩
    cases frame <;> decide

/-- The items of a frame do not begin like its end. -/
theorem PartText.first_ne_close {frame : Frame} {cs : List Char}
    (items : PartText (.items frame) cs) (rest : List Char) :
    ∃ d after, skipBlanks (cs ++ rest) = d :: after ∧ d ≠ frame.close := by
  have begins : ∃ key b v behind, cs = key ++ (b ++ (v ++ behind)) ∧ KeyText frame key ∧
      Blanks b ∧ ValueText v := by
    cases items with
    | last start before value => exact ⟨_, _, _, _, rfl, start, before, value⟩
    | more start before value => exact ⟨_, _, _, _, rfl, start, before, value⟩
  obtain ⟨key, b, v, behind, rfl, start, before, value⟩ := begins
  cases start with
  | element =>
    obtain ⟨c, ds, rfl, solid, other⟩ := value.exists_cons
    refine ⟨c, ds ++ (behind ++ rest), ?_, other⟩
    simp [skipBlanks_append before, skipBlanks_of_solid solid]
  | member blanks =>
    simp only [List.append_assoc, List.cons_append]
    rw [skipBlanks_append blanks]
    exact ⟨'"', _, skipBlanks_of_solid rfl _, by decide⟩

/-! ### Steps over the parts -/

section Equations

-- The equations of `skip` without the facts that its termination rests on.

variable (stack : List Frame) (cs : List Char)

theorem skip_key : skip .key stack cs =
    match skipKey cs with
    | .error fault => .error fault
    | .ok rest => skip .value stack rest := by
  rw [skip]
  cases skipKey cs <;> rfl

theorem skip_value : skip .value stack cs =
    match skipBlanks cs with
    | [] => .error .truncated
    | c :: rest =>
      if c = '[' then
        match skipBlanks rest with
        | [] => .error .truncated
        | d :: after =>
          if d = ']' then skip .separator stack after
          else skip .value (.list :: stack) (d :: after)
      else if c = '{' then
        match skipBlanks rest with
        | [] => .error .truncated
        | d :: after =>
          if d = '}' then skip .separator stack after
          else skip .key (.object :: stack) (d :: after)
      else
        match skipScalar (c :: rest) with
        | .error fault => .error fault
        | .ok after => skip .separator stack after := by
  rw [skip]
  cases skipBlanks cs with
  | nil => rfl
  | cons c rest =>
    dsimp only
    cases skipBlanks rest <;> cases skipScalar (c :: rest) <;> rfl

theorem skip_separator (frame : Frame) : skip .separator (frame :: stack) cs =
    match skipBlanks cs with
    | [] => .error .truncated
    | c :: rest =>
      if c = ',' then skip frame.afterComma (frame :: stack) rest
      else if c = frame.close then skip .separator stack rest
      else .error .malformed := by
  rw [skip]
  cases skipBlanks cs <;> rfl

end Equations

theorem skipColon_append {b : List Char} (blanks : Blanks b) (rest : List Char) :
    skipKey.colon (b ++ ':' :: rest) = .ok rest := by
  rw [skipKey.colon, skipBlanks_append blanks, skipBlanks_of_solid rfl]
  rfl

theorem skip_key_append {frame : Frame} {key : List Char} (start : KeyText frame key)
    (stack : List Frame) (rest : List Char) :
    skip frame.afterComma stack (key ++ rest) = skip .value stack rest := by
  cases start with
  | element => rfl
  | @member b name b' before text after =>
    have key : skipKey (b ++ '"' :: (name ++ '"' :: (b' ++ ':' :: rest))) = .ok rest := by
      rw [skipKey, skipBlanks_append before, skipBlanks_of_solid rfl]
      simp only [if_pos, skipString_append text, skipColon_append after]
    simp only [Frame.afterComma, List.append_assoc, List.cons_append, List.nil_append]
    rw [skip_key, key]

theorem skip_scalar_append {b cs rest : List Char} (blanks : Blanks b) (text : ScalarText cs)
    (ends : Ends rest) (stack : List Frame) :
    skip .value stack (b ++ (cs ++ rest)) = skip .separator stack rest := by
  have read := skipScalar_append text ends
  obtain ⟨c, ds, rfl, solid, list, object, _⟩ := text.exists_cons
  have first : skipBlanks (b ++ (c :: ds ++ rest)) = c :: (ds ++ rest) := by
    rw [skipBlanks_append blanks]
    exact skipBlanks_of_solid solid (ds ++ rest)
  rw [skip_value, first]
  simp only [if_neg list, if_neg object, ← List.cons_append, read]

/-- An opening bracket is taken together with the first character behind it. -/
theorem skip_opening {frame : Frame} {b rest after : List Char} {d : Char} (blanks : Blanks b)
    (first : skipBlanks rest = d :: after) (stack : List Frame) :
    skip .value stack (b ++ frame.opening :: rest) =
      if d = frame.close then skip .separator stack after
      else skip frame.afterComma (frame :: stack) (d :: after) := by
  rw [skip_value, skipBlanks_append blanks, skipBlanks_of_solid frame.isBlank_opening]
  cases frame with
  | list =>
    simp only [Frame.opening, if_pos, first]
    rfl
  | object =>
    have other : '{' ≠ '[' := by decide
    simp only [Frame.opening, if_neg other, if_pos, first]
    rfl

theorem skip_comma {frame : Frame} {b : List Char} (blanks : Blanks b) (stack : List Frame)
    (rest : List Char) :
    skip .separator (frame :: stack) (b ++ ',' :: rest) =
      skip frame.afterComma (frame :: stack) rest := by
  rw [skip_separator, skipBlanks_append blanks, skipBlanks_of_solid rfl]
  exact if_pos rfl

theorem skip_close {frame : Frame} {b : List Char} (blanks : Blanks b) (stack : List Frame)
    (rest : List Char) :
    skip .separator (frame :: stack) (b ++ frame.close :: rest) = skip .separator stack rest := by
  have other : frame.close ≠ ',' := by cases frame <;> decide
  rw [skip_separator, skipBlanks_append blanks, skipBlanks_of_solid frame.isBlank_close]
  simp only [if_neg other, if_pos]

theorem skip_skipBlanks (frame : Frame) (stack : List Frame) (cs : List Char) :
    skip frame.afterComma stack (skipBlanks cs) = skip frame.afterComma stack cs := by
  cases frame with
  | list => rw [Frame.afterComma, skip_value, skip_value, skipBlanks_skipBlanks]
  | object => rw [Frame.afterComma, skip_key, skip_key, skipKey, skipKey, skipBlanks_skipBlanks]

/-- What stepping over a part of a text comes to, in any frames around it. -/
def SteppedOver : Part → List Char → Prop
  | .value, cs => ∀ b rest stack, Blanks b → Ends rest →
      skip .value stack (b ++ (cs ++ rest)) = skip .separator stack rest
  | .items frame, cs => ∀ rest stack,
      skip frame.afterComma (frame :: stack) (cs ++ frame.close :: rest) =
        skip .separator stack rest

theorem PartText.steppedOver {part : Part} {cs : List Char} (text : PartText part cs) :
    SteppedOver part cs := by
  induction text with
  | scalar text => exact fun b rest stack blanks ends => skip_scalar_append blanks text ends stack
  | @empty within frame inner =>
    intro b rest stack blanks ends
    have first : skipBlanks (within ++ frame.close :: rest) = frame.close :: rest := by
      rw [skipBlanks_append inner, skipBlanks_of_solid frame.isBlank_close]
    simp only [List.cons_append, List.append_assoc, List.nil_append]
    rw [skip_opening blanks first, if_pos rfl]
  | @framed frame cs items ih =>
    intro b rest stack blanks ends
    obtain ⟨d, after, first, other⟩ := items.first_ne_close (frame.close :: rest)
    simp only [List.cons_append, List.append_assoc, List.nil_append]
    rw [skip_opening blanks first, if_neg other, ← first, skip_skipBlanks, ih]
  | @last frame key b cs b' start before value after ih =>
    intro rest stack
    simp only [List.append_assoc]
    rw [skip_key_append start, ih _ _ _ before ((frame.ends_close rest).append_blanks after),
      skip_close after]
  | @more frame key b cs b' others start before value after items ih ihItems =>
    intro rest stack
    simp only [List.append_assoc, List.cons_append]
    rw [skip_key_append start, ih _ _ _ before ((ends_comma _).append_blanks after),
      skip_comma after, ihItems]

/-- A well-formed value with blanks before it is stepped over to its end. -/
theorem skipValue_append {b cs rest : List Char} (blanks : Blanks b) (value : ValueText cs)
    (ends : Ends rest) : skipValue (b ++ (cs ++ rest)) = .ok rest := by
  rw [skipValue, value.steppedOver b rest [] blanks ends, skip]

end LandingGuidance.Json

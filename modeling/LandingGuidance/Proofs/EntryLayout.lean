import Mathlib
import LandingGuidance.Proofs.EntryText
import LandingGuidance.Proofs.JsonNumbers

/-!
# Layouts of a land entry

The reader takes the values and nothing else from a text of a land entry: the order of the members,
the blanks and the unknown members make no difference.
-/

namespace LandingGuidance

open Json

namespace LandEntry

/-! ### The object form -/

/-- A member is read to its end, and what is written in it is entered. -/
theorem readMember_append {ws : List Written} {cs : List Char} (member : MemberText ws cs) :
    ∃ tail, cs = '"' :: tail ∧ ∀ seen entry rest, Ends rest →
      readMember seen entry (tail ++ rest) = (enter seen entry ws).map fun r => (r, rest) := by
  cases member with
  | @known w name b b' cs key before after value =>
    refine ⟨_, rfl, fun seen entry rest ends => ?_⟩
    simp only [List.append_assoc, List.cons_append]
    rw [readMember, string_append key]
    simp only [String.ofList_toList, EntryField.ofKey?_key]
    by_cases again : w.field ∈ seen
    · rw [if_pos again, enter, if_pos again]
      rfl
    · rw [if_neg again, enter, if_neg again]
      simp only [skipColon_append before, readField_append value after ends]
      rfl
  | @unknown name s b b' cs key stranger before after value =>
    refine ⟨_, rfl, fun seen entry rest ends => ?_⟩
    simp only [List.append_assoc, List.cons_append]
    rw [readMember, string_append key]
    simp only [EntryField.ofKey?_of_forall_ne stranger, skipColon_append before,
      skipValue_append after value ends]
    rfl

/-- The equation of `readMembers` without the facts that its termination rests on. -/
theorem readMembers_eq (seen : List EntryField) (entry : LandEntry Float) (cs : List Char) :
    readMembers seen entry cs =
      match readMember seen entry cs with
      | .error fault => .error fault
      | .ok ((seen, entry), rest) =>
        match skipBlanks rest with
        | [] => .error .truncated
        | c :: rest =>
          if c = '}' then .ok (entry, rest)
          else if c = ',' then
            match skipBlanks rest with
            | [] => .error .truncated
            | d :: after => if d = '"' then readMembers seen entry after else .error .malformed
          else .error .malformed := by
  rw [readMembers]
  cases readMember seen entry cs with
  | error fault => rfl
  | ok r =>
    dsimp only
    cases skipBlanks r.2 with
    | nil => rfl
    | cons c rest =>
      dsimp only
      cases skipBlanks rest <;> rfl

section Members

variable {seen seen' : List EntryField} {entry entry' : LandEntry Float} {cs : List Char}

theorem readMembers_error {fault : Fault} (read : readMember seen entry cs = .error fault) :
    readMembers seen entry cs = .error fault := by
  rw [readMembers_eq, read]

theorem readMembers_last {b rest : List Char} (after : Blanks b)
    (read : readMember seen entry cs = .ok ((seen', entry'), b ++ '}' :: rest)) :
    readMembers seen entry cs = .ok (entry', rest) := by
  rw [readMembers_eq, read]
  simp only [skipBlanks_append after, skipBlanks_of_solid (c := '}') rfl, if_pos]

theorem readMembers_more {b others tail : List Char} (after : Blanks b)
    (read : readMember seen entry cs = .ok ((seen', entry'), b ++ ',' :: others))
    (next : skipBlanks others = '"' :: tail) :
    readMembers seen entry cs = readMembers seen' entry' tail := by
  have other : ',' ≠ '}' := by decide
  rw [readMembers_eq, read]
  simp only [skipBlanks_append after, skipBlanks_of_solid (c := ',') rfl, if_neg other, if_pos,
    next]

end Members

/-- The members of an object are read to its end, and what is written in them is entered. -/
theorem readMembers_append {ws : List Written} {cs : List Char} (members : MembersText ws cs)
    (rest : List Char) :
    ∃ tail, skipBlanks (cs ++ '}' :: rest) = '"' :: tail ∧ ∀ seen entry,
      readMembers seen entry tail = (enter seen entry ws).map fun r => (r.2, rest) := by
  induction members with
  | @last ws b cs b' before member after =>
    obtain ⟨tail, rfl, read⟩ := readMember_append member
    refine ⟨tail ++ (b' ++ '}' :: rest), ?_, fun seen entry => ?_⟩
    · simp only [List.append_assoc, List.cons_append]
      rw [skipBlanks_append before, skipBlanks_of_solid rfl]
    · have first := read seen entry _ ((Frame.object.ends_close rest).append_blanks after)
      cases entered : enter seen entry ws with
      | error fault =>
        rw [entered] at first
        exact readMembers_error first
      | ok r =>
        rw [entered] at first
        exact readMembers_last after first
  | @more ws ws' b cs b' others before member after members ih =>
    obtain ⟨tail, rfl, read⟩ := readMember_append member
    obtain ⟨behind, next, readOthers⟩ := ih
    refine ⟨tail ++ (b' ++ ',' :: (others ++ '}' :: rest)), ?_, fun seen entry => ?_⟩
    · simp only [List.append_assoc, List.cons_append]
      rw [skipBlanks_append before, skipBlanks_of_solid rfl]
    · have first := read seen entry _ ((ends_comma (others ++ '}' :: rest)).append_blanks after)
      rw [enter_append]
      cases entered : enter seen entry ws with
      | error fault =>
        rw [entered] at first
        exact readMembers_error first
      | ok r =>
        rw [entered] at first
        rw [readMembers_more after first next, readOthers]
        rfl

theorem readObject_append {ws : List Written} {cs : List Char} (text : ObjectText ws ('{' :: cs))
    (rest : List Char) :
    readObject (cs ++ rest) = (enter [] blank ws).map fun r => (r.2, rest) := by
  cases text with
  | empty blanks =>
    rw [List.append_assoc, readObject, skipBlanks_append blanks]
    rfl
  | members members =>
    obtain ⟨tail, first, read⟩ := readMembers_append members rest
    have other : '"' ≠ '}' := by decide
    rw [List.append_assoc, List.cons_append, List.nil_append, readObject, first]
    simp only [if_neg other, if_pos, read]

/-! ### The array form -/

section Elements

variable {field : EntryField} {entry entry' : LandEntry Float} {b cs : List Char}

theorem readElements_last {fields : List EntryField} {rest : List Char} (after : Blanks b)
    (read : readField entry field cs = .ok (entry', b ++ ']' :: rest)) :
    readElements (field :: fields) entry cs = .ok (entry', rest) := by
  rw [readElements, read]
  simp only [skipBlanks_append after, skipBlanks_of_solid (c := ']') rfl, if_pos]

theorem readElements_more {next : EntryField} {fields : List EntryField} {d : Char}
    {others tail : List Char} (after : Blanks b)
    (read : readField entry field cs = .ok (entry', b ++ ',' :: others))
    (first : skipBlanks others = d :: tail) (more : d ≠ ']') :
    readElements (field :: next :: fields) entry cs =
      readElements (next :: fields) entry' (d :: tail) := by
  have other : ',' ≠ ']' := by decide
  rw [readElements, read]
  simp only [skipBlanks_append after, skipBlanks_of_solid (c := ',') rfl, if_neg other, if_pos,
    first, if_neg more]

end Elements

/-- The elements of an array are read into the first of the given fields. -/
theorem readElements_append {ws : List Written} {cs : List Char} (elements : ElementsText ws cs)
    (rest : List Char) {fields : List EntryField} (order : ws.map Written.field <+: fields)
    (entry : LandEntry Float) :
    ∃ d tail, skipBlanks (cs ++ ']' :: rest) = d :: tail ∧ d ≠ ']' ∧
      readElements fields entry (d :: tail) = .ok (entry.putAll ws, rest) := by
  -- The induction goes along with the elements, which use up the fields one by one.
  induction elements generalizing fields entry with
  | @last w b cs b' before value after =>
    obtain ⟨fields, rfl, _⟩ := List.cons_prefix_iff.mp order
    obtain ⟨d, tail, split, first, other⟩ := value.first_append before (b' ++ ']' :: rest)
    refine ⟨d, tail, by simpa only [List.append_assoc] using first, other, ?_⟩
    have read := readField_append value blanks_nil
      ((Frame.list.ends_close rest).append_blanks after) entry
    rw [← split]
    exact readElements_last after read
  | @more w ws b cs b' others before value after elements ih =>
    obtain ⟨later, rfl, orderLater⟩ := List.cons_prefix_iff.mp order
    obtain ⟨next, ws, rfl⟩ := List.exists_cons_of_ne_nil elements.ne_nil
    obtain ⟨last, rfl, _⟩ := List.cons_prefix_iff.mp orderLater
    obtain ⟨d, tail, split, first, other⟩ :=
      value.first_append before (b' ++ ',' :: (others ++ ']' :: rest))
    obtain ⟨e, behind, firstOther, more, readOthers⟩ :=
      ih orderLater (entry.put w.field w.value)
    refine ⟨d, tail, by simpa only [List.append_assoc, List.cons_append] using first, other, ?_⟩
    have read := readField_append value blanks_nil
      ((ends_comma (others ++ ']' :: rest)).append_blanks after) entry
    rw [← split]
    exact (readElements_more after read firstOther more).trans readOthers

theorem readArray_append {ws : List Written} {cs : List Char} (text : ArrayText ws ('[' :: cs))
    (order : ws.map Written.field <+: EntryField.all) (rest : List Char) :
    readArray (cs ++ rest) = .ok (blank.putAll ws, rest) := by
  cases text with
  | empty blanks =>
    rw [List.append_assoc, readArray, skipBlanks_append blanks]
    rfl
  | elements elements =>
    obtain ⟨d, tail, first, other, read⟩ := readElements_append elements rest order blank
    rw [List.append_assoc, List.cons_append, List.nil_append, readArray, first]
    simp only [if_neg other, read]

/-! ### The whole text -/

theorem readChars_object {b b' cs : List Char} {ws : List Written} (before : Blanks b)
    (text : ObjectText ws cs) (after : Blanks b') :
    readChars (b ++ (cs ++ b')) = (enter [] blank ws).map Prod.snd := by
  have opened : ∃ inner, cs = '{' :: inner := by
    cases text <;> exact ⟨_, rfl⟩
  obtain ⟨inner, rfl⟩ := opened
  rw [readChars, skipBlanks_append before, List.cons_append, skipBlanks_of_solid rfl]
  simp only [if_pos, readObject_append text b']
  cases enter [] blank ws with
  | error fault => rfl
  | ok r => exact if_pos (skipBlanks_of_blanks after)

theorem readChars_array {b b' cs : List Char} {ws : List Written} (before : Blanks b)
    (text : ArrayText ws cs) (order : ws.map Written.field <+: EntryField.all)
    (after : Blanks b') : readChars (b ++ (cs ++ b')) = .ok (blank.putAll ws) := by
  have opened : ∃ inner, cs = '[' :: inner := by
    cases text <;> exact ⟨_, rfl⟩
  obtain ⟨inner, rfl⟩ := opened
  have other : '[' ≠ '{' := by decide
  rw [readChars, skipBlanks_append before, List.cons_append, skipBlanks_of_solid rfl]
  simp only [if_neg other, if_pos, readArray_append text order b']
  exact if_pos (skipBlanks_of_blanks after)

theorem read_object {ws : List Written} {text : String} (layout : Holding (ObjectText ws) text) :
    read text = ((enter [] blank ws).map Prod.snd).mapError .landEntry := by
  obtain ⟨b, cs, b', before, form, after, parts⟩ := layout
  rw [read, parts, readChars_object before form after]

theorem read_array {ws : List Written} {text : String} (layout : Holding (ArrayText ws) text)
    (order : ws.map Written.field <+: EntryField.all) : read text = .ok (blank.putAll ws) := by
  obtain ⟨b, cs, b', before, form, after, parts⟩ := layout
  rw [read, parts, readChars_array before form order after]
  rfl

theorem read_object_of_nodup {ws : List Written} {text : String}
    (layout : Holding (ObjectText ws) text) (once : (ws.map Written.field).Nodup) :
    read text = .ok (blank.putAll ws) := by
  have fresh : (([] : List EntryField).reverse ++ ws.map Written.field).Nodup := once
  obtain ⟨seen, entered⟩ := enter_of_nodup fresh blank
  rw [read_object layout, entered]
  rfl

theorem nodup_of_order {ws : List Written} (order : ws.map Written.field <+: EntryField.all) :
    (ws.map Written.field).Nodup :=
  order.sublist.nodup (by decide)

/-- The values of an object are read whatever the layout: in any order of the members, with unknown
ones among them and blanks between all tokens. An array of the first fields is read as the same
entry as an object with these fields, and an object with a field twice is refused. Every numeral
that is not next to the largest finite number has a value to be read. -/
theorem read_any_layout :
    (∀ ws text, Holding (ObjectText ws) text → (ws.map Written.field).Nodup →
      ∃ entry : LandEntry Float, read text = .ok entry ∧ entry.Holds ws) ∧
    (∀ ws text, Holding (ArrayText ws) text → ws.map Written.field <+: EntryField.all →
      ∃ entry : LandEntry Float, read text = .ok entry ∧ entry.Holds ws ∧
        ∀ ws' object, Holding (ObjectText ws') object → ws'.Perm ws → read object = .ok entry) ∧
    (∀ ws text, Holding (ObjectText ws) text → ¬(ws.map Written.field).Nodup →
      read text = .error (.landEntry .mistyped)) ∧
    (∀ cs n, NumeralText cs n → n.magnitude ≤ Binary64.largest * (1 - 1 / 2 ^ 51) →
      ∃ x q, NumberText cs x ∧ Binary64.value? x = some q ∧
        |q - n.exact| ≤ n.magnitude / 2 ^ 50 + Binary64.smallest) ∧
    ∀ cs n, NumeralText cs n → n.digits < 2 ^ 53 → n.scale.natAbs ≤ 22 →
      NumberText cs (Binary64.ofDecimal n.negative n.digits n.scale) := by
  refine ⟨?_, ?_, ?_, ?_, ?_⟩
  · intro ws text layout once
    exact ⟨_, read_object_of_nodup layout once, holds_putAll once⟩
  · intro ws text layout order
    have once := nodup_of_order order
    refine ⟨_, read_array layout order, holds_putAll once, ?_⟩
    intro ws' object layout' same
    have once' : (ws'.map Written.field).Nodup := (same.map Written.field).nodup_iff.mpr once
    rw [read_object_of_nodup layout' once',
      (holds_putAll once').unique (holds_putAll once) same]
  · intro ws text layout again
    rw [read_object layout, enter_of_not_nodup List.nodup_nil again]
    rfl
  · intro cs n text small
    obtain ⟨x, q, read, value, near⟩ := exists_value text small
    exact ⟨x, q, ⟨n, text, read⟩, value, near⟩
  · intro cs n text short range
    exact ⟨n, text, value_of_short text short range⟩

/-- The layout makes no difference in a text with blanks, an escaped name, an unknown member of
nested values and a null, nor in an array, and a repeated field is refused. -/
theorem read_any_layout_of_nested_member :
    let flaps : Written := ⟨.flaps, none⟩
    let radius : Written := ⟨.turnRadius, (75.0 : Float)⟩
    let name : Written := ⟨.name, "land"⟩
    let nested :=
      "\x7b \"x\":[\x7b\"y\":\"\\ud800\"\x7d,-1e9999], \"fl\\u0061ps\" : null," ++
        "\"turn_radius_m\":75\x7d\n"
    let repeated := "\x7b\"flaps\":null,\"flaps\":null\x7d"
    Holding (ObjectText [flaps, radius]) nested ∧
      (∃ entry, read nested = .ok entry ∧ entry.Holds [flaps, radius]) ∧
      Holding (ArrayText [name]) "[\"land\"]" ∧
      (∃ entry, read "[\"land\"]" = .ok entry ∧ entry.Holds [name] ∧
        read "\x7b\"name\":\"land\"\x7d" = .ok entry) ∧
      Holding (ObjectText [flaps, flaps]) repeated ∧
      read repeated = .error (.landEntry .mistyped) ∧
      (∃ x q, NumberText "75".toList x ∧ Binary64.value? x = some q ∧
        |q - 75| ≤ 75 / 2 ^ 50 + Binary64.smallest) ∧
      NumberText "75".toList 75.0 := by
  intro flaps radius name nested repeated
  have space : Blanks [' '] := by simp [Blanks, Json.isBlank]
  have line : Blanks ['\n'] := by simp [Blanks, Json.isBlank]
  have small : UnitText ['0', '0', '6', '1'] (((0 * 16 + 0) * 16 + 6) * 16 + 1) :=
    .mk rfl rfl rfl rfl
  have letter : LetterText ['\\', 'u', '0', '0', '6', '1'] 'a' :=
    .unit small (by simp [IsHighSurrogate]) (by simp [IsLowSurrogate])
  have escaped : StringText ['f', 'l', '\\', 'u', '0', '0', '6', '1', 'p', 's']
      ['f', 'l', 'a', 'p', 's'] :=
    .cons (.plain (by decide) (by decide) (by decide)) <|
      .cons (.plain (by decide) (by decide) (by decide)) <| .cons letter <|
      stringText_of_plain (by simp)
  have key : StringText ['f', 'l', '\\', 'u', '0', '0', '6', '1', 'p', 's']
      flaps.field.key.toList := by simpa [flaps, EntryField.key] using escaped
  have whole : WholeText ['7', '5'] := .other (by decide) (by decide)
  have one : WholeText ['1'] := .other (by decide) (by decide)
  have power : Decimal.ExponentText ['e', '9', '9', '9', '9'] 9999 :=
    .present (.inl rfl) .absent (by decide : Decimal.IsRun ['9', '9', '9', '9'])
  have numeral : NumeralText ['7', '5'] ⟨false, ['7', '5'], [], 0⟩ :=
    .mk .absent whole .absent .absent
  have huge : NumeralText ['-', '1', 'e', '9', '9', '9', '9'] ⟨true, ['1'], [], 9999⟩ :=
    .mk .present one .absent power
  -- The unknown member has an object in a list, with half of a surrogate pair in it.
  have half : LooseText ['\\', 'u', 'd', '8', '0', '0'] :=
    .cons (.unit (.mk rfl rfl rfl rfl)) .nil
  have y : LooseText ['y'] := .cons (.plain (by decide) (by decide) (by decide)) .nil
  have inner : PartText .value _ := .framed <| .last (.member blanks_nil y blanks_nil) blanks_nil
    (.scalar (.string half)) blanks_nil
  have list : ValueText _ := .framed <| .more .element blanks_nil inner blanks_nil <|
    .last .element blanks_nil (.scalar (.number huge)) blanks_nil
  have x : StringText ['x'] ['x'] := stringText_of_plain (by simp)
  have stranger : ∀ field : EntryField, field.key.toList ≠ ['x'] := by
    intro field
    cases field <;> simp [EntryField.key]
  have unknown : MemberText [] _ := .unknown x stranger blanks_nil blanks_nil list
  have absent : EntryField.flaps.ValueText ['n', 'u', 'l', 'l'] (none : Option Float) := .null
  have number : NumberText ['7', '5'] 75.0 := ⟨_, numeral, by decide +kernel⟩
  have members : MembersText [flaps, radius] _ := .more space unknown blanks_nil <|
    .more space (.known (w := flaps) key space space absent) blanks_nil <|
    .last blanks_nil (.known (w := radius) (EntryField.stringText_key .turnRadius) blanks_nil
      blanks_nil number) blanks_nil
  have object : Holding (ObjectText [flaps, radius]) nested :=
    ⟨[], _, ['\n'], blanks_nil, .members members, line,
      by simp [nested, EntryField.key, Frame.opening, Frame.close]⟩
  have land : EntryField.name.ValueText _ "land" := QuotedText.mk (stringText_of_plain (by simp))
  have array : Holding (ArrayText [name]) "[\"land\"]" :=
    ⟨[], _, [], blanks_nil, .elements (.last (w := name) blanks_nil land blanks_nil), blanks_nil,
      by rfl⟩
  have plain : MemberText [flaps] _ := .known (w := flaps) (EntryField.stringText_key .flaps)
    blanks_nil blanks_nil absent
  have twice : Holding (ObjectText [flaps, flaps]) repeated :=
    ⟨[], _, [], blanks_nil, .members (.more blanks_nil plain blanks_nil
      (.last blanks_nil plain blanks_nil)), blanks_nil, by simp [repeated, EntryField.key]⟩
  have single : Holding (ObjectText [name]) "\x7b\"name\":\"land\"\x7d" :=
    ⟨[], _, [], blanks_nil, .members (.last blanks_nil (.known (w := name)
      (EntryField.stringText_key .name) blanks_nil blanks_nil land) blanks_nil), blanks_nil,
      by simp [EntryField.key]⟩
  have digits : Numeral.digits ⟨false, ['7', '5'], [], 0⟩ = 75 := rfl
  have magnitude : Numeral.magnitude ⟨false, ['7', '5'], [], 0⟩ = 75 := by
    simp [Numeral.magnitude, digits, Numeral.scale]
  have bounded : Numeral.magnitude ⟨false, ['7', '5'], [], 0⟩ ≤
      Binary64.largest * (1 - 1 / 2 ^ 51) := by
    have below : ((150 : ℕ) * 10 ^ ((0 : ℕ) : ℤ) : ℚ) ≤ Binary64.largest :=
      le_largest (by decide +kernel)
    rw [magnitude]
    norm_num at below ⊢
    linarith
  have nearest : Binary64.ofDecimal false 75 0 = 75.0 := by decide +kernel
  obtain ⟨entry, read, holds, same⟩ := read_any_layout.2.1 [name] _ array ⟨_, rfl⟩
  have near := read_any_layout.2.2.2.1 _ _ numeral bounded
  have short := read_any_layout.2.2.2.2 _ _ numeral (by decide) (by decide)
  rw [Numeral.exact, magnitude] at near
  exact ⟨object, read_any_layout.1 _ _ object (by decide), array,
    ⟨entry, read, holds, same _ _ single (.refl _)⟩, twice,
    read_any_layout.2.2.1 _ _ twice (by decide), near, nearest ▸ short⟩

/-! ### Numerals that are refused, and numerals that are read inexactly -/

/-- The object form with a single field and no blanks. -/
def SingleText (field : EntryField) (cs : List Char) (text : String) : Prop :=
  text.toList = '{' :: '"' :: (field.key.toList ++ '"' :: ':' :: (cs ++ ['}']))

theorem read_single {field : EntryField} {cs : List Char} {v : field.Value} {text : String}
    (value : field.ValueText cs v) (parts : SingleText field cs text) :
    read text = .ok (blank.put field v) := by
  have member : MemberText [⟨field, v⟩] _ :=
    .known (EntryField.stringText_key field) blanks_nil blanks_nil value
  have members := MembersText.last blanks_nil member blanks_nil
  have layout : Holding (ObjectText [⟨field, v⟩]) text := by
    refine ⟨[], _, [], blanks_nil, .members members, blanks_nil, ?_⟩
    rw [parts]
    simp
  exact read_object_of_nodup layout (by simp)

/-- A radius is refused if its reading leaves the range of finite numbers. -/
theorem read_radius_of_overflow {cs : List Char} {n : Numeral} {text : String}
    (numeral : NumeralText cs n) (overflow : n.value = none)
    (parts : SingleText .turnRadius cs text) : read text = .error (.landEntry .malformed) := by
  have number : readNumber (cs ++ ['}']) = .error .malformed := by
    have read := readNumber_numeral_append numeral blanks_nil (Frame.object.ends_close [])
    rw [overflow] at read
    exact read
  have colon : skipKey.colon (':' :: (cs ++ ['}'])) = .ok (cs ++ ['}']) :=
    skipColon_append blanks_nil (cs ++ ['}'])
  have member : readMember [] blank
      (EntryField.turnRadius.key.toList ++ '"' :: ':' :: (cs ++ ['}'])) = .error .malformed := by
    rw [readMember, string_append (EntryField.stringText_key .turnRadius)]
    simp only [String.ofList_toList, EntryField.ofKey?_key, colon, readField, readInto, number]
    rfl
  have quote : '"' ≠ '}' := by decide
  rw [read, parts, readChars, skipBlanks_of_solid rfl]
  simp only [if_pos, readObject, skipBlanks_of_solid (c := '"') rfl, if_neg quote,
    readMembers_error member]
  rfl

/-- A radius in the range of doubles is refused, and another one is read as the neighbour of the
double nearest to it. -/
theorem in_range_radius_refused :
    (∃ n, NumeralText "1.797693134862315708e308".toList n ∧ n.magnitude ≤ Binary64.largest ∧
      read "\x7b\"turn_radius_m\":1.797693134862315708e308\x7d" =
        .error (.landEntry .malformed)) ∧
    ∃ n, NumeralText "105.52871615595167".toList n ∧ n.magnitude ≤ Binary64.largest ∧
      Decimal.readFloat "105.52871615595167".toList = some 105.52871615595167 ∧
      ∃ entry : LandEntry Float,
        read "\x7b\"turn_radius_m\":105.52871615595167\x7d" = .ok entry ∧
        entry.get .turnRadius ≠ (105.52871615595167 : Float) := by
  constructor
  · let n : Numeral := ⟨false, "1".toList, "797693134862315708".toList, 308⟩
    have numeral : NumeralText "1.797693134862315708e308".toList n :=
      .mk .absent (.other (by decide : Decimal.IsRun "1".toList) (by decide))
        (.present (by decide : Decimal.IsRun "797693134862315708".toList))
        (.present (.inl rfl) .absent (by decide : Decimal.IsRun "308".toList))
    have overflow : n.value = none := by decide +kernel
    refine ⟨n, numeral, ?_, read_radius_of_overflow numeral overflow (by rfl)⟩
    exact le_largest (c := 1797693134862315708) (k := 290) (by decide +kernel)
  · let n : Numeral := ⟨false, "105".toList, "52871615595167".toList, 0⟩
    have numeral : NumeralText "105.52871615595167".toList n :=
      .mk .absent (.other (by decide : Decimal.IsRun "105".toList) (by decide))
        (.present (by decide : Decimal.IsRun "52871615595167".toList)) .absent
    have value : n.value = some 105.52871615595168 := by
      have kept : n.kept = (10552871615595167, -14) := by decide +kernel
      have nonzero : ¬(Binary64.nearest false 10552871615595167 1 == 0.0) = true := by
        decide +kernel
      simp only [Numeral.value, kept]
      rw [if_pos (by decide), scaleDown, if_neg nonzero, if_pos (by decide)]
      decide +kernel
    have radius : EntryField.turnRadius.ValueText "105.52871615595167".toList
        (105.52871615595168 : Float) := ⟨n, numeral, value⟩
    refine ⟨n, numeral, ?_, by rfl, _, read_single radius (by rfl), ?_⟩
    · have places : (10 : ℚ) ^ (-14 : ℤ) ≤ 10 ^ (0 : ℤ) :=
        zpow_le_zpow_right₀ (by norm_num) (by norm_num)
      calc n.magnitude = (10552871615595167 : ℕ) * 10 ^ (-14 : ℤ) := by rfl
        _ ≤ (10552871615595167 : ℕ) * 10 ^ (0 : ℤ) := by gcongr
        _ ≤ Binary64.largest := le_largest (k := 0) (by decide +kernel)
    · have apart : (105.52871615595168 : Float) ≠ 105.52871615595167 := by decide +kernel
      exact apart

end LandEntry

end LandingGuidance

import LandingGuidance.Json.Scalar
import LandingGuidance.Json.Skip
import LandingGuidance.Proofs.Numerals

/-!
# Which texts are scalars

The grammar of strings, numerals and words in a configuration text. What follows the grammar is read
to its end, and the reader goes on behind it. A reader that steps over a scalar stops in the same
place.
-/

namespace LandingGuidance.Json

open Decimal

/-! ### Blanks -/

/-- Blanks between tokens. -/
def Blanks (b : List Char) : Prop := ∀ c ∈ b, isBlank c = true

theorem blanks_nil : Blanks [] := by
  simp [Blanks]

@[simp] theorem skipBlanks_append {b : List Char} (blanks : Blanks b) (rest : List Char) :
    skipBlanks (b ++ rest) = skipBlanks rest :=
  List.dropWhile_append_of_pos blanks

@[simp] theorem skipBlanks_of_solid {c : Char} (solid : isBlank c = false) (rest : List Char) :
    skipBlanks (c :: rest) = c :: rest :=
  List.dropWhile_cons_of_neg (by simp [solid])

theorem skipBlanks_of_blanks {b : List Char} (blanks : Blanks b) : skipBlanks b = [] :=
  List.dropWhile_eq_nil_iff.mpr blanks

theorem skipBlanks_skipBlanks (cs : List Char) : skipBlanks (skipBlanks cs) = skipBlanks cs := by
  induction cs with
  | nil => rfl
  | cons c cs ih =>
    by_cases blank : isBlank c = true
    · have step : skipBlanks (c :: cs) = skipBlanks cs := List.dropWhile_cons_of_pos blank
      rw [step, ih]
    · rw [Bool.not_eq_true] at blank
      rw [skipBlanks_of_solid blank, skipBlanks_of_solid blank]

/-- A text that may follow a value: nothing, a blank, a comma or a closing bracket. -/
def Ends (rest : List Char) : Prop :=
  ∀ c ∈ rest.head?, isBlank c = true ∨ c = ',' ∨ c = ']' ∨ c = '}'

theorem Ends.append_blanks {b rest : List Char} (ends : Ends rest) (blanks : Blanks b) :
    Ends (b ++ rest) := by
  cases b with
  | nil => exact ends
  | cons c b =>
    rintro d starts
    cases starts
    exact .inl (blanks c List.mem_cons_self)

/-! ### Strings -/

/-- Four hexadecimal digits and the unit that they stand for. -/
inductive UnitText : List Char → Nat → Prop where
  | mk {a b c d : Char} {w x y z : Nat} (first : hexValue a = some w) (second : hexValue b = some x)
      (third : hexValue c = some y) (fourth : hexValue d = some z) :
      UnitText [a, b, c, d] (((w * 16 + x) * 16 + y) * 16 + z)

def IsHighSurrogate (n : Nat) : Prop := 0xD800 ≤ n ∧ n ≤ 0xDBFF

def IsLowSurrogate (n : Nat) : Prop := 0xDC00 ≤ n ∧ n ≤ 0xDFFF

/-- One character of a string as it is written: as it is, or in an escape of its own, or as a unit
or a pair of surrogates. -/
inductive LetterText : List Char → Char → Prop where
  | plain {c : Char} (quote : c ≠ '"') (backslash : c ≠ '\\') (printed : 0x20 ≤ c.toNat) :
      LetterText [c] c
  | escape {d e : Char} (simple : simpleEscape d = some e) : LetterText ['\\', d] e
  | unit {u : List Char} {n : Nat} (unit : UnitText u n) (high : ¬IsHighSurrogate n)
      (low : ¬IsLowSurrogate n) : LetterText ('\\' :: 'u' :: u) (Char.ofNat n)
  | pair {u v : List Char} {n m : Nat} (first : UnitText u n) (high : IsHighSurrogate n)
      (second : UnitText v m) (low : IsLowSurrogate m) :
      LetterText ('\\' :: 'u' :: (u ++ '\\' :: 'u' :: v))
        (Char.ofNat (0x10000 + (n - 0xD800) * 0x400 + (m - 0xDC00)))

/-- The text of a string between its quotes, and its characters. -/
inductive StringText : List Char → List Char → Prop where
  | nil : StringText [] []
  | cons {letter cs s : List Char} {c : Char} (first : LetterText letter c)
      (others : StringText cs s) : StringText (letter ++ cs) (c :: s)

/-- One character of a string that is only stepped over. A unit may be half of a pair. -/
inductive LooseLetter : List Char → Prop where
  | plain {c : Char} (quote : c ≠ '"') (backslash : c ≠ '\\') (printed : 0x20 ≤ c.toNat) :
      LooseLetter [c]
  | escape {d e : Char} (simple : simpleEscape d = some e) : LooseLetter ['\\', d]
  | unit {u : List Char} {n : Nat} (unit : UnitText u n) : LooseLetter ('\\' :: 'u' :: u)

/-- The text between the quotes of a string that is only stepped over. -/
inductive LooseText : List Char → Prop where
  | nil : LooseText []
  | cons {letter cs : List Char} (first : LooseLetter letter) (others : LooseText cs) :
      LooseText (letter ++ cs)

theorem fourHex_append {u : List Char} {n : Nat} (unit : UnitText u n) (rest : List Char) :
    fourHex (u ++ rest) = .ok (n, rest) := by
  cases unit with
  | mk first second third fourth =>
    simp [fourHex, first, second, third, fourth]

theorem lowSurrogate_append {v : List Char} {m : Nat} (unit : UnitText v m) (low : IsLowSurrogate m)
    (rest : List Char) : lowSurrogate ('\\' :: 'u' :: (v ++ rest)) = .ok (m, rest) := by
  have range : 0xDC00 ≤ m ∧ m ≤ 0xDFFF := low
  simp [lowSurrogate, fourHex_append unit, range]

theorem escape_of_simple {d e : Char} (simple : simpleEscape d = some e) (cs : List Char) :
    escape (d :: cs) = .ok (e, cs) := by
  simp [escape, simple]

theorem unicodeEscape_unit {u : List Char} {n : Nat} (unit : UnitText u n)
    (high : ¬IsHighSurrogate n) (low : ¬IsLowSurrogate n) (rest : List Char) :
    unicodeEscape (u ++ rest) = .ok (Char.ofNat n, rest) := by
  rw [IsHighSurrogate] at high
  rw [IsLowSurrogate] at low
  simp only [unicodeEscape, fourHex_append unit, if_neg low, if_neg high]

theorem unicodeEscape_pair {u v : List Char} {n m : Nat} (first : UnitText u n)
    (high : IsHighSurrogate n) (second : UnitText v m) (low : IsLowSurrogate m)
    (rest : List Char) :
    unicodeEscape (u ++ '\\' :: 'u' :: (v ++ rest)) =
      .ok (Char.ofNat (0x10000 + (n - 0xD800) * 0x400 + (m - 0xDC00)), rest) := by
  have alone : ¬(0xDC00 ≤ n ∧ n ≤ 0xDFFF) := by
    rw [IsHighSurrogate] at high
    omega
  rw [IsHighSurrogate] at high
  simp only [unicodeEscape, fourHex_append first, if_neg alone, if_pos high,
    lowSurrogate_append second low]

theorem string_plain {c : Char} (quote : c ≠ '"') (backslash : c ≠ '\\') (printed : 0x20 ≤ c.toNat)
    {s cs rest : List Char} (others : string cs = .ok (s, rest)) :
    string (c :: cs) = .ok (c :: s, rest) := by
  rw [string, if_neg quote, if_neg backslash, if_neg (by omega), others]

theorem string_escape {c : Char} {cs after : List Char} (letter : escape cs = .ok (c, after))
    {s rest : List Char} (others : string after = .ok (s, rest)) :
    string ('\\' :: cs) = .ok (c :: s, rest) := by
  rw [string, if_neg (by decide), if_pos rfl]
  split
  next other =>
    rw [letter] at other
    cases other
  next same =>
    rw [letter] at same
    cases same
    rw [others]

/-- One character is read, and the string goes on behind it. -/
theorem string_letter_append {letter : List Char} {c : Char} (first : LetterText letter c)
    {s cs rest : List Char} (others : string cs = .ok (s, rest)) :
    string (letter ++ cs) = .ok (c :: s, rest) := by
  cases first with
  | plain quote backslash printed => exact string_plain quote backslash printed others
  | escape simple => exact string_escape (escape_of_simple simple cs) others
  | @unit u n unit high low =>
    have letter : escape ('u' :: (u ++ cs)) = .ok (Char.ofNat n, cs) :=
      unicodeEscape_unit unit high low cs
    exact string_escape letter others
  | @pair u v n m first high second low =>
    have letter : escape ('u' :: (u ++ '\\' :: 'u' :: (v ++ cs))) = .ok (_, cs) :=
      unicodeEscape_pair first high second low cs
    simpa using string_escape letter others

theorem string_append {cs s : List Char} (text : StringText cs s) (rest : List Char) :
    string (cs ++ '"' :: rest) = .ok (s, rest) := by
  induction text with
  | nil => rw [List.nil_append, string, if_pos rfl]
  | cons first others ih =>
    rw [List.append_assoc]
    exact string_letter_append first ih

/-- A text without quotes, backslashes and control characters may stand as it is. -/
theorem stringText_of_plain {s : List Char}
    (plain : ∀ c ∈ s, c ≠ '"' ∧ c ≠ '\\' ∧ 0x20 ≤ c.toNat) : StringText s s := by
  induction s with
  | nil => exact .nil
  | cons c s ih =>
    rw [List.forall_mem_cons] at plain
    obtain ⟨⟨quote, backslash, printed⟩, others⟩ := plain
    exact .cons (.plain quote backslash printed) (ih others)

theorem skipString_escape {cs after : List Char} (letter : skipEscape cs = .ok after) :
    skipString ('\\' :: cs) = skipString after := by
  rw [skipString, if_neg (by decide), if_pos rfl]
  split
  next other =>
    rw [letter] at other
    cases other
  next same =>
    rw [letter] at same
    cases same
    rfl

theorem skipString_letter_append {letter : List Char} (first : LooseLetter letter)
    (cs : List Char) : skipString (letter ++ cs) = skipString cs := by
  cases first with
  | plain quote backslash printed =>
    rw [List.cons_append, List.nil_append, skipString, if_neg quote, if_neg backslash,
      if_neg (by omega)]
  | @escape d e simple =>
    have letter : skipEscape (d :: cs) = .ok cs := by simp [skipEscape, simple]
    exact skipString_escape letter
  | @unit u n unit =>
    have letter : skipEscape ('u' :: (u ++ cs)) = .ok cs := by
      simp [skipEscape, simpleEscape, fourHex_append unit]
    exact skipString_escape letter

theorem skipString_append {cs : List Char} (text : LooseText cs) (rest : List Char) :
    skipString (cs ++ '"' :: rest) = .ok rest := by
  induction text with
  | nil => rw [List.nil_append, skipString, if_pos rfl]
  | cons first others ih => rw [List.append_assoc, skipString_letter_append first, ih]

/-! ### Numerals -/

/-- A minus sign that may be left out, and whether it is there. -/
inductive MinusText : List Char → Bool → Prop where
  | absent : MinusText [] false
  | present : MinusText ['-'] true

/-- The whole digits of a numeral: a single zero, or digits that begin with another one. -/
inductive WholeText : List Char → Prop where
  | zero : WholeText ['0']
  | other {ds : List Char} (run : IsRun ds) (first : ds.head? ≠ some '0') : WholeText ds

/-- A point that has digits behind it, or is left out with them. -/
inductive PointText : List Char → List Char → Prop where
  | absent : PointText [] []
  | present {ds : List Char} (run : IsRun ds) : PointText ('.' :: ds) ds

/-- The text of a numeral. -/
inductive NumeralText : List Char → Numeral → Prop where
  | mk {sign whole point fraction scale : List Char} {negative : Bool} {exponent : Int}
      (minus : MinusText sign negative) (digits : WholeText whole) (part : PointText point fraction)
      (power : ExponentText scale exponent) :
      NumeralText (sign ++ (whole ++ (point ++ scale))) { negative, whole, fraction, exponent }

/-- The text of a number and what is read from it. -/
def NumberText (cs : List Char) (x : Float) : Prop := ∃ n, NumeralText cs n ∧ n.value = some x

/-- A text does not go on like a numeral. -/
def NoNumeralAhead (rest : List Char) : Prop :=
  ∀ c ∈ rest.head?, c.isDigit = false ∧ c ≠ '.' ∧ c ≠ 'e' ∧ c ≠ 'E'

theorem Ends.noNumeralAhead {rest : List Char} (ends : Ends rest) : NoNumeralAhead rest := by
  intro c starts
  have blanks : ∀ d : Char, isBlank d = true → d = ' ' ∨ d = '\t' ∨ d = '\n' ∨ d = '\r' := by
    simp [isBlank, or_assoc]
  rcases ends c starts with blank | rfl | rfl | rfl
  · rcases blanks c blank with rfl | rfl | rfl | rfl <;> decide
  all_goals decide

theorem someDigits_append {ds rest : List Char} (run : IsRun ds) (stop : NoDigitAhead rest) :
    someDigits (ds ++ rest) = .ok (ds, rest) := by
  obtain ⟨c, cs, rfl⟩ := List.exists_cons_of_ne_nil run.1
  rw [someDigits, takeWhile_digits_append run.2 stop, dropWhile_digits_append run.2 stop]

theorem WholeText.isRun {whole : List Char} (digits : WholeText whole) : IsRun whole := by
  cases digits with
  | zero => exact ⟨by simp, by simp⟩
  | other run first => exact run

theorem wholeDigits_append {whole rest : List Char} (digits : WholeText whole)
    (stop : NoDigitAhead rest) : wholeDigits (whole ++ rest) = .ok (whole, rest) := by
  cases digits with
  | zero =>
    have nothing : ∀ c ∈ ([] : List Char), c.isDigit = true := by simp
    have none_left : rest.takeWhile Char.isDigit = [] := takeWhile_digits_append nothing stop
    rw [List.cons_append, List.nil_append, wholeDigits, if_pos none_left]
  | other run first =>
    obtain ⟨c, cs, rfl⟩ := List.exists_cons_of_ne_nil run.1
    unfold wholeDigits
    split
    next starts =>
      cases starts
      exact absurd rfl first
    next => exact someDigits_append run stop

theorem fractionDigits_append {point fraction rest : List Char} (part : PointText point fraction)
    (stop : ∀ c ∈ rest.head?, c.isDigit = false ∧ c ≠ '.') :
    fractionDigits (point ++ rest) = .ok (fraction, rest) := by
  cases part with
  | absent =>
    rw [List.nil_append]
    unfold fractionDigits
    split
    next => exact absurd rfl (stop '.' rfl).2
    next => rfl
  | present run => exact someDigits_append run fun c starts => (stop c starts).1

theorem exponent_append {scale rest : List Char} {e : Int} (power : ExponentText scale e)
    (stop : NoNumeralAhead rest) : exponent (scale ++ rest) = .ok (e, rest) := by
  cases power with
  | absent =>
    cases rest with
    | nil => rfl
    | cons c rest =>
      obtain ⟨_, _, small, large⟩ := stop c rfl
      simp [exponent, small, large]
  | @present mark s ds negative marked sign run =>
    have signed := takeSign_append sign (run.noSignAhead_append rest)
    have digits := someDigits_append run fun c starts => (stop c starts).1
    rw [List.cons_append, List.append_assoc, exponent, if_pos marked]
    simp only [signed, digits]

/-- What follows the point of a numeral is no digit and no other point. -/
theorem stop_of_power {scale rest : List Char} {e : Int} (power : ExponentText scale e)
    (stop : NoNumeralAhead rest) :
    ∀ c ∈ (scale ++ rest).head?, c.isDigit = false ∧ c ≠ '.' := by
  cases power with
  | absent => exact fun c starts => ⟨(stop c starts).1, (stop c starts).2.1⟩
  | present marked =>
    rintro c starts
    cases starts
    rcases marked with rfl | rfl <;> decide

theorem noDigitAhead_of_part {point fraction rest : List Char} (part : PointText point fraction)
    (stop : NoDigitAhead rest) : NoDigitAhead (point ++ rest) := by
  cases part with
  | absent => exact stop
  | present =>
    rintro c starts
    cases starts
    rfl

theorem takeMinus_append {sign rest : List Char} {negative : Bool} (minus : MinusText sign negative)
    (stop : NoSignAhead rest) : takeMinus (sign ++ rest) = (negative, rest) := by
  cases minus with
  | absent =>
    rw [List.nil_append]
    unfold takeMinus
    split
    next => exact absurd rfl (stop '-' rfl).1
    next => rfl
  | present => rfl

/-- The text of a numeral is read to its end if it does not go on behind it. -/
theorem numeral_append {cs rest : List Char} {n : Numeral} (text : NumeralText cs n)
    (stop : NoNumeralAhead rest) : numeral (cs ++ rest) = .ok (n, rest) := by
  cases text with
  | @mk sign whole point fraction scale negative e minus digits part power =>
    have stopPart := stop_of_power power stop
    have stopDigits := noDigitAhead_of_part part fun c starts => (stopPart c starts).1
    have signed := takeMinus_append minus
      (digits.isRun.noSignAhead_append (point ++ (scale ++ rest)))
    simp only [List.append_assoc]
    unfold numeral
    simp only [signed, wholeDigits_append digits stopDigits, fractionDigits_append part stopPart,
      exponent_append power stop]

/-- A numeral begins with a digit or a minus sign. -/
theorem NumeralText.exists_cons {cs : List Char} {n : Numeral} (text : NumeralText cs n) :
    ∃ c ds, cs = c :: ds ∧ (c = '-' ∨ c.isDigit = true) := by
  cases text with
  | mk minus digits part power =>
    cases minus with
    | absent =>
      obtain ⟨c, ds, rfl⟩ := List.exists_cons_of_ne_nil digits.isRun.1
      exact ⟨c, _, rfl, .inr (digits.isRun.2 c List.mem_cons_self)⟩
    | present => exact ⟨'-', _, rfl, .inl rfl⟩

theorem isBlank_of_numeral {c : Char} (start : c = '-' ∨ c.isDigit = true) :
    isBlank c = false := by
  rcases start with rfl | digit
  · rfl
  · have bounds := bounds_of_isDigit digit
    have others : ∀ d : Char, d.toNat < 48 → c ≠ d := by
      rintro d small rfl
      omega
    simp [isBlank, others ' ' (by decide), others '\t' (by decide), others '\n' (by decide),
      others '\r' (by decide)]

/-! ### Scalars -/

/-- A value that is no list and no object. -/
inductive ScalarText : List Char → Prop where
  | null : ScalarText ['n', 'u', 'l', 'l']
  | true : ScalarText ['t', 'r', 'u', 'e']
  | false : ScalarText ['f', 'a', 'l', 's', 'e']
  | string {cs : List Char} (text : LooseText cs) : ScalarText ('"' :: (cs ++ ['"']))
  | number {cs : List Char} {n : Numeral} (text : NumeralText cs n) : ScalarText cs

/-- A scalar begins with a character that is no blank and no bracket. -/
theorem ScalarText.exists_cons {cs : List Char} (scalar : ScalarText cs) :
    ∃ c ds, cs = c :: ds ∧ isBlank c = Bool.false ∧ c ≠ '[' ∧ c ≠ '{' ∧ c ≠ ']' := by
  cases scalar with
  | null | true | false | string => exact ⟨_, _, rfl, rfl, by decide, by decide, by decide⟩
  | number text =>
    obtain ⟨c, ds, rfl, start⟩ := text.exists_cons
    refine ⟨c, ds, rfl, isBlank_of_numeral start, ?_, ?_, ?_⟩
    all_goals
      rintro rfl
      exact absurd start (by decide)

/-- A scalar is stepped over to its end. -/
theorem skipScalar_append {cs rest : List Char} (scalar : ScalarText cs) (ends : Ends rest) :
    skipScalar (cs ++ rest) = .ok rest := by
  cases scalar with
  | null | true | false => rfl
  | string text =>
    rw [List.cons_append, List.append_assoc, skipScalar, if_pos rfl]
    exact skipString_append text rest
  | number text =>
    have read := numeral_append text ends.noNumeralAhead
    obtain ⟨c, ds, rfl, start⟩ := text.exists_cons
    rw [List.cons_append] at read ⊢
    have letters : c ≠ '"' ∧ c ≠ 'n' ∧ c ≠ 't' ∧ c ≠ 'f' := by
      refine ⟨?_, ?_, ?_, ?_⟩
      all_goals
        rintro rfl
        exact absurd start (by decide)
    obtain ⟨quote, n, t, f⟩ := letters
    rw [skipScalar, if_neg quote, if_neg n, if_neg t, if_neg f, if_pos start, read]

/-! ### Values that are asked for -/

/-- The text of a string with its quotes. -/
inductive QuotedText : List Char → String → Prop where
  | mk {cs : List Char} {s : String} (text : StringText cs s.toList) :
      QuotedText ('"' :: (cs ++ ['"'])) s

/-- The text of a number that may be null. -/
inductive NullableText : List Char → Option Float → Prop where
  | null : NullableText ['n', 'u', 'l', 'l'] none
  | number {cs : List Char} {x : Float} (text : NumberText cs x) : NullableText cs (some x)

theorem NumberText.exists_cons {cs : List Char} {x : Float} (text : NumberText cs x) :
    ∃ c ds, cs = c :: ds ∧ (c = '-' ∨ c.isDigit = true) := by
  obtain ⟨n, text, _⟩ := text
  exact text.exists_cons

theorem bracket_ne_of_numeral {c : Char} (start : c = '-' ∨ c.isDigit = true) : c ≠ ']' := by
  rintro rfl
  exact absurd start (by decide)

theorem readNumber_numeral_append {cs b rest : List Char} {n : Numeral} (text : NumeralText cs n)
    (blanks : Blanks b) (ends : Ends rest) :
    readNumber (b ++ (cs ++ rest)) =
      match n.value with
      | none => .error .malformed
      | some x => .ok (x, rest) := by
  have read := numeral_append text ends.noNumeralAhead
  obtain ⟨c, ds, rfl, start⟩ := text.exists_cons
  rw [List.cons_append] at read ⊢
  rw [readNumber, skipBlanks_append blanks, skipBlanks_of_solid (isBlank_of_numeral start)]
  cases value : n.value <;> simp only [if_pos start, number, read, value]

theorem readNumber_append {cs b rest : List Char} {x : Float} (text : NumberText cs x)
    (blanks : Blanks b) (ends : Ends rest) : readNumber (b ++ (cs ++ rest)) = .ok (x, rest) := by
  obtain ⟨n, text, value⟩ := text
  rw [readNumber_numeral_append text blanks ends, value]

theorem readText_append {cs b rest : List Char} {s : String} (text : QuotedText cs s)
    (blanks : Blanks b) : readText (b ++ (cs ++ rest)) = .ok (s, rest) := by
  cases text with
  | mk text =>
    rw [List.cons_append, List.append_assoc, readText, skipBlanks_append blanks,
      skipBlanks_of_solid rfl]
    simp only [if_pos, List.cons_append, List.nil_append, string_append text rest,
      String.ofList_toList]

theorem readNullable_append {cs b rest : List Char} {x : Option Float} (text : NullableText cs x)
    (blanks : Blanks b) (ends : Ends rest) : readNullable (b ++ (cs ++ rest)) = .ok (x, rest) := by
  cases text with
  | null =>
    rw [readNullable, skipBlanks_append blanks]
    rfl
  | number text =>
    have read := readNumber_append text blanks ends
    obtain ⟨c, ds, rfl, start⟩ := text.exists_cons
    have first : skipBlanks (b ++ (c :: ds ++ rest)) = c :: (ds ++ rest) := by
      rw [skipBlanks_append blanks]
      exact skipBlanks_of_solid (isBlank_of_numeral start) (ds ++ rest)
    unfold readNullable
    split
    next null =>
      rw [first] at null
      cases null
      exact absurd start (by decide)
    next => rw [read]

end LandingGuidance.Json

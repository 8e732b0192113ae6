import LandingGuidance.Decimal.Numeral
import LandingGuidance.Text.Blank
import Mathlib.Data.List.TakeWhile

/-!
# Which texts are numerals

The grammar of the numerals for a byte and for a double precision number, piece by piece. A reader
takes a text exactly if it follows the grammar, and gives the number that the grammar gives.
-/

namespace LandingGuidance.Decimal

/-! ### Runs of digits -/

/-- Digits, and one at least. -/
def IsRun (cs : List Char) : Prop := cs ≠ [] ∧ ∀ c ∈ cs, c.isDigit = true

instance (cs : List Char) : Decidable (IsRun cs) :=
  decidable_of_iff (cs.isEmpty = false ∧ cs.all Char.isDigit = true) (by simp [IsRun])

/-- A text does not begin with a digit. -/
def NoDigitAhead (cs : List Char) : Prop := ∀ c ∈ cs.head?, c.isDigit = false

theorem takeWhile_digits_append {ds rest : List Char} (digits : ∀ c ∈ ds, c.isDigit = true)
    (stop : NoDigitAhead rest) : (ds ++ rest).takeWhile Char.isDigit = ds := by
  rw [List.takeWhile_append_of_pos digits]
  cases rest with
  | nil => exact List.append_nil ds
  | cons c rest =>
    rw [List.takeWhile_cons_of_neg (by simp [stop c rfl]), List.append_nil]

theorem dropWhile_digits_append {ds rest : List Char} (digits : ∀ c ∈ ds, c.isDigit = true)
    (stop : NoDigitAhead rest) : (ds ++ rest).dropWhile Char.isDigit = rest := by
  rw [List.dropWhile_append_of_pos digits]
  cases rest with
  | nil => rfl
  | cons c rest => rw [List.dropWhile_cons_of_neg (by simp [stop c rfl])]

theorem isDigit_of_mem_takeWhile {cs : List Char} : ∀ c ∈ cs.takeWhile Char.isDigit,
    c.isDigit = true :=
  fun _ member => List.mem_takeWhile_imp member

theorem readDigits_eq_some_iff {cs : List Char} {n : Nat} :
    readDigits cs = some n ↔ IsRun cs ∧ ofDigits cs = n := by
  simp only [readDigits, IsRun, List.all_eq_true, Option.ite_none_right_eq_some,
    Option.some.injEq]

/-! ### Signs -/

/-- A sign that may be left out, and whether it is a minus sign. -/
inductive SignText : List Char → Bool → Prop where
  | absent : SignText [] false
  | plus : SignText ['+'] false
  | minus : SignText ['-'] true

/-- A text does not begin with a sign. -/
def NoSignAhead (cs : List Char) : Prop := ∀ c ∈ cs.head?, c ≠ '-' ∧ c ≠ '+'

theorem takeSign_append {s rest : List Char} {negative : Bool} (sign : SignText s negative)
    (stop : NoSignAhead rest) : takeSign (s ++ rest) = (negative, rest) := by
  cases sign with
  | absent =>
    rw [List.nil_append]
    unfold takeSign
    split
    next => exact absurd rfl (stop _ rfl).1
    next => exact absurd rfl (stop _ rfl).2
    next => rfl
  | plus => rfl
  | minus => rfl

theorem signText_takeSign (cs : List Char) :
    ∃ s, SignText s (takeSign cs).1 ∧ cs = s ++ (takeSign cs).2 := by
  unfold takeSign
  split
  next => exact ⟨_, .minus, rfl⟩
  next => exact ⟨_, .plus, rfl⟩
  next => exact ⟨_, .absent, rfl⟩

theorem ne_sign_of_isDigit {c : Char} (digit : c.isDigit = true) : c ≠ '-' ∧ c ≠ '+' := by
  constructor <;> rintro rfl <;> cases digit

theorem IsRun.noSignAhead_append {ds : List Char} (run : IsRun ds) (rest : List Char) :
    NoSignAhead (ds ++ rest) := by
  obtain ⟨c, cs, rfl⟩ := List.exists_cons_of_ne_nil run.1
  rintro d starts
  cases starts
  exact ne_sign_of_isDigit (run.2 c List.mem_cons_self)

/-! ### Bytes -/

/-- A text for a byte: digits that stand for it, perhaps behind a plus sign. -/
inductive ByteText : List Char → UInt8 → Prop where
  | bare {ds : List Char} {byte : UInt8} (run : IsRun ds) (value : ofDigits ds = byte.toNat) :
      ByteText ds byte
  | signed {ds : List Char} {byte : UInt8} (run : IsRun ds) (value : ofDigits ds = byte.toNat) :
      ByteText ('+' :: ds) byte

private theorem byte_of_digits_iff {ds : List Char} {byte : UInt8} :
    (match readDigits ds with
      | some n => if n < 256 then some (UInt8.ofNat n) else none
      | none => none) = some byte ↔ IsRun ds ∧ ofDigits ds = byte.toNat := by
  constructor
  · intro read
    split at read
    next n digits =>
      obtain ⟨run, rfl⟩ := readDigits_eq_some_iff.mp digits
      split at read
      next small =>
        cases read
        exact ⟨run, (UInt8.toNat_ofNat_of_lt' small).symm⟩
      next => cases read
    next => cases read
  · rintro ⟨run, value⟩
    rw [readDigits_eq_some_iff.mpr ⟨run, value⟩]
    simp only [if_pos byte.toNat_lt, UInt8.ofNat_toNat]

theorem readByte_eq_some_iff {cs : List Char} {byte : UInt8} :
    readByte cs = some byte ↔ ByteText cs byte := by
  constructor
  · intro read
    unfold readByte at read
    split at read
    next ds =>
      obtain ⟨run, value⟩ := byte_of_digits_iff.mp read
      exact .signed run value
    next =>
      obtain ⟨run, value⟩ := byte_of_digits_iff.mp read
      exact .bare run value
  · intro text
    cases text with
    | bare run value =>
      have read := byte_of_digits_iff.mpr ⟨run, value⟩
      unfold readByte
      split
      next rest =>
        -- No digit is a plus sign.
        exact absurd rfl (ne_sign_of_isDigit (run.2 '+' List.mem_cons_self)).2
      next => exact read
    | signed run value => exact byte_of_digits_iff.mpr ⟨run, value⟩

/-! ### Double precision numbers -/

/-- An exponent that may be left out, and its value. -/
inductive ExponentText : List Char → Int → Prop where
  | absent : ExponentText [] 0
  | present {mark : Char} {s ds : List Char} {negative : Bool} (marked : mark = 'e' ∨ mark = 'E')
      (sign : SignText s negative) (run : IsRun ds) :
      ExponentText (mark :: (s ++ ds))
        (if negative then -(ofDigits ds : Int) else ofDigits ds)

private theorem readExponent_cons {mark : Char} (marked : mark = 'e' ∨ mark = 'E')
    (cs : List Char) :
    readExponent (mark :: cs) = (readDigits (takeSign cs).2).map fun n : Nat =>
      if (takeSign cs).1 then -(n : Int) else (n : Int) := by
  rw [readExponent, if_pos marked]
  dsimp only
  cases readDigits (takeSign cs).2 with
  | none => rfl
  | some n => rfl

theorem readExponent_eq_some_iff {cs : List Char} {exponent : Int} :
    readExponent cs = some exponent ↔ ExponentText cs exponent := by
  constructor
  · intro read
    cases cs with
    | nil =>
      cases read
      exact .absent
    | cons c cs =>
      by_cases marked : c = 'e' ∨ c = 'E'
      · rw [readExponent_cons marked] at read
        obtain ⟨n, digits, rfl⟩ := Option.map_eq_some_iff.mp read
        obtain ⟨run, rfl⟩ := readDigits_eq_some_iff.mp digits
        obtain ⟨s, sign, parts⟩ := signText_takeSign cs
        have text := ExponentText.present marked sign run
        rwa [← parts] at text
      · rw [readExponent, if_neg marked] at read
        cases read
  · intro text
    cases text with
    | absent => rfl
    | present marked sign run =>
      have stop := run.noSignAhead_append []
      rw [List.append_nil] at stop
      rw [readExponent_cons marked, takeSign_append sign stop,
        readDigits_eq_some_iff.mpr ⟨run, rfl⟩]
      rfl

theorem ExponentText.noDigitAhead {cs : List Char} {exponent : Int}
    (text : ExponentText cs exponent) : NoDigitAhead cs := by
  cases text with
  | absent =>
    rintro c starts
    cases starts
  | present marked =>
    rintro c starts
    cases starts
    rcases marked with rfl | rfl <;> rfl

/-- A point with the digits behind it, which may be left out, and these digits. -/
inductive FractionText : List Char → List Char → Prop where
  | absent : FractionText [] []
  | present {ds : List Char} (digits : ∀ c ∈ ds, c.isDigit = true) : FractionText ('.' :: ds) ds

/-- A numeral without its sign: digits with or without a point, one digit at least, and perhaps an
exponent. -/
inductive UnsignedText (negative : Bool) : List Char → Numeral → Prop where
  | mk {whole part fraction e : List Char} {exponent : Int}
      (digits : ∀ c ∈ whole, c.isDigit = true) (point : FractionText part fraction)
      (some_digit : whole ++ fraction ≠ []) (scale : ExponentText e exponent) :
      UnsignedText negative (whole ++ (part ++ e))
        { negative, digits := ofDigits (whole ++ fraction), exponent := exponent - fraction.length }

theorem fractionText_takeFraction (cs : List Char) :
    ∃ part, FractionText part (takeFraction cs).1 ∧ cs = part ++ (takeFraction cs).2 := by
  unfold takeFraction
  split
  next cs =>
    refine ⟨_, .present isDigit_of_mem_takeWhile, ?_⟩
    rw [List.cons_append, List.takeWhile_append_dropWhile]
  next => exact ⟨_, .absent, rfl⟩

theorem takeFraction_append {part fraction e : List Char} {exponent : Int}
    (point : FractionText part fraction) (scale : ExponentText e exponent) :
    takeFraction (part ++ e) = (fraction, e) := by
  cases point with
  | absent =>
    cases scale with
    | absent => rfl
    | present marked =>
      rcases marked with rfl | rfl <;> rfl
  | present digits =>
    rw [List.cons_append, takeFraction, takeWhile_digits_append digits scale.noDigitAhead,
      dropWhile_digits_append digits scale.noDigitAhead]

theorem FractionText.noDigitAhead_append {part fraction e : List Char} {exponent : Int}
    (point : FractionText part fraction) (scale : ExponentText e exponent) :
    NoDigitAhead (part ++ e) := by
  cases point with
  | absent => exact scale.noDigitAhead
  | present =>
    rintro c starts
    cases starts
    rfl

theorem readUnsigned_eq_some_iff {negative : Bool} {cs : List Char} {n : Numeral} :
    readUnsigned negative cs = some n ↔ UnsignedText negative cs n := by
  constructor
  · intro read
    obtain ⟨part, point, parts⟩ := fractionText_takeFraction (cs.dropWhile Char.isDigit)
    unfold readUnsigned at read
    dsimp only at read
    split at read
    next => cases read
    next some_digit =>
      obtain ⟨exponent, scale, rfl⟩ := Option.map_eq_some_iff.mp read
      have whole := List.takeWhile_append_dropWhile (p := Char.isDigit) (l := cs)
      rw [parts] at whole
      have text : UnsignedText negative (_ ++ (part ++ _)) _ :=
        .mk isDigit_of_mem_takeWhile point some_digit (readExponent_eq_some_iff.mp scale)
      rwa [whole] at text
  · intro text
    cases text with
    | mk digits point some_digit scale =>
      have stop := point.noDigitAhead_append scale
      unfold readUnsigned
      simp only [takeWhile_digits_append digits stop, dropWhile_digits_append digits stop,
        takeFraction_append point scale, if_neg some_digit, readExponent_eq_some_iff.mpr scale,
        Option.map_some]

/-- A text for a double precision number: a sign and a numeral, which stands for the number nearest
to its decimal, or a sign and a word in any letter case. -/
inductive FloatText : List Char → Float → Prop where
  | decimal {s cs : List Char} {negative : Bool} {n : Numeral} (sign : SignText s negative)
      (unsigned : UnsignedText negative cs n) : FloatText (s ++ cs) n.toFloat
  | infinite {s word : List Char} {negative : Bool} (sign : SignText s negative)
      (spelled : word.map Char.toLower = ['i', 'n', 'f'] ∨
        word.map Char.toLower = ['i', 'n', 'f', 'i', 'n', 'i', 't', 'y']) :
      FloatText (s ++ word) (Binary64.signed negative Binary64.infinityBits)
  | undefined {s word : List Char} {negative : Bool} (sign : SignText s negative)
      (spelled : word.map Char.toLower = ['n', 'a', 'n']) : FloatText (s ++ word) (0.0 / 0.0)

theorem UnsignedText.noSignAhead {negative : Bool} {cs : List Char} {n : Numeral}
    (text : UnsignedText negative cs n) : NoSignAhead cs := by
  cases text with
  | @mk whole part fraction e _ digits point some_digit scale =>
    cases whole with
    | nil =>
      cases point with
      | absent => exact absurd rfl some_digit
      | present =>
        rintro c starts
        cases starts
        decide
    | cons d whole =>
      rintro c starts
      cases starts
      exact ne_sign_of_isDigit (digits d List.mem_cons_self)

theorem toLower_of_not_upper {c : Char} (other : ¬(65 ≤ c.toNat ∧ c.toNat ≤ 90)) :
    c.toLower = c := by
  have range : ¬(c.val ≥ 'A'.val ∧ c.val ≤ 'Z'.val) := by
    simpa [UInt32.le_iff_toNat_le] using other
  exact dif_neg range

theorem bounds_of_isDigit {c : Char} (digit : c.isDigit = true) :
    48 ≤ c.toNat ∧ c.toNat ≤ 57 := by
  simpa [Char.isDigit, UInt32.le_iff_toNat_le] using digit

/-- No digit and no white space has another lower case. -/
theorem toLower_of_isDigit {c : Char} (digit : c.isDigit = true) : c.toLower = c := by
  have bounds := bounds_of_isDigit digit
  exact toLower_of_not_upper (by omega)

theorem readUnsigned_of_letter {c : Char} {cs : List Char} (negative : Bool)
    (letter : c.toLower = 'i' ∨ c.toLower = 'n') : readUnsigned negative (c :: cs) = none := by
  have noDigit : ¬c.isDigit = true := by
    intro digit
    rw [toLower_of_isDigit digit] at letter
    rcases letter with rfl | rfl <;> cases digit
  have noPoint : takeFraction (c :: cs) = ([], c :: cs) := by
    unfold takeFraction
    split
    next starts =>
      cases starts
      exact absurd letter (by decide)
    next => rfl
  rw [readUnsigned, List.takeWhile_cons_of_neg noDigit, List.dropWhile_cons_of_neg noDigit, noPoint]
  rfl

theorem ne_sign_of_letter {c : Char} (letter : c.toLower = 'i' ∨ c.toLower = 'n') :
    c ≠ '-' ∧ c ≠ '+' := by
  constructor
  all_goals
    rintro rfl
    revert letter
    decide

/-- A word begins with a letter, so it is no numeral. -/
theorem readFloat_of_word {s word : List Char} {negative : Bool} (sign : SignText s negative)
    {letters : List Char} {first : Char} (spelled : word.map Char.toLower = first :: letters)
    (letter : first = 'i' ∨ first = 'n') : readFloat (s ++ word) = readWord negative word := by
  obtain ⟨c, cs, rfl, rfl, _⟩ := List.map_eq_cons_iff.mp spelled
  have stop : NoSignAhead (c :: cs) := by
    rintro d starts
    cases starts
    exact ne_sign_of_letter letter
  rw [readFloat, takeSign_append sign stop]
  simp only [readUnsigned_of_letter negative letter]

theorem readFloat_eq_some_iff {cs : List Char} {x : Float} :
    readFloat cs = some x ↔ FloatText cs x := by
  constructor
  · intro read
    obtain ⟨s, sign, parts⟩ := signText_takeSign cs
    rw [parts]
    unfold readFloat at read
    dsimp only at read
    split at read
    next n unsigned =>
      cases read
      exact .decimal sign (readUnsigned_eq_some_iff.mp unsigned)
    next =>
      simp only [readWord] at read
      split at read
      next spelled =>
        cases read
        exact .infinite sign spelled
      next =>
        split at read
        next spelled =>
          cases read
          exact .undefined sign spelled
        next => cases read
  · intro text
    cases text with
    | decimal sign unsigned =>
      rw [readFloat, takeSign_append sign unsigned.noSignAhead]
      simp only [readUnsigned_eq_some_iff.mpr unsigned]
    | infinite sign spelled =>
      have read := spelled.elim (fun short => readFloat_of_word sign short (Or.inl rfl))
        (fun long => readFloat_of_word sign long (Or.inl rfl))
      rw [read]
      exact if_pos spelled
    | undefined sign spelled =>
      rw [readFloat_of_word sign spelled (Or.inr rfl), readWord, spelled]
      rfl

end LandingGuidance.Decimal

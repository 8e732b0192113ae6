/-!
# Tokens of a configuration text

What readers of JSON have in common: the faults they meet, and the blanks and words between the
values. A reader takes the characters from where it starts and gives what it read with the
characters that follow, or the first fault met from left to right. The lemmas on lengths say that
reading goes forward.
-/

namespace LandingGuidance.Json

/-- Why a text cannot be read. -/
inductive Fault where
  /-- The text ended too early. -/
  | truncated
  /-- The text is not JSON, or holds a number too large for a double precision number. -/
  | malformed
  /-- The text was JSON so far, but not what was asked for. -/
  | mistyped
  deriving DecidableEq

/-- What was read, and the characters that follow. -/
abbrev Reading (β : Type) := Except Fault (β × List Char)

/-- A blank between tokens. -/
def isBlank (c : Char) : Bool := c == ' ' || c == '\t' || c == '\n' || c == '\r'

def skipBlanks (cs : List Char) : List Char := cs.dropWhile isBlank

/-- The rest of a text that starts with given characters. -/
def word : List Char → List Char → Except Fault (List Char)
  | [], cs => .ok cs
  | _ :: _, [] => .error .truncated
  | w :: ws, c :: cs => if w = c then word ws cs else .error .malformed

/-! ## Lengths -/

theorem length_dropWhile_le (p : Char → Bool) (cs : List Char) :
    (cs.dropWhile p).length ≤ cs.length :=
  (List.dropWhile_sublist p).length_le

theorem length_skipBlanks_le (cs : List Char) : (skipBlanks cs).length ≤ cs.length :=
  length_dropWhile_le _ cs

theorem length_le_of_skipBlanks {cs rest : List Char} (h : skipBlanks cs = rest) :
    rest.length ≤ cs.length :=
  h ▸ length_skipBlanks_le cs

theorem length_lt_of_skipBlanks {cs rest : List Char} {c : Char} (h : skipBlanks cs = c :: rest) :
    rest.length < cs.length :=
  length_le_of_skipBlanks h

theorem length_le_of_word {w cs rest : List Char} (h : word w cs = .ok rest) :
    rest.length ≤ cs.length := by
  fun_induction word w cs with
  | case1 => simp_all
  | case2 => simp at h
  | case3 w ws cs ih => exact Nat.le_succ_of_le (ih h)
  | case4 => simp at h

end LandingGuidance.Json

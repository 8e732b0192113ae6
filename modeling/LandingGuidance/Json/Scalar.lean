import LandingGuidance.Json.Number
import LandingGuidance.Json.String

/-!
# Scalars of a configuration text

Values that are asked for as a number, a text, or a number that may be null. Another kind of value
is mistyped, but a scalar of the other kind is read first, and its own faults come before.
-/

namespace LandingGuidance.Json

/-- The fault of a value that is not of the kind asked for. -/
def mismatch : List Char → Fault
  | [] => .truncated
  | c :: cs =>
    if c = '"' then ofReading (string cs)
    else if c = 'n' then ofReading (word ['u', 'l', 'l'] cs)
    else if c = 't' then ofReading (word ['r', 'u', 'e'] cs)
    else if c = 'f' then ofReading (word ['a', 'l', 's', 'e'] cs)
    else if c = '-' ∨ c.isDigit then ofReading (number (c :: cs))
    else if c = '[' ∨ c = '{' then .mistyped
    else .malformed
where
  ofReading {β : Type} : Except Fault β → Fault
    | .error fault => fault
    | .ok _ => .mistyped

def readNumber (cs : List Char) : Reading Float :=
  match skipBlanks cs with
  | [] => .error .truncated
  | c :: rest =>
    if c = '-' ∨ c.isDigit then number (c :: rest) else .error (mismatch (c :: rest))

def readText (cs : List Char) : Reading String :=
  match skipBlanks cs with
  | [] => .error .truncated
  | c :: rest =>
    if c = '"' then
      match string rest with
      | .error fault => .error fault
      | .ok (s, after) => .ok (String.ofList s, after)
    else .error (mismatch (c :: rest))

def readNullable (cs : List Char) : Reading (Option Float) :=
  match skipBlanks cs with
  | 'n' :: rest =>
    match word ['u', 'l', 'l'] rest with
    | .error fault => .error fault
    | .ok after => .ok (none, after)
  | _ =>
    match readNumber cs with
    | .error fault => .error fault
    | .ok (x, after) => .ok (some x, after)

theorem length_lt_of_readNumber {cs rest : List Char} {x : Float}
    (h : readNumber cs = .ok (x, rest)) : rest.length < cs.length := by
  unfold readNumber at h
  split at h
  · simp at h
  · next hb =>
    split at h
    · exact Nat.lt_of_lt_of_le (length_lt_of_number h) (length_le_of_skipBlanks hb)
    · simp at h

theorem length_lt_of_readText {cs rest : List Char} {s : String}
    (h : readText cs = .ok (s, rest)) : rest.length < cs.length := by
  unfold readText at h
  split at h
  · simp at h
  · next hb =>
    split at h
    · split at h
      · simp at h
      · next hs =>
        simp only [Except.ok.injEq, Prod.mk.injEq] at h
        exact h.2 ▸ Nat.lt_trans (length_lt_of_string hs) (length_lt_of_skipBlanks hb)
    · simp at h

theorem length_lt_of_readNullable {cs rest : List Char} {x : Option Float}
    (h : readNullable cs = .ok (x, rest)) : rest.length < cs.length := by
  unfold readNullable at h
  split at h
  · next hb =>
    split at h
    · simp at h
    · next hw =>
      simp only [Except.ok.injEq, Prod.mk.injEq] at h
      exact h.2 ▸ Nat.lt_of_le_of_lt (length_le_of_word hw) (length_lt_of_skipBlanks hb)
  · split at h
    · simp at h
    · next hn =>
      simp only [Except.ok.injEq, Prod.mk.injEq] at h
      exact h.2 ▸ length_lt_of_readNumber hn

end LandingGuidance.Json

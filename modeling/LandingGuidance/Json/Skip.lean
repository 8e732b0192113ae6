import LandingGuidance.Json.Numeral
import LandingGuidance.Json.String

/-!
# Stepping over a value

A value that nobody asked for is stepped over, but it has to be JSON. The lists and objects around
the current place are kept on a stack, so that values may nest to any depth. A number that is cut
off is malformed here, also where the text ends.
-/

namespace LandingGuidance.Json

/-- What a value is enclosed by. -/
inductive Frame where
  | list
  | object
  deriving DecidableEq

def Frame.close : Frame → Char
  | list => ']'
  | object => '}'

/-- What is expected next. -/
inductive Next where
  | value
  /-- The key of a member. -/
  | key
  /-- What may follow a value: a comma or the end of the innermost frame. -/
  | separator
  deriving DecidableEq

/-- What is expected after a comma in a frame. -/
def Frame.afterComma : Frame → Next
  | list => .value
  | object => .key

/-- Steps over a value that is no list and no object. -/
def skipScalar : List Char → Except Fault (List Char)
  | [] => .error .truncated
  | c :: cs =>
    if c = '"' then skipString cs
    else if c = 'n' then word ['u', 'l', 'l'] cs
    else if c = 't' then word ['r', 'u', 'e'] cs
    else if c = 'f' then word ['a', 'l', 's', 'e'] cs
    else if c = '-' ∨ c.isDigit then
      match numeral (c :: cs) with
      | .error _ => .error .malformed
      | .ok (_, rest) => .ok rest
    else .error .malformed

/-- The rest after the key of a member and the colon behind it. -/
def skipKey (cs : List Char) : Except Fault (List Char) :=
  match skipBlanks cs with
  | [] => .error .truncated
  | c :: cs =>
    if c = '"' then
      match skipString cs with
      | .error fault => .error fault
      | .ok rest => colon rest
    else .error .malformed
where
  colon (cs : List Char) : Except Fault (List Char) :=
    match skipBlanks cs with
    | [] => .error .truncated
    | c :: rest => if c = ':' then .ok rest else .error .malformed

theorem length_lt_of_skipScalar {cs rest : List Char} (h : skipScalar cs = .ok rest) :
    rest.length < cs.length := by
  unfold skipScalar at h
  split at h
  · simp at h
  · split at h
    · exact Nat.lt_succ_of_lt (length_lt_of_skipString h)
    · split at h
      · exact Nat.lt_succ_of_le (length_le_of_word h)
      · split at h
        · exact Nat.lt_succ_of_le (length_le_of_word h)
        · split at h
          · exact Nat.lt_succ_of_le (length_le_of_word h)
          · split at h
            · split at h
              · simp at h
              · next hn =>
                simp only [Except.ok.injEq] at h
                exact h ▸ length_lt_of_numeral hn
            · simp at h

theorem length_lt_of_colon {cs rest : List Char} (h : skipKey.colon cs = .ok rest) :
    rest.length < cs.length := by
  unfold skipKey.colon at h
  split at h
  · simp at h
  · next hb =>
    split at h
    · simp only [Except.ok.injEq] at h
      exact h ▸ length_lt_of_skipBlanks hb
    · simp at h

theorem length_lt_of_skipKey {cs rest : List Char} (h : skipKey cs = .ok rest) :
    rest.length < cs.length := by
  unfold skipKey at h
  split at h
  · simp at h
  · next hb =>
    split at h
    · split at h
      · simp at h
      · next hs =>
        have h₁ := length_lt_of_skipBlanks hb
        have h₂ := length_lt_of_skipString hs
        have h₃ := length_lt_of_colon h
        omega
    · simp at h

/-- Steps over the rest of a value, where `stack` holds the frames that are open, innermost
first. -/
def skip (next : Next) (stack : List Frame) (cs : List Char) : Except Fault (List Char) :=
  match next with
  | .key =>
    match _h : skipKey cs with
    | .error fault => .error fault
    | .ok rest => skip .value stack rest
  | .value =>
    match _h : skipBlanks cs with
    | [] => .error .truncated
    | c :: rest =>
      -- An opening bracket is taken together with what tells an empty frame from another.
      if c = '[' then
        match _h' : skipBlanks rest with
        | [] => .error .truncated
        | d :: after =>
          if d = ']' then skip .separator stack after
          else skip .value (.list :: stack) (d :: after)
      else if c = '{' then
        match _h' : skipBlanks rest with
        | [] => .error .truncated
        | d :: after =>
          if d = '}' then skip .separator stack after
          else skip .key (.object :: stack) (d :: after)
      else
        match _h' : skipScalar (c :: rest) with
        | .error fault => .error fault
        | .ok after => skip .separator stack after
  | .separator =>
    match stack with
    | [] => .ok cs
    | frame :: outer =>
      match _h : skipBlanks cs with
      | [] => .error .truncated
      | c :: rest =>
        if c = ',' then skip frame.afterComma stack rest
        else if c = frame.close then skip .separator outer rest
        else .error .malformed
termination_by cs.length
decreasing_by
  · exact length_lt_of_skipKey ‹_›
  · exact Nat.lt_trans (length_lt_of_skipBlanks _h') (length_lt_of_skipBlanks _h)
  · exact Nat.lt_of_le_of_lt (length_le_of_skipBlanks _h') (length_lt_of_skipBlanks _h)
  · exact Nat.lt_trans (length_lt_of_skipBlanks _h') (length_lt_of_skipBlanks _h)
  · exact Nat.lt_of_le_of_lt (length_le_of_skipBlanks _h') (length_lt_of_skipBlanks _h)
  · exact Nat.lt_of_lt_of_le (length_lt_of_skipScalar _h') (length_le_of_skipBlanks _h)
  · exact length_lt_of_skipBlanks _h
  · exact length_lt_of_skipBlanks _h

theorem length_le_of_skip {next : Next} {stack : List Frame} {cs rest : List Char}
    (h : skip next stack cs = .ok rest) : rest.length ≤ cs.length := by
  fun_induction skip next stack cs with
  | case2 _ _ _ hk ih => exact Nat.le_trans (ih h) (Nat.le_of_lt (length_lt_of_skipKey hk))
  | case5 _ _ _ _ hb hb' ih =>
    have h₁ := length_lt_of_skipBlanks hb
    have h₂ := length_lt_of_skipBlanks hb'
    have h₃ := ih h
    omega
  | case6 _ _ _ _ _ hb' _ hb ih =>
    have h₁ := length_lt_of_skipBlanks hb
    have h₂ := length_le_of_skipBlanks hb'
    have h₃ := ih h
    omega
  | case8 _ _ _ _ hb _ hb' ih =>
    have h₁ := length_lt_of_skipBlanks hb
    have h₂ := length_lt_of_skipBlanks hb'
    have h₃ := ih h
    omega
  | case9 _ _ _ _ _ hb' _ hb _ ih =>
    have h₁ := length_lt_of_skipBlanks hb
    have h₂ := length_le_of_skipBlanks hb'
    have h₃ := ih h
    omega
  | case11 _ _ _ _ hb _ _ _ hs ih =>
    have h₁ := length_le_of_skipBlanks hb
    have h₂ := length_lt_of_skipScalar hs
    have h₃ := ih h
    omega
  | case12 => simp_all
  | case14 _ _ _ _ hb ih => exact Nat.le_trans (ih h) (Nat.le_of_lt (length_lt_of_skipBlanks hb))
  | case15 _ _ _ _ hb _ ih =>
    exact Nat.le_trans (ih h) (Nat.le_of_lt (length_lt_of_skipBlanks hb))
  | _ => simp at h

/-- Steps over a value. -/
def skipValue (cs : List Char) : Except Fault (List Char) := skip .value [] cs

end LandingGuidance.Json

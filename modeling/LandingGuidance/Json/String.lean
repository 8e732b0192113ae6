import LandingGuidance.Json.Token

/-!
# Strings of a configuration text

Strings are read with their escapes, or stepped over. What is stepped over may hold an escape of
half a surrogate pair, which stands for no character.
-/

namespace LandingGuidance.Json

def hexValue (c : Char) : Option Nat :=
  if '0' ≤ c ∧ c ≤ '9' then some (c.toNat - 48)
  else if 'a' ≤ c ∧ c ≤ 'f' then some (c.toNat - 87)
  else if 'A' ≤ c ∧ c ≤ 'F' then some (c.toNat - 55)
  else none

/-- Four hexadecimal digits. Fewer than four bytes are too few whatever they are. -/
def fourHex : List Char → Reading Nat
  | a :: b :: c :: d :: rest =>
    match hexValue a, hexValue b, hexValue c, hexValue d with
    | some a, some b, some c, some d => .ok (((a * 16 + b) * 16 + c) * 16 + d, rest)
    | _, _, _, _ => .error .malformed
  | cs => .error (if (String.ofList cs).utf8ByteSize < 4 then .truncated else .malformed)

/-- The escape that completes a pair of surrogates. -/
def lowSurrogate : List Char → Reading Nat
  | [] => .error .truncated
  | c :: cs =>
    if c = '\\' then
      match cs with
      | [] => .error .truncated
      | d :: cs =>
        if d = 'u' then
          match fourHex cs with
          | .error fault => .error fault
          | .ok (n, rest) =>
            if 0xDC00 ≤ n ∧ n ≤ 0xDFFF then .ok (n, rest) else .error .malformed
        else .error .malformed
    else .error .malformed

/-- The character of a unit in hexadecimal digits. A high surrogate asks for a low one, and a low
one does not stand alone. -/
def unicodeEscape (cs : List Char) : Reading Char :=
  match fourHex cs with
  | .error fault => .error fault
  | .ok (n, rest) =>
    if 0xDC00 ≤ n ∧ n ≤ 0xDFFF then .error .malformed
    else if 0xD800 ≤ n ∧ n ≤ 0xDBFF then
      match lowSurrogate rest with
      | .error fault => .error fault
      | .ok (m, rest) => .ok (Char.ofNat (0x10000 + (n - 0xD800) * 0x400 + (m - 0xDC00)), rest)
    else .ok (Char.ofNat n, rest)

def simpleEscape : Char → Option Char
  | '"' => some '"'
  | '\\' => some '\\'
  | '/' => some '/'
  | 'b' => some '\x08'
  | 'f' => some '\x0c'
  | 'n' => some '\n'
  | 'r' => some '\r'
  | 't' => some '\t'
  | _ => none

/-- The character of an escape whose backslash has been read. -/
def escape : List Char → Reading Char
  | [] => .error .truncated
  | c :: cs =>
    match simpleEscape c with
    | some e => .ok (e, cs)
    | none => if c = 'u' then unicodeEscape cs else .error .malformed

/-- An escape that is only stepped over: a surrogate may stand alone. -/
def skipEscape : List Char → Except Fault (List Char)
  | [] => .error .truncated
  | c :: cs =>
    match simpleEscape c with
    | some _ => .ok cs
    | none =>
      if c = 'u' then
        match fourHex cs with
        | .error fault => .error fault
        | .ok (_, rest) => .ok rest
      else .error .malformed

/-! ## Lengths of escapes -/

theorem length_lt_of_fourHex {cs rest : List Char} {n : Nat} (h : fourHex cs = .ok (n, rest)) :
    rest.length < cs.length := by
  unfold fourHex at h
  split at h
  · split at h
    · simp only [Except.ok.injEq, Prod.mk.injEq] at h
      simp only [← h.2, List.length_cons]
      omega
    · simp at h
  · simp at h

theorem length_lt_of_lowSurrogate {cs rest : List Char} {n : Nat}
    (h : lowSurrogate cs = .ok (n, rest)) : rest.length < cs.length := by
  unfold lowSurrogate at h
  split at h
  · simp at h
  · split at h
    · split at h
      · simp at h
      · split at h
        · split at h
          · simp at h
          · next hf =>
            split at h
            · simp only [Except.ok.injEq, Prod.mk.injEq] at h
              have := length_lt_of_fourHex hf
              simp only [← h.2, List.length_cons]
              omega
            · simp at h
        · simp at h
    · simp at h

theorem length_lt_of_unicodeEscape {cs rest : List Char} {c : Char}
    (h : unicodeEscape cs = .ok (c, rest)) : rest.length < cs.length := by
  unfold unicodeEscape at h
  split at h
  · simp at h
  · next hf =>
    have h₁ := length_lt_of_fourHex hf
    split at h
    · simp at h
    · split at h
      · split at h
        · simp at h
        · next hl =>
          simp only [Except.ok.injEq, Prod.mk.injEq] at h
          have h₂ := length_lt_of_lowSurrogate hl
          rw [h.2] at h₂
          omega
      · simp only [Except.ok.injEq, Prod.mk.injEq] at h
        exact h.2 ▸ h₁

theorem length_lt_of_escape {cs rest : List Char} {c : Char} (h : escape cs = .ok (c, rest)) :
    rest.length < cs.length := by
  unfold escape at h
  split at h
  · simp at h
  · split at h
    · simp only [Except.ok.injEq, Prod.mk.injEq] at h
      simp [← h.2]
    · split at h
      · exact Nat.lt_succ_of_lt (length_lt_of_unicodeEscape h)
      · simp at h

theorem length_lt_of_skipEscape {cs rest : List Char} (h : skipEscape cs = .ok rest) :
    rest.length < cs.length := by
  unfold skipEscape at h
  split at h
  · simp at h
  · split at h
    · simp only [Except.ok.injEq] at h
      simp [← h]
    · split at h
      · split at h
        · simp at h
        · next hf =>
          simp only [Except.ok.injEq] at h
          exact h ▸ Nat.lt_succ_of_lt (length_lt_of_fourHex hf)
      · simp at h

/-! ## Reading and skipping a string -/

/-- The characters of a string whose opening quote has been read. -/
def string (cs : List Char) : Reading (List Char) :=
  match cs with
  | [] => .error .truncated
  | c :: rest =>
    if c = '"' then .ok ([], rest)
    else if c = '\\' then
      match _h : escape rest with
      | .error fault => .error fault
      | .ok (e, after) =>
        match string after with
        | .error fault => .error fault
        | .ok (s, rest) => .ok (e :: s, rest)
    else if c.toNat < 0x20 then .error .malformed
    else
      match string rest with
      | .error fault => .error fault
      | .ok (s, rest) => .ok (c :: s, rest)
termination_by cs.length
decreasing_by
  · exact Nat.lt_succ_of_lt (length_lt_of_escape ‹_›)
  · simp

/-- Steps over a string whose opening quote has been read. -/
def skipString (cs : List Char) : Except Fault (List Char) :=
  match cs with
  | [] => .error .truncated
  | c :: rest =>
    if c = '"' then .ok rest
    else if c = '\\' then
      match _h : skipEscape rest with
      | .error fault => .error fault
      | .ok after => skipString after
    else if c.toNat < 0x20 then .error .malformed
    else skipString rest
termination_by cs.length
decreasing_by
  · exact Nat.lt_succ_of_lt (length_lt_of_skipEscape ‹_›)
  · simp

theorem length_lt_of_string {cs s rest : List Char} (h : string cs = .ok (s, rest)) :
    rest.length < cs.length := by
  fun_induction string cs generalizing s rest with
  | case1 => simp at h
  | case2 => simp_all
  | case3 => simp at h
  | case4 => simp at h
  | case5 cs e after he s' rest' hs _ ih =>
    simp only [Except.ok.injEq, Prod.mk.injEq] at h
    have h₁ := length_lt_of_escape he
    have h₂ := ih hs
    rw [h.2] at h₂
    simp only [List.length_cons]
    omega
  | case6 => simp at h
  | case7 => simp at h
  | case8 c cs _ _ _ s' rest' hs ih =>
    simp only [Except.ok.injEq, Prod.mk.injEq] at h
    have h₂ := ih hs
    rw [h.2] at h₂
    simp only [List.length_cons]
    omega

theorem length_lt_of_skipString {cs rest : List Char} (h : skipString cs = .ok rest) :
    rest.length < cs.length := by
  fun_induction skipString cs with
  | case1 => simp at h
  | case2 => simp_all
  | case3 => simp at h
  | case4 cs after he _ ih =>
    have h₁ := length_lt_of_skipEscape he
    have h₂ := ih h
    simp only [List.length_cons]
    omega
  | case5 => simp at h
  | case6 c cs _ _ _ ih => exact Nat.lt_succ_of_lt (ih h)

end LandingGuidance.Json

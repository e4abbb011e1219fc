import SecretKeeper.Json.Number

/-!
Skipping a value that nobody asked for. Its syntax is checked, its texts and numbers are not
decoded. Open lists and objects are kept on a stack, so that depth costs nothing.
-/
namespace SecretKeeper.Json

def skipEscape : Bytes → Except Fault Bytes
  | [] => .error (.here .endInText [])
  | b :: rest =>
    if (plainEscape? b).isSome then .ok rest
    else if b = 117 then (readHex rest).map (·.2)
    else .error (.here .badEscape rest)

theorem skipEscape_length {s rest : Bytes} (h : skipEscape s = .ok rest) :
    rest.length < s.length := by
  unfold skipEscape at h
  split at h
  · cases h
  · next b r =>
    split at h
    · cases h
      simp
    · split at h
      · cases h₁ : readHex r with
        | error f => rw [h₁] at h; cases h
        | ok p =>
          rw [h₁] at h
          cases h
          have := readHex_length h₁
          simp only [List.length_cons]
          omega
      · cases h

def skipQuoted (s : Bytes) : Except Fault Bytes :=
  match s with
  | [] => .error (.here .endInText [])
  | b :: rest =>
    if b = 34 then .ok rest
    else if b = 92 then
      match _h : skipEscape rest with
      | .error f => .error f
      | .ok rest => skipQuoted rest
    else if b < 32 then .error (.here .controlCharacter (b :: rest))
    else skipQuoted rest
termination_by s.length
decreasing_by
  · have := skipEscape_length _h
    simp only [List.length_cons]
    omega
  · simp

theorem skipQuoted_length {s rest : Bytes} (h : skipQuoted s = .ok rest) :
    rest.length < s.length := by
  fun_induction skipQuoted s generalizing rest with
  | case1 => cases h
  | case2 => cases h; simp
  | case3 => cases h
  | case4 r r' h₁ _ ih =>
    have := ih h
    have := skipEscape_length h₁
    simp only [List.length_cons]
    omega
  | case5 => cases h
  | case6 b r _ _ _ ih =>
    have := ih h
    simp only [List.length_cons]
    omega

inductive Frame where
  | list
  | object
  deriving DecidableEq, Repr

namespace Frame

def close : Frame → UInt8
  | list => 93
  | object => 125

def atEnd : Frame → Cause
  | list => .endInList
  | object => .endInObject

def expectedComma : Frame → Cause
  | list => .expectedListComma
  | object => .expectedObjectComma

end Frame

def readColon (s : Bytes) : Except Fault Bytes :=
  match skipBlanks s with
  | [] => .error (.here .endInObject [])
  | 58 :: rest => .ok rest
  | s => .error (.next .expectedColon s)

def skipKey (s : Bytes) : Except Fault Bytes :=
  match skipBlanks s with
  | [] => .error (.here .endInObject [])
  | 34 :: rest => do
    let rest ← skipQuoted rest
    readColon rest
  | s => .error (.next .keyNotText s)

def skipToValue : Frame → Bytes → Except Fault Bytes
  | .list, s => .ok s
  | .object, s => skipKey s

def skipAfterValue : List Frame → Bytes → Except Fault (List Frame × Bytes)
  | [], s => .ok ([], s)
  | f :: fs, s =>
    match skipBlanks s with
    | [] => .error (.here f.atEnd [])
    | b :: rest =>
      if b = 44 then (skipToValue f rest).map (f :: fs, ·)
      else if b = f.close then skipAfterValue fs rest
      else .error (.next f.expectedComma (b :: rest))

def skipOpening (f : Frame) (fs : List Frame) (s : Bytes) : Except Fault (List Frame × Bytes) :=
  match skipBlanks s with
  | [] => .error (.here f.atEnd [])
  | b :: rest =>
    if b = f.close then skipAfterValue fs rest
    else (skipToValue f (b :: rest)).map (f :: fs, ·)

/-- One value without parts, or one opening bracket, and all that closes after it. -/
def skipPart (fs : List Frame) (s : Bytes) : Except Fault (List Frame × Bytes) :=
  match skipBlanks s with
  | [] => .error (.here .endInValue [])
  | b :: rest =>
    if b = 110 then do skipAfterValue fs (← readWord [117, 108, 108] rest)
    else if b = 116 then do skipAfterValue fs (← readWord [114, 117, 101] rest)
    else if b = 102 then do skipAfterValue fs (← readWord [97, 108, 115, 101] rest)
    else if b = 45 ∨ isDigit b then do skipAfterValue fs (← readNumeral .badNumber (b :: rest)).2
    else if b = 34 then do skipAfterValue fs (← skipQuoted rest)
    else if b = 91 then skipOpening .list fs rest
    else if b = 123 then skipOpening .object fs rest
    else .error (.next .expectedValue (b :: rest))

theorem readColon_length {s rest : Bytes} (h : readColon s = .ok rest) :
    rest.length < s.length := by
  have := skipBlanks_length s
  unfold readColon at h
  split at h
  · cases h
  · next hs =>
    cases h
    rw [hs, List.length_cons] at this
    exact this
  · cases h

theorem skipKey_length {s rest : Bytes} (h : skipKey s = .ok rest) : rest.length < s.length := by
  have := skipBlanks_length s
  unfold skipKey at h
  split at h
  · cases h
  · next hs =>
    simp only [bind_eq_ok] at h
    obtain ⟨r, h₁, h₂⟩ := h
    have := skipQuoted_length h₁
    have := readColon_length h₂
    simp only [hs, List.length_cons] at *
    omega
  · cases h

theorem skipToValue_length {f : Frame} {s rest : Bytes} (h : skipToValue f s = .ok rest) :
    rest.length ≤ s.length := by
  cases f with
  | list => cases h; exact Nat.le_refl _
  | object => exact Nat.le_of_lt (skipKey_length h)

theorem map_eq_ok {ε α β : Type} {x : Except ε α} {f : α → β} {b : β} :
    x.map f = .ok b ↔ ∃ a, x = .ok a ∧ f a = b := by
  cases x <;> simp [Except.map]

theorem skipAfterValue_length {fs fs' : List Frame} {s rest : Bytes}
    (h : skipAfterValue fs s = .ok (fs', rest)) : rest.length ≤ s.length := by
  induction fs generalizing s with
  | nil => cases h; exact Nat.le_refl _
  | cons f fs ih =>
    have := skipBlanks_length s
    unfold skipAfterValue at h
    split at h
    · cases h
    · next hs =>
      rw [hs, List.length_cons] at this
      split at h
      · obtain ⟨r, h₁, h₂⟩ := map_eq_ok.mp h
        cases h₂
        have := skipToValue_length h₁
        omega
      · split at h
        · have := ih h
          omega
        · cases h

theorem skipOpening_length {f : Frame} {fs fs' : List Frame} {s rest : Bytes}
    (h : skipOpening f fs s = .ok (fs', rest)) : rest.length ≤ s.length := by
  have := skipBlanks_length s
  unfold skipOpening at h
  split at h
  · cases h
  · next hs =>
    rw [hs, List.length_cons] at this
    split at h
    · have := skipAfterValue_length h
      omega
    · obtain ⟨r, h₁, h₂⟩ := map_eq_ok.mp h
      cases h₂
      have := skipToValue_length h₁
      simp only [List.length_cons] at this
      omega

theorem skipPart_length {fs fs' : List Frame} {s rest : Bytes}
    (h : skipPart fs s = .ok (fs', rest)) : rest.length < s.length := by
  have := skipBlanks_length s
  unfold skipPart at h
  split at h
  · cases h
  · next b r hs =>
    rw [hs, List.length_cons] at this
    have word : ∀ {w : Bytes}, (do skipAfterValue fs (← readWord w r)) = .ok (fs', rest) →
        rest.length < s.length := by
      intro w h
      obtain ⟨r', h₁, h₂⟩ := bind_eq_ok.mp h
      have := readWord_length h₁
      have := skipAfterValue_length h₂
      omega
    split at h
    · exact word h
    split at h
    · exact word h
    split at h
    · exact word h
    split at h
    · obtain ⟨⟨n, r'⟩, h₁, h₂⟩ := bind_eq_ok.mp h
      have := readNumeral_length h₁
      have := skipAfterValue_length h₂
      simp only [List.length_cons] at *
      omega
    split at h
    · obtain ⟨r', h₁, h₂⟩ := bind_eq_ok.mp h
      have := skipQuoted_length h₁
      have := skipAfterValue_length h₂
      omega
    split at h
    · have := skipOpening_length h
      omega
    split at h
    · have := skipOpening_length h
      omega
    · cases h

def skipAll (fs : List Frame) (s : Bytes) : Except Fault Bytes :=
  match _h : skipPart fs s with
  | .error f => .error f
  | .ok ([], rest) => .ok rest
  | .ok (f :: fs, rest) => skipAll (f :: fs) rest
termination_by s.length
decreasing_by exact skipPart_length _h

def skipValue (s : Bytes) : Except Fault Bytes := skipAll [] s

theorem skipAll_length {fs : List Frame} {s rest : Bytes} (h : skipAll fs s = .ok rest) :
    rest.length < s.length := by
  fun_induction skipAll fs s with
  | case1 => cases h
  | case2 _ _ _ h₁ => cases h; exact skipPart_length h₁
  | case3 _ _ _ _ _ h₁ ih => exact Nat.lt_trans (ih h) (skipPart_length h₁)

theorem skipValue_length {s rest : Bytes} (h : skipValue s = .ok rest) : rest.length < s.length :=
  skipAll_length h

end SecretKeeper.Json

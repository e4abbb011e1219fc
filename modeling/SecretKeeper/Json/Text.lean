import SecretKeeper.Json.Fault

/-!
The inside of JSON texts and what stands between values: blanks, words, and the characters of a
quoted text up to its closing quote. What is read is given back with the bytes that follow it.
-/
namespace SecretKeeper.Json

def isBlank (b : UInt8) : Bool := b == 32 || b == 9 || b == 10 || b == 13

def skipBlanks (s : Bytes) : Bytes := s.dropWhile isBlank

def readWord : Bytes → Bytes → Except Fault Bytes
  | [], s => .ok s
  | _ :: _, [] => .error (.here .endInValue [])
  | w :: ws, b :: rest => if b = w then readWord ws rest else .error (.here .expectedWord rest)

def hexValue? (b : UInt8) : Option Nat :=
  let n := b.toNat
  if 48 ≤ n ∧ n ≤ 57 then some (n - 48)
  else if 65 ≤ n ∧ n ≤ 70 then some (n - 55)
  else if 97 ≤ n ∧ n ≤ 102 then some (n - 87)
  else none

def readHex : Bytes → Except Fault (Nat × Bytes)
  | a :: b :: c :: d :: rest =>
    match hexValue? a, hexValue? b, hexValue? c, hexValue? d with
    | some a, some b, some c, some d => .ok (((a * 16 + b) * 16 + c) * 16 + d, rest)
    | _, _, _, _ => .error (.here .badEscape rest)
  | _ => .error (.here .endInText [])

def plainEscape? (b : UInt8) : Option Char :=
  if b = 34 then some '"'
  else if b = 92 then some '\\'
  else if b = 47 then some '/'
  else if b = 98 then some '\x08'
  else if b = 102 then some '\x0c'
  else if b = 110 then some '\n'
  else if b = 114 then some '\r'
  else if b = 116 then some '\t'
  else none

def isLeadingSurrogate (n : Nat) : Bool := 0xD800 ≤ n && n ≤ 0xDBFF

def isTrailingSurrogate (n : Nat) : Bool := 0xDC00 ≤ n && n ≤ 0xDFFF

def readPairByte (needed : UInt8) : Bytes → Except Fault Bytes
  | [] => .error (.here .endInText [])
  | b :: rest => if b = needed then .ok rest else .error (.here .cutSurrogatePair rest)

def readTrailing (leading : Nat) (s : Bytes) : Except Fault (Char × Bytes) := do
  let s ← readPairByte 92 s
  let s ← readPairByte 117 s
  let (trailing, s) ← readHex s
  if isTrailingSurrogate trailing then
    return (Char.ofNat (0x10000 + (leading - 0xD800) * 0x400 + (trailing - 0xDC00)), s)
  else throw (.here .loneSurrogate s)

def readNumbered (s : Bytes) : Except Fault (Char × Bytes) := do
  let (n, s) ← readHex s
  if isTrailingSurrogate n then throw (.here .loneSurrogate s)
  else if isLeadingSurrogate n then readTrailing n s
  else return (Char.ofNat n, s)

def readEscape : Bytes → Except Fault (Char × Bytes)
  | [] => .error (.here .endInText [])
  | b :: rest =>
    match plainEscape? b with
    | some c => .ok (c, rest)
    | none => if b = 117 then readNumbered rest else .error (.here .badEscape rest)

theorem readHex_length {s rest : Bytes} {n : Nat} (h : readHex s = .ok (n, rest)) :
    rest.length < s.length := by
  unfold readHex at h
  split at h
  · split at h
    · cases h
      simp only [List.length_cons]
      omega
    · cases h
  · cases h

theorem readPairByte_length {b : UInt8} {s rest : Bytes} (h : readPairByte b s = .ok rest) :
    rest.length < s.length := by
  unfold readPairByte at h
  split at h
  · cases h
  · split at h
    · cases h
      simp
    · cases h

theorem bind_eq_ok {ε α β : Type} {x : Except ε α} {f : α → Except ε β} {b : β} :
    (x >>= f) = .ok b ↔ ∃ a, x = .ok a ∧ f a = .ok b := by
  cases x <;> simp [bind, Except.bind]

theorem readTrailing_length {n : Nat} {s rest : Bytes} {c : Char}
    (h : readTrailing n s = .ok (c, rest)) :
    rest.length < s.length := by
  simp only [readTrailing, bind_eq_ok] at h
  obtain ⟨s₁, h₁, s₂, h₂, ⟨m, s₃⟩, h₃, h⟩ := h
  have := readPairByte_length h₁
  have := readPairByte_length h₂
  have := readHex_length h₃
  dsimp only at h
  split at h
  · obtain ⟨-, rfl⟩ := Prod.mk.inj (Except.ok.inj h)
    omega
  · cases h

theorem readNumbered_length {s rest : Bytes} {c : Char} (h : readNumbered s = .ok (c, rest)) :
    rest.length < s.length := by
  simp only [readNumbered, bind_eq_ok] at h
  obtain ⟨⟨n, s₁⟩, h₁, h⟩ := h
  have := readHex_length h₁
  dsimp only at h
  split at h
  · cases h
  · split at h
    · have := readTrailing_length h
      omega
    · obtain ⟨-, rfl⟩ := Prod.mk.inj (Except.ok.inj h)
      omega

theorem readEscape_length {s rest : Bytes} {c : Char} (h : readEscape s = .ok (c, rest)) :
    rest.length < s.length := by
  unfold readEscape at h
  split at h
  · cases h
  · split at h
    · cases h
      simp
    · split at h
      · have := readNumbered_length h
        simp only [List.length_cons]
        omega
      · cases h

def decodeChar? (s : Bytes) : Option (Char × Bytes) :=
  ((s.take 4).toByteArray.utf8DecodeChar? 0).map fun c => (c, s.drop c.utf8Size)

theorem decodeChar?_length {s rest : Bytes} {c : Char} (h : decodeChar? s = some (c, rest))
    (hs : s ≠ []) : rest.length < s.length := by
  obtain ⟨c', -, h⟩ := Option.map_eq_some_iff.mp h
  obtain ⟨rfl, rfl⟩ := Prod.mk.inj h
  have := c'.utf8Size_pos
  have := List.length_pos_iff.mpr hs
  rw [List.length_drop]
  omega

def decodeChars (s : Bytes) : Except Bytes (List Char) :=
  if _hs : s = [] then .ok []
  else
    match _h : decodeChar? s with
    | none => .error s
    | some (c, rest) => (decodeChars rest).map (c :: ·)
termination_by s.length
decreasing_by exact decodeChar?_length _h _hs

def readQuoted (s : Bytes) : Except Fault (Bytes × Bytes) :=
  match s with
  | [] => .error (.here .endInText [])
  | b :: rest =>
    if b = 34 then .ok ([], rest)
    else if b = 92 then
      match _h : readEscape rest with
      | .error f => .error f
      | .ok (c, rest) =>
        match readQuoted rest with
        | .error f => .error f
        | .ok (t, rest) => .ok (String.utf8EncodeChar c ++ t, rest)
    else if b < 32 then .error (.here .controlCharacter rest)
    else
      match readQuoted rest with
      | .error f => .error f
      | .ok (t, rest) => .ok (b :: t, rest)
termination_by s.length
decreasing_by
  · have := readEscape_length _h
    simp only [List.length_cons]
    omega
  · simp

theorem readQuoted_length {s t rest : Bytes} (h : readQuoted s = .ok (t, rest)) :
    rest.length < s.length := by
  fun_induction readQuoted s generalizing t rest with
  | case1 => cases h
  | case2 => cases h; simp
  | case3 => cases h
  | case4 => cases h
  | case5 r c r' h₁ t' r'' h₂ _ ih =>
    have := ih h₂
    have := readEscape_length h₁
    cases h
    simp only [List.length_cons]
    omega
  | case6 => cases h
  | case7 => cases h
  | case8 b r _ _ _ t' r' h₂ ih =>
    have := ih h₂
    cases h
    simp only [List.length_cons]
    omega

/-- A quoted text, from after its opening quote. Bytes that are not UTF-8 are noticed when the text
is over, and placed as far before its end as they are in what was read. -/
def readText (s : Bytes) : Except Fault (String × Bytes) :=
  match readQuoted s with
  | .error f => .error f
  | .ok (t, rest) =>
    match decodeChars t with
    | .error bad => .error (.here .notUnicode (s.drop (s.length - (rest.length + bad.length))))
    | .ok cs => .ok (String.ofList cs, rest)

theorem readText_length {s rest : Bytes} {t : String} (h : readText s = .ok (t, rest)) :
    rest.length < s.length := by
  unfold readText at h
  split at h
  · cases h
  · next h₁ =>
    split at h
    · cases h
    · cases h
      exact readQuoted_length h₁

theorem skipBlanks_length (s : Bytes) : (skipBlanks s).length ≤ s.length :=
  (List.dropWhile_sublist _).length_le

theorem readWord_length {w s rest : Bytes} (h : readWord w s = .ok rest) :
    rest.length ≤ s.length := by
  induction w generalizing s with
  | nil => cases h; exact Nat.le_refl _
  | cons b w ih =>
    cases s with
    | nil => cases h
    | cons c s =>
      unfold readWord at h
      split at h
      · have := ih h
        simp only [List.length_cons]
        omega
      · cases h

end SecretKeeper.Json

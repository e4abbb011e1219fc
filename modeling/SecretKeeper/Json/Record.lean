import SecretKeeper.Json.Sequence

/-!
Records with named members. A record is an object, whose known keys come at most once and whose
other members are skipped, or the list of its members in their order. Either way the members fill
a draft, from which the record is made.
-/
namespace SecretKeeper.Json

structure Column (σ : Type) where
  key : String
  isGiven : σ → Bool
  value : Reader (σ → σ)

/-- The members in order, the empty draft, and what a draft makes: a record, or the position of the
first member that is needed and missing. -/
structure Layout (σ α : Type) where
  title : String
  columns : List (Column σ)
  blank : σ
  finish : σ → Except Nat α

def readKey (s : Bytes) : Except Fault (Option String × Bytes) :=
  (readText s).map fun p => (some p.1, p.2)

def nextKey (first : Bool) (s : Bytes) : Except Fault (Option String × Bytes) :=
  match skipBlanks s with
  | [] => .error (.here .endInObject [])
  | b :: rest =>
    if b = 125 then .ok (none, rest)
    else if first then
      if b = 34 then readKey rest else .error (.here .keyNotText rest)
    else if b = 44 then
      match skipBlanks rest with
      | [] => .error (.here .endInValue [])
      | c :: rest =>
        if c = 34 then readKey rest
        else if c = 125 then .error (.here .trailingComma rest)
        else .error (.here .keyNotText rest)
    else .error (.here .expectedObjectComma rest)

/-- Where an object that was given up ends: after a brace, if one comes next. -/
def leaveObject (s : Bytes) : Bytes :=
  match skipBlanks s with
  | 125 :: rest => rest
  | s => s

def endList (s : Bytes) : Except Fault Bytes :=
  match skipBlanks s with
  | [] => .error (.here .endInList [])
  | b :: rest =>
    if b = 93 then .ok rest
    else if b = 44 then
      match skipBlanks rest with
      | c :: rest => .error (.here (if c = 93 then .trailingComma else .trailingCharacters) rest)
      | [] => .error (.here .trailingCharacters [])
    else .error (.here .trailingCharacters rest)

theorem readKey_length {s rest : Bytes} {k : Option String} (h : readKey s = .ok (k, rest)) :
    rest.length < s.length := by
  obtain ⟨p, h₁, h₂⟩ := map_eq_ok.mp h
  cases h₂
  exact readText_length h₁

theorem nextKey_length {first : Bool} {s rest : Bytes} {k : Option String}
    (h : nextKey first s = .ok (k, rest)) : rest.length < s.length := by
  unfold nextKey at h
  split at h
  · cases h
  · next b r hs =>
    have := length_lt_of_skipBlanks hs
    split at h
    · cases h
      omega
    split at h
    · split at h
      · have := readKey_length h
        omega
      · cases h
    split at h
    · split at h
      · cases h
      · next hr =>
        have := length_lt_of_skipBlanks hr
        split at h
        · have := readKey_length h
          omega
        split at h <;> cases h
    · cases h

theorem endList_length {s rest : Bytes} (h : endList s = .ok rest) : rest.length < s.length := by
  unfold endList at h
  split at h
  · cases h
  · next hs =>
    split at h
    · cases h
      exact length_lt_of_skipBlanks hs
    split at h
    · split at h <;> cases h
    · cases h

namespace Layout

variable {σ α : Type}

def column? (l : Layout σ α) (key : String) : Option (Column σ) :=
  l.columns.find? fun c => c.key == key

def readMember (l : Layout σ α) (key : String) (draft : σ) (s : Bytes) : Except Fault (σ × Bytes) :=
  match l.column? key with
  | none => do
    let s ← readColon s
    let s ← skipValue s
    return (draft, s)
  | some c =>
    if c.isGiven draft then .error (.unplaced (.repeatedMember key) s)
    else do
      let s ← readColon s
      let (fill, s) ← c.value.run s
      return (fill draft, s)

theorem readMember_length {l : Layout σ α} {key : String} {draft d : σ} {s rest : Bytes}
    (h : l.readMember key draft s = .ok (d, rest)) : rest.length < s.length := by
  unfold readMember at h
  split at h
  · simp only [bind_eq_ok] at h
    obtain ⟨s₁, h₁, s₂, h₂, h⟩ := h
    obtain ⟨-, rfl⟩ := Prod.mk.inj (Except.ok.inj h)
    exact Nat.lt_trans (skipValue_length h₂) (readColon_length h₁)
  · next c _ =>
    split at h
    · cases h
    · simp only [bind_eq_ok] at h
      obtain ⟨s₁, h₁, ⟨fill, s₂⟩, h₂, h⟩ := h
      obtain ⟨-, rfl⟩ := Prod.mk.inj (Except.ok.inj h)
      exact Nat.lt_trans (c.value.shrinks h₂) (readColon_length h₁)

def readMembers (l : Layout σ α) (first : Bool) (draft : σ) (s : Bytes) :
    Except Fault (σ × Bytes) :=
  match _h : nextKey first s with
  | .error f => .error f
  | .ok (none, rest) => .ok (draft, rest)
  | .ok (some key, rest) =>
    match _h' : l.readMember key draft rest with
    | .error f => .error f
    | .ok (draft, rest) => l.readMembers false draft rest
termination_by s.length
decreasing_by exact Nat.lt_trans (readMember_length _h') (nextKey_length _h)

theorem readMembers_length {l : Layout σ α} {first : Bool} {draft d : σ} {s rest : Bytes}
    (h : l.readMembers first draft s = .ok (d, rest)) : rest.length < s.length := by
  fun_induction readMembers l first draft s with
  | case1 => cases h
  | case2 _ _ _ _ h₁ => cases h; exact nextKey_length h₁
  | case3 => cases h
  | case4 _ _ _ _ _ h₁ _ _ h₂ ih =>
    exact Nat.lt_trans (ih h) (Nat.lt_trans (readMember_length h₂) (nextKey_length h₁))

def readRow : List (Column σ) → Bool → σ → Bytes → Except Fault (σ × Bytes)
  | [], _, draft, s => (endList s).map (draft, ·)
  | c :: cs, first, draft, s =>
    match nextItem first s with
    | .error f => .error f
    | .ok (false, rest) => .ok (draft, rest)
    | .ok (true, item) =>
      match c.value.run item with
      | .error f => .error f
      | .ok (fill, rest) => readRow cs false (fill draft) rest

theorem readRow_length {cs : List (Column σ)} {first : Bool} {draft d : σ} {s rest : Bytes}
    (h : readRow cs first draft s = .ok (d, rest)) : rest.length ≤ s.length := by
  induction cs generalizing first draft s with
  | nil =>
    obtain ⟨r, h₁, h₂⟩ := map_eq_ok.mp h
    cases h₂
    exact Nat.le_of_lt (endList_length h₁)
  | cons c cs ih =>
    unfold readRow at h
    split at h
    · cases h
    · next h₁ => cases h; exact nextItem_length h₁
    · next h₁ =>
      split at h
      · cases h
      · next h₂ =>
        have := ih h
        have := nextItem_length h₁
        have := c.value.shrinks h₂
        omega

def key (l : Layout σ α) (i : Nat) : String := (l.columns[i]?.map (·.key)).getD ""

def expected (l : Layout σ α) : String := "struct " ++ l.title

def read (l : Layout σ α) (s : Bytes) : Except Fault (α × Bytes) :=
  match skipBlanks s with
  | [] => .error (.here .endInValue [])
  | b :: rest =>
    if b = 123 then
      match l.readMembers true l.blank rest with
      | .error f => .error (f.settle leaveObject)
      | .ok (draft, rest) =>
        match l.finish draft with
        | .ok a => .ok (a, rest)
        | .error i => .error (.here (.missingMember (l.key i)) rest)
    else if b = 91 then
      match readRow l.columns true l.blank rest with
      | .error f => .error (f.settle leaveList)
      | .ok (draft, rest) =>
        match l.finish draft with
        | .ok a => .ok (a, rest)
        | .error i =>
          .error (.here (.wrongLength i s!"{l.expected} with {l.columns.length} elements") rest)
    else .error (mismatch l.expected (b :: rest))

def reader (l : Layout σ α) : Reader α where
  run := l.read
  shrinks := by
    intro s a rest h
    unfold read at h
    split at h
    · cases h
    · next hs =>
      have := length_lt_of_skipBlanks hs
      split at h
      · split at h
        · cases h
        · next h₁ =>
          split at h
          · cases h
            exact Nat.lt_trans (readMembers_length h₁) this
          · cases h
      split at h
      · split at h
        · cases h
        · next h₁ =>
          split at h
          · cases h
            exact Nat.lt_of_le_of_lt (readRow_length h₁) this
          · cases h
      · cases h

end Layout
end SecretKeeper.Json

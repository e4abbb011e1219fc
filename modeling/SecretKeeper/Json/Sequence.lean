import SecretKeeper.Json.Reader

/-!
Lists of values of one kind.
-/
namespace SecretKeeper.Json

def nextItem (first : Bool) (s : Bytes) : Except Fault (Bool × Bytes) :=
  match skipBlanks s with
  | [] => .error (.here .endInList [])
  | b :: rest =>
    if b = 93 then .ok (false, rest)
    else if first then .ok (true, b :: rest)
    else if b = 44 then
      match skipBlanks rest with
      | [] => .error (.here .endInValue [])
      | c :: rest =>
        if c = 93 then .error (.here .trailingComma rest) else .ok (true, c :: rest)
    else .error (.next .expectedListComma (b :: rest))

/-- Where a list that was given up ends: after a bracket or a comma, if one comes next. -/
def leaveList (s : Bytes) : Bytes :=
  match skipBlanks s with
  | 93 :: rest => rest
  | 44 :: rest => skipBlanks rest
  | s => s

theorem nextItem_length {first more : Bool} {s rest : Bytes}
    (h : nextItem first s = .ok (more, rest)) :
    rest.length ≤ s.length := by
  unfold nextItem at h
  split at h
  · cases h
  · next b r hs =>
    have hr := length_lt_of_skipBlanks hs
    split at h
    · cases h
      omega
    split at h
    · cases h
      exact hr
    split at h
    · split at h
      · cases h
      · next ht =>
        have := length_lt_of_skipBlanks ht
        split at h
        · cases h
        · cases h
          simp only [List.length_cons]
          omega
    · cases h

namespace Reader

def readItems (p : Reader α) (first : Bool) (s : Bytes) : Except Fault (List α × Bytes) :=
  match _h : nextItem first s with
  | .error f => .error f
  | .ok (false, rest) => .ok ([], rest)
  | .ok (true, item) =>
    match _h' : p.run item with
    | .error f => .error f
    | .ok (a, rest) =>
      match p.readItems false rest with
      | .error f => .error f
      | .ok (as, rest) => .ok (a :: as, rest)
termination_by s.length
decreasing_by exact Nat.lt_of_lt_of_le (p.shrinks _h') (nextItem_length _h)

theorem readItems_length {p : Reader α} {first : Bool} {s rest : Bytes} {as : List α}
    (h : p.readItems first s = .ok (as, rest)) : rest.length ≤ s.length := by
  fun_induction readItems p first s generalizing as rest with
  | case1 => cases h
  | case2 _ _ _ h₁ => cases h; exact nextItem_length h₁
  | case3 => cases h
  | case4 => cases h
  | case5 _ _ _ h₁ _ _ h₂ _ _ h₃ ih =>
    cases h
    have := nextItem_length h₁
    have := p.shrinks h₂
    have := ih h₃
    omega

def readList (p : Reader α) (s : Bytes) : Except Fault (List α × Bytes) :=
  match skipBlanks s with
  | [] => .error (.here .endInValue [])
  | 91 :: rest =>
    match p.readItems true rest with
    | .error f => .error (f.settle leaveList)
    | .ok r => .ok r
  | s => .error (mismatch "a sequence" s)

def list (p : Reader α) : Reader (List α) where
  run := p.readList
  shrinks := by
    intro s a rest h
    unfold readList at h
    split at h
    · cases h
    · next hs =>
      split at h
      · cases h
      · next h₁ =>
        cases h
        exact Nat.lt_of_le_of_lt (readItems_length h₁) (length_lt_of_skipBlanks hs)
    · cases h

end Reader
end SecretKeeper.Json

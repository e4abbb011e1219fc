import SecretKeeper.Json.Skip

/-!
Readers of typed values. A reader skips blanks, takes one value off the front of the bytes, and
says what it found instead if the value is of another kind. Each reader takes at least one byte.
-/
namespace SecretKeeper.Json

structure Reader (α : Type) where
  run : Bytes → Except Fault (α × Bytes)
  shrinks : ∀ {s a rest}, run s = .ok (a, rest) → rest.length < s.length

def Number.found : Number → Found
  | whole n => .whole n
  | real x => .real (Decimal.shortest x)

def findKind (s : Bytes) : Except Fault (Found × Bytes) :=
  match s with
  | [] => .error (.here .expectedValue [])
  | b :: rest =>
    if b = 110 then (readWord [117, 108, 108] rest).map (.null, ·)
    else if b = 116 then (readWord [114, 117, 101] rest).map (.flag true, ·)
    else if b = 102 then (readWord [97, 108, 115, 101] rest).map (.flag false, ·)
    else if b = 45 ∨ isDigit b then (readNumber s).map fun p => (p.1.found, p.2)
    else if b = 34 then (readText rest).map fun p => (.text p.1, p.2)
    else if b = 91 then .ok (.list, s)
    else if b = 123 then .ok (.object, s)
    else .error (.next .expectedValue s)

def mismatch (expected : String) (s : Bytes) : Fault :=
  match findKind s with
  | .error f => f
  | .ok (found, rest) => .here (.wrongType found expected) rest

theorem length_lt_of_skipBlanks {s rest : Bytes} {b : UInt8} (h : skipBlanks s = b :: rest) :
    rest.length < s.length := by
  have := skipBlanks_length s
  rw [h, List.length_cons] at this
  exact this

namespace Reader

def readTextValue (expected : String) (s : Bytes) : Except Fault (String × Bytes) :=
  match skipBlanks s with
  | [] => .error (.here .endInValue [])
  | 34 :: rest => readText rest
  | s => .error (mismatch expected s)

def textFor (expected : String) : Reader String where
  run := readTextValue expected
  shrinks := by
    intro s a rest h
    unfold readTextValue at h
    split at h
    · cases h
    · next hs => exact Nat.lt_trans (readText_length h) (length_lt_of_skipBlanks hs)
    · cases h

def text : Reader String := textFor "a string"

def readFlag (s : Bytes) : Except Fault (Bool × Bytes) :=
  match skipBlanks s with
  | [] => .error (.here .endInValue [])
  | 116 :: rest => (readWord [114, 117, 101] rest).map (true, ·)
  | 102 :: rest => (readWord [97, 108, 115, 101] rest).map (false, ·)
  | s => .error (mismatch "a boolean" s)

def flag : Reader Bool where
  run := readFlag
  shrinks := by
    intro s a rest h
    unfold readFlag at h
    split at h
    · cases h
    · next hs =>
      obtain ⟨r, h₁, h₂⟩ := map_eq_ok.mp h
      cases h₂
      exact Nat.lt_of_le_of_lt (readWord_length h₁) (length_lt_of_skipBlanks hs)
    · next hs =>
      obtain ⟨r, h₁, h₂⟩ := map_eq_ok.mp h
      cases h₂
      exact Nat.lt_of_le_of_lt (readWord_length h₁) (length_lt_of_skipBlanks hs)
    · cases h

def wordOf (rest : Bytes) : Number → Except Fault (UInt64 × Bytes)
  | .whole n =>
    if 0 ≤ n then .ok (UInt64.ofNat n.toNat, rest)
    else .error (.here (.wrongValue (.whole n) "u64") rest)
  | .real x => .error (.here (.wrongType (.real (Decimal.shortest x)) "u64") rest)

def readWord64 (s : Bytes) : Except Fault (UInt64 × Bytes) :=
  match skipBlanks s with
  | [] => .error (.here .endInValue [])
  | b :: rest =>
    if b = 45 ∨ isDigit b then
      match readNumber (b :: rest) with
      | .error f => .error f
      | .ok (n, rest) => wordOf rest n
    else .error (mismatch "u64" (b :: rest))

theorem wordOf_rest {s rest : Bytes} {n : Number} {w : UInt64} (h : wordOf s n = .ok (w, rest)) :
    rest = s := by
  unfold wordOf at h
  split at h
  · split at h
    · cases h
      rfl
    · cases h
  · cases h

def word64 : Reader UInt64 where
  run := readWord64
  shrinks := by
    intro s a rest h
    have := skipBlanks_length s
    unfold readWord64 at h
    split at h
    · cases h
    · next hs =>
      rw [hs] at this
      split at h
      · split at h
        · cases h
        · next h₁ =>
          rw [wordOf_rest h]
          exact Nat.lt_of_lt_of_le (readNumber_length h₁) this
      · cases h

def readChecked (p : Reader α) (placed : Bool) (f : α → Except String β) (s : Bytes) :
    Except Fault (β × Bytes) :=
  match p.run s with
  | .error fault => .error fault
  | .ok (a, rest) =>
    match f a with
    | .ok b => .ok (b, rest)
    | .error reason => .error ⟨.refused reason, rest, placed⟩

/-- Turns what was read into something else, or refuses it for a reason. The refusal has its place
behind the value, or gets one later. -/
def check (p : Reader α) (placed : Bool) (f : α → Except String β) : Reader β where
  run := p.readChecked placed f
  shrinks := by
    intro s a rest h
    unfold readChecked at h
    split at h
    · cases h
    · next h₁ =>
      split at h
      · cases h
        exact p.shrinks h₁
      · cases h

def map (p : Reader α) (f : α → β) : Reader β where
  run s := (p.run s).map fun r => (f r.1, r.2)
  shrinks := by
    intro s a rest h
    obtain ⟨r, h₁, h₂⟩ := map_eq_ok.mp h
    cases h₂
    exact p.shrinks h₁

def document (p : Reader α) (s : Bytes) : Except DocumentFault α :=
  match p.run s with
  | .error f => .error (f.inDocument s)
  | .ok (a, rest) =>
    match skipBlanks rest with
    | [] => .ok a
    | rest => .error ((Fault.next .trailingCharacters rest).inDocument s)

end Reader
end SecretKeeper.Json

import SecretKeeper.Json.Record
import SecretKeeper.Proofs.Json.Reader

/-!
Records read back from the texts of objects: each member goes through the column of its key into
the draft, and the draft makes the record.
-/
namespace SecretKeeper.Json

open Text

theorem nextKey_first (key : String) (s : Bytes) :
    nextKey true (utf8 (quoted key) ++ s) = .ok (some key, s) := by
  have skip := skipBlanks_cons (b := 34) rfl (utf8 (key.toList.flatMap writeChar) ++ 34 :: s)
  have brace : ¬(34 : UInt8) = 125 := by decide
  rw [utf8_quoted]
  simp only [nextKey, skip, brace, ↓reduceIte, readKey, readText_quoted, Except.map]

theorem nextKey_further (key : String) (s : Bytes) :
    nextKey false (44 :: (utf8 (quoted key) ++ s)) = .ok (some key, s) := by
  have comma := skipBlanks_cons (b := 44) rfl (utf8 (quoted key) ++ s)
  have skip := skipBlanks_cons (b := 34) rfl (utf8 (key.toList.flatMap writeChar) ++ 34 :: s)
  have brace : ¬(44 : UInt8) = 125 := by decide
  rw [utf8_quoted] at comma ⊢
  simp only [nextKey, comma, brace, skip, ↓reduceIte, Bool.false_eq_true, readKey, readText_quoted,
    Except.map]

theorem membersChars_cons (m : String × Value) (ms : List (String × Value)) :
    Value.membersChars (m :: ms) =
      Value.memberChars m ++ ms.flatMap fun n => ',' :: Value.memberChars n := by
  induction ms generalizing m with
  | nil => rw [Value.membersChars, List.flatMap_nil, List.append_nil]
  | cons n more ih => rw [Value.membersChars, ih, List.flatMap_cons, List.cons_append]

theorem memberChars_append (key : String) (v : Value) (rest : Bytes) :
    utf8 (Value.memberChars (key, v)) ++ rest =
      utf8 (quoted key) ++ 58 :: (utf8 v.chars ++ rest) := by
  have colon : String.utf8EncodeChar ':' = [58] := by decide
  rw [Value.memberChars, utf8_append, utf8_cons, colon, List.append_assoc]
  rfl

namespace Layout

variable {σ α : Type} {l : Layout σ α}

/-- What the members make of a draft, each by a column that the draft has no value of yet. -/
inductive Fills (l : Layout σ α) : σ → List (String × Value) → σ → Prop
  | done (draft : σ) : Fills l draft [] draft
  | member {draft final : σ} {key : String} {v : Value} {more : List (String × Value)}
      {c : Column σ} {fill : σ → σ} (known : l.column? key = some c)
      (vacant : c.isGiven draft = false) (reads : c.value.Reads v fill)
      (rest : Fills l (fill draft) more final) : Fills l draft ((key, v) :: more) final

theorem Fills.given {draft final : σ} {key : String} {v : Value} {more : List (String × Value)}
    {isGiven : σ → Bool} {p : Reader β} {fill : β → σ → σ} {b : β}
    (known : l.column? key = some ⟨key, isGiven, p.map fill⟩) (vacant : isGiven draft = false)
    (reads : p.Reads v b) (rest : l.Fills (fill b draft) more final) :
    l.Fills draft ((key, v) :: more) final :=
  .member known vacant (Reader.map_reads reads fill) rest

theorem readMember_column {key : String} {draft : σ} {v : Value} {c : Column σ} {fill : σ → σ}
    (known : l.column? key = some c) (vacant : c.isGiven draft = false)
    (reads : c.value.Reads v fill) {rest : Bytes} (ends : EndsNumeral rest) :
    l.readMember key draft (58 :: (utf8 v.chars ++ rest)) = .ok (fill draft, rest) := by
  have colon : readColon (58 :: (utf8 v.chars ++ rest)) = .ok (utf8 v.chars ++ rest) := rfl
  simp only [readMember, known, vacant, Bool.false_eq_true, ↓reduceIte, bind, Except.bind, colon,
    reads rest ends]
  rfl

theorem readMembers_end {first : Bool} {draft : σ} {s rest : Bytes}
    (done : nextKey first s = .ok (none, rest)) :
    l.readMembers first draft s = .ok (draft, rest) := by
  rw [readMembers]
  split <;> simp_all

theorem readMembers_member {first : Bool} {key : String} {draft next final : σ}
    {s value rest after : Bytes} (found : nextKey first s = .ok (some key, value))
    (read : l.readMember key draft value = .ok (next, rest))
    (further : l.readMembers false next rest = .ok (final, after)) :
    l.readMembers first draft s = .ok (final, after) := by
  rw [readMembers]
  split
  · simp_all
  · simp_all
  · rename_i key' value' found'
    cases found.symm.trans found'
    split
    · simp_all
    · rename_i draft' rest' read'
      cases read.symm.trans read'
      exact further

theorem readMembers_further {draft final : σ} {ms : List (String × Value)}
    (fills : l.Fills draft ms final) (rest : Bytes) :
    l.readMembers false draft
        (utf8 (ms.flatMap fun m => ',' :: Value.memberChars m) ++ 125 :: rest) =
      .ok (final, rest) := by
  induction fills with
  | done draft => exact readMembers_end rfl
  | @member draft final key v more c fill known vacant reads others ih =>
    have ends := endsNumeral_further more Value.memberChars (b := 125) (by decide) rest
    rw [List.flatMap_cons, utf8_append, List.append_assoc, comma_append, memberChars_append]
    exact readMembers_member (nextKey_further key _) (readMember_column known vacant reads ends) ih

theorem readMembers_first {draft final : σ} {ms : List (String × Value)}
    (fills : l.Fills draft ms final) (rest : Bytes) :
    l.readMembers true draft (utf8 (Value.membersChars ms) ++ 125 :: rest) = .ok (final, rest) := by
  cases fills with
  | done draft => exact readMembers_end rfl
  | @member draft final key v more c fill known vacant reads others =>
    have ends := endsNumeral_further more Value.memberChars (b := 125) (by decide) rest
    rw [membersChars_cons, utf8_append, List.append_assoc, memberChars_append]
    exact readMembers_member (nextKey_first key _) (readMember_column known vacant reads ends)
      (readMembers_further others rest)

theorem reader_reads {ms : List (String × Value)} {draft : σ} {a : α}
    (fills : l.Fills l.blank ms draft) (makes : l.finish draft = .ok a) :
    l.reader.Reads (.object ms) a := by
  intro rest _
  have read := readMembers_first fills rest
  have text : utf8 (Value.object ms).chars ++ rest =
      123 :: (utf8 (Value.membersChars ms) ++ 125 :: rest) := by
    have opening : String.utf8EncodeChar '\x7b' = [123] := by decide
    have closing : String.utf8EncodeChar '\x7d' = [125] := by decide
    rw [Value.chars, utf8_append, utf8_cons, utf8_cons, utf8_nil, opening, closing]
    simp
  have skip := skipBlanks_cons (b := 123) rfl (utf8 (Value.membersChars ms) ++ 125 :: rest)
  rw [text]
  simp only [reader, Layout.read, skip, ↓reduceIte, read, makes]

end Layout
end SecretKeeper.Json

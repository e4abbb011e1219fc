import SecretKeeper.Proofs.Json.Pieces
import SecretKeeper.Proofs.Json.Reader

/-!
Values of any form and depth are skipped: exactly the text of the value is taken, and what was open
around it goes on after it. The proof follows the tree; what is still open stays on the stack.
-/
namespace SecretKeeper.Json

open Text

/-! Blanks. -/

theorem blanks_cons (b : Blank) (more : List Blank) (s : Bytes) :
    ∃ byte, utf8 (blankChars (b :: more)) ++ s = byte :: (utf8 (blankChars more) ++ s) ∧
      isBlank byte = true ∧ isDigit byte = false ∧ byte ≠ 46 ∧ byte ≠ 101 ∧ byte ≠ 69 := by
  cases b <;> exact ⟨_, rfl, by decide⟩

theorem skipBlanks_blanks (bs : List Blank) (s : Bytes) :
    skipBlanks (utf8 (blankChars bs) ++ s) = skipBlanks s := by
  induction bs with
  | nil => rfl
  | cons b more ih =>
    obtain ⟨byte, front, blank, _⟩ := blanks_cons b more s
    rw [front, skipBlanks, List.dropWhile_cons_of_pos blank]
    exact ih

theorem endsNumeral_blanks (bs : List Blank) {s : Bytes} (ends : EndsNumeral s) :
    EndsNumeral (utf8 (blankChars bs) ++ s) := by
  cases bs with
  | nil => exact ends
  | cons b more =>
    obtain ⟨byte, front, _, stop⟩ := blanks_cons b more s
    rw [front]
    exact endsNumeral_cons stop _

/-! The first byte of a tree tells its kind. -/

namespace Tree

def Leads : Tree → UInt8 → Prop
  | null, b => b = 110
  | flag true, b => b = 116
  | flag false, b => b = 102
  | number _, b => b = 45 ∨ isDigit b = true
  | text _, b => b = 34
  | list _ _, b => b = 91
  | object _ _, b => b = 123

theorem start (t : Tree) (rest : Bytes) :
    ∃ b more, utf8 t.chars ++ rest = b :: more ∧ t.Leads b := by
  cases t with
  | null => exact ⟨_, _, rfl, rfl⟩
  | flag value => cases value <;> exact ⟨_, _, rfl, rfl⟩
  | number literal =>
    obtain ⟨b, more, front, digit, _⟩ := literal.whole.start
    rw [chars, Literal.chars]
    cases literal.isNegative with
    | false =>
      simp only [Bool.false_eq_true, ↓reduceIte, List.nil_append, utf8_append, front]
      exact ⟨b, _, rfl, Or.inr digit⟩
    | true => exact ⟨45, _, rfl, Or.inl rfl⟩
  | text pieces => exact ⟨34, _, utf8_pieces pieces rest, rfl⟩
  | list inside items => exact ⟨91, _, utf8_list inside items rest, rfl⟩
  | object inside members => exact ⟨123, _, utf8_object inside members rest, rfl⟩

theorem Leads.ink {t : Tree} {b : UInt8} (leads : t.Leads b) : isBlank b = false ∧ b ≠ 93 := by
  cases t with
  | number => exact isBlank_digit leads
  | flag value => cases value <;> cases leads <;> decide
  | null | text | list | object =>
    cases leads
    decide

end Tree

/-! What goes on after a value. -/

/-- After a value: what is open goes on until all is closed. -/
def resume (fs : List Frame) (s : Bytes) : Except Fault Bytes :=
  match skipAfterValue fs s with
  | .error f => .error f
  | .ok ([], rest) => .ok rest
  | .ok (f :: fs, rest) => skipAll (f :: fs) rest

theorem skipAll_of_part {fs fs' : List Frame} {s s' : Bytes}
    (part : skipPart fs s = skipAfterValue fs' s') : skipAll fs s = resume fs' s' := by
  unfold skipAll resume
  rw [← part]
  split <;> rename_i found <;> rw [found]

theorem skipAll_of_open {f : Frame} {fs fs' : List Frame} {s rest : Bytes}
    (part : skipPart fs s = .ok (f :: fs', rest)) : skipAll fs s = skipAll (f :: fs') rest := by
  rw [skipAll]
  split <;> rename_i found <;> rw [part] at found <;> cases found
  rfl

theorem resume_of_more {f : Frame} {fs fs' : List Frame} {s rest : Bytes}
    (more : skipAfterValue fs s = .ok (f :: fs', rest)) :
    resume fs s = skipAll (f :: fs') rest := by
  rw [resume, more]

theorem resume_of_same {fs fs' : List Frame} {s s' : Bytes}
    (same : skipAfterValue fs s = skipAfterValue fs' s') : resume fs s = resume fs' s' := by
  rw [resume, resume, same]

theorem resume_blanks (f : Frame) (fs : List Frame) (bs : List Blank) (s : Bytes) :
    resume (f :: fs) (utf8 (blankChars bs) ++ s) = resume (f :: fs) s := by
  apply resume_of_same
  simp only [skipAfterValue, skipBlanks_blanks]

theorem skipAll_blanks (fs : List Frame) (bs : List Blank) (s : Bytes) :
    skipAll fs (utf8 (blankChars bs) ++ s) = skipAll fs s := by
  have part : skipPart fs (utf8 (blankChars bs) ++ s) = skipPart fs s := by
    simp only [skipPart, skipBlanks_blanks]
  unfold skipAll
  split <;> rename_i found <;> rw [part] at found <;> rw [found]

theorem skipKey_blanks (bs : List Blank) (s : Bytes) :
    skipKey (utf8 (blankChars bs) ++ s) = skipKey s := by
  simp only [skipKey, skipBlanks_blanks]

theorem skipKey_entry (m : Entry Tree) (rest : Bytes) :
    skipKey (utf8 (Tree.memberChars m) ++ rest) =
      .ok (utf8 (Tree.paddedChars m.value) ++ rest) := by
  have colon (s : Bytes) : readColon (utf8 (blankChars m.after) ++ 58 :: s) = .ok s := by
    rw [readColon, skipBlanks_blanks]
    rfl
  rw [Tree.utf8_member, skipKey, skipBlanks_blanks, skipBlanks_cons (by decide)]
  simp only [bind, Except.bind, skipQuoted_pieces, colon]

theorem skipPart_number {b : UInt8} (digit : b = 45 ∨ isDigit b = true) (fs : List Frame)
    {s rest : Bytes} {n : Numeral}
    (numeral : readNumeral .badNumber (b :: s) = .ok (n, rest)) :
    skipPart fs (b :: s) = skipAfterValue fs rest := by
  have word : b ≠ 110 ∧ b ≠ 116 ∧ b ≠ 102 := by
    refine ⟨?_, ?_, ?_⟩ <;> rintro rfl <;> revert digit <;> decide
  rw [skipPart, skipBlanks_cons (isBlank_digit digit).1]
  simp only [word, digit, ↓reduceIte, numeral]
  rfl

namespace Tree

theorem ends_items (items : List (Padded Tree)) (rest : Bytes) :
    EndsNumeral (utf8 (furtherItems items) ++ 93 :: rest) := by
  cases items with
  | nil => exact endsNumeral_cons (by decide) rest
  | cons item more =>
    rw [utf8_further_item]
    exact endsNumeral_cons (by decide) _

theorem ends_members (members : List (Entry Tree)) (rest : Bytes) :
    EndsNumeral (utf8 (furtherMembers members) ++ 125 :: rest) := by
  cases members with
  | nil => exact endsNumeral_cons (by decide) rest
  | cons m more =>
    rw [utf8_further_member]
    exact endsNumeral_cons (by decide) _

theorem skipAll_list (fs : List Frame) (inside : List Blank) (item : Padded Tree) (s : Bytes) :
    skipAll fs (91 :: (utf8 (blankChars inside) ++ (utf8 (paddedChars item) ++ s))) =
      skipAll (.list :: fs) (utf8 (paddedChars item) ++ s) := by
  obtain ⟨b, more, front, leads⟩ := item.value.start (utf8 (blankChars item.after) ++ s)
  have opening (s : Bytes) : skipPart fs (91 :: s) = skipOpening .list fs s := rfl
  have bracket : ¬b = Frame.list.close := leads.ink.2
  rw [utf8_padded, skipAll_blanks, front]
  apply skipAll_of_open
  rw [opening, skipOpening, skipBlanks_blanks, skipBlanks_blanks, skipBlanks_cons leads.ink.1]
  simp only [bracket, ↓reduceIte]
  rfl

theorem skipAll_object (fs : List Frame) (inside : List Blank) (m : Entry Tree) (s : Bytes) :
    skipAll fs (123 :: (utf8 (blankChars inside) ++ (utf8 (memberChars m) ++ s))) =
      skipAll (.object :: fs) (utf8 (paddedChars m.value) ++ s) := by
  have opening (s : Bytes) : skipPart fs (123 :: s) = skipOpening .object fs s := rfl
  have key := skipKey_entry m s
  rw [utf8_member, skipKey_blanks] at key
  rw [utf8_member]
  have brace : ¬(34 : UInt8) = Frame.object.close := by decide
  apply skipAll_of_open
  rw [opening, skipOpening, skipBlanks_blanks, skipBlanks_blanks, skipBlanks_cons (by decide)]
  simp only [brace, ↓reduceIte, skipToValue, key]
  rfl

mutual

theorem skip_tree : ∀ (t : Tree) (fs : List Frame) {rest : Bytes}, EndsNumeral rest →
    skipAll fs (utf8 t.chars ++ rest) = resume fs rest
  | null, fs, rest, _ => skipAll_of_part rfl
  | flag true, fs, rest, _ => skipAll_of_part rfl
  | flag false, fs, rest, _ => skipAll_of_part rfl
  | number literal, fs, rest, ends => by
    have numeral := literal.readNumeral_chars ends .badNumber
    obtain ⟨b, more, front, digit⟩ := (number literal).start rest
    rw [chars] at front ⊢
    rw [front] at numeral ⊢
    exact skipAll_of_part (skipPart_number digit fs numeral)
  | text pieces, fs, rest, _ => by
    rw [chars, utf8_pieces]
    apply skipAll_of_part
    rw [skipPart, skipBlanks_cons (by decide)]
    simp only [bind, Except.bind, skipQuoted_pieces]
    rfl
  | list inside [], fs, rest, _ => by
    rw [utf8_list]
    apply skipAll_of_part
    have opening (s : Bytes) : skipPart fs (91 :: s) = skipOpening .list fs s := rfl
    rw [opening, skipOpening, skipBlanks_blanks]
    rfl
  | list inside (item :: more), fs, rest, _ => by
    rw [utf8_list, utf8_item, skipAll_list, skip_padded item .list fs (ends_items more rest)]
    exact skip_items more fs rest
  | object inside [], fs, rest, _ => by
    rw [utf8_object]
    apply skipAll_of_part
    have opening (s : Bytes) : skipPart fs (123 :: s) = skipOpening .object fs s := rfl
    rw [opening, skipOpening, skipBlanks_blanks]
    rfl
  | object inside (m :: more), fs, rest, _ => by
    rw [utf8_object, utf8_first_member, skipAll_object,
      skip_padded m.value .object fs (ends_members more rest)]
    exact skip_members more fs rest

theorem skip_padded : ∀ (p : Padded Tree) (f : Frame) (fs : List Frame) {rest : Bytes},
    EndsNumeral rest → skipAll (f :: fs) (utf8 (paddedChars p) ++ rest) = resume (f :: fs) rest
  | ⟨before, value, after⟩, f, fs, rest, ends => by
    rw [utf8_padded, skipAll_blanks, skip_tree value (f :: fs) (endsNumeral_blanks after ends),
      resume_blanks]

theorem skip_items : ∀ (items : List (Padded Tree)) (fs : List Frame) (rest : Bytes),
    resume (.list :: fs) (utf8 (furtherItems items) ++ 93 :: rest) = resume fs rest
  | [], fs, rest => resume_of_same rfl
  | item :: more, fs, rest => by
    rw [utf8_further_item, resume_of_more rfl, skip_padded item .list fs (ends_items more rest)]
    exact skip_items more fs rest

theorem skip_members : ∀ (members : List (Entry Tree)) (fs : List Frame) (rest : Bytes),
    resume (.object :: fs) (utf8 (furtherMembers members) ++ 125 :: rest) = resume fs rest
  | [], fs, rest => resume_of_same rfl
  | m :: more, fs, rest => by
    have comma : skipAfterValue (.object :: fs)
        (44 :: (utf8 (memberChars m) ++ (utf8 (furtherMembers more) ++ 125 :: rest))) =
        .ok (.object :: fs,
          utf8 (paddedChars m.value) ++ (utf8 (furtherMembers more) ++ 125 :: rest)) := by
      rw [skipAfterValue, skipBlanks_cons (by decide)]
      simp only [skipToValue, skipKey_entry, ↓reduceIte, Except.map]
    rw [utf8_further_member, resume_of_more comma,
      skip_padded m.value .object fs (ends_members more rest)]
    exact skip_members more fs rest

end

end Tree

theorem skipValue_tree (bs : List Blank) (t : Tree) {rest : Bytes} (ends : EndsNumeral rest) :
    skipValue (utf8 (blankChars bs) ++ (utf8 t.chars ++ rest)) = .ok rest := by
  rw [skipValue, skipAll_blanks, t.skip_tree [] ends]
  rfl

end SecretKeeper.Json

import SecretKeeper.Json.Sequence
import SecretKeeper.Proofs.Json.Number
import SecretKeeper.Proofs.Json.Text

/-!
Values read back from their compact texts. Nothing is assumed about what follows such a text except
that it does not go on with a numeral, so that lists and records of values are read member by
member.
-/
namespace SecretKeeper.Json

open Text

theorem skipBlanks_cons {b : UInt8} (ink : isBlank b = false) (s : Bytes) :
    skipBlanks (b :: s) = b :: s := by
  rw [skipBlanks, List.dropWhile_cons_of_neg (by simp [ink])]

theorem endsNumeral_cons {b : UInt8} (stop : isDigit b = false ∧ b ≠ 46 ∧ b ≠ 101 ∧ b ≠ 69)
    (s : Bytes) : EndsNumeral (b :: s) := by
  intro c member
  cases member
  exact stop

theorem utf8_quoted (s : String) (rest : Bytes) :
    utf8 (quoted s) ++ rest = 34 :: (utf8 (s.toList.flatMap writeChar) ++ 34 :: rest) := by
  have quote : String.utf8EncodeChar '"' = [34] := by decide
  rw [quoted, utf8_append, utf8_cons, utf8_cons, utf8_nil, quote, List.append_assoc]
  rfl

theorem wholeDigits_start (n : Int) :
    ∃ b rest, utf8 (wholeDigits n) = b :: rest ∧ (b = 45 ∨ isDigit b = true) := by
  unfold wholeDigits
  split
  · refine ⟨45, utf8 (Nat.toDigits 10 n.natAbs), ?_, Or.inl rfl⟩
    rw [utf8_cons, encode_ascii (by decide)]
    rfl
  · obtain ⟨b, rest, front, digit, _⟩ := (Digits.ofNat n.natAbs).start
    exact ⟨b, rest, front, Or.inr digit⟩

theorem isBlank_digit {b : UInt8} (digit : b = 45 ∨ isDigit b = true) :
    isBlank b = false ∧ b ≠ 93 := by
  rcases digit with rfl | digit
  · decide
  · constructor
    · cases blank : isBlank b with
      | false => rfl
      | true =>
        simp only [isBlank, Bool.or_eq_true, beq_iff_eq] at blank
        rcases blank with ((rfl | rfl) | rfl) | rfl <;> exact absurd digit (by decide)
    · rintro rfl
      exact absurd digit (by decide)

theorem Value.start (v : Value) :
    ∃ b rest, utf8 v.chars = b :: rest ∧ isBlank b = false ∧ b ≠ 93 := by
  cases v with
  | null => exact ⟨110, _, rfl, by decide⟩
  | flag value => cases value <;> exact ⟨_, _, rfl, by decide⟩
  | whole n =>
    obtain ⟨b, rest, front, digit⟩ := wholeDigits_start n
    exact ⟨b, rest, front, isBlank_digit digit⟩
  | text s =>
    refine ⟨34, utf8 (s.toList.flatMap writeChar) ++ [34], ?_, by decide⟩
    rw [Value.chars, ← utf8_quoted, List.append_nil]
  | list items =>
    refine ⟨91, utf8 (itemsChars items ++ [']']), ?_, by decide⟩
    rw [Value.chars, List.cons_append, utf8_cons, encode_ascii (by decide)]
    rfl
  | object members =>
    refine ⟨123, utf8 (membersChars members ++ ['\x7d']), ?_, by decide⟩
    rw [Value.chars, List.cons_append, utf8_cons, encode_ascii (by decide)]
    rfl

theorem Value.render_bytes (v : Value) : v.render.toUTF8.toList = utf8 v.chars :=
  toUTF8_ofList v.chars

theorem comma_append (cs : List Char) (rest : Bytes) :
    utf8 (',' :: cs) ++ rest = 44 :: (utf8 cs ++ rest) := by
  rw [utf8_cons, encode_ascii (by decide)]
  rfl

theorem endsNumeral_further (xs : List α) (part : α → List Char) {b : UInt8}
    (stop : isDigit b = false ∧ b ≠ 46 ∧ b ≠ 101 ∧ b ≠ 69) (rest : Bytes) :
    EndsNumeral (utf8 (xs.flatMap fun x => ',' :: part x) ++ b :: rest) := by
  cases xs with
  | nil => exact endsNumeral_cons stop rest
  | cons x more =>
    rw [List.flatMap_cons, List.cons_append, comma_append]
    exact endsNumeral_cons (by decide) _

namespace Reader

/-- The reader takes the whole text of a value and nothing of what follows it. -/
def Reads (p : Reader α) (v : Value) (a : α) : Prop :=
  ∀ rest, EndsNumeral rest → p.run (utf8 v.chars ++ rest) = .ok (a, rest)

theorem textFor_reads (expected s : String) : (textFor expected).Reads (.text s) s := by
  intro rest _
  have skip := skipBlanks_cons (b := 34) rfl (utf8 (s.toList.flatMap writeChar) ++ 34 :: rest)
  rw [Value.chars, utf8_quoted]
  simp only [textFor, readTextValue, skip, readText_quoted]

theorem text_reads (s : String) : text.Reads (.text s) s := textFor_reads "a string" s

theorem flag_reads (value : Bool) : flag.Reads (.flag value) value := by
  intro rest _
  cases value with
  | true => exact rfl
  | false => exact rfl

theorem word64_reads (w : UInt64) : word64.Reads (.whole w.toNat) w := by
  intro rest ends
  have bound := w.toNat_lt
  have word : maxWord = 18446744073709551615 := by decide
  have fits : FitsWord w.toNat := by
    constructor <;> omega
  have number := readNumber_whole fits ends
  obtain ⟨b, more, front, digit⟩ := wholeDigits_start w.toNat
  have skip := skipBlanks_cons (isBlank_digit digit).1 (more ++ rest)
  rw [front, List.cons_append] at number
  rw [Value.chars, front, List.cons_append]
  simp only [word64, readWord64, skip, digit, ↓reduceIte, number, wordOf]
  rw [if_pos (by omega), Int.toNat_natCast, UInt64.ofNat_toNat]

section Composed
variable {p : Reader α} {v : Value} {a : α} (reads : p.Reads v a)
include reads

theorem check_reads {placed : Bool} {f : α → Except String β} {b : β} (accepts : f a = .ok b) :
    (p.check placed f).Reads v b := by
  intro rest ends
  simp only [check, readChecked, reads rest ends, accepts]

theorem map_reads (f : α → β) : (p.map f).Reads v (f a) := by
  intro rest ends
  simp only [map, reads rest ends, Except.map]

theorem document_reads : p.document (utf8 v.chars) = .ok a := by
  have whole := reads [] endsNumeral_nil
  rw [List.append_nil] at whole
  rw [document, whole]
  rfl

end Composed

theorem itemsChars_cons (v : Value) (vs : List Value) :
    Value.itemsChars (v :: vs) = v.chars ++ vs.flatMap fun w => ',' :: w.chars := by
  induction vs generalizing v with
  | nil => rw [Value.itemsChars, List.flatMap_nil, List.append_nil]
  | cons w more ih => rw [Value.itemsChars, ih, List.flatMap_cons, List.cons_append]

theorem nextItem_first (v : Value) (s : Bytes) :
    nextItem true (utf8 v.chars ++ s) = .ok (true, utf8 v.chars ++ s) := by
  obtain ⟨b, more, front, ink, inside⟩ := v.start
  rw [front, List.cons_append]
  simp only [nextItem, skipBlanks_cons ink, inside, ↓reduceIte]

theorem nextItem_further (v : Value) (s : Bytes) :
    nextItem false (44 :: (utf8 v.chars ++ s)) = .ok (true, utf8 v.chars ++ s) := by
  obtain ⟨b, more, front, ink, inside⟩ := v.start
  have comma := skipBlanks_cons (b := 44) rfl (b :: (more ++ s))
  have bracket : ¬(44 : UInt8) = 93 := by decide
  rw [front, List.cons_append]
  simp only [nextItem, comma, bracket, skipBlanks_cons ink, inside, ↓reduceIte,
    Bool.false_eq_true]

theorem readItems_end {p : Reader α} {first : Bool} {s rest : Bytes}
    (done : nextItem first s = .ok (false, rest)) : p.readItems first s = .ok ([], rest) := by
  rw [readItems]
  split <;> simp_all

theorem readItems_item {p : Reader α} {first : Bool} {s item rest after : Bytes} {a : α}
    {others : List α} (more : nextItem first s = .ok (true, item))
    (here : p.run item = .ok (a, rest)) (further : p.readItems false rest = .ok (others, after)) :
    p.readItems first s = .ok (a :: others, after) := by
  rw [readItems]
  split
  · simp_all
  · simp_all
  · rename_i item' found
    cases more.symm.trans found
    split
    · simp_all
    · rename_i b rest' read
      cases here.symm.trans read
      rw [further]

section Items
variable {p : Reader α} {f : α → Value} {as : List α} (items : ∀ a ∈ as, p.Reads (f a) a)
  (rest : Bytes)
include items

theorem readItems_further :
    p.readItems false (utf8 ((as.map f).flatMap fun v => ',' :: v.chars) ++ 93 :: rest) =
      .ok (as, rest) := by
  induction as with
  | nil => exact readItems_end rfl
  | cons a more ih =>
    have here := items a List.mem_cons_self _
      (endsNumeral_further (more.map f) Value.chars (b := 93) (by decide) rest)
    have further := ih fun c member => items c (List.mem_cons_of_mem a member)
    rw [List.map_cons, List.flatMap_cons, utf8_append, List.append_assoc, comma_append]
    exact readItems_item (nextItem_further (f a) _) here further

theorem readItems_first :
    p.readItems true (utf8 (Value.itemsChars (as.map f)) ++ 93 :: rest) = .ok (as, rest) := by
  cases as with
  | nil => exact readItems_end rfl
  | cons a more =>
    have here := items a List.mem_cons_self _
      (endsNumeral_further (more.map f) Value.chars (b := 93) (by decide) rest)
    have further := readItems_further (fun c member => items c (List.mem_cons_of_mem a member)) rest
    rw [List.map_cons, itemsChars_cons, utf8_append, List.append_assoc]
    exact readItems_item (nextItem_first (f a) _) here further

theorem list_reads : p.list.Reads (.list (as.map f)) as := by
  intro rest _
  have read := readItems_first items rest
  have text : utf8 (Value.list (as.map f)).chars ++ rest =
      91 :: (utf8 (Value.itemsChars (as.map f)) ++ 93 :: rest) := by
    have opening : String.utf8EncodeChar '[' = [91] := by decide
    have closing : String.utf8EncodeChar ']' = [93] := by decide
    rw [Value.chars, utf8_append, utf8_cons, utf8_cons, utf8_nil, opening, closing]
    simp
  have skip := skipBlanks_cons (b := 91) rfl (utf8 (Value.itemsChars (as.map f)) ++ 93 :: rest)
  rw [text]
  simp only [list, readList, skip, read]

end Items
end Reader
end SecretKeeper.Json

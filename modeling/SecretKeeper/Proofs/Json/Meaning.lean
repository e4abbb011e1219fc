import SecretKeeper.Proofs.Json.Skipping

/-!
What readers make of trees. A reader means a partial function on trees if it takes the whole text
of each tree that the function is defined on, with its value, and refuses every other tree.
-/
namespace SecretKeeper.Json

open Text

namespace Tree

theorem Leads.eq_text {t : Tree} (leads : t.Leads 34) : ∃ pieces, t = text pieces := by
  cases t with
  | text pieces => exact ⟨pieces, rfl⟩
  | number => exact absurd (show (34 : UInt8) = 45 ∨ isDigit 34 = true from leads) (by decide)
  | flag value => cases value <;> cases leads
  | null | list | object => cases leads

theorem Leads.eq_flag {t : Tree} (value : Bool) (leads : t.Leads (if value then 116 else 102)) :
    t = flag value := by
  cases t with
  | flag other => cases value <;> cases other <;> first | rfl | cases leads
  | number =>
    have digit : (if value then 116 else 102 : UInt8) = 45 ∨
        isDigit (if value then 116 else 102) = true := leads
    exfalso
    cases value <;> revert digit <;> decide
  | null | text | list | object => cases value <;> cases leads

theorem Leads.eq_number {t : Tree} {b : UInt8} (leads : t.Leads b)
    (digit : b = 45 ∨ isDigit b = true) : ∃ literal, t = number literal := by
  cases t with
  | number literal => exact ⟨literal, rfl⟩
  | flag value => cases value <;> cases leads <;> exact absurd digit (by decide)
  | null | text | list | object =>
    cases leads
    exact absurd digit (by decide)

theorem text_none {t : Tree} {b : UInt8} (leads : t.Leads b) (other : b ≠ 34) :
    t.text? = none := by
  cases t with
  | text => exact absurd leads other
  | null | flag | number | list | object => rfl

theorem flag_none {t : Tree} {b : UInt8} (leads : t.Leads b) (other : b ≠ 116 ∧ b ≠ 102) :
    t.flag? = none := by
  cases t with
  | flag value =>
    cases value with
    | true => exact absurd leads other.1
    | false => exact absurd leads other.2
  | null | number | text | list | object => rfl

theorem word_none {t : Tree} {b : UInt8} (leads : t.Leads b)
    (other : ¬(b = 45 ∨ isDigit b = true)) : t.word? = none := by
  cases t with
  | number => exact absurd leads other
  | null | flag | text | list | object => rfl

end Tree

namespace Reader

def Means (p : Reader α) (meaning : Tree → Option α) : Prop :=
  ∀ (bs : List Blank) (t : Tree) {rest : Bytes}, EndsNumeral rest →
    (p.run (utf8 (blankChars bs) ++ (utf8 t.chars ++ rest))).toOption = (meaning t).map (·, rest)

theorem textFor_means (expected : String) : (textFor expected).Means Tree.text? := by
  intro bs t rest _
  simp only [textFor, readTextValue, skipBlanks_blanks]
  obtain ⟨b, more, front, leads⟩ := t.start rest
  by_cases quote : b = 34
  · subst quote
    obtain ⟨pieces, rfl⟩ := leads.eq_text
    rw [Tree.chars, utf8_pieces, skipBlanks_cons (by decide)]
    exact readText_pieces pieces rest
  · rw [front, skipBlanks_cons leads.ink.1, Tree.text_none leads quote]
    split
    · rfl
    · rename_i same
      exact absurd (List.cons.inj same).1 quote
    · rfl

theorem text_means : text.Means Tree.text? := textFor_means "a string"

theorem flag_means : flag.Means Tree.flag? := by
  intro bs t rest _
  simp only [flag, readFlag, skipBlanks_blanks]
  obtain ⟨b, more, front, leads⟩ := t.start rest
  by_cases yes : b = 116
  · obtain rfl := Tree.Leads.eq_flag true (yes ▸ leads)
    rfl
  · by_cases no : b = 102
    · obtain rfl := Tree.Leads.eq_flag false (no ▸ leads)
      rfl
    · rw [front, skipBlanks_cons leads.ink.1, Tree.flag_none leads ⟨yes, no⟩]
      split
      · rfl
      · rename_i same
        exact absurd (List.cons.inj same).1 yes
      · rename_i same
        exact absurd (List.cons.inj same).1 no
      · rfl

theorem readNumber_word (literal : Literal) {rest : Bytes} (ends : EndsNumeral rest) :
    ((readNumber (utf8 literal.chars ++ rest)).toOption.bind fun r => (wordOf r.2 r.1).toOption) =
      literal.word?.map (·, rest) := by
  have numeral := literal.readNumeral_chars ends .endInValue
  rw [readNumber, numeral]
  simp only [bind, Except.bind]
  cases word : literal.word? with
  | some w =>
    have positive : (0 : Int) ≤ w.toNat := Int.natCast_nonneg _
    simp only [literal.value_of_word word, pure, Except.pure, Except.toOption, Option.bind_some,
      wordOf, positive, ↓reduceIte, Int.toNat_natCast, UInt64.ofNat_toNat, Option.map_some]
  | none =>
    cases value : literal.numeral.value rest with
    | error f => rfl
    | ok number =>
      cases number with
      | real x => rfl
      | whole k =>
        have negative : ¬0 ≤ k := Int.not_le.mpr (literal.value_of_no_word word value)
        simp only [pure, Except.pure, Except.toOption, Option.bind_some, wordOf, negative,
          ↓reduceIte, Option.map_none]

theorem word64_means : word64.Means Tree.word? := by
  intro bs t rest ends
  simp only [word64, readWord64, skipBlanks_blanks]
  obtain ⟨b, more, front, leads⟩ := t.start rest
  rw [front, skipBlanks_cons leads.ink.1]
  by_cases digit : b = 45 ∨ isDigit b = true
  · obtain ⟨literal, rfl⟩ := leads.eq_number digit
    have read := readNumber_word literal ends
    rw [Tree.chars] at front
    rw [front] at read
    simp only [digit, ↓reduceIte, Tree.word?, ← read]
    cases readNumber (b :: more) <;> rfl
  · simp only [digit, ↓reduceIte, Tree.word_none leads digit]
    rfl

section Composed
variable {p : Reader α} {meaning : Tree → Option α} (means : p.Means meaning)
include means

theorem check_means (placed : Bool) (f : α → Except String β) :
    (p.check placed f).Means fun t => (meaning t).bind fun a => (f a).toOption := by
  intro bs t rest ends
  have read := means bs t ends
  simp only [check, readChecked]
  rcases toOption_cases read with ⟨a, meant, found⟩ | ⟨meant, fault, found⟩
  · simp only [found, meant, Option.bind_some]
    cases f a <;> rfl
  · simp only [found, meant]
    rfl

theorem map_means (f : α → β) : (p.map f).Means fun t => (meaning t).map f := by
  intro bs t rest ends
  simp only [map, toOption_map, means bs t ends, Option.map_map]
  rfl

/-- A document is read as what its tree means. -/
theorem document_means (d : Document) : (p.document d.bytes).toOption = meaning d.value := by
  have ends := endsNumeral_blanks d.after endsNumeral_nil
  have read := means d.before d.value ends
  have bytes : d.bytes = utf8 (blankChars d.before) ++ (utf8 d.value.chars ++
      (utf8 (blankChars d.after) ++ [])) := by
    rw [← Tree.utf8_padded, List.append_nil]
    rfl
  have done : skipBlanks (utf8 (blankChars d.after) ++ []) = [] := skipBlanks_blanks d.after []
  rw [document, bytes]
  rcases toOption_cases read with ⟨a, meant, found⟩ | ⟨meant, fault, found⟩
  · simp only [found, meant, done]
    rfl
  · simp only [found, meant]
    rfl

end Composed
end Reader
end SecretKeeper.Json

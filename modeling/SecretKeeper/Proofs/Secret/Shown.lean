import SecretKeeper.Proofs.Moment
import SecretKeeper.Proofs.Text.Shown
import SecretKeeper.Secret.Shown

/-!
What a shown secret tells. Each attribute is told from what follows it, whatever stands in the
texts, so that the shown secret tells all of them; it tells nothing of the content.
-/
namespace SecretKeeper

open Text

namespace Moment

theorem text_injective {m n : Moment} (same : m.chars = n.chars) : m = n := by
  have read := ofChars_chars m
  rw [same, ofChars_chars] at read
  exact (Except.ok.inj read).symm

theorem mark_not_mem_padded {mark : Char} (noDigit : mark.isDigit = false) (width n : Nat) :
    mark ∉ paddedDigits width n := by
  intro member
  have digit := padded_all width n mark member
  rw [noDigit] at digit
  cases digit

theorem comma_not_mem_chars (m : Moment) : ',' ∉ m.chars := by
  have digits (width n : Nat) : ',' ∉ paddedDigits width n := mark_not_mem_padded rfl width n
  have year (y : Int) : ',' ∉ yearDigits y := by
    unfold yearDigits
    split
    · exact digits _ _
    · split <;> simp [digits]
  have fraction (n : Nat) : ',' ∉ fractionDigits n := by
    unfold fractionDigits
    split_ifs <;> simp [digits]
  simp [chars, dateDigits, clockDigits, digits, year, fraction]

end Moment

namespace Secret

theorem Content.shown_alike (c d : Content) : c.shown = d.shown := rfl

/-- The parts of a shown secret. Behind the length and the date there are commas. -/
theorem shown_chars (s : Secret) :
    s.shown.toList = "Secret \x7b name: ".toList ++ ((Text.shown s.name).toList ++
      (", content: ".toList ++ (Content.empty.shown.toList ++ (", length: ".toList ++
      (Nat.toDigits 10 s.length.toNat ++ ',' :: (" created_at: ".toList ++
      (s.createdAt.chars ++ ',' :: (" is_versioned: ".toList ++
      ((toString s.isVersioned).toList ++ (", mode: ".toList ++ ((Text.shown s.mode).toList ++
      (", owner: ".toList ++ ((Text.shown s.owner).toList ++
      (", group: ".toList ++ ((Text.shown s.group).toList ++ " \x7d".toList))))))))))))))) := by
  have created (cs : List Char) :
      ", created_at: ".toList ++ cs = ',' :: (" created_at: ".toList ++ cs) := by simp
  have versioned (cs : List Char) :
      ", is_versioned: ".toList ++ cs = ',' :: (" is_versioned: ".toList ++ cs) := by simp
  unfold shown
  simp only [Content.shown_alike s.content .empty, Moment.text, Nat.toString_eq_ofList_toDigits,
    String.toList_append, String.toList_ofList, List.append_assoc]
  rw [created, versioned]

theorem flag_told {b b' : Bool} {back back' : List Char}
    (same : (toString b).toList ++ back = (toString b').toList ++ back') :
    b = b' ∧ back = back' := by
  cases b <;> cases b'
  · exact ⟨rfl, List.append_cancel_left same⟩
  · exact absurd (List.cons.inj same).1 (by decide)
  · exact absurd (List.cons.inj same).1 (by decide)
  · exact ⟨rfl, List.append_cancel_left same⟩

/-- Two secrets are shown alike exactly if they agree in all attributes. Their contents have no say
in it, and no text in one attribute can look like a part of another one. -/
theorem shown_alike_iff (s t : Secret) : s.shown = t.shown ↔
    s.name = t.name ∧ s.length = t.length ∧ s.createdAt = t.createdAt ∧
      s.isVersioned = t.isVersioned ∧ s.mode = t.mode ∧ s.owner = t.owner ∧ s.group = t.group := by
  constructor
  · intro same
    have chars := congrArg String.toList same
    rw [shown_chars, shown_chars] at chars
    obtain ⟨name, chars⟩ := shown_told (List.append_cancel_left chars)
    have beside := List.append_cancel_left (List.append_cancel_left (List.append_cancel_left chars))
    obtain ⟨length, chars⟩ := digits_told rfl beside
    obtain ⟨created, chars⟩ := marked_told s.createdAt.comma_not_mem_chars
      t.createdAt.comma_not_mem_chars (List.append_cancel_left chars)
    obtain ⟨isVersioned, chars⟩ := flag_told (List.append_cancel_left chars)
    obtain ⟨mode, chars⟩ := shown_told (List.append_cancel_left chars)
    obtain ⟨owner, chars⟩ := shown_told (List.append_cancel_left chars)
    obtain ⟨group, _⟩ := shown_told (List.append_cancel_left chars)
    exact ⟨name, UInt64.toNat_inj.mp length, Moment.text_injective created, isVersioned, mode,
      owner, group⟩
  · rintro ⟨name, length, created, isVersioned, mode, owner, group⟩
    unfold shown
    rw [name, length, created, isVersioned, mode, owner, group,
      Content.shown_alike s.content t.content]

end Secret
end SecretKeeper

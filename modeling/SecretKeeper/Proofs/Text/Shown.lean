import Mathlib.Tactic.SplitIfs
import SecretKeeper.Proofs.Text.Digits
import SecretKeeper.Text.Shown

/-!
Shown texts read back. Every shown character, be it itself or an escape, can be taken off the front
of a text again, and none starts with a quote, so that a shown text is told from what follows it.
-/
namespace SecretKeeper.Text

theorem mem_toDigits {base : Nat} (several : 1 < base) {n : Nat} {d : Char}
    (member : d ∈ Nat.toDigits base n) : ∃ k < base, d = Nat.digitChar k := by
  induction n using Nat.strongRecOn with
  | ind n ih =>
    by_cases single : n < base
    · rw [Nat.toDigits_of_lt_base single] at member
      exact ⟨n, single, List.mem_singleton.mp member⟩
    · rw [Nat.toDigits_of_base_le several (by omega)] at member
      rcases List.mem_append.mp member with front | last
      · exact ih (n / base) (Nat.div_lt_self (by omega) several) front
      · exact ⟨n % base, Nat.mod_lt n (by omega), List.mem_singleton.mp last⟩

def hexValue (d : Char) : Nat := if d.isDigit then d.toNat - 48 else d.toNat - 87

def hexWorth (digits : List Char) : Nat := digits.foldl (fun n d => n * 16 + hexValue d) 0

theorem hexWorth_digits (n : Nat) : hexWorth (hexDigits n) = n := by
  have value : ∀ k < 16, hexValue (Nat.digitChar k) = k := by decide
  induction n using Nat.strongRecOn with
  | ind n ih =>
    by_cases single : n < 16
    · rw [hexDigits, Nat.toDigits_of_lt_base single, hexWorth, List.foldl_cons, List.foldl_nil,
        value n single]
      omega
    · have front := ih (n / 16) (by omega)
      rw [hexWorth, hexDigits] at front
      rw [hexDigits, Nat.toDigits_of_base_le (by decide) (by omega), hexWorth, List.foldl_append,
        front, List.foldl_cons, List.foldl_nil, value _ (Nat.mod_lt n (by decide))]
      omega

theorem brace_not_mem_hexDigits (n : Nat) : '\x7d' ∉ hexDigits n := by
  have digits : ∀ k < 16, '\x7d' ≠ Nat.digitChar k := by decide
  intro member
  obtain ⟨k, small, same⟩ := mem_toDigits (by decide) member
  exact digits k small same

def letterMeaning (letter : Char) : Char :=
  if letter = '0' then '\x00'
  else if letter = 't' then '\t'
  else if letter = 'r' then '\r'
  else if letter = 'n' then '\n'
  else letter

def readShown : List Char → Option (Char × List Char)
  | [] => none
  | '\\' :: 'u' :: '\x7b' :: s =>
    some (Char.ofNat (hexWorth (s.takeWhile (· != '\x7d'))), (s.dropWhile (· != '\x7d')).tail)
  | '\\' :: letter :: s => some (letterMeaning letter, s)
  | c :: s => if c = '"' then none else some (c, s)

theorem showChar_cases (c : Char) :
    (∃ letter, showChar c = ['\\', letter] ∧ letter ≠ 'u' ∧ letterMeaning letter = c) ∨
    showChar c = ['\\', 'u', '\x7b'] ++ hexDigits c.toNat ++ ['\x7d'] ∨
    c ≠ '\\' ∧ c ≠ '"' ∧ showChar c = [c] := by
  unfold showChar
  split_ifs with null tab back line escape quote visible
  · exact Or.inl ⟨'0', rfl, by decide, null.symm⟩
  · exact Or.inl ⟨'t', rfl, by decide, tab.symm⟩
  · exact Or.inl ⟨'r', rfl, by decide, back.symm⟩
  · exact Or.inl ⟨'n', rfl, by decide, line.symm⟩
  · exact Or.inl ⟨'\\', rfl, by decide, escape.symm⟩
  · exact Or.inl ⟨'"', rfl, by decide, quote.symm⟩
  · exact Or.inr (Or.inr ⟨escape, quote, rfl⟩)
  · exact Or.inr (Or.inl rfl)

theorem readShown_showChar (c : Char) (s : List Char) :
    readShown (showChar c ++ s) = some (c, s) := by
  rcases showChar_cases c with ⟨letter, shown, other, meaning⟩ | shown | ⟨escape, quote, shown⟩
  · rw [shown, List.cons_append, List.cons_append, List.nil_append, readShown]
    · rw [meaning]
    · exact fun _ same _ => other same
  · have inside : ∀ d ∈ hexDigits c.toNat, (d != '\x7d') = true := by
      intro d member
      rw [bne_iff_ne]
      rintro rfl
      exact brace_not_mem_hexDigits c.toNat member
    rw [shown, List.append_assoc, List.append_assoc]
    simp only [List.cons_append, List.nil_append, readShown,
      List.takeWhile_append_of_pos inside, List.dropWhile_append_of_pos inside]
    simp [hexWorth_digits]
  · rw [shown, List.singleton_append]
    unfold readShown
    split
    · rename_i none
      cases none
    · rename_i same
      exact absurd (List.cons.inj same).1 escape
    · rename_i same
      exact absurd (List.cons.inj same).1 escape
    · rename_i same
      obtain ⟨rfl, rfl⟩ := List.cons.inj same
      exact if_neg quote

theorem shownInside_told {s t back back' : List Char}
    (same : s.flatMap showChar ++ '"' :: back = t.flatMap showChar ++ '"' :: back') :
    s = t ∧ back = back' := by
  induction s generalizing t with
  | nil =>
    cases t with
    | nil => exact ⟨rfl, (List.cons.inj same).2⟩
    | cons d more =>
      rw [List.flatMap_cons, List.append_assoc] at same
      have read := congrArg readShown same
      rw [readShown_showChar] at read
      cases read
  | cons c rest ih =>
    rw [List.flatMap_cons, List.append_assoc] at same
    have read := congrArg readShown same
    rw [readShown_showChar] at read
    cases t with
    | nil => cases read
    | cons d more =>
      rw [List.flatMap_cons, List.append_assoc, readShown_showChar] at read
      obtain ⟨rfl, further⟩ := Prod.mk.inj (Option.some.inj read)
      obtain ⟨rfl, backs⟩ := ih further
      exact ⟨rfl, backs⟩

/-- A shown text is told from what follows it. -/
theorem shown_told {s t : String} {back back' : List Char}
    (same : (shown s).toList ++ back = (shown t).toList ++ back') : s = t ∧ back = back' := by
  simp only [shown, shownChars, String.toList_ofList, List.cons_append, List.append_assoc,
    List.nil_append] at same
  obtain ⟨chars, backs⟩ := shownInside_told (List.cons.inj same).2
  exact ⟨String.toList_inj.mp chars, backs⟩

end SecretKeeper.Text

import Mathlib.Data.List.TakeWhile
import SecretKeeper.Proofs.Json.Record
import SecretKeeper.Proofs.Json.Skipping

/-!
Values end where they end. What is read of bytes is read just so if more bytes follow, as long as
something was left behind the value: only the end of the bytes can tell a numeral that it is over.
-/
namespace SecretKeeper.Json

theorem ne_nil_of_lt {s rest : Bytes} (shorter : rest.length < s.length) : s ≠ [] := by
  rintro rfl
  cases shorter

theorem ne_nil_of_le {s rest : Bytes} (shorter : rest.length ≤ s.length) (left : rest ≠ []) :
    s ≠ [] :=
  List.length_pos_iff.mp (Nat.lt_of_lt_of_le (List.length_pos_iff.mpr left) shorter)

theorem head_append_of_ne {s : Bytes} (left : s ≠ []) (x : Bytes) : (s ++ x).head? = s.head? := by
  rw [List.head?_append, Option.or_of_isSome (List.isSome_head?.mpr left)]

theorem dropWhile_append_of_ne {p : UInt8 → Bool} {s : Bytes} (left : s.dropWhile p ≠ [])
    (x : Bytes) : (s ++ x).dropWhile p = s.dropWhile p ++ x := by
  rw [List.dropWhile_append, if_neg (by simpa using left)]

theorem takeWhile_append_of_ne {p : UInt8 → Bool} {s : Bytes} (left : s.dropWhile p ≠ [])
    (x : Bytes) : (s ++ x).takeWhile p = s.takeWhile p := by
  have parts := List.takeWhile_append_dropWhile (p := p) (l := s)
  have parts' := List.takeWhile_append_dropWhile (p := p) (l := s ++ x)
  rw [dropWhile_append_of_ne left, ← List.append_assoc] at parts'
  exact List.append_cancel_right ((List.append_cancel_right parts').trans parts.symm)

theorem skipBlanks_append {s rest : Bytes} {b : UInt8} (h : skipBlanks s = b :: rest) (x : Bytes) :
    skipBlanks (s ++ x) = b :: (rest ++ x) := by
  have left : s.dropWhile isBlank ≠ [] := by
    rw [← skipBlanks, h]
    exact List.cons_ne_nil b rest
  have skipped : skipBlanks (s ++ x) = skipBlanks s ++ x := dropWhile_append_of_ne left x
  rw [skipped, h, List.cons_append]

/-! Words and texts. -/

theorem readWord_append {w s rest : Bytes} (h : readWord w s = .ok rest) (x : Bytes) :
    readWord w (s ++ x) = .ok (rest ++ x) := by
  induction w generalizing s with
  | nil =>
    cases h
    rfl
  | cons b w ih =>
    cases s with
    | nil => cases h
    | cons c s =>
      unfold readWord at h
      split at h
      · next same =>
        rw [List.cons_append, readWord, if_pos same]
        exact ih h
      · cases h

theorem readHex_append {s rest : Bytes} {n : Nat} (h : readHex s = .ok (n, rest)) (x : Bytes) :
    readHex (s ++ x) = .ok (n, rest ++ x) := by
  unfold readHex at h
  split at h
  · split at h
    · next a b c d =>
      cases h
      simp only [List.cons_append, readHex, a, b, c, d]
    · cases h
  · cases h

theorem readPairByte_append {b : UInt8} {s rest : Bytes} (h : readPairByte b s = .ok rest)
    (x : Bytes) : readPairByte b (s ++ x) = .ok (rest ++ x) := by
  unfold readPairByte at h
  split at h
  · cases h
  · split at h
    · next same =>
      cases h
      rw [List.cons_append, readPairByte, if_pos same]
    · cases h

theorem readTrailing_append {n : Nat} {s rest : Bytes} {c : Char}
    (h : readTrailing n s = .ok (c, rest)) (x : Bytes) :
    readTrailing n (s ++ x) = .ok (c, rest ++ x) := by
  simp only [readTrailing, bind_eq_ok] at h ⊢
  obtain ⟨s₁, h₁, s₂, h₂, ⟨m, s₃⟩, h₃, h⟩ := h
  refine ⟨_, readPairByte_append h₁ x, _, readPairByte_append h₂ x, _, readHex_append h₃ x, ?_⟩
  dsimp only at h ⊢
  split at h
  · next trailing =>
    obtain ⟨rfl, rfl⟩ := Prod.mk.inj (Except.ok.inj h)
    rw [if_pos trailing]
    rfl
  · cases h

theorem readNumbered_append {s rest : Bytes} {c : Char} (h : readNumbered s = .ok (c, rest))
    (x : Bytes) : readNumbered (s ++ x) = .ok (c, rest ++ x) := by
  simp only [readNumbered, bind_eq_ok] at h ⊢
  obtain ⟨⟨n, s₁⟩, h₁, h⟩ := h
  refine ⟨_, readHex_append h₁ x, ?_⟩
  dsimp only at h ⊢
  split at h
  · cases h
  · next single =>
    rw [if_neg single]
    split at h
    · next leading =>
      rw [if_pos leading]
      exact readTrailing_append h x
    · next alone =>
      obtain ⟨rfl, rfl⟩ := Prod.mk.inj (Except.ok.inj h)
      rw [if_neg alone]
      rfl

theorem readEscape_append {s rest : Bytes} {c : Char} (h : readEscape s = .ok (c, rest))
    (x : Bytes) : readEscape (s ++ x) = .ok (c, rest ++ x) := by
  unfold readEscape at h
  split at h
  · cases h
  · split at h
    · next letter =>
      cases h
      simp only [List.cons_append, readEscape, letter]
    · split at h
      · next numbered =>
        simp only [List.cons_append, readEscape, numbered, ↓reduceIte]
        exact readNumbered_append h x
      · cases h

theorem readQuoted_append {s t rest : Bytes} (h : readQuoted s = .ok (t, rest)) (x : Bytes) :
    readQuoted (s ++ x) = .ok (t, rest ++ x) := by
  fun_induction readQuoted s generalizing t rest with
  | case1 => cases h
  | case2 =>
    cases h
    rw [List.cons_append, readQuoted, if_pos rfl]
  | case3 => cases h
  | case4 => cases h
  | case5 _ _ _ h₁ _ _ h₂ _ ih =>
    cases h
    exact readQuoted_escape (ih h₂) (readEscape_append h₁ x)
  | case6 => cases h
  | case7 => cases h
  | case8 _ _ quote escape control _ _ h₂ ih =>
    cases h
    rw [List.cons_append, readQuoted, if_neg quote, if_neg escape, if_neg control, ih h₂]

theorem readText_append {s rest : Bytes} {t : String} (h : readText s = .ok (t, rest))
    (x : Bytes) : readText (s ++ x) = .ok (t, rest ++ x) := by
  unfold readText at h
  split at h
  · cases h
  · next h₁ =>
    split at h
    · cases h
    · next h₂ =>
      cases h
      simp only [readText, readQuoted_append h₁ x, h₂]

theorem skipEscape_append {s rest : Bytes} (h : skipEscape s = .ok rest) (x : Bytes) :
    skipEscape (s ++ x) = .ok (rest ++ x) := by
  unfold skipEscape at h
  split at h
  · cases h
  · split at h
    · next letter =>
      cases h
      rw [List.cons_append, skipEscape, if_pos letter]
    · next other =>
      split at h
      · next numbered =>
        obtain ⟨⟨n, r⟩, h₁, rfl⟩ := map_eq_ok.mp h
        rw [List.cons_append, skipEscape, if_neg other, if_pos numbered, readHex_append h₁ x]
        rfl
      · cases h

theorem skipQuoted_append {s rest : Bytes} (h : skipQuoted s = .ok rest) (x : Bytes) :
    skipQuoted (s ++ x) = .ok (rest ++ x) := by
  fun_induction skipQuoted s generalizing rest with
  | case1 => cases h
  | case2 =>
    cases h
    rw [List.cons_append, skipQuoted, if_pos rfl]
  | case3 => cases h
  | case4 _ _ h₁ _ ih =>
    rw [List.cons_append, skipQuoted_escape (skipEscape_append h₁ x)]
    exact ih h
  | case5 => cases h
  | case6 _ _ quote escape control ih =>
    rw [List.cons_append, skipQuoted, if_neg quote, if_neg escape, if_neg control]
    exact ih h

/-! Numerals. -/

theorem readWhole_append {c : Cause} {s t rest : Bytes} (h : readWhole c s = .ok (t, rest))
    (left : rest ≠ []) (x : Bytes) : readWhole c (s ++ x) = .ok (t, rest ++ x) := by
  unfold readWhole at h
  split at h
  · cases h
  · next b r =>
    split at h
    · next zero =>
      split at h
      · cases h
      · next alone =>
        cases h
        rw [List.cons_append, readWhole, if_pos zero, head_append_of_ne left, if_neg alone]
    · next other =>
      split at h
      · next digit =>
        cases h
        rw [List.cons_append, readWhole, if_neg other, if_pos digit,
          takeWhile_append_of_ne left, dropWhile_append_of_ne left]
      · cases h

theorem readFraction_append {c : Cause} {s t rest : Bytes} (h : readFraction c s = .ok (t, rest))
    (left : rest ≠ []) (x : Bytes) : readFraction c (s ++ x) = .ok (t, rest ++ x) := by
  unfold readFraction at h
  split at h
  · next r =>
    split at h
    · cases h
    · split at h
      · next digit =>
        cases h
        have taken := takeWhile_append_of_ne left x
        have dropped := dropWhile_append_of_ne left x
        rw [List.cons_append] at taken dropped
        simp only [List.cons_append, readFraction, digit, ↓reduceIte, taken, dropped]
      · cases h
  · next noPoint =>
    cases h
    cases s with
    | nil => exact absurd rfl left
    | cons b s =>
      rw [List.cons_append, readFraction]
      intro rest same
      exact noPoint s (by rw [(List.cons.inj same).1])

theorem readSign_append {s : Bytes} (left : s ≠ []) (x : Bytes) :
    readSign (s ++ x) = ((readSign s).1, (readSign s).2 ++ x) := by
  cases s with
  | nil => exact absurd rfl left
  | cons b s =>
    by_cases plus : b = 43
    · subst plus
      rfl
    · by_cases minus : b = 45
      · subst minus
        rfl
      · have unsigned (t : Bytes) : readSign (b :: t) = (false, b :: t) := by
          rw [readSign]
          · exact fun rest same => plus (List.cons.inj same).1
          · exact fun rest same => minus (List.cons.inj same).1
        rw [List.cons_append, unsigned, unsigned, List.cons_append]

theorem readExponent_append {c : Cause} {s rest : Bytes} {e : Option (Bool × Bytes)}
    (h : readExponent c s = .ok (e, rest)) (left : rest ≠ []) (x : Bytes) :
    readExponent c (s ++ x) = .ok (e, rest ++ x) := by
  unfold readExponent at h
  split at h
  · cases h
    exact absurd rfl left
  · next b r =>
    split at h
    · next letter =>
      split at h
      · cases h
      · next d r' front =>
        split at h
        · next digit =>
          cases h
          have unread : r ≠ [] := by
            rintro rfl
            cases front
          have sign := readSign_append unread x
          rw [front, List.cons_append] at sign
          simp only [List.cons_append, readExponent, letter, ↓reduceIte, sign, digit,
            takeWhile_append_of_ne left, dropWhile_append_of_ne left]
        · cases h
    · next other =>
      cases h
      simp only [List.cons_append, readExponent, other, ↓reduceIte]

theorem readNumeral_append {c : Cause} {s rest : Bytes} {n : Numeral}
    (h : readNumeral c s = .ok (n, rest)) (left : rest ≠ []) (x : Bytes) :
    readNumeral c (s ++ x) = .ok (n, rest ++ x) := by
  have some_left := ne_nil_of_lt (readNumeral_length h)
  simp only [readNumeral, bind_eq_ok] at h ⊢
  obtain ⟨⟨whole, s₁⟩, h₁, ⟨fraction, s₂⟩, h₂, ⟨exponent, s₃⟩, h₃, h⟩ := h
  obtain ⟨rfl, rfl⟩ := Prod.mk.inj (Except.ok.inj h)
  have left₂ := ne_nil_of_le (readExponent_length h₃) left
  have left₁ := ne_nil_of_le (readFraction_length h₂) left₂
  have start : (if (s ++ x).head? = some 45 then (s ++ x).tail else s ++ x) =
      (if s.head? = some 45 then s.tail else s) ++ x := by
    rw [head_append_of_ne some_left]
    split
    · exact List.tail_append_of_ne_nil some_left
    · rfl
  have whole := readWhole_append h₁ left₁ x
  rw [← start] at whole
  refine ⟨_, whole, _, readFraction_append h₂ left₂ x, _, readExponent_append h₃ left x, ?_⟩
  rw [head_append_of_ne some_left]
  rfl

/-! The value of a numeral does not depend on what follows it. -/

theorem toFloat_elsewhere {n : Numeral} {power : Int} {rest : Bytes} {k : Number}
    (h : n.toFloat power rest = .ok k) (other : Bytes) : n.toFloat power other = .ok k := by
  unfold Numeral.toFloat at h ⊢
  split at h
  · exact h
  · cases h

theorem value_elsewhere {n : Numeral} {rest : Bytes} {k : Number} (h : n.value rest = .ok k)
    (other : Bytes) : n.value other = .ok k := by
  unfold Numeral.value at h ⊢
  split at h
  · exact h
  · split at h
    · exact toFloat_elsewhere h other
    · split at h
      · exact toFloat_elsewhere h other
      · split at h
        · cases h
        · next zero =>
          rw [if_neg zero]
          exact h

theorem readNumber_append {s rest : Bytes} {n : Number} (h : readNumber s = .ok (n, rest))
    (left : rest ≠ []) (x : Bytes) : readNumber (s ++ x) = .ok (n, rest ++ x) := by
  simp only [readNumber, bind_eq_ok] at h ⊢
  obtain ⟨⟨numeral, s₁⟩, h₁, number, h₂, h⟩ := h
  obtain ⟨rfl, rfl⟩ := Prod.mk.inj (Except.ok.inj h)
  exact ⟨_, readNumeral_append h₁ left x, _, value_elsewhere h₂ _, rfl⟩

/-! Values that are skipped. -/

theorem readColon_append {s rest : Bytes} (h : readColon s = .ok rest) (x : Bytes) :
    readColon (s ++ x) = .ok (rest ++ x) := by
  unfold readColon at h
  split at h
  · cases h
  · next front =>
    cases h
    rw [readColon, skipBlanks_append front]
    rfl
  · cases h

theorem skipKey_append {s rest : Bytes} (h : skipKey s = .ok rest) (x : Bytes) :
    skipKey (s ++ x) = .ok (rest ++ x) := by
  unfold skipKey at h
  split at h
  · cases h
  · next front =>
    obtain ⟨r, h₁, h₂⟩ := bind_eq_ok.mp h
    rw [skipKey, skipBlanks_append front]
    exact bind_eq_ok.mpr ⟨_, skipQuoted_append h₁ x, readColon_append h₂ x⟩
  · cases h

theorem skipToValue_append {f : Frame} {s rest : Bytes} (h : skipToValue f s = .ok rest)
    (x : Bytes) : skipToValue f (s ++ x) = .ok (rest ++ x) := by
  cases f with
  | list =>
    cases h
    rfl
  | object => exact skipKey_append h x

theorem skipAfterValue_append {fs fs' : List Frame} {s rest : Bytes}
    (h : skipAfterValue fs s = .ok (fs', rest)) (x : Bytes) :
    skipAfterValue fs (s ++ x) = .ok (fs', rest ++ x) := by
  induction fs generalizing s with
  | nil =>
    cases h
    rfl
  | cons f fs ih =>
    unfold skipAfterValue at h
    split at h
    · cases h
    · next front =>
      simp only [skipAfterValue, skipBlanks_append front]
      split at h
      · next comma =>
        obtain ⟨r, h₁, h₂⟩ := map_eq_ok.mp h
        cases h₂
        rw [if_pos comma, skipToValue_append h₁ x]
        rfl
      · next other =>
        rw [if_neg other]
        split at h
        · next close =>
          rw [if_pos close]
          exact ih h
        · cases h

theorem skipOpening_append {f : Frame} {fs fs' : List Frame} {s rest : Bytes}
    (h : skipOpening f fs s = .ok (fs', rest)) (x : Bytes) :
    skipOpening f fs (s ++ x) = .ok (fs', rest ++ x) := by
  unfold skipOpening at h
  split at h
  · cases h
  · next front =>
    simp only [skipOpening, skipBlanks_append front]
    split at h
    · next close =>
      rw [if_pos close]
      exact skipAfterValue_append h x
    · next other =>
      obtain ⟨r, h₁, h₂⟩ := map_eq_ok.mp h
      cases h₂
      have inside := skipToValue_append h₁ x
      rw [List.cons_append] at inside
      rw [if_neg other, inside]
      rfl

theorem skipPart_append {fs fs' : List Frame} {s rest : Bytes}
    (h : skipPart fs s = .ok (fs', rest)) (left : rest ≠ []) (x : Bytes) :
    skipPart fs (s ++ x) = .ok (fs', rest ++ x) := by
  unfold skipPart at h
  split at h
  · cases h
  · next b r front =>
    have word {w : Bytes} (h : (do skipAfterValue fs (← readWord w r)) = .ok (fs', rest)) :
        (do skipAfterValue fs (← readWord w (r ++ x))) = .ok (fs', rest ++ x) := by
      obtain ⟨r', h₁, h₂⟩ := bind_eq_ok.mp h
      exact bind_eq_ok.mpr ⟨_, readWord_append h₁ x, skipAfterValue_append h₂ x⟩
    simp only [skipPart, skipBlanks_append front]
    split at h
    · next letter =>
      rw [if_pos letter]
      exact word h
    next other =>
    rw [if_neg other]
    split at h
    · next letter =>
      rw [if_pos letter]
      exact word h
    next other =>
    rw [if_neg other]
    split at h
    · next letter =>
      rw [if_pos letter]
      exact word h
    next other =>
    rw [if_neg other]
    split at h
    · next digit =>
      rw [if_pos digit]
      obtain ⟨⟨n, r'⟩, h₁, h₂⟩ := bind_eq_ok.mp h
      have left₁ := ne_nil_of_le (skipAfterValue_length h₂) left
      exact bind_eq_ok.mpr ⟨_, readNumeral_append h₁ left₁ x, skipAfterValue_append h₂ x⟩
    next other =>
    rw [if_neg other]
    split at h
    · next quote =>
      rw [if_pos quote]
      obtain ⟨r', h₁, h₂⟩ := bind_eq_ok.mp h
      exact bind_eq_ok.mpr ⟨_, skipQuoted_append h₁ x, skipAfterValue_append h₂ x⟩
    next other =>
    rw [if_neg other]
    split at h
    · next bracket =>
      rw [if_pos bracket]
      exact skipOpening_append h x
    next other =>
    rw [if_neg other]
    split at h
    · next brace =>
      rw [if_pos brace]
      exact skipOpening_append h x
    · cases h

theorem skipAll_of_closed {fs : List Frame} {s rest : Bytes}
    (part : skipPart fs s = .ok ([], rest)) : skipAll fs s = .ok rest := by
  rw [skipAll]
  split <;> rename_i found <;> rw [part] at found <;> cases found
  rfl

theorem skipAll_append {fs : List Frame} {s rest : Bytes} (h : skipAll fs s = .ok rest)
    (left : rest ≠ []) (x : Bytes) : skipAll fs (s ++ x) = .ok (rest ++ x) := by
  fun_induction skipAll fs s with
  | case1 => cases h
  | case2 _ _ _ h₁ =>
    cases h
    exact skipAll_of_closed (skipPart_append h₁ left x)
  | case3 _ _ _ _ _ h₁ ih =>
    have left₁ := ne_nil_of_lt (skipAll_length h)
    rw [skipAll_of_open (skipPart_append h₁ left₁ x)]
    exact ih h

theorem skipValue_append {s rest : Bytes} (h : skipValue s = .ok rest) (left : rest ≠ [])
    (x : Bytes) : skipValue (s ++ x) = .ok (rest ++ x) :=
  skipAll_append h left x

/-! Values that are read. -/

namespace Reader

/-- More bytes behind a value do not change what is read of it. -/
def Closed (p : Reader α) : Prop :=
  ∀ (s : Bytes) (a : α) (rest : Bytes), p.run s = .ok (a, rest) →
    ∀ x, p.run (s ++ x) = .ok (a, rest ++ x)

/-- More bytes behind a value do not change what is read of it, if there are some already. -/
def Delimited (p : Reader α) : Prop :=
  ∀ (s : Bytes) (a : α) (rest : Bytes), p.run s = .ok (a, rest) → rest ≠ [] →
    ∀ x, p.run (s ++ x) = .ok (a, rest ++ x)

theorem Closed.delimited {p : Reader α} (closed : p.Closed) : p.Delimited :=
  fun s a rest h _ x => closed s a rest h x

theorem textFor_closed (expected : String) : (textFor expected).Closed := by
  intro s a rest h x
  simp only [textFor, readTextValue] at h ⊢
  split at h
  · cases h
  · next front =>
    rw [skipBlanks_append front]
    exact readText_append h x
  · cases h

theorem text_closed : text.Closed := textFor_closed "a string"

theorem flag_closed : flag.Closed := by
  intro s a rest h x
  simp only [flag, readFlag] at h ⊢
  split at h
  · cases h
  · next front =>
    obtain ⟨r, h₁, h₂⟩ := map_eq_ok.mp h
    cases h₂
    rw [skipBlanks_append front]
    exact map_eq_ok.mpr ⟨_, readWord_append h₁ x, rfl⟩
  · next front =>
    obtain ⟨r, h₁, h₂⟩ := map_eq_ok.mp h
    cases h₂
    rw [skipBlanks_append front]
    exact map_eq_ok.mpr ⟨_, readWord_append h₁ x, rfl⟩
  · cases h

theorem wordOf_append {s rest : Bytes} {n : Number} {w : UInt64} (h : wordOf s n = .ok (w, rest))
    (x : Bytes) : wordOf (s ++ x) n = .ok (w, rest ++ x) := by
  unfold wordOf at h ⊢
  split at h
  · split at h
    · next natural =>
      cases h
      rw [if_pos natural]
    · cases h
  · cases h

theorem word64_delimited : word64.Delimited := by
  intro s a rest h left x
  simp only [word64, readWord64] at h ⊢
  split at h
  · cases h
  · next front =>
    simp only [skipBlanks_append front]
    split at h
    · next digit =>
      split at h
      · cases h
      · next h₁ =>
        have same := wordOf_rest h
        subst same
        have number := readNumber_append h₁ left x
        rw [List.cons_append] at number
        rw [if_pos digit, number]
        exact wordOf_append h x
    · cases h

section Composed
variable {p : Reader α} (delimited : p.Delimited)
include delimited

theorem check_delimited (placed : Bool) (f : α → Except String β) :
    (p.check placed f).Delimited := by
  intro s b rest h left x
  simp only [check, readChecked] at h ⊢
  split at h
  · cases h
  · next h₁ =>
    split at h
    · next accepted =>
      cases h
      rw [delimited _ _ _ h₁ left x]
      simp only [accepted]
    · cases h

theorem map_delimited (f : α → β) : (p.map f).Delimited := by
  intro s b rest h left x
  obtain ⟨⟨a, r⟩, h₁, h₂⟩ := map_eq_ok.mp h
  cases h₂
  exact map_eq_ok.mpr ⟨_, delimited _ _ _ h₁ left x, rfl⟩

end Composed
end Reader

/-! Lists. -/

theorem nextItem_append {first more : Bool} {s rest : Bytes}
    (h : nextItem first s = .ok (more, rest)) (x : Bytes) :
    nextItem first (s ++ x) = .ok (more, rest ++ x) := by
  unfold nextItem at h
  split at h
  · cases h
  · next front =>
    simp only [nextItem, skipBlanks_append front]
    split at h
    · next close =>
      cases h
      rw [if_pos close]
    next further =>
    rw [if_neg further]
    split at h
    · next start =>
      cases h
      rw [if_pos start, List.cons_append]
    next further =>
    rw [if_neg further]
    split at h
    · next comma =>
      rw [if_pos comma]
      split at h
      · cases h
      · next front' =>
        simp only [skipBlanks_append front']
        split at h
        · cases h
        · next item =>
          cases h
          rw [if_neg item, List.cons_append]
    · cases h

theorem endList_append {s rest : Bytes} (h : endList s = .ok rest) (x : Bytes) :
    endList (s ++ x) = .ok (rest ++ x) := by
  unfold endList at h
  split at h
  · cases h
  · next front =>
    simp only [endList, skipBlanks_append front]
    split at h
    · next close =>
      cases h
      rw [if_pos close]
    · split at h
      · split at h <;> cases h
      · cases h

namespace Reader

theorem ne_nil_of_readItems {p : Reader α} {first : Bool} {s : Bytes} {r : List α × Bytes}
    (h : p.readItems first s = .ok r) : s ≠ [] := by
  rintro rfl
  unfold readItems at h
  split at h <;> rename_i found
  · cases h
  · cases found
  · cases found

section Items
variable {p : Reader α} (delimited : p.Delimited)
include delimited

theorem readItems_append {first : Bool} {s rest : Bytes} {as : List α}
    (h : p.readItems first s = .ok (as, rest)) (x : Bytes) :
    p.readItems first (s ++ x) = .ok (as, rest ++ x) := by
  fun_induction readItems p first s generalizing as rest with
  | case1 => cases h
  | case2 _ _ _ h₁ =>
    cases h
    exact readItems_end (nextItem_append h₁ x)
  | case3 => cases h
  | case4 => cases h
  | case5 _ _ _ h₁ _ _ h₂ _ _ h₃ ih =>
    cases h
    have item := delimited _ _ _ h₂ (ne_nil_of_readItems h₃) x
    exact readItems_item (nextItem_append h₁ x) item (ih h₃)

theorem list_closed : p.list.Closed := by
  intro s as rest h x
  simp only [list, readList] at h ⊢
  split at h
  · cases h
  · next front =>
    split at h
    · cases h
    · next h₁ =>
      cases h
      rw [skipBlanks_append front]
      simp only [readItems_append delimited h₁ x]
  · cases h

end Items
end Reader

/-! Records. -/

theorem readKey_append {s rest : Bytes} {key : Option String} (h : readKey s = .ok (key, rest))
    (x : Bytes) : readKey (s ++ x) = .ok (key, rest ++ x) := by
  obtain ⟨r, h₁, h₂⟩ := map_eq_ok.mp h
  cases h₂
  exact map_eq_ok.mpr ⟨_, readText_append h₁ x, rfl⟩

theorem nextKey_append {first : Bool} {s rest : Bytes} {key : Option String}
    (h : nextKey first s = .ok (key, rest)) (x : Bytes) :
    nextKey first (s ++ x) = .ok (key, rest ++ x) := by
  unfold nextKey at h
  split at h
  · cases h
  · next front =>
    simp only [nextKey, skipBlanks_append front]
    split at h
    · next close =>
      cases h
      rw [if_pos close]
    next further =>
    rw [if_neg further]
    split at h
    · next start =>
      rw [if_pos start]
      split at h
      · next quote =>
        rw [if_pos quote]
        exact readKey_append h x
      · cases h
    next further =>
    rw [if_neg further]
    split at h
    · next comma =>
      rw [if_pos comma]
      split at h
      · cases h
      · next front' =>
        simp only [skipBlanks_append front']
        split at h
        · next quote =>
          rw [if_pos quote]
          exact readKey_append h x
        · split at h <;> cases h
    · cases h

namespace Layout
variable {σ α : Type} {l : Layout σ α}

theorem ne_nil_of_readRow {cs : List (Column σ)} {first : Bool} {draft : σ} {s : Bytes}
    {r : σ × Bytes} (h : readRow cs first draft s = .ok r) : s ≠ [] := by
  rintro rfl
  cases cs <;> cases h

section Columns
variable (delimited : ∀ c ∈ l.columns, c.value.Delimited)
include delimited

theorem readMember_append {key : String} {draft d : σ} {s rest : Bytes}
    (h : l.readMember key draft s = .ok (d, rest)) (left : rest ≠ []) (x : Bytes) :
    l.readMember key draft (s ++ x) = .ok (d, rest ++ x) := by
  unfold readMember at h ⊢
  split at h
  · simp only [bind_eq_ok] at h ⊢
    obtain ⟨s₁, h₁, s₂, h₂, h⟩ := h
    obtain ⟨rfl, rfl⟩ := Prod.mk.inj (Except.ok.inj h)
    exact ⟨_, readColon_append h₁ x, _, skipValue_append h₂ left x, rfl⟩
  · next c known =>
    split at h
    · cases h
    · next room =>
      rw [if_neg room]
      simp only [bind_eq_ok] at h ⊢
      obtain ⟨s₁, h₁, ⟨fill, s₂⟩, h₂, h⟩ := h
      obtain ⟨rfl, rfl⟩ := Prod.mk.inj (Except.ok.inj h)
      have value := delimited c (List.mem_of_find?_eq_some known) _ _ _ h₂ left x
      exact ⟨_, readColon_append h₁ x, _, value, rfl⟩

theorem readMembers_append {first : Bool} {draft d : σ} {s rest : Bytes}
    (h : l.readMembers first draft s = .ok (d, rest)) (x : Bytes) :
    l.readMembers first draft (s ++ x) = .ok (d, rest ++ x) := by
  fun_induction readMembers l first draft s with
  | case1 => cases h
  | case2 _ _ _ _ h₁ =>
    cases h
    exact readMembers_end (nextKey_append h₁ x)
  | case3 => cases h
  | case4 _ _ _ _ _ h₁ _ _ h₂ ih =>
    have left := ne_nil_of_lt (readMembers_length h)
    exact readMembers_member (nextKey_append h₁ x) (readMember_append delimited h₂ left x) (ih h)

theorem readRow_append {cs : List (Column σ)} (part : cs ⊆ l.columns) {first : Bool} {draft d : σ}
    {s rest : Bytes} (h : readRow cs first draft s = .ok (d, rest)) (x : Bytes) :
    readRow cs first draft (s ++ x) = .ok (d, rest ++ x) := by
  induction cs generalizing first draft s with
  | nil =>
    obtain ⟨r, h₁, h₂⟩ := map_eq_ok.mp h
    cases h₂
    exact map_eq_ok.mpr ⟨_, endList_append h₁ x, rfl⟩
  | cons c cs ih =>
    obtain ⟨known, others⟩ := List.cons_subset.mp part
    unfold readRow at h ⊢
    split at h
    · cases h
    · next h₁ =>
      cases h
      rw [nextItem_append h₁ x]
    · next h₁ =>
      rw [nextItem_append h₁ x]
      split at h
      · cases h
      · next h₂ =>
        simp only [delimited c known _ _ _ h₂ (ne_nil_of_readRow h) x]
        exact ih others h

theorem reader_closed : l.reader.Closed := by
  intro s a rest h x
  simp only [reader, read] at h ⊢
  split at h
  · cases h
  · next front =>
    simp only [skipBlanks_append front]
    split at h
    · next brace =>
      rw [if_pos brace]
      split at h
      · cases h
      · next h₁ =>
        rw [readMembers_append delimited h₁ x]
        split at h
        · next made =>
          cases h
          simp only [made]
        · cases h
    next other =>
    rw [if_neg other]
    split at h
    · next bracket =>
      rw [if_pos bracket]
      split at h
      · cases h
      · next h₁ =>
        rw [readRow_append delimited (List.Subset.refl _) h₁ x]
        split at h
        · next made =>
          cases h
          simp only [made]
        · cases h
    · cases h

end Columns
end Layout

/-! Documents. -/

def OnlyBlanks (s : Bytes) : Prop := ∀ b ∈ s, b = 32 ∨ b = 9 ∨ b = 10 ∨ b = 13

theorem skipBlanks_eq_nil (s : Bytes) : skipBlanks s = [] ↔ OnlyBlanks s := by
  rw [skipBlanks, List.dropWhile_eq_nil_iff, OnlyBlanks]
  simp only [isBlank, Bool.or_eq_true, beq_iff_eq, or_assoc]

theorem onlyBlanks_append (s t : Bytes) : OnlyBlanks (s ++ t) ↔ OnlyBlanks s ∧ OnlyBlanks t :=
  List.forall_mem_append

namespace Reader

theorem document_iff (p : Reader α) (d : Bytes) (a : α) :
    p.document d = .ok a ↔ ∃ rest, p.run d = .ok (a, rest) ∧ OnlyBlanks rest := by
  simp only [document, ← skipBlanks_eq_nil]
  cases p.run d with
  | error f => simp
  | ok r =>
    obtain ⟨b, rest⟩ := r
    simp only [Except.ok.injEq, Prod.mk.injEq, and_assoc, exists_eq_left', exists_and_left]
    cases skipBlanks rest with
    | nil => simp
    | cons c more => simp

theorem document_append {p : Reader α} (closed : p.Closed) {d : Bytes} {a : α}
    (read : p.document d = .ok a) (x : Bytes) (b : α) :
    p.document (d ++ x) = .ok b ↔ OnlyBlanks x ∧ b = a := by
  obtain ⟨rest, run, blank⟩ := (document_iff p d a).mp read
  rw [document_iff, closed d a rest run x]
  constructor
  · rintro ⟨_, same, blank'⟩
    obtain ⟨rfl, rfl⟩ := Prod.mk.inj (Except.ok.inj same)
    exact ⟨((onlyBlanks_append rest x).mp blank').2, rfl⟩
  · rintro ⟨blank', rfl⟩
    exact ⟨rest ++ x, rfl, (onlyBlanks_append rest x).mpr ⟨blank, blank'⟩⟩

end Reader
end SecretKeeper.Json

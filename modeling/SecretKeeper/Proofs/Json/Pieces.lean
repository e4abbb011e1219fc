import SecretKeeper.Json.Skip
import SecretKeeper.Proofs.Json.Syntax
import SecretKeeper.Proofs.Json.Text

/-!
Quoted texts of any form. What is read of one is what its pieces mean, and reading fails if they
mean nothing; a text that is skipped may have any pieces.
-/
namespace SecretKeeper.Json

open Text

theorem toOption_map {x : Except ε α} {f : α → β} :
    (x.map f).toOption = x.toOption.map f := by
  cases x <;> rfl

theorem toOption_mapError {x : Except ε α} {f : ε → δ} :
    (x.mapError f).toOption = x.toOption := by
  cases x <;> rfl

theorem toOption_eq_some {x : Except ε α} {a : α} : x.toOption = some a ↔ x = .ok a := by
  cases x <;> simp [Except.toOption]

theorem toOption_cases {x : Except ε (α × Bytes)} {meant : Option α} {rest : Bytes}
    (read : x.toOption = meant.map (·, rest)) :
    (∃ a, meant = some a ∧ x = .ok (a, rest)) ∨ (meant = none ∧ ∃ fault, x = .error fault) := by
  cases x with
  | error fault => exact Or.inr ⟨Option.map_eq_none_iff.mp read.symm, fault, rfl⟩
  | ok r =>
    obtain ⟨a, some, rfl⟩ := Option.map_eq_some_iff.mp read.symm
    exact Or.inl ⟨a, some, rfl⟩

/-! The bytes of single pieces. -/

theorem HexDigit.ascii (d : HexDigit) : d.char.toNat < 128 := by
  obtain ⟨value, isCapital⟩ := d
  revert value isCapital
  decide

theorem hexValue_char (d : HexDigit) :
    hexValue? (UInt8.ofNat d.char.toNat) = some d.value.val := by
  obtain ⟨value, isCapital⟩ := d
  revert value isCapital
  decide

theorem readHex_unit (u : CodeUnit) (s : Bytes) :
    readHex (utf8 u.chars ++ s) = .ok (u.value, s) := by
  have bytes : utf8 u.chars = u.chars.map fun c => UInt8.ofNat c.toNat := by
    apply utf8_ascii
    simp [CodeUnit.chars, HexDigit.ascii]
  rw [bytes]
  simp [readHex, CodeUnit.chars, hexValue_char, CodeUnit.value]

theorem plainEscape_letter (l : Letter) :
    plainEscape? (UInt8.ofNat l.char.toNat) = some l.meaning := by
  cases l <;> decide

theorem utf8_letter (l : Letter) (s : Bytes) :
    utf8 (Piece.letter l).chars ++ s = 92 :: UInt8.ofNat l.char.toNat :: s := by
  have ascii : l.char.toNat < 128 := by
    cases l <;> decide
  rw [Piece.chars, utf8_cons, utf8_cons, encode_ascii ascii, encode_ascii (by decide)]
  rfl

theorem utf8_unit (u : CodeUnit) (s : Bytes) :
    utf8 (Piece.unit u).chars ++ s = 92 :: 117 :: (utf8 u.chars ++ s) := by
  rw [Piece.chars, utf8_cons, utf8_cons, encode_ascii (by decide), encode_ascii (by decide)]
  rfl

theorem utf8_pieces_cons (p : Piece) (ps : List Piece) (s : Bytes) :
    utf8 ((p :: ps).flatMap Piece.chars) ++ s =
      utf8 p.chars ++ (utf8 (ps.flatMap Piece.chars) ++ s) := by
  rw [List.flatMap_cons, utf8_append, List.append_assoc]

theorem plain_bytes {c : Char} (visible : 32 ≤ c.toNat ∧ c ≠ '"' ∧ c ≠ '\\') :
    ∀ b ∈ utf8 [c], 32 ≤ b.toNat ∧ b.toNat ≠ 34 ∧ b.toNat ≠ 92 := by
  obtain ⟨visible, noQuote, noEscape⟩ := visible
  have number {n : Nat} (same : c.toNat = n) : c = Char.ofNat n := by
    rw [← same, Char.ofNat_toNat]
  rw [utf8_cons, utf8_nil, List.append_nil]
  exact visible_bytes visible (fun same => noQuote (number same)) fun same => noEscape (number same)

theorem plain_byte {b : UInt8} (plain : 32 ≤ b.toNat ∧ b.toNat ≠ 34 ∧ b.toNat ≠ 92) :
    b ≠ 34 ∧ b ≠ 92 ∧ ¬b < 32 := by
  obtain ⟨visible, noQuote, noEscape⟩ := plain
  refine ⟨?_, ?_, ?_⟩
  · rintro rfl
    exact noQuote rfl
  · rintro rfl
    exact noEscape rfl
  · rw [UInt8.lt_iff_toNat_lt]
    exact Nat.not_lt_of_le visible

/-! Skipped texts. -/

theorem skipQuoted_plain {bytes : Bytes}
    (plain : ∀ b ∈ bytes, 32 ≤ b.toNat ∧ b.toNat ≠ 34 ∧ b.toNat ≠ 92) (s : Bytes) :
    skipQuoted (bytes ++ s) = skipQuoted s := by
  induction bytes with
  | nil => rfl
  | cons b more ih =>
    obtain ⟨quote, escape, control⟩ := plain_byte (plain b List.mem_cons_self)
    rw [List.cons_append, skipQuoted, if_neg quote, if_neg escape, if_neg control]
    exact ih fun d member => plain d (List.mem_cons_of_mem b member)

theorem skipQuoted_escape {s rest : Bytes} (escape : skipEscape s = .ok rest) :
    skipQuoted (92 :: s) = skipQuoted rest := by
  rw [skipQuoted, if_neg (by decide), if_pos rfl]
  split
  · rename_i failed
    rw [escape] at failed
    cases failed
  · rename_i rest' found
    rw [escape] at found
    cases found
    rfl

theorem skipQuoted_piece (p : Piece) (s : Bytes) :
    skipQuoted (utf8 p.chars ++ s) = skipQuoted s := by
  cases p with
  | plain c visible => exact skipQuoted_plain (plain_bytes visible) s
  | letter l =>
    rw [utf8_letter]
    apply skipQuoted_escape
    rw [skipEscape, plainEscape_letter]
    rfl
  | unit u =>
    rw [utf8_unit]
    apply skipQuoted_escape
    rw [skipEscape, if_neg (by decide), if_pos rfl, readHex_unit]
    rfl

theorem skipQuoted_pieces (ps : List Piece) (rest : Bytes) :
    skipQuoted (utf8 (ps.flatMap Piece.chars) ++ 34 :: rest) = .ok rest := by
  induction ps with
  | nil =>
    rw [List.flatMap_nil, utf8_nil, List.nil_append, skipQuoted, if_pos rfl]
  | cons p more ih => rw [utf8_pieces_cons, skipQuoted_piece, ih]

/-! Texts that are read. -/

theorem readQuoted_byte {b : UInt8} (plain : 32 ≤ b.toNat ∧ b.toNat ≠ 34 ∧ b.toNat ≠ 92)
    (s : Bytes) : (readQuoted (b :: s)).toOption =
      (readQuoted s).toOption.map fun r => (b :: r.1, r.2) := by
  obtain ⟨quote, escape, control⟩ := plain_byte plain
  rw [readQuoted, if_neg quote, if_neg escape, if_neg control]
  cases readQuoted s <;> rfl

theorem readQuoted_bytes {bytes : Bytes}
    (plain : ∀ b ∈ bytes, 32 ≤ b.toNat ∧ b.toNat ≠ 34 ∧ b.toNat ≠ 92) (s : Bytes) :
    (readQuoted (bytes ++ s)).toOption =
      (readQuoted s).toOption.map fun r => (bytes ++ r.1, r.2) := by
  induction bytes with
  | nil => simp
  | cons b more ih =>
    have others := ih fun d member => plain d (List.mem_cons_of_mem b member)
    rw [List.cons_append, readQuoted_byte (plain b List.mem_cons_self), others, Option.map_map]
    rfl

theorem readQuoted_escaped (s : Bytes) : (readQuoted (92 :: s)).toOption =
    (readEscape s).toOption.bind fun e =>
      (readQuoted e.2).toOption.map fun r => (String.utf8EncodeChar e.1 ++ r.1, r.2) := by
  rw [readQuoted, if_neg (by decide), if_pos rfl]
  cases readEscape s with
  | error f => rfl
  | ok e =>
    obtain ⟨c, rest⟩ := e
    simp only [Except.toOption, Option.bind_some]
    cases readQuoted rest <;> rfl

theorem readEscape_letter (l : Letter) (s : Bytes) :
    readEscape (UInt8.ofNat l.char.toNat :: s) = .ok (l.meaning, s) := by
  rw [readEscape, plainEscape_letter]

theorem trailing_iff (u : CodeUnit) : isTrailingSurrogate u.value = decide u.IsTrailing := by
  rw [Bool.eq_iff_iff, decide_eq_true_iff]
  simp only [isTrailingSurrogate, CodeUnit.IsTrailing, Bool.and_eq_true, decide_eq_true_eq]
  omega

theorem leading_iff (u : CodeUnit) : isLeadingSurrogate u.value = decide u.IsLeading := by
  rw [Bool.eq_iff_iff, decide_eq_true_iff]
  simp only [isLeadingSurrogate, CodeUnit.IsLeading, Bool.and_eq_true, decide_eq_true_eq]
  omega

theorem readEscape_unit (u : CodeUnit) (s : Bytes) :
    (readEscape (117 :: (utf8 u.chars ++ s))).toOption =
      if u.IsTrailing then none
      else if u.IsLeading then (readTrailing u.value s).toOption
      else some (Char.ofNat u.value, s) := by
  have number : readEscape (117 :: (utf8 u.chars ++ s)) = readNumbered (utf8 u.chars ++ s) := rfl
  rw [number, readNumbered, readHex_unit]
  simp only [bind, Except.bind, trailing_iff, leading_iff, decide_eq_true_eq]
  split
  · rfl
  · split <;> rfl

theorem readTrailing_unit (n : Nat) (v : CodeUnit) (s : Bytes) :
    (readTrailing n (utf8 (Piece.unit v).chars ++ s)).toOption =
      if v.IsTrailing then
        some (Char.ofNat (0x10000 + (n - 0xD800) * 0x400 + (v.value - 0xDC00)), s)
      else none := by
  rw [utf8_unit]
  simp only [readTrailing, readPairByte, ↓reduceIte, bind, Except.bind, readHex_unit, trailing_iff,
    decide_eq_true_eq]
  split <;> rfl

theorem readTrailing_fails (n : Nat) {ps : List Piece}
    (other : ∀ v qs, ps = Piece.unit v :: qs → False) (rest : Bytes) :
    (readTrailing n (utf8 (ps.flatMap Piece.chars) ++ 34 :: rest)).toOption = none := by
  cases ps with
  | nil => rfl
  | cons p more =>
    rw [utf8_pieces_cons]
    cases p with
    | plain c visible =>
      have bytes := plain_bytes visible
      cases front : utf8 [c] with
      | nil =>
        rw [utf8_cons, utf8_nil, List.append_nil] at front
        exact absurd front String.utf8EncodeChar_ne_nil
      | cons b others =>
        rw [front] at bytes
        have noEscape := (plain_byte (bytes b List.mem_cons_self)).2.1
        rw [Piece.chars, front, List.cons_append]
        simp only [readTrailing, readPairByte, noEscape, ↓reduceIte]
        rfl
    | letter l =>
      rw [utf8_letter]
      cases l <;> rfl
    | unit v => exact (other v more rfl).elim

theorem readQuoted_pieces (ps : List Piece) (rest : Bytes) :
    (readQuoted (utf8 (ps.flatMap Piece.chars) ++ 34 :: rest)).toOption =
      (Piece.decode ps).map fun cs => (utf8 cs, rest) := by
  -- A character in front of what is read stands in front of what it means.
  have front (c : Char) (ps : List Piece) :
      (((Piece.decode ps).map fun cs => (utf8 cs, rest)).map fun r =>
        (String.utf8EncodeChar c ++ r.1, r.2)) =
      ((Piece.decode ps).map (c :: ·)).map fun cs => (utf8 cs, rest) := by
    cases Piece.decode ps <;> simp [utf8_cons]
  fun_induction Piece.decode ps with
  | case1 =>
    rw [List.flatMap_nil, utf8_nil, List.nil_append, readQuoted, if_pos rfl]
    rfl
  | case2 c visible ps ih =>
    rw [utf8_pieces_cons, Piece.chars, readQuoted_bytes (plain_bytes visible), ih, ← front]
    simp only [utf8_cons, utf8_nil, List.append_nil]
  | case3 l ps ih =>
    rw [utf8_pieces_cons, utf8_letter, readQuoted_escaped, readEscape_letter, ← front, ← ih]
    rfl
  | case4 u ps trailing =>
    rw [utf8_pieces_cons, utf8_unit, readQuoted_escaped, readEscape_unit, if_pos trailing]
    rfl
  | case5 u notTrailing leading v qs trailing ih =>
    rw [utf8_pieces_cons, utf8_unit, readQuoted_escaped, readEscape_unit, if_neg notTrailing,
      if_pos leading, utf8_pieces_cons, readTrailing_unit, if_pos trailing, ← front, ← ih,
      Option.bind_some, CodeUnit.pair]
  | case6 u notTrailing leading v qs notTrailing' =>
    rw [utf8_pieces_cons, utf8_unit, readQuoted_escaped, readEscape_unit, if_neg notTrailing,
      if_pos leading, utf8_pieces_cons, readTrailing_unit, if_neg notTrailing']
    rfl
  | case7 u ps notTrailing leading other =>
    rw [utf8_pieces_cons, utf8_unit, readQuoted_escaped, readEscape_unit, if_neg notTrailing,
      if_pos leading, readTrailing_fails u.value other]
    rfl
  | case8 u ps notTrailing notLeading ih =>
    rw [utf8_pieces_cons, utf8_unit, readQuoted_escaped, readEscape_unit, if_neg notTrailing,
      if_neg notLeading, ← front, ← ih]
    rfl

theorem readText_pieces (ps : List Piece) (rest : Bytes) :
    (readText (utf8 (ps.flatMap Piece.chars) ++ 34 :: rest)).toOption =
      (Piece.text? ps).map (·, rest) := by
  have quoted : (readQuoted (utf8 (ps.flatMap Piece.chars) ++ 34 :: rest)).toOption =
      ((Piece.decode ps).map utf8).map (·, rest) := by
    rw [readQuoted_pieces, Option.map_map]
    rfl
  rw [readText, Piece.text?]
  rcases toOption_cases quoted with ⟨_, meant, read⟩ | ⟨meant, fault, read⟩
  · obtain ⟨cs, decoded, rfl⟩ := Option.map_eq_some_iff.mp meant
    simp only [read, decodeChars_utf8, decoded]
    rfl
  · simp only [read, Option.map_eq_none_iff.mp meant]
    rfl

end SecretKeeper.Json

import Mathlib.Tactic.SplitIfs
import SecretKeeper.Json.Text
import SecretKeeper.Json.Value
import SecretKeeper.Proofs.Text.Utf8

/-!
Quoted texts are read back, whatever characters they have: each is written so that reading takes
all its bytes and nothing of what follows.
-/
namespace SecretKeeper.Json

open Text

section Quoted
variable {s t rest : Bytes} (read : readQuoted s = .ok (t, rest))
include read

theorem readQuoted_plain {bytes : Bytes}
    (plain : ∀ b ∈ bytes, 32 ≤ b.toNat ∧ b.toNat ≠ 34 ∧ b.toNat ≠ 92) :
    readQuoted (bytes ++ s) = .ok (bytes ++ t, rest) := by
  induction bytes with
  | nil => exact read
  | cons b more ih =>
    obtain ⟨visible, noQuote, noEscape⟩ := plain b List.mem_cons_self
    have quote : b ≠ 34 := by
      rintro rfl
      exact noQuote rfl
    have escape : b ≠ 92 := by
      rintro rfl
      exact noEscape rfl
    have control : ¬b < 32 := by
      rw [UInt8.lt_iff_toNat_lt]
      exact Nat.not_lt_of_le visible
    rw [List.cons_append, readQuoted, if_neg quote, if_neg escape, if_neg control,
      ih fun d member => plain d (List.mem_cons_of_mem b member)]
    rfl

theorem readQuoted_escape {s' : Bytes} {c : Char} (escape : readEscape s' = .ok (c, s)) :
    readQuoted (92 :: s') = .ok (String.utf8EncodeChar c ++ t, rest) := by
  rw [readQuoted, if_neg (by decide), if_pos rfl]
  split
  · rename_i failed
    rw [escape] at failed
    cases failed
  · rename_i c' s'' found
    rw [escape] at found
    cases found
    rw [read]

end Quoted

theorem hexValue_digit {n : Nat} (small : n < 16) :
    hexValue? (UInt8.ofNat (hexDigit n).toNat) = some n := by
  have all : ∀ n < 16, hexValue? (UInt8.ofNat (hexDigit n).toNat) = some n := by decide
  exact all n small

theorem hexDigit_ascii {n : Nat} (small : n < 16) : (hexDigit n).toNat < 128 := by
  have all : ∀ n < 16, (hexDigit n).toNat < 128 := by decide
  exact all n small

theorem readEscape_control {c : Char} (control : c.toNat < 32) (s : Bytes) :
    readEscape (utf8 ['u', '0', '0', hexDigit (c.toNat / 16), hexDigit (c.toNat % 16)] ++ s) =
      .ok (c, s) := by
  have high : c.toNat / 16 < 16 := by omega
  have low : c.toNat % 16 < 16 := by omega
  have number : ((0 * 16 + 0) * 16 + c.toNat / 16) * 16 + c.toNat % 16 = c.toNat := by omega
  have bytes : utf8 ['u', '0', '0', hexDigit (c.toNat / 16), hexDigit (c.toNat % 16)] =
      [117, 48, 48, UInt8.ofNat (hexDigit (c.toNat / 16)).toNat,
        UInt8.ofNat (hexDigit (c.toNat % 16)).toNat] := by
    rw [utf8_ascii]
    · rfl
    · simp [hexDigit_ascii high, hexDigit_ascii low]
  have hex : readHex (48 :: 48 :: UInt8.ofNat (hexDigit (c.toNat / 16)).toNat ::
      UInt8.ofNat (hexDigit (c.toNat % 16)).toNat :: s) = .ok (c.toNat, s) := by
    have zero : hexValue? 48 = some 0 := rfl
    simp only [readHex, zero, hexValue_digit high, hexValue_digit low, number]
  have trailing : isTrailingSurrogate c.toNat = false := by
    simp [isTrailingSurrogate]
    omega
  have leading : isLeadingSurrogate c.toNat = false := by
    simp [isLeadingSurrogate]
    omega
  have unicode : readNumbered (48 :: 48 :: UInt8.ofNat (hexDigit (c.toNat / 16)).toNat ::
      UInt8.ofNat (hexDigit (c.toNat % 16)).toNat :: s) = .ok (c, s) := by
    simp [readNumbered, hex, bind, Except.bind, trailing, leading, pure, Except.pure]
  rw [bytes]
  exact unicode

theorem writeChar_cases (c : Char) :
    (∃ letter : Char, writeChar c = ['\\', letter] ∧ letter.toNat < 128 ∧
      plainEscape? (UInt8.ofNat letter.toNat) = some c) ∨
    (c.toNat < 32 ∧ writeChar c =
      ['\\', 'u', '0', '0', hexDigit (c.toNat / 16), hexDigit (c.toNat % 16)]) ∨
    (32 ≤ c.toNat ∧ c.toNat ≠ 34 ∧ c.toNat ≠ 92 ∧ writeChar c = [c]) := by
  unfold writeChar
  split_ifs with quote escape backspace tab line form carriage control
  · exact Or.inl ⟨'"', rfl, by decide, congrArg some quote.symm⟩
  · exact Or.inl ⟨'\\', rfl, by decide, congrArg some escape.symm⟩
  · exact Or.inl ⟨'b', rfl, by decide, congrArg some backspace.symm⟩
  · exact Or.inl ⟨'t', rfl, by decide, congrArg some tab.symm⟩
  · exact Or.inl ⟨'n', rfl, by decide, congrArg some line.symm⟩
  · exact Or.inl ⟨'f', rfl, by decide, congrArg some form.symm⟩
  · exact Or.inl ⟨'r', rfl, by decide, congrArg some carriage.symm⟩
  · exact Or.inr (Or.inl ⟨control, rfl⟩)
  · have number {n : Nat} (same : c.toNat = n) : c = Char.ofNat n := by
      rw [← same, Char.ofNat_toNat]
    exact Or.inr (Or.inr ⟨Nat.le_of_not_lt control, fun same => quote (number same),
      fun same => escape (number same), rfl⟩)

theorem visible_bytes {c : Char} (visible : 32 ≤ c.toNat) (noQuote : c.toNat ≠ 34)
    (noEscape : c.toNat ≠ 92) :
    ∀ b ∈ String.utf8EncodeChar c, 32 ≤ b.toNat ∧ b.toNat ≠ 34 ∧ b.toNat ≠ 92 := by
  intro b member
  by_cases ascii : c.toNat < 128
  · rw [encode_ascii ascii] at member
    obtain rfl := List.mem_singleton.mp member
    simp only [UInt8.toNat_ofNat']
    omega
  · have high := encode_high (by omega) member
    omega

theorem readQuoted_writeChar {s t rest : Bytes} (read : readQuoted s = .ok (t, rest)) (c : Char) :
    readQuoted (utf8 (writeChar c) ++ s) = .ok (String.utf8EncodeChar c ++ t, rest) := by
  rcases writeChar_cases c with ⟨letter, written, ascii, escape⟩ | ⟨control, written⟩ |
    ⟨visible, noQuote, noEscape, written⟩ <;> rw [written]
  · have bytes : utf8 ['\\', letter] = [92, UInt8.ofNat letter.toNat] := by
      rw [utf8_ascii]
      · rfl
      · simp [ascii]
    have read' : readEscape (UInt8.ofNat letter.toNat :: s) = .ok (c, s) := by
      simp only [readEscape, escape]
    rw [bytes]
    exact readQuoted_escape read read'
  · exact readQuoted_escape read (readEscape_control control s)
  · rw [utf8_cons, utf8_nil, List.append_nil]
    exact readQuoted_plain read (visible_bytes visible noQuote noEscape)

theorem readQuoted_chars (cs : List Char) (rest : Bytes) :
    readQuoted (utf8 (cs.flatMap writeChar) ++ 34 :: rest) = .ok (utf8 cs, rest) := by
  induction cs with
  | nil =>
    rw [List.flatMap_nil, utf8_nil, List.nil_append, readQuoted]
    rfl
  | cons c more ih =>
    rw [List.flatMap_cons, utf8_append, List.append_assoc, utf8_cons]
    exact readQuoted_writeChar ih c

theorem decodeChar_encode (c : Char) (rest : Bytes) :
    decodeChar? (String.utf8EncodeChar c ++ rest) = some (c, rest) := by
  have size : (String.utf8EncodeChar c).length = c.utf8Size := String.length_utf8EncodeChar c
  have front : (String.utf8EncodeChar c ++ rest).take 4 =
      String.utf8EncodeChar c ++ rest.take (4 - c.utf8Size) := by
    have four := c.utf8Size_le_four
    rw [List.take_append, size, List.take_of_length_le (by omega)]
  have decoded : ((String.utf8EncodeChar c ++ rest).take 4).toByteArray.utf8DecodeChar? 0 =
      some c := by
    rw [front, List.toByteArray_append]
    exact ByteArray.utf8DecodeChar?_utf8EncodeChar_append
  rw [decodeChar?, decoded, Option.map_some, ← size, List.drop_left]

theorem decodeChars_utf8 (cs : List Char) : decodeChars (utf8 cs) = .ok cs := by
  induction cs with
  | nil =>
    rw [utf8_nil, decodeChars]
    rfl
  | cons c more ih =>
    have here : utf8 (c :: more) ≠ [] := by
      rw [utf8_cons]
      exact List.append_ne_nil_of_left_ne_nil String.utf8EncodeChar_ne_nil _
    rw [decodeChars, dif_neg here]
    split
    · rename_i failed
      rw [utf8_cons, decodeChar_encode] at failed
      cases failed
    · rename_i d rest found
      rw [utf8_cons, decodeChar_encode] at found
      cases found
      rw [ih]
      rfl

theorem utf8_injective {cs ds : List Char} (same : utf8 cs = utf8 ds) : cs = ds := by
  have read := decodeChars_utf8 cs
  rw [same, decodeChars_utf8] at read
  exact (Except.ok.inj read).symm

theorem readText_quoted (s : String) (rest : Bytes) :
    readText (utf8 (s.toList.flatMap writeChar) ++ 34 :: rest) = .ok (s, rest) := by
  rw [readText, readQuoted_chars]
  simp only [decodeChars_utf8, String.ofList_toList]

end SecretKeeper.Json

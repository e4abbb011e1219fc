import SecretKeeper.Json.Number
import SecretKeeper.Json.Value
import SecretKeeper.Proofs.Json.Syntax
import SecretKeeper.Proofs.Text.Digits

/-!
Whole numbers are read back from their digits, if 64 bits hold them and nothing follows that could
belong to the numeral.
-/
namespace SecretKeeper.Json

open Text

/-- What may follow a numeral without becoming a part of it. -/
def EndsNumeral (rest : Bytes) : Prop :=
  ∀ b ∈ rest.head?, isDigit b = false ∧ b ≠ 46 ∧ b ≠ 101 ∧ b ≠ 69

theorem endsNumeral_nil : EndsNumeral [] := by
  intro b member
  cases member

theorem digit_step {c : Char} (digit : c.isDigit = true) (n : Nat) :
    n * 10 + digitValue (UInt8.ofNat c.toNat) = 10 * n + (c.toNat - '0'.toNat) := by
  have bounds := digit_bounds digit
  have zero : '0'.toNat = 48 := rfl
  rw [digitValue, UInt8.toNat_ofNat', zero]
  omega

section Digits
variable {ds : List Char} (digits : ∀ c ∈ ds, c.isDigit = true)
include digits

theorem utf8_digits : utf8 ds = ds.map fun c => UInt8.ofNat c.toNat := by
  apply utf8_ascii
  intro c member
  have := digit_bounds (digits c member)
  omega

theorem isDigit_of_mem : ∀ b ∈ utf8 ds, isDigit b = true := by
  intro b member
  rw [utf8_digits digits] at member
  obtain ⟨c, known, rfl⟩ := List.mem_map.mp member
  have bounds := digit_bounds (digits c known)
  have all : ∀ n < 58, 48 ≤ n → isDigit (UInt8.ofNat n) = true := by decide
  exact all c.toNat (by omega) bounds.1

theorem gather_digits {ceiling start : Nat} (fits : Nat.ofDigitChars 10 ds start ≤ ceiling) :
    gather ceiling start (utf8 ds) = (Nat.ofDigitChars 10 ds start, []) := by
  rw [utf8_digits digits]
  induction ds generalizing start with
  | nil => rfl
  | cons c more ih =>
    rw [Nat.ofDigitChars_cons] at fits
    -- More digits only make the number greater, so the ceiling holds at this one too.
    have grown : 10 * start + (c.toNat - '0'.toNat) ≤
        Nat.ofDigitChars 10 more (10 * start + (c.toNat - '0'.toNat)) := by
      rw [Nat.ofDigitChars_eq_ofDigitChars_zero]
      have := Nat.le_mul_of_pos_left (10 * start + (c.toNat - '0'.toNat))
        (Nat.pow_pos (n := more.length) (show 0 < 10 by decide))
      omega
    rw [List.map_cons, gather, digit_step (digits c List.mem_cons_self), if_pos (by omega),
      Nat.ofDigitChars_cons]
    exact ih (fun d member => digits d (List.mem_cons_of_mem c member)) fits

theorem gather_leaves {ceiling start : Nat} (below : start ≤ ceiling)
    (exceeds : ceiling < Nat.ofDigitChars 10 ds start) :
    (gather ceiling start (utf8 ds)).2 ≠ [] := by
  rw [utf8_digits digits]
  induction ds generalizing start with
  | nil => exact absurd exceeds (Nat.not_lt_of_le below)
  | cons c more ih =>
    rw [Nat.ofDigitChars_cons] at exceeds
    rw [List.map_cons, gather, digit_step (digits c List.mem_cons_self)]
    split
    · rename_i still
      exact ih (fun d member => digits d (List.mem_cons_of_mem c member)) still exceeds
    · exact List.cons_ne_nil _ _

end Digits

theorem Digits.start (d : Digits) :
    ∃ b more, utf8 d.chars = b :: more ∧ isDigit b = true ∧ ∀ e ∈ more, isDigit e = true := by
  have digits := isDigit_of_mem d.digits
  cases front : utf8 d.chars with
  | nil =>
    rw [utf8_digits d.digits] at front
    exact absurd (List.map_eq_nil_iff.mp front) d.nonempty
  | cons b more =>
    rw [front] at digits
    exact ⟨b, more, rfl, List.forall_mem_cons.mp digits⟩

def Digits.ofNat (n : Nat) : Digits where
  chars := Nat.toDigits 10 n
  digits := digits_all n
  nonempty := List.length_pos_iff.mp Nat.length_toDigits_pos

theorem Digits.ofNat_canonical (n : Nat) : (Digits.ofNat n).IsCanonical := by
  intro zero
  rcases Nat.eq_zero_or_pos n with rfl | positive
  · rfl
  · obtain ⟨c, rest, front, nonzero⟩ := digits_first positive
    simp only [ofNat, front, List.head?_cons] at zero
    exact absurd (Option.some.inj zero) nonzero

def EndsDigits (rest : Bytes) : Prop := ∀ b ∈ rest.head?, isDigit b = false

theorem Exponent.start (e : Exponent) (rest : Bytes) :
    ∃ letter : UInt8, (letter = 101 ∨ letter = 69) ∧ utf8 e.chars ++ rest =
      letter :: (utf8 (signChars e.sign) ++ (utf8 e.digits.chars ++ rest)) := by
  refine ⟨if e.isCapital then 69 else 101, ?_, ?_⟩
  · cases e.isCapital <;> simp
  · rw [Exponent.chars, utf8_cons, utf8_append]
    cases e.isCapital <;> simp [encode_ascii]

theorem readSign_digits (sign : Option Bool) (d : Digits) (s : Bytes) :
    readSign (utf8 (signChars sign) ++ (utf8 d.chars ++ s)) =
      (sign.getD false, utf8 d.chars ++ s) := by
  obtain ⟨b, more, front, digit, _⟩ := d.start
  rw [front, List.cons_append]
  match sign with
  | some false => rfl
  | some true => rfl
  | none =>
    rw [signChars, utf8_nil, List.nil_append]
    unfold readSign
    split
    · rename_i plus
      rw [(List.cons.inj plus).1] at digit
      cases digit
    · rename_i minus
      rw [(List.cons.inj minus).1] at digit
      cases digit
    · rfl

theorem EndsNumeral.digits {rest : Bytes} (ends : EndsNumeral rest) : EndsDigits rest :=
  fun b member => (ends b member).1

theorem endsDigits_cons {b : UInt8} (stop : isDigit b = false) (s : Bytes) :
    EndsDigits (b :: s) := by
  intro c member
  cases member
  exact stop

section Digits
variable {rest : Bytes} (ends : EndsDigits rest) (c : Cause)
include ends

theorem takeDigits_append {bytes : Bytes} (digits : ∀ b ∈ bytes, isDigit b = true) :
    (bytes ++ rest).takeWhile isDigit = bytes ∧ (bytes ++ rest).dropWhile isDigit = rest := by
  rw [List.takeWhile_append_of_pos digits, List.dropWhile_append_of_pos digits]
  cases rest with
  | nil => simp
  | cons b more =>
    have stop := ends b rfl
    simp [stop]

theorem readWhole_digits {d : Digits} (canonical : d.IsCanonical) :
    readWhole c (utf8 d.chars ++ rest) = .ok (utf8 d.chars, rest) := by
  by_cases zero : d.chars.head? = some '0'
  · have single : (rest.head?.map isDigit).getD false = false := by
      cases rest with
      | nil => rfl
      | cons b more => exact ends b rfl
    have one : utf8 d.chars = [48] := by
      rw [canonical zero]
      rfl
    rw [one, List.singleton_append, readWhole, if_pos rfl, single]
    rfl
  · obtain ⟨b, more, front, digit, digits⟩ := d.start
    have start : b ≠ 48 := by
      rintro rfl
      apply zero
      have first := congrArg List.head? (utf8_digits d.digits)
      rw [front, List.head?_map] at first
      obtain ⟨c, head, byte⟩ := Option.map_eq_some_iff.mp first.symm
      have bounds := digit_bounds (d.digits c (List.mem_of_mem_head? head))
      have number : c.toNat = 48 := by
        have := congrArg UInt8.toNat byte
        rw [UInt8.toNat_ofNat'] at this
        have : (48 : UInt8).toNat = 48 := rfl
        omega
      rw [head, ← Char.ofNat_toNat c, number]
    have taken := takeDigits_append ends digits
    rw [front, List.cons_append, readWhole, if_neg start, if_pos digit, taken.1, taken.2]

theorem readFraction_digits (d : Digits) :
    readFraction c (46 :: (utf8 d.chars ++ rest)) = .ok (utf8 d.chars, rest) := by
  obtain ⟨b, more, front, digit, digits⟩ := d.start
  have all : ∀ d ∈ b :: more, isDigit d = true := List.forall_mem_cons.mpr ⟨digit, digits⟩
  have taken := takeDigits_append ends all
  rw [List.cons_append] at taken
  rw [front, List.cons_append]
  simp only [readFraction, digit, ↓reduceIte, taken.1, taken.2]

theorem readExponent_digits (e : Exponent) :
    readExponent c (utf8 e.chars ++ rest) =
      .ok (some (e.sign.getD false, utf8 e.digits.chars), rest) := by
  obtain ⟨letter, marks, written⟩ := e.start rest
  obtain ⟨b, more, front, digit, digits⟩ := e.digits.start
  have taken := takeDigits_append ends digits
  rw [written, readExponent, if_pos marks, readSign_digits, front]
  simp only [List.cons_append, digit, ↓reduceIte, taken.1, taken.2]

end Digits

namespace Literal

def numeral (l : Literal) : Numeral where
  negative := l.isNegative
  whole := utf8 l.whole.chars
  fraction := l.fraction.elim [] fun d => utf8 d.chars
  exponent := l.exponent.map fun e => (e.sign.getD false, utf8 e.digits.chars)

section Following
variable (l : Literal) {rest : Bytes} (ends : EndsNumeral rest) (c : Cause)
include ends

theorem readExponent_chars :
    readExponent c (utf8 l.exponentChars ++ rest) = .ok (l.numeral.exponent, rest) := by
  unfold exponentChars numeral
  cases l.exponent with
  | some e => exact readExponent_digits ends.digits c e
  | none =>
    rw [utf8_nil, List.nil_append]
    cases rest with
    | nil => rfl
    | cons b more =>
      have stop := (ends b rfl).2.2
      rw [readExponent, if_neg (by simp [stop])]
      rfl

theorem exponent_start : ∀ b ∈ (utf8 l.exponentChars ++ rest).head?,
    isDigit b = false ∧ b ≠ 46 := by
  unfold exponentChars
  cases l.exponent with
  | some e =>
    obtain ⟨letter, marks, written⟩ := e.start rest
    simp only [written, List.head?_cons, Option.mem_def, Option.some.injEq, forall_eq']
    rcases marks with rfl | rfl <;> decide
  | none => exact fun b member => ⟨(ends b member).1, (ends b member).2.1⟩

theorem readFraction_chars :
    readFraction c (utf8 l.fractionChars ++ (utf8 l.exponentChars ++ rest)) =
      .ok (l.numeral.fraction, utf8 l.exponentChars ++ rest) := by
  have start := l.exponent_start ends
  unfold fractionChars numeral
  cases l.fraction with
  | some d =>
    have point : utf8 ('.' :: d.chars) = 46 :: utf8 d.chars := by
      rw [utf8_cons, encode_ascii (by decide)]
      rfl
    simp only [point, List.cons_append]
    exact readFraction_digits (fun b member => (start b member).1) c d
  | none =>
    rw [utf8_nil, List.nil_append]
    unfold readFraction
    split
    · rename_i point
      rw [point] at start
      exact absurd rfl (start 46 rfl).2
    · rfl

theorem fraction_start :
    EndsDigits (utf8 l.fractionChars ++ (utf8 l.exponentChars ++ rest)) := by
  unfold fractionChars
  cases l.fraction with
  | some d =>
    rw [utf8_cons, encode_ascii (by decide)]
    exact endsDigits_cons (by decide) _
  | none => exact fun b member => (l.exponent_start ends b member).1

theorem readNumeral_chars : readNumeral c (utf8 l.chars ++ rest) = .ok (l.numeral, rest) := by
  have whole := readWhole_digits (l.fraction_start ends) c l.canonical
  have fraction := l.readFraction_chars ends c
  have exponent := l.readExponent_chars ends c
  obtain ⟨b, more, front, digit, _⟩ := l.whole.start
  have unsigned : b ≠ 45 := by
    rintro rfl
    cases digit
  have written : utf8 l.chars ++ rest = (if l.isNegative then [45] else []) ++
      (utf8 l.whole.chars ++ (utf8 l.fractionChars ++ (utf8 l.exponentChars ++ rest))) := by
    have sign : utf8 (if l.isNegative then ['-'] else []) =
        if l.isNegative then [45] else [] := by
      cases l.isNegative <;> rfl
    simp only [chars, utf8_append, sign, List.append_assoc]
  have minus : ((if l.isNegative then [45] else []) ++ (utf8 l.whole.chars ++
      (utf8 l.fractionChars ++ (utf8 l.exponentChars ++ rest)))).head? = some 45 ↔
        l.isNegative = true := by
    cases l.isNegative <;> simp [front, unsigned]
  rw [written, readNumeral]
  simp only [minus]
  cases negative : l.isNegative <;>
    simp [bind, Except.bind, whole, fraction, exponent, pure, Except.pure, numeral, negative]

end Following
end Literal

theorem readNumeral_digits {rest : Bytes} (ends : EndsNumeral rest) (c : Cause) (negative : Bool)
    (n : Nat) :
    readNumeral c
        (utf8 (if negative then '-' :: Nat.toDigits 10 n else Nat.toDigits 10 n) ++ rest) =
      .ok (⟨negative, utf8 (Nat.toDigits 10 n), [], none⟩, rest) := by
  let l : Literal := ⟨negative, .ofNat n, Digits.ofNat_canonical n, none, none⟩
  have written : l.chars = if negative then '-' :: Nat.toDigits 10 n else Nat.toDigits 10 n := by
    simp only [l, Literal.chars, Literal.fractionChars, Literal.exponentChars, Digits.ofNat,
      List.append_nil]
    cases negative <;> rfl
  rw [← written]
  exact l.readNumeral_chars ends c

/-- The whole numbers that are read as such. -/
def FitsWord (n : Int) : Prop := -9223372036854775808 ≤ n ∧ n ≤ maxWord

theorem toWhole_digits {n : Int} (fits : FitsWord n) :
    Numeral.toWhole? ⟨n < 0, utf8 (Nat.toDigits 10 n.natAbs), [], none⟩ = some n := by
  obtain ⟨low, high⟩ := fits
  have word : maxWord = 18446744073709551615 := by decide
  have gathered : gather maxWord 0 (utf8 (Nat.toDigits 10 n.natAbs)) = (n.natAbs, []) := by
    have worth : Nat.ofDigitChars 10 (Nat.toDigits 10 n.natAbs) 0 = n.natAbs :=
      Nat.ofDigitChars_ten_toDigits
    have below : n.natAbs ≤ maxWord := by omega
    rw [gather_digits (digits_all n.natAbs) (by rw [worth]; exact below), worth]
  simp only [Numeral.toWhole?, gathered]
  have bound : Nat.pow 2 63 = 9223372036854775808 := by decide
  by_cases negative : n < 0
  · have inside : 0 < n.natAbs ∧ n.natAbs ≤ Nat.pow 2 63 := by omega
    have value : -(n.natAbs : Int) = n := by omega
    simp only [negative, decide_true, ↓reduceIte, inside, and_self, value]
  · have value : (n.natAbs : Int) = n := by omega
    simp [negative, value]

theorem value_whole {n : Numeral} {rest : Bytes} {k : Int}
    (value : n.value rest = .ok (.whole k)) : n.toWhole? = some k := by
  have real (power : Int) : n.toFloat power rest ≠ .ok (.whole k) := by
    unfold Numeral.toFloat
    split <;> simp [Numeral.signed]
  unfold Numeral.value at value
  split at value
  · rename_i found
    cases value
    exact found
  · split at value
    · exact absurd value (real _)
    · split at value
      · exact absurd value (real _)
      · split at value <;> simp [Numeral.signed] at value

namespace Literal
variable (l : Literal)

theorem fraction_nil : l.numeral.fraction = [] ↔ l.fraction = none := by
  unfold numeral
  cases l.fraction with
  | none => simp
  | some d =>
    obtain ⟨b, more, front, _⟩ := d.start
    simp [front]

theorem exponent_none : l.numeral.exponent = none ↔ l.exponent = none := by
  simp [numeral]

theorem value_of_word {w : UInt64} (word : l.word? = some w) (rest : Bytes) :
    l.numeral.value rest = .ok (.whole w.toNat) := by
  have ceiling : maxWord = 18446744073709551615 := by decide
  unfold word? at word
  split at word
  · rename_i plain
    obtain ⟨unsigned, fraction, exponent, fits⟩ := plain
    cases word
    have gathered : gather maxWord 0 (utf8 l.whole.chars) = (l.whole.value, []) :=
      gather_digits l.whole.digits (by rw [ceiling]; exact fits)
    have whole : l.numeral.toWhole? = some (l.whole.value : Int) := by
      have noFraction := l.fraction_nil.mpr (Option.isNone_iff_eq_none.mp fraction)
      have noExponent := l.exponent_none.mpr (Option.isNone_iff_eq_none.mp exponent)
      have digits : l.numeral.whole = utf8 l.whole.chars := rfl
      have positive : l.numeral.negative = false := unsigned
      simp only [Numeral.toWhole?, digits, gathered, noFraction, noExponent, positive,
        Bool.false_eq_true, ↓reduceIte]
    have small : l.whole.value < UInt64.size := Nat.lt_succ_of_le fits
    rw [Numeral.value, whole, UInt64.toNat_ofNat_of_lt' small]
  · cases word

/-- One that does not stand for a word is negative, if it is whole at all. -/
theorem value_of_no_word (noWord : l.word? = none) {rest : Bytes} {k : Int}
    (value : l.numeral.value rest = .ok (.whole k)) : k < 0 := by
  have ceiling : maxWord = 18446744073709551615 := by decide
  have whole := value_whole value
  unfold Numeral.toWhole? at whole
  split at whole
  · rename_i m gathered noFraction noExponent
    split at whole
    · split at whole
      · rename_i inside
        cases whole
        omega
      · cases whole
    · rename_i unsigned
      exfalso
      have fits : l.whole.value ≤ 18446744073709551615 := by
        rw [← ceiling]
        refine Nat.le_of_not_lt fun exceeds => ?_
        have left := gather_leaves l.whole.digits (Nat.zero_le maxWord) exceeds
        have digits : l.numeral.whole = utf8 l.whole.chars := rfl
        rw [digits] at gathered
        rw [gathered] at left
        exact left rfl
      have plain : l.isNegative = false := Bool.not_eq_true _ ▸ unsigned
      rw [word?, if_pos ⟨plain, Option.isNone_iff_eq_none.mpr (l.fraction_nil.mp noFraction),
        Option.isNone_iff_eq_none.mpr (l.exponent_none.mp noExponent), fits⟩] at noWord
      cases noWord
  · cases whole

end Literal

theorem readNumber_whole {n : Int} (fits : FitsWord n) {rest : Bytes} (ends : EndsNumeral rest) :
    readNumber (utf8 (wholeDigits n) ++ rest) = .ok (.whole n, rest) := by
  have numeral := readNumeral_digits ends .endInValue (n < 0) n.natAbs
  simp only [decide_eq_true_eq] at numeral
  rw [readNumber, wholeDigits, numeral]
  simp only [bind, Except.bind, Numeral.value, toWhole_digits fits]
  rfl

end SecretKeeper.Json

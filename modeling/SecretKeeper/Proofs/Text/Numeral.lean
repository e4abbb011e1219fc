import SecretKeeper.Proofs.Text.Digits
import SecretKeeper.Text.Numeral

/-!
Numerals and trimmed texts. What is read is exactly the numerals up to the ceiling, each as what its
digits are worth; among them are the decimal digits of a number. What is trimmed is exactly what
stands between the white space at the ends.
-/
namespace SecretKeeper.Text

def IsDigit (base : Nat) (c : Char) : Prop := '0' ≤ c ∧ c.toNat < '0'.toNat + base

/-- A plus sign or none, and then digits that are worth a number. -/
def IsNumeral (base : Nat) (s : List Char) (n : Nat) : Prop :=
  ∃ digits, (s = digits ∨ s = '+' :: digits) ∧ digits ≠ [] ∧ (∀ c ∈ digits, IsDigit base c) ∧
    Nat.ofDigitChars base digits 0 = n

theorem digit_eq_some_iff {base : Nat} {c : Char} {d : Nat} :
    digit? base c = some d ↔ IsDigit base c ∧ d = c.toNat - '0'.toNat := by
  unfold digit?
  split
  · rename_i digit
    have low : '0'.toNat ≤ c.toNat := UInt32.le_iff_toNat_le.mp digit.1
    have isDigit : IsDigit base c := ⟨digit.1, by omega⟩
    rw [Option.some.injEq, eq_comm, and_iff_right isDigit]
  · rename_i noDigit
    constructor
    · rintro ⟨⟩
    · rintro ⟨⟨front, back⟩, _⟩
      have low : '0'.toNat ≤ c.toNat := UInt32.le_iff_toNat_le.mp front
      exact absurd ⟨front, by omega⟩ noDigit

theorem digit_eq_none_iff {base : Nat} {c : Char} : digit? base c = none ↔ ¬IsDigit base c := by
  rw [Option.eq_none_iff_forall_ne_some]
  constructor
  · intro none digit
    exact none _ (digit_eq_some_iff.mpr ⟨digit, rfl⟩)
  · intro noDigit d value
    exact noDigit (digit_eq_some_iff.mp value).1

theorem isDigit_ten {c : Char} (digit : c.isDigit = true) : IsDigit 10 c := by
  obtain ⟨low, high⟩ := digit_bounds digit
  have zero : '0'.toNat = 48 := rfl
  exact ⟨UInt32.le_iff_toNat_le.mpr low, by omega⟩

theorem ofDigitChars_ge {base : Nat} (positive : 0 < base) (cs : List Char) (n : Nat) :
    n ≤ Nat.ofDigitChars base cs n := by
  induction cs generalizing n with
  | nil => exact Nat.le_refl n
  | cons c rest ih =>
    rw [Nat.ofDigitChars_cons]
    have further := ih (base * n + (c.toNat - '0'.toNat))
    have scaled := Nat.le_mul_of_pos_left n positive
    omega

theorem readDigits_eq_ok_iff {base ceiling : Nat} (positive : 0 < base) (cs : List Char)
    {n : Nat} (within : n ≤ ceiling) (m : Nat) :
    readDigits base ceiling cs n = .ok m ↔
      (∀ c ∈ cs, IsDigit base c) ∧ Nat.ofDigitChars base cs n = m ∧ m ≤ ceiling := by
  induction cs generalizing n with
  | nil =>
    simp only [readDigits, Except.ok.injEq, List.not_mem_nil, false_imp_iff, implies_true,
      true_and, Nat.ofDigitChars_nil]
    exact ⟨fun same => ⟨same, same ▸ within⟩, And.left⟩
  | cons c rest ih =>
    rw [Nat.ofDigitChars_cons, Nat.mul_comm base n, List.forall_mem_cons]
    cases value : digit? base c with
    | none =>
      have noDigit := digit_eq_none_iff.mp value
      simp only [readDigits, value, reduceCtorEq, noDigit, false_and]
    | some d =>
      obtain ⟨digit, rfl⟩ := digit_eq_some_iff.mp value
      simp only [readDigits, value, digit, true_and]
      split
      · rename_i still
        exact ih still
      · rename_i beyond
        have least := ofDigitChars_ge positive rest (n * base + (c.toNat - '0'.toNat))
        constructor
        · rintro ⟨⟩
        · rintro ⟨_, rfl, fits⟩
          exact absurd (Nat.le_trans least fits) beyond

/-- What is read are the numerals that are not over the ceiling, each as the number it is worth. -/
theorem readNumeral_eq_ok_iff {base ceiling : Nat} (positive : 0 < base) (s : List Char)
    (n : Nat) : readNumeral base ceiling s = .ok n ↔ IsNumeral base s n ∧ n ≤ ceiling := by
  have unsigned : ¬IsDigit base '+' := fun digit => absurd digit.1 (by decide)
  have read (digits : List Char) := readDigits_eq_ok_iff positive digits (Nat.zero_le ceiling) n
  unfold readNumeral
  split
  · constructor
    · rintro ⟨⟩
    · rintro ⟨⟨digits, same, some, _⟩, _⟩
      exact absurd (by simpa [eq_comm] using same) some
  · constructor
    · rintro ⟨⟩
    · rintro ⟨⟨digits, rfl | same, some, all, _⟩, _⟩
      · exact absurd (all '+' List.mem_cons_self) unsigned
      · exact absurd (List.cons.inj same).2.symm some
  · rename_i cs some
    rw [read]
    constructor
    · rintro ⟨all, worth, fits⟩
      exact ⟨⟨cs, Or.inr rfl, some, all, worth⟩, fits⟩
    · rintro ⟨⟨digits, rfl | same, _, all, worth⟩, fits⟩
      · exact absurd (all '+' List.mem_cons_self) unsigned
      · obtain ⟨_, rfl⟩ := List.cons.inj same
        exact ⟨all, worth, fits⟩
  · rename_i some _ noSign
    rw [read]
    constructor
    · rintro ⟨all, worth, fits⟩
      exact ⟨⟨s, Or.inl rfl, some, all, worth⟩, fits⟩
    · rintro ⟨⟨digits, rfl | same, _, all, worth⟩, fits⟩
      · exact ⟨all, worth, fits⟩
      · exact absurd same (noSign digits)

/-- Digits on top of a value, and the first character with which they are no numeral up to the
ceiling any more: it is no digit, or takes the value over the ceiling. -/
structure StopsAt (base ceiling n : Nat) (front : List Char) (c : Char) (fault : NumeralFault) :
    Prop where
  digits : ∀ d ∈ front, IsDigit base d
  within : Nat.ofDigitChars base front n ≤ ceiling
  cause : ¬IsDigit base c ∧ fault = .badDigit ∨
    IsDigit base c ∧ ceiling < Nat.ofDigitChars base (front ++ [c]) n ∧ fault = .tooLarge

section Stops
variable {base ceiling n : Nat} {fault : NumeralFault}

theorem readDigits_stops (positive : 0 < base) {front : List Char} {c : Char}
    (stops : StopsAt base ceiling n front c fault) (back : List Char) :
    readDigits base ceiling (front ++ c :: back) n = .error fault := by
  obtain ⟨digits, within, cause⟩ := stops
  induction front generalizing n with
  | nil =>
    rw [List.nil_append] at cause ⊢
    rcases cause with ⟨noDigit, rfl⟩ | ⟨digit, beyond, rfl⟩
    · rw [readDigits, digit_eq_none_iff.mpr noDigit]
    · have value := digit_eq_some_iff.mpr ⟨digit, rfl⟩
      rw [Nat.ofDigitChars_cons, Nat.ofDigitChars_nil, Nat.mul_comm] at beyond
      rw [readDigits, value]
      exact if_neg (Nat.not_le_of_lt beyond)
  | cons d more ih =>
    have value := digit_eq_some_iff.mpr ⟨digits d List.mem_cons_self, rfl⟩
    rw [List.cons_append, Nat.ofDigitChars_cons, Nat.mul_comm] at cause
    rw [Nat.ofDigitChars_cons, Nat.mul_comm] at within
    have still := Nat.le_trans (ofDigitChars_ge positive more _) within
    rw [List.cons_append, readDigits, value]
    simp only [still, ↓reduceIte]
    exact ih (fun e member => digits e (List.mem_cons_of_mem d member)) within cause

theorem stops_of_readDigits {cs : List Char} (within : n ≤ ceiling)
    (failed : readDigits base ceiling cs n = .error fault) :
    ∃ front c back, cs = front ++ c :: back ∧ StopsAt base ceiling n front c fault := by
  induction cs generalizing n with
  | nil => cases failed
  | cons c rest ih =>
    rw [readDigits] at failed
    cases value : digit? base c with
    | none =>
      rw [value] at failed
      cases failed
      exact ⟨[], c, rest, rfl, List.forall_mem_nil _, within,
        Or.inl ⟨digit_eq_none_iff.mp value, rfl⟩⟩
    | some d =>
      obtain ⟨digit, rfl⟩ := digit_eq_some_iff.mp value
      rw [value] at failed
      dsimp only at failed
      split at failed
      · rename_i still
        obtain ⟨front, e, back, rfl, digits, within', cause⟩ := ih still failed
        rw [Nat.mul_comm] at within' cause
        refine ⟨c :: front, e, back, rfl, List.forall_mem_cons.mpr ⟨digit, digits⟩, ?_, ?_⟩
        · rw [Nat.ofDigitChars_cons]
          exact within'
        · rw [List.cons_append, Nat.ofDigitChars_cons]
          exact cause
      · rename_i beyond
        cases failed
        refine ⟨[], c, rest, rfl, List.forall_mem_nil _, within, Or.inr ⟨digit, ?_, rfl⟩⟩
        rw [List.nil_append, Nat.ofDigitChars_cons, Nat.ofDigitChars_nil, Nat.mul_comm]
        exact Nat.lt_of_not_le beyond

end Stops

def withoutPlus : List Char → List Char
  | '+' :: cs => cs
  | cs => cs

theorem readNumeral_signed {base ceiling : Nat} {s : List Char} (some : s ≠ []) :
    readNumeral base ceiling s =
      if withoutPlus s = [] then .error .badDigit
      else readDigits base ceiling (withoutPlus s) 0 := by
  unfold readNumeral withoutPlus
  split
  · exact absurd rfl some
  · rfl
  · rename_i cs others
    exact (if_neg others).symm
  · rename_i nonempty _ noSign
    split
    · exact absurd rfl (noSign _)
    · exact (if_neg nonempty).symm

theorem readNumeral_digits {ceiling n : Nat} (fits : n ≤ ceiling) :
    readNumeral 10 ceiling (Nat.toDigits 10 n) = .ok n := by
  have numeral : IsNumeral 10 (Nat.toDigits 10 n) n :=
    ⟨_, Or.inl rfl, Nat.toDigits_ne_nil, fun c member => isDigit_ten (digits_all n c member),
      Nat.ofDigitChars_ten_toDigits⟩
  exact (readNumeral_eq_ok_iff (by decide) _ n).mpr ⟨numeral, fits⟩

structure Trimmed (s : List Char) : Prop where
  front : ∀ c ∈ s.head?, isBlank c = false
  back : ∀ c ∈ s.getLast?, isBlank c = false

theorem dropWhile_blank {s : List Char} (front : ∀ c ∈ s.head?, isBlank c = false) :
    s.dropWhile isBlank = s := by
  cases s with
  | nil => rfl
  | cons c rest => exact List.dropWhile_cons_of_neg (by simp [front c rfl])

theorem trim_trimmed {s : List Char} (trimmed : Trimmed s) : trim s = s := by
  have back : s.reverse.dropWhile isBlank = s.reverse := by
    apply dropWhile_blank
    rw [List.head?_reverse]
    exact trimmed.back
  rw [trim, trimStart, dropWhile_blank trimmed.front, trimEnd, back, List.reverse_reverse]

def Within (s core : List Char) : Prop :=
  Trimmed core ∧ ∃ before after, s = before ++ (core ++ after) ∧
    (∀ c ∈ before, isBlank c = true) ∧ ∀ c ∈ after, isBlank c = true

theorem dropWhile_blanks {blanks : List Char} (all : ∀ c ∈ blanks, isBlank c = true)
    (s : List Char) : (blanks ++ s).dropWhile isBlank = s.dropWhile isBlank := by
  induction blanks with
  | nil => rfl
  | cons c rest ih =>
    rw [List.cons_append, List.dropWhile_cons_of_pos (all c List.mem_cons_self)]
    exact ih fun d member => all d (List.mem_cons_of_mem c member)

theorem trimEnd_blanks (s : List Char) {blanks : List Char}
    (all : ∀ c ∈ blanks, isBlank c = true) : trimEnd (s ++ blanks) = trimEnd s := by
  rw [trimEnd, List.reverse_append, dropWhile_blanks, trimEnd]
  exact fun c member => all c (List.mem_reverse.mp member)

theorem dropWhile_front (s : List Char) :
    ∀ c ∈ (s.dropWhile isBlank).head?, isBlank c = false := by
  intro c first
  have ink := List.head?_dropWhile_not isBlank s
  rw [Option.mem_def.mp first] at ink
  exact ink

theorem takeWhile_blank (s : List Char) : ∀ c ∈ s.takeWhile isBlank, isBlank c = true :=
  List.all_eq_true.mp (List.all_takeWhile)

theorem trimEnd_append (s : List Char) :
    trimEnd s ++ (s.reverse.takeWhile isBlank).reverse = s := by
  rw [trimEnd, ← List.reverse_append, List.takeWhile_append_dropWhile, List.reverse_reverse]

theorem trim_within (s : List Char) : Within s (trim s) := by
  have whole := trimEnd_append (trimStart s)
  refine ⟨⟨?_, ?_⟩, s.takeWhile isBlank, ((trimStart s).reverse.takeWhile isBlank).reverse, ?_,
    takeWhile_blank s, ?_⟩
  · intro c first
    refine dropWhile_front s c ?_
    obtain ⟨rest, front⟩ := List.head?_eq_some_iff.mp first
    rw [← trimStart, ← whole, ← trim, front]
    rfl
  · intro c last
    rw [trim, trimEnd, List.getLast?_reverse] at last
    exact dropWhile_front _ c last
  · rw [trim, whole]
    exact List.takeWhile_append_dropWhile.symm
  · intro c member
    exact takeWhile_blank _ c (List.mem_reverse.mp member)

theorem trim_eq_iff (s core : List Char) : trim s = core ↔ Within s core := by
  constructor
  · rintro rfl
    exact trim_within s
  · rintro ⟨trimmed, before, after, rfl, blank, blank'⟩
    rw [trim, trimStart, dropWhile_blanks blank]
    cases core with
    | nil =>
      have none := dropWhile_blanks blank' []
      rw [List.append_nil] at none
      rw [List.nil_append, none]
      rfl
    | cons c rest =>
      have kept : (c :: rest ++ after).dropWhile isBlank = c :: rest ++ after :=
        List.dropWhile_cons_of_neg (by simp [trimmed.front c rfl])
      have start : trimStart (c :: rest) = c :: rest := dropWhile_blank trimmed.front
      have same := trim_trimmed trimmed
      rw [trim, start] at same
      rw [kept, trimEnd_blanks _ blank', same]

theorem digits_trimmed (n : Nat) : Trimmed (Nat.toDigits 10 n) where
  front c first := isBlank_digit (digits_all n c (List.mem_of_mem_head? first))
  back c last := isBlank_digit (digits_all n c (List.mem_of_mem_getLast? last))

end SecretKeeper.Text

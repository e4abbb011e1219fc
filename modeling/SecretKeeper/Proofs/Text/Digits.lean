import SecretKeeper.Moment.Printer
import SecretKeeper.Text.Blank

/-!
Decimal digits of a number: what they are, where they start, and what they are worth.
-/
namespace SecretKeeper.Text

theorem digits_all (n : Nat) : ∀ c ∈ Nat.toDigits 10 n, c.isDigit = true := fun _ member =>
  Nat.isDigit_of_mem_toDigits (by decide) (by decide) member

theorem digit_bounds {c : Char} (digit : c.isDigit = true) : 48 ≤ c.toNat ∧ c.toNat ≤ 57 := by
  simp only [Char.isDigit, Bool.and_eq_true, decide_eq_true_eq] at digit
  exact ⟨UInt32.le_iff_toNat_le.mp digit.1, UInt32.le_iff_toNat_le.mp digit.2⟩

theorem isBlank_digit {c : Char} (digit : c.isDigit = true) : isBlank c = false := by
  have bounds := digit_bounds digit
  simp only [isBlank, Bool.or_eq_false_iff, Bool.and_eq_false_iff, beq_eq_false_iff_ne,
    decide_eq_false_iff_not]
  omega

theorem trimStart_cons {c : Char} (ink : isBlank c = false) (s : List Char) :
    trimStart (c :: s) = c :: s := by
  rw [trimStart, List.dropWhile_cons_of_neg (by simp [ink])]

theorem digits_first {n : Nat} (positive : 0 < n) :
    ∃ c rest, Nat.toDigits 10 n = c :: rest ∧ c ≠ '0' := by
  induction n using Nat.strongRecOn with
  | ind n ih =>
    by_cases single : n < 10
    · have nonzero : ∀ m < 10, 0 < m → Nat.digitChar m ≠ '0' := by decide
      exact ⟨_, [], Nat.toDigits_of_lt_base single, nonzero n single positive⟩
    · obtain ⟨c, rest, front, nonzero⟩ := ih (n / 10) (by omega) (by omega)
      refine ⟨c, rest ++ [(n % 10).digitChar], ?_, nonzero⟩
      rw [Nat.toDigits_of_base_le (by decide) (by omega), front, List.cons_append]

theorem worth_padded (width n : Nat) : Nat.ofDigitChars 10 (paddedDigits width n) 0 = n := by
  rw [paddedDigits, Nat.ofDigitChars_append, Nat.ofDigitChars_replicate_zero, Nat.mul_zero,
    Nat.ofDigitChars_ten_toDigits]

theorem padded_all (width n : Nat) : ∀ c ∈ paddedDigits width n, c.isDigit = true := by
  intro c member
  rcases List.mem_append.mp member with zero | digit
  · rw [List.eq_of_mem_replicate zero]
    rfl
  · exact digits_all n c digit

theorem padded_length {width n : Nat} (positive : 0 < width) (fits : n < Nat.pow 10 width) :
    (paddedDigits width n).length = width := by
  have short := (Nat.length_toDigits_le_iff (by decide) positive).mpr fits
  simp only [paddedDigits, List.length_append, List.length_replicate]
  omega

theorem padded_length_ge (width n : Nat) : width ≤ (paddedDigits width n).length := by
  simp only [paddedDigits, List.length_append, List.length_replicate]
  omega

theorem front_unique {p : Char → Prop} {front front' back back' : List Char}
    (inside : ∀ c ∈ front, ¬p c) (inside' : ∀ c ∈ front', ¬p c)
    (ends : ∀ c ∈ back.head?, p c) (ends' : ∀ c ∈ back'.head?, p c)
    (same : front ++ back = front' ++ back') : front = front' ∧ back = back' := by
  induction front generalizing front' with
  | nil =>
    cases front' with
    | nil => exact ⟨rfl, same⟩
    | cons c rest' =>
      have mark := ends c (by rw [List.nil_append] at same; rw [same]; rfl)
      exact absurd mark (inside' c List.mem_cons_self)
  | cons c rest ih =>
    cases front' with
    | nil =>
      have mark := ends' c (by rw [List.nil_append] at same; rw [← same]; rfl)
      exact absurd mark (inside c List.mem_cons_self)
    | cons c' rest' =>
      obtain ⟨rfl, more⟩ := List.cons.inj same
      obtain ⟨rfl, back⟩ := ih (fun d member => inside d (List.mem_cons_of_mem c member))
        (fun d member => inside' d (List.mem_cons_of_mem c member)) more
      exact ⟨rfl, back⟩

theorem marked_told {mark : Char} {front front' back back' : List Char}
    (inside : mark ∉ front) (inside' : mark ∉ front')
    (same : front ++ mark :: back = front' ++ mark :: back') : front = front' ∧ back = back' := by
  have outside {cs : List Char} (absent : mark ∉ cs) : ∀ c ∈ cs, ¬c = mark :=
    fun c member here => absent (here ▸ member)
  have ends (cs : List Char) : ∀ c ∈ (mark :: cs).head?, c = mark :=
    fun c first => (Option.some.inj first).symm
  obtain ⟨fronts, backs⟩ :=
    front_unique (outside inside) (outside inside') (ends back) (ends back') same
  exact ⟨fronts, (List.cons.inj backs).2⟩

theorem digits_told {mark : Char} (noDigit : mark.isDigit = false) {m n : Nat}
    {back back' : List Char}
    (same : Nat.toDigits 10 m ++ mark :: back = Nat.toDigits 10 n ++ mark :: back') :
    m = n ∧ back = back' := by
  have inside (k : Nat) : mark ∉ Nat.toDigits 10 k := by
    intro member
    have digit := digits_all k mark member
    rw [noDigit] at digit
    cases digit
  obtain ⟨digits, backs⟩ := marked_told (inside m) (inside n) same
  have worth := congrArg (fun ds => Nat.ofDigitChars 10 ds 0) digits
  simp only [Nat.ofDigitChars_ten_toDigits] at worth
  exact ⟨worth, backs⟩

end SecretKeeper.Text

import SecretKeeper.Moment.Reader
import SecretKeeper.Proofs.Calendar
import SecretKeeper.Proofs.Text.Digits

/-!
Moments read back from their texts. Of all the forms that are read, the printed one leaves no
choice: every number has its width or ends at a mark, and no white space stands anywhere.
-/
namespace SecretKeeper.Moment

open Calendar Text

theorem digitsValue_eq (ds : List Char) : digitsValue ds = Nat.ofDigitChars 10 ds 0 := by
  have start (n : Nat) : ds.foldl (fun n c => n * 10 + (c.toNat - '0'.toNat)) n =
      Nat.ofDigitChars 10 ds n := by
    induction ds generalizing n with
    | nil => rfl
    | cons c more ih =>
      rw [List.foldl_cons, ih, Nat.ofDigitChars_cons, Nat.mul_comm]
  exact start 0

theorem readMark_mark {c : Char} (ink : isBlank c = false) (s : List Char) :
    readMark c (c :: s) = .ok s := by
  simp only [readMark, trimStart_cons ink, ↓reduceIte]

section Digits
variable {ds rest : List Char} (digits : ∀ c ∈ ds, c.isDigit = true) (present : ds ≠ [])
include digits present

theorem readDigits_digits {width : Nat} (fits : ds.length ≤ width)
    (stop : ds.length = width ∨ ∀ c ∈ rest.head?, c.isDigit = false) :
    readDigits width (ds ++ rest) = .ok (ds, rest) := by
  have none : (rest.take (width - ds.length)).takeWhile Char.isDigit = [] := by
    rcases stop with full | ends
    · rw [full, Nat.sub_self, List.take_zero, List.takeWhile_nil]
    · cases rest with
      | nil => simp
      | cons c more =>
        cases width - ds.length with
        | zero => simp
        | succ n => simp [ends c rfl]
  have taken : ((ds ++ rest).take width).takeWhile Char.isDigit = ds := by
    rw [List.take_append, List.take_of_length_le fits, List.takeWhile_append_of_pos digits, none,
      List.append_nil]
  cases ds with
  | nil => exact absurd rfl present
  | cons c more =>
    have digit := digits c List.mem_cons_self
    rw [List.cons_append] at taken ⊢
    simp only [readDigits, digit, ↓reduceIte, taken]
    rw [← List.cons_append, List.drop_left]

theorem trimStart_digits : trimStart (ds ++ rest) = ds ++ rest := by
  cases ds with
  | nil => exact absurd rfl present
  | cons c more => exact trimStart_cons (isBlank_digit (digits c List.mem_cons_self)) _

theorem digits_ne_mark {c : Char} {more : List Char} (mark : c.isDigit = false) :
    ds ++ rest ≠ c :: more := by
  cases ds with
  | nil => exact absurd rfl present
  | cons d others =>
    intro same
    obtain ⟨rfl, -⟩ := List.cons.inj same
    have digit := digits d List.mem_cons_self
    rw [mark] at digit
    cases digit

end Digits

theorem padded_ne_nil {width : Nat} (positive : 0 < width) (n : Nat) :
    paddedDigits width n ≠ [] := by
  have length := padded_length_ge width n
  intro none
  rw [none, List.length_nil] at length
  omega

theorem digitsValue_padded (width n : Nat) : digitsValue (paddedDigits width n) = n := by
  rw [digitsValue_eq, worth_padded]

theorem readDigits_full {width n : Nat} (positive : 0 < width) (fits : n < Nat.pow 10 width)
    (rest : List Char) :
    readDigits width (paddedDigits width n ++ rest) = .ok (paddedDigits width n, rest) := by
  have length := padded_length positive fits
  exact readDigits_digits (padded_all width n) (padded_ne_nil positive n) (Nat.le_of_eq length)
    (Or.inl length)

theorem readDigits_marked {limit width n : Nat} (positive : 0 < width)
    (fits : (paddedDigits width n).length ≤ limit) {c : Char} (mark : c.isDigit = false)
    (rest : List Char) :
    readDigits limit (paddedDigits width n ++ c :: rest) =
      .ok (paddedDigits width n, c :: rest) := by
  have stop : ∀ d ∈ (c :: rest).head?, d.isDigit = false := by
    intro d member
    cases member
    exact mark
  exact readDigits_digits (padded_all width n) (padded_ne_nil positive n) fits (Or.inr stop)

theorem trimStart_padded {width : Nat} (positive : 0 < width) (n : Nat) (rest : List Char) :
    trimStart (paddedDigits width n ++ rest) = paddedDigits width n ++ rest :=
  trimStart_digits (padded_all width n) (padded_ne_nil positive n)

theorem readField_padded {least greatest n : Nat} (two : n < 100)
    (bounds : least ≤ n ∧ n ≤ greatest) (rest : List Char) :
    readField 2 least greatest (paddedDigits 2 n ++ rest) = .ok (n, rest) := by
  have positive : 0 < 2 := by decide
  simp only [readField, trimStart_padded positive, readDigits_full positive two, bind, Except.bind,
    digitsValue_padded, bounds, and_self, ↓reduceIte]
  rfl

theorem readYear_digits {year : Int} (low : -2147483648 ≤ year) (high : year < 2147483648)
    (rest : List Char) :
    readYear (yearDigits year ++ '-' :: rest) = .ok (year, '-' :: rest) := by
  have positive : 0 < 4 := by decide
  by_cases plain : 0 ≤ year ∧ year ≤ 9999
  · have power : Nat.pow 10 4 = 10000 := rfl
    have fits : year.toNat < Nat.pow 10 4 := by omega
    have value : (year.toNat : Int) = year := by omega
    have digits := padded_all 4 year.toNat
    have present := padded_ne_nil positive year.toNat
    rw [yearDigits, if_pos plain, readYear, trimStart_padded positive]
    split
    · rename_i front
      exact absurd front (digits_ne_mark digits present rfl)
    · rename_i front
      exact absurd front (digits_ne_mark digits present rfl)
    · simp only [readDigits_full positive fits, bind, Except.bind, digitsValue_padded, value]
      rfl
  · have word : Nat.pow 2 31 = 2147483648 := by decide
    -- With a sign there is no width, so that only the hyphen ends the year.
    have read : readDigits (paddedDigits 4 year.natAbs ++ '-' :: rest).length
        (paddedDigits 4 year.natAbs ++ '-' :: rest) =
          .ok (paddedDigits 4 year.natAbs, '-' :: rest) := by
      apply readDigits_marked positive _ rfl
      simp
    rw [yearDigits, if_neg plain]
    by_cases negative : year < 0
    · have value : -(year.natAbs : Int) = year := by omega
      have fits : year.natAbs ≤ Nat.pow 2 31 := by omega
      rw [if_pos negative, List.cons_append, readYear, trimStart_cons (by decide)]
      simp only [read, bind, Except.bind, digitsValue_padded, fits, ↓reduceIte, value]
      rfl
    · have value : (year.natAbs : Int) = year := by omega
      have fits : year.natAbs < Nat.pow 2 31 := by omega
      rw [if_neg negative, List.cons_append, readYear, trimStart_cons (by decide)]
      simp only [read, bind, Except.bind, digitsValue_padded, fits, ↓reduceIte, value]
      rfl

theorem readDate_digits {d : Date} (valid : d.IsValid) (low : -2147483648 ≤ d.year)
    (high : d.year < 2147483648) (rest : List Char) :
    readDate (dateDigits d ++ rest) = .ok (d, rest) := by
  obtain ⟨month, month', day, day'⟩ := valid
  have days := daysInMonth_le d.year d.month
  have hyphen := readMark_mark (c := '-') (by decide)
  have text : dateDigits d ++ rest = yearDigits d.year ++ '-' :: (paddedDigits 2 d.month ++
      '-' :: (paddedDigits 2 d.day ++ rest)) := by
    simp [dateDigits]
  rw [text]
  simp only [readDate, bind, Except.bind, readYear_digits low high, hyphen,
    readField_padded (n := d.month) (by omega) ⟨month, month'⟩,
    readField_padded (n := d.day) (by omega) ⟨day, Nat.le_trans day' days⟩]
  rfl

theorem readFraction_padded {width n : Nat} (positive : 0 < width) (most : width ≤ 9)
    (fits : n < Nat.pow 10 width) (rest : List Char) :
    readFraction ('.' :: (paddedDigits width n ++ 'Z' :: rest)) =
      .ok (n * Nat.pow 10 (9 - width), 'Z' :: rest) := by
  have length := padded_length positive fits
  have read : readDigits 9 (paddedDigits width n ++ 'Z' :: rest) =
      .ok (paddedDigits width n, 'Z' :: rest) :=
    readDigits_marked positive (by omega) rfl rest
  simp only [readFraction, read, bind, Except.bind, digitsValue_padded, length]
  rfl

theorem readFraction_digits {nanos : Nat} (part : nanos < nanosPerSecond) (rest : List Char) :
    readFraction (fractionDigits nanos ++ 'Z' :: rest) = .ok (nanos, 'Z' :: rest) := by
  have billion : nanosPerSecond = 1000000000 := rfl
  unfold fractionDigits
  split
  · rename_i none
    rw [none]
    rfl
  · split
    · have width : Nat.pow 10 3 = 1000 := rfl
      have scale : Nat.pow 10 (9 - 3) = 1000000 := rfl
      have fits : nanos / 1000000 < Nat.pow 10 3 := by omega
      have value : nanos / 1000000 * 1000000 = nanos := by omega
      have read := readFraction_padded (by decide) (by decide) fits rest
      rw [scale, value] at read
      exact read
    · split
      · have width : Nat.pow 10 6 = 1000000 := rfl
        have scale : Nat.pow 10 (9 - 6) = 1000 := rfl
        have fits : nanos / 1000 < Nat.pow 10 6 := by omega
        have value : nanos / 1000 * 1000 = nanos := by omega
        have read := readFraction_padded (by decide) (by decide) fits rest
        rw [scale, value] at read
        exact read
      · have width : Nat.pow 10 9 = 1000000000 := rfl
        have scale : Nat.pow 10 (9 - 9) = 1 := rfl
        have fits : nanos < Nat.pow 10 9 := by omega
        have read := readFraction_padded (by decide) (by decide) fits rest
        rw [scale, Nat.mul_one] at read
        exact read

theorem readClock_digits {second nanos : Nat} (day : second < 86400) (leap : Bool)
    {fraction rest : List Char} (part : readFraction fraction = .ok (nanos, rest)) :
    readClock (clockDigits second leap ++ fraction) =
      .ok (⟨second / 3600, second / 60 % 60, second % 60 + if leap then 1 else 0, nanos⟩,
        rest) := by
  have colon := readMark_mark (c := ':') (by decide)
  have hours : second / 3600 ≤ 23 := by omega
  have minutes : second / 60 % 60 ≤ 59 := by omega
  have seconds : second % 60 + (if leap then 1 else 0) ≤ 60 := by
    split <;> omega
  have text : clockDigits second leap ++ fraction =
      paddedDigits 2 (second / 3600) ++ ':' :: (paddedDigits 2 (second / 60 % 60) ++
        ':' :: (paddedDigits 2 (second % 60 + if leap then 1 else 0) ++ fraction)) := by
    simp [clockDigits]
  rw [text]
  simp only [readClock, bind, Except.bind, colon,
    readField_padded (by omega) ⟨Nat.zero_le _, hours⟩,
    readField_padded (by omega) ⟨Nat.zero_le _, minutes⟩,
    readField_padded (by omega) ⟨Nat.zero_le _, seconds⟩, part]
  rfl

theorem of?_parts (m : Moment) : of? m.seconds m.nanos = some m := by
  rw [of?, dif_pos m.inRange, dif_pos m.nanosBound]

theorem year_range (m : Moment) :
    -262143 ≤ (Date.ofDays (m.seconds / secondsPerDay)).year ∧
      (Date.ofDays (m.seconds / secondsPerDay)).year ≤ 262142 := by
  obtain ⟨low, high⟩ := m.inRange
  have day : secondsPerDay = 86400 := rfl
  rw [earliest, day] at low
  rw [latest, day] at high
  rw [day]
  apply year_bounds
  · omega
  · have next : (262142 : Int) + 1 = 262143 := rfl
    rw [next]
    omega

theorem ofCivil_parts (m : Moment) {second : Nat} (ofDay : second = m.seconds % secondsPerDay) :
    ofCivil (Date.ofDays (m.seconds / secondsPerDay))
        ⟨second / 3600, second / 60 % 60,
          second % 60 + if decide (nanosPerSecond ≤ m.nanos) then 1 else 0,
          m.nanos % nanosPerSecond⟩ 0 = .ok m := by
  have day : secondsPerDay = 86400 := rfl
  have billion : nanosPerSecond = 1000000000 := rfl
  have valid := ofDays_valid (m.seconds / secondsPerDay)
  have years := year_range m
  have bound := m.nanosBound
  rw [ofCivil, if_pos ⟨valid, years.1, years.2, by decide⟩]
  rw [day] at ofDay
  rw [billion] at bound
  simp only [day, billion]
  by_cases leap : 1000000000 ≤ m.nanos
  -- A leap second was printed as second 60 and counts as second 59 with a second of nanoseconds.
  · have last : second % 60 = 59 := by omega
    have seconds : (Date.ofDays (m.seconds / 86400)).toDays * 86400 +
        (((second / 3600 : Nat) : Int) * 3600 + ((second / 60 % 60 : Nat) : Int) * 60 +
          ((59 : Nat) : Int)) - 0 = m.seconds := by
      rw [toDays_ofDays]
      omega
    have nanos : m.nanos % 1000000000 + 1000000000 = m.nanos := by omega
    simp only [leap, decide_true, ↓reduceIte, last, seconds, nanos, of?_parts]
  · have plain : second % 60 ≠ 60 := by omega
    have seconds : (Date.ofDays (m.seconds / 86400)).toDays * 86400 +
        (((second / 3600 : Nat) : Int) * 3600 + ((second / 60 % 60 : Nat) : Int) * 60 +
          ((second % 60 : Nat) : Int)) - 0 = m.seconds := by
      rw [toDays_ofDays]
      omega
    have nanos : m.nanos % 1000000000 = m.nanos := by omega
    simp only [leap, decide_false, ↓reduceIte, Bool.false_eq_true, Nat.add_zero, plain, seconds,
      nanos, of?_parts]

/-- A moment is read back however many digits its fraction is written with. -/
theorem ofChars_fraction (m : Moment) {fraction : List Char}
    (part : readFraction fraction = .ok (m.nanos % nanosPerSecond, ['Z'])) :
    ofChars (dateDigits (Date.ofDays (m.seconds / secondsPerDay)) ++ 'T' ::
      (clockDigits (m.seconds % secondsPerDay).toNat (nanosPerSecond ≤ m.nanos) ++ fraction)) =
        .ok m := by
  obtain ⟨second, ofDay⟩ : ∃ second, second = (m.seconds % secondsPerDay).toNat := ⟨_, rfl⟩
  have day : secondsPerDay = 86400 := rfl
  have inside : second < 86400 := by
    rw [ofDay, day]
    omega
  have same : (second : Int) = m.seconds % secondsPerDay := by
    rw [ofDay, day]
    omega
  have years := year_range m
  have date := readDate_digits (ofDays_valid (m.seconds / secondsPerDay)) (by omega) (by omega)
    ('T' :: (clockDigits second (nanosPerSecond ≤ m.nanos) ++ fraction))
  have clock := readClock_digits inside (nanosPerSecond ≤ m.nanos) part
  have offset : readOffset (trimStart ['Z']) = .ok (0, []) := rfl
  rw [← ofDay]
  simp only [ofChars, bind, Except.bind, date, readSeparator, true_or, ↓reduceIte, clock, offset]
  exact ofCivil_parts m same

theorem ofChars_chars (m : Moment) : ofChars m.chars = .ok m := by
  have part : m.nanos % nanosPerSecond < nanosPerSecond := Nat.mod_lt _ (by decide)
  have text : m.chars = dateDigits (Date.ofDays (m.seconds / secondsPerDay)) ++
      'T' :: (clockDigits (m.seconds % secondsPerDay).toNat (nanosPerSecond ≤ m.nanos) ++
        (fractionDigits (m.nanos % nanosPerSecond) ++ ['Z'])) := by
    simp [chars]
  rw [text]
  exact ofChars_fraction m (readFraction_digits part [])

end SecretKeeper.Moment

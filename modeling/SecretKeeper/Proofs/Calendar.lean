import SecretKeeper.Calendar

/-!
Every day has a date, and the date gives the day back. A year is as long as its months together,
and the mean year is never off by more than one.
-/
namespace SecretKeeper.Calendar

theorem daysBeforeYear_eq (year : Int) :
    daysBeforeYear year =
      365 * (year - 1970) + ((year - 1) / 4 - (year - 1) / 100 + (year - 1) / 400 - 477) := by
  have start : leapDaysBefore 1970 = 477 := by decide
  rw [daysBeforeYear, start, leapDaysBefore]

theorem daysBeforeYear_mean (year : Int) :
    146097 * (year - 1970) - 407 ≤ 400 * daysBeforeYear year ∧
      400 * daysBeforeYear year ≤ 146097 * (year - 1970) + 490 := by
  have quarter : (year - 1) / 4 = 100 * ((year - 1) / 400) + (year - 1) % 400 / 4 := by omega
  have century : (year - 1) / 100 = 4 * ((year - 1) / 400) + (year - 1) % 400 / 100 := by omega
  rw [daysBeforeYear_eq, quarter, century]
  omega

theorem daysBeforeYear_mono {first second : Int} (le : first ≤ second) :
    daysBeforeYear first ≤ daysBeforeYear second := by
  have lower := daysBeforeYear_mean first
  have upper := daysBeforeYear_mean second
  by_cases same : first = second
  · exact Int.le_of_eq (congrArg daysBeforeYear same)
  · omega

theorem yearOfDay_bounds (days : Int) :
    daysBeforeYear (yearOfDay days) ≤ days ∧ days < daysBeforeYear (yearOfDay days + 1) := by
  obtain ⟨guess, mean⟩ : ∃ guess, guess = 1970 + days * 400 / 146097 := ⟨_, rfl⟩
  have before := daysBeforeYear_mean (guess - 1)
  have after := daysBeforeYear_mean (guess + 1 + 1)
  -- By the mean, the day comes after the year before the guess and before the second year after it.
  simp only [yearOfDay, ← mean]
  split
  · rw [Int.sub_add_cancel]
    omega
  · split <;> omega

theorem isLeap_iff (year : Int) :
    isLeap year = true ↔ year % 4 = 0 ∧ (year % 100 ≠ 0 ∨ year % 400 = 0) := by
  simp [isLeap]

theorem daysBeforeYear_next (year : Int) :
    daysBeforeYear (year + 1) = daysBeforeYear year + if isLeap year then 366 else 365 := by
  have fourth : year / 4 = (year - 1) / 4 + if year % 4 = 0 then 1 else 0 := by split <;> omega
  have century : year / 100 = (year - 1) / 100 + if year % 100 = 0 then 1 else 0 := by
    split <;> omega
  have cycle : year / 400 = (year - 1) / 400 + if year % 400 = 0 then 1 else 0 := by
    split <;> omega
  simp only [daysBeforeYear_eq, Int.add_sub_cancel, isLeap_iff, fourth, century, cycle]
  by_cases four : year % 4 = 0 <;> by_cases hundred : year % 100 = 0 <;>
    by_cases four' : year % 400 = 0 <;> simp only [four, hundred, four'] <;> simp <;> omega

def total (lengths : List Nat) : Nat := lengths.foldr (· + ·) 0

theorem total_months (year : Int) :
    total (monthLengths year) = if isLeap year then 366 else 365 := by
  unfold monthLengths
  split <;> rfl

theorem daysInMonth_le (year : Int) (month : Nat) : daysInMonth year month ≤ 31 := by
  have all : ∀ length ∈ monthLengths year, length ≤ 31 := by
    unfold monthLengths
    split <;> decide
  rw [daysInMonth, List.getD_eq_getElem?_getD]
  cases found : (monthLengths year)[month - 1]? with
  | none => exact Nat.zero_le 31
  | some length => exact all length (List.mem_of_getElem? found)

theorem splitDays_within (lengths : List Nat) {days : Nat} (inside : days < total lengths) :
    (splitDays lengths days).1 < lengths.length ∧
      (splitDays lengths days).2 < lengths.getD (splitDays lengths days).1 0 := by
  induction lengths generalizing days with
  | nil => exact absurd inside (Nat.not_lt_zero days)
  | cons length rest ih =>
    simp only [splitDays]
    split
    · rename_i here
      exact ⟨Nat.succ_pos _, here⟩
    · rename_i past
      have sum : total (length :: rest) = length + total rest := rfl
      have inside' : days - length < total rest := by omega
      have later := ih inside'
      simp only [List.length_cons, List.getD_cons_succ]
      omega

theorem splitDays_days (lengths : List Nat) {days : Nat} (inside : days < total lengths) :
    total (lengths.take (splitDays lengths days).1) + (splitDays lengths days).2 = days := by
  induction lengths generalizing days with
  | nil => exact absurd inside (Nat.not_lt_zero days)
  | cons length rest ih =>
    simp only [splitDays]
    split
    · exact Nat.zero_add days
    · rename_i past
      have sum (more : List Nat) : total (length :: more) = length + total more := rfl
      have inside' : days - length < total rest := by
        have whole := sum rest
        omega
      have later := ih inside'
      rw [List.take_succ_cons, sum]
      omega

theorem dayOfYear_lt (days : Int) :
    (days - daysBeforeYear (yearOfDay days)).toNat < total (monthLengths (yearOfDay days)) := by
  have bounds := yearOfDay_bounds days
  have length := daysBeforeYear_next (yearOfDay days)
  rw [total_months]
  cases leap : isLeap (yearOfDay days) <;>
    simp only [leap, ↓reduceIte, Bool.false_eq_true] at length ⊢ <;> omega

theorem ofDays_valid (days : Int) : (Date.ofDays days).IsValid := by
  have within := splitDays_within _ (dayOfYear_lt days)
  have months : (monthLengths (yearOfDay days)).length = 12 := rfl
  rw [months] at within
  simp only [Date.ofDays, Date.IsValid, daysInMonth, Nat.add_sub_cancel]
  exact ⟨Nat.le_add_left 1 _, within.1, Nat.le_add_left 1 _, within.2⟩

theorem toDays_ofDays (days : Int) : (Date.ofDays days).toDays = days := by
  have bounds := yearOfDay_bounds days
  have split := splitDays_days _ (dayOfYear_lt days)
  simp only [Date.ofDays, Date.toDays, daysBeforeMonth, Nat.add_sub_cancel]
  rw [total] at split
  omega

theorem ofDays_year (days : Int) : (Date.ofDays days).year = yearOfDay days := rfl

theorem year_bounds {days first last : Int} (start : daysBeforeYear first ≤ days)
    (stop : days < daysBeforeYear (last + 1)) :
    first ≤ (Date.ofDays days).year ∧ (Date.ofDays days).year ≤ last := by
  have bounds := yearOfDay_bounds days
  rw [ofDays_year]
  constructor
  · apply Int.not_lt.mp
    intro early
    have order : daysBeforeYear (yearOfDay days + 1) ≤ daysBeforeYear first :=
      daysBeforeYear_mono (by omega)
    omega
  · apply Int.not_lt.mp
    intro late
    have order : daysBeforeYear (last + 1) ≤ daysBeforeYear (yearOfDay days) :=
      daysBeforeYear_mono (by omega)
    omega

end SecretKeeper.Calendar

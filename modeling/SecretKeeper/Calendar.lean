/-!
The civil calendar, extended to all years: days counted from 1 January 1970, and back.
-/
namespace SecretKeeper.Calendar

structure Date where
  year : Int
  month : Nat
  day : Nat
  deriving DecidableEq, Repr

def isLeap (year : Int) : Bool := year % 4 = 0 && (year % 100 ≠ 0 || year % 400 = 0)

def monthLengths (year : Int) : List Nat :=
  [31, if isLeap year then 29 else 28, 31, 30, 31, 30, 31, 31, 30, 31, 30, 31]

def daysInMonth (year : Int) (month : Nat) : Nat := (monthLengths year).getD (month - 1) 0

def leapDaysBefore (year : Int) : Int :=
  (year - 1) / 4 - (year - 1) / 100 + (year - 1) / 400

def daysBeforeYear (year : Int) : Int :=
  365 * (year - 1970) + (leapDaysBefore year - leapDaysBefore 1970)

def daysBeforeMonth (year : Int) (month : Nat) : Nat :=
  ((monthLengths year).take (month - 1)).foldr (· + ·) 0

namespace Date

def IsValid (d : Date) : Prop :=
  1 ≤ d.month ∧ d.month ≤ 12 ∧ 1 ≤ d.day ∧ d.day ≤ daysInMonth d.year d.month

instance (d : Date) : Decidable d.IsValid :=
  inferInstanceAs (Decidable
    (1 ≤ d.month ∧ d.month ≤ 12 ∧ 1 ≤ d.day ∧ d.day ≤ daysInMonth d.year d.month))

def toDays (d : Date) : Int := daysBeforeYear d.year + daysBeforeMonth d.year d.month + (d.day - 1)

end Date

def splitDays : List Nat → Nat → Nat × Nat
  | [], days => (0, days)
  | length :: rest, days =>
    if days < length then (0, days)
    else ((splitDays rest (days - length)).1 + 1, (splitDays rest (days - length)).2)

/-- The year of a day. The mean year gives it up to one year. -/
def yearOfDay (days : Int) : Int :=
  let guess := 1970 + days * 400 / 146097
  if days < daysBeforeYear guess then guess - 1
  else if daysBeforeYear (guess + 1) ≤ days then guess + 1
  else guess

def Date.ofDays (days : Int) : Date :=
  let year := yearOfDay days
  let (months, rest) := splitDays (monthLengths year) (days - daysBeforeYear year).toNat
  ⟨year, months + 1, rest + 1⟩

end SecretKeeper.Calendar

import SecretKeeper.Moment.Basic

/-!
Moments as texts: date, letter T, time of day and letter Z. The fraction of the second takes as
few digits of 0, 3, 6 and 9 as it needs; a year outside 0 to 9999 carries its sign.
-/
namespace SecretKeeper

open Calendar

def paddedDigits (width n : Nat) : List Char :=
  let digits := Nat.toDigits 10 n
  List.replicate (width - digits.length) '0' ++ digits

namespace Moment

def yearDigits (year : Int) : List Char :=
  if 0 ≤ year ∧ year ≤ 9999 then paddedDigits 4 year.toNat
  else (if year < 0 then '-' else '+') :: paddedDigits 4 year.natAbs

def dateDigits (d : Date) : List Char :=
  yearDigits d.year ++ '-' :: paddedDigits 2 d.month ++ '-' :: paddedDigits 2 d.day

def fractionDigits (nanos : Nat) : List Char :=
  if nanos = 0 then []
  else if nanos % 1000000 = 0 then '.' :: paddedDigits 3 (nanos / 1000000)
  else if nanos % 1000 = 0 then '.' :: paddedDigits 6 (nanos / 1000)
  else '.' :: paddedDigits 9 nanos

/-- Hours, minutes and seconds; a leap second is written as second 60. -/
def clockDigits (second : Nat) (leap : Bool) : List Char :=
  paddedDigits 2 (second / 3600) ++ ':' :: paddedDigits 2 (second / 60 % 60) ++
    ':' :: paddedDigits 2 (second % 60 + if leap then 1 else 0)

def chars (m : Moment) : List Char :=
  dateDigits (Date.ofDays (m.seconds / secondsPerDay)) ++ 'T' ::
    clockDigits (m.seconds % secondsPerDay).toNat (nanosPerSecond ≤ m.nanos) ++
    fractionDigits (m.nanos % nanosPerSecond) ++ ['Z']

def text (m : Moment) : String := String.ofList m.chars

end Moment
end SecretKeeper

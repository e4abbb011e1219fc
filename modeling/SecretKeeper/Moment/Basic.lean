import SecretKeeper.Calendar

/-!
An instant of universal time, to the nanosecond. A leap second is the last second of a minute with
a nanosecond count of one full second or more.
-/
namespace SecretKeeper

open Calendar

def secondsPerDay : Int := 86400

def nanosPerSecond : Nat := 1000000000

namespace Moment

def earliest : Int := daysBeforeYear (-262143) * secondsPerDay

def latest : Int := daysBeforeYear 262143 * secondsPerDay - 1

end Moment

/-- Seconds count from 1 January 1970. -/
structure Moment where
  seconds : Int
  nanos : Nat
  inRange : Moment.earliest ≤ seconds ∧ seconds ≤ Moment.latest
  nanosBound : nanos < nanosPerSecond ∨ nanos < 2 * nanosPerSecond ∧ seconds % 60 = 59
  deriving DecidableEq, Repr

namespace Moment

def epoch : Moment := ⟨0, 0, by decide, by decide⟩

def of? (seconds : Int) (nanos : Nat) : Option Moment :=
  if range : earliest ≤ seconds ∧ seconds ≤ latest then
    if bound : nanos < nanosPerSecond ∨ nanos < 2 * nanosPerSecond ∧ seconds % 60 = 59 then
      some ⟨seconds, nanos, range, bound⟩
    else none
  else none

end Moment
end SecretKeeper

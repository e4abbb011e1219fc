/-!
How long a kept secret counts as fresh, and how long a backend may take. All spans of time are
whole nanoseconds.
-/
namespace SecretKeeper

def nanosPerMilli : Nat := 1000000

def milliseconds (n : Nat) : Nat := n * nanosPerMilli

/-- The whole milliseconds of a span of time, cut to a word. -/
def wholeMillis (span : Nat) : UInt64 := .ofNat (span / nanosPerMilli)

def secondsAndNanos (span : Nat) : Nat × Nat :=
  (span / (1000 * nanosPerMilli), span % (1000 * nanosPerMilli))

structure Timing where
  freshThreshold : Nat
  secretDeadline : Nat
  listDeadline : Nat
  deriving DecidableEq, Repr

namespace Timing

def ofMillis (fresh fetch list : Nat) : Timing :=
  ⟨milliseconds fresh, milliseconds fetch, milliseconds list⟩

def default : Timing := .ofMillis 1000 500 5000

end Timing
end SecretKeeper

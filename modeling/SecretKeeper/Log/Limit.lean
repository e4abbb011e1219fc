import SecretKeeper.Log.Event
import SecretKeeper.Text.Numeral

/-!
How far down in importance things are let through, and the words and numbers that say so.
-/
namespace SecretKeeper.Log

open Text

/-- Nothing is let through without a level; with one, that level and all that are more important. -/
structure Limit where
  level : Option Level
  deriving DecidableEq, Repr

namespace Limit

def off : Limit := ⟨none⟩

def upTo (level : Level) : Limit := ⟨some level⟩

def rank (l : Limit) : Nat :=
  match l.level with
  | some level => level.rank
  | none => 0

def admits (l : Limit) (level : Level) : Bool := level.rank ≤ l.rank

def max (a b : Limit) : Limit := if a.rank < b.rank then b else a

def greatest (ls : List Limit) : Limit := ls.foldl max off

def ofRank? : Nat → Option Limit
  | 0 => some off
  | 1 => some (upTo .error)
  | 2 => some (upTo .warn)
  | 3 => some (upTo .info)
  | 4 => some (upTo .debug)
  | 5 => some (upTo .trace)
  | _ => none

def ofWord? (s : List Char) : Option Limit :=
  let word := String.ofList (s.map Char.toLower)
  if word = "off" then some off
  else if word = "error" then some (upTo .error)
  else if word = "warn" then some (upTo .warn)
  else if word = "info" then some (upTo .info)
  else if word = "debug" then some (upTo .debug)
  else if word = "trace" then some (upTo .trace)
  else none

def ofChars? (s : List Char) : Option Limit :=
  match readNumeral 10 (Nat.pow 2 64 - 1) s with
  | .ok n => ofRank? n
  | .error _ => ofWord? s

theorem rank_max (a b : Limit) : (max a b).rank = Nat.max a.rank b.rank := by
  grind [max]

end Limit
end SecretKeeper.Log

/-!
Sets of characters as ranges of code points. The ranges ascend and never touch each other, so that
a set is written in one way only.
-/
namespace SecretKeeper.Text

structure CharSet where
  ranges : List (Nat × Nat)
  deriving DecidableEq, Repr

namespace CharSet

def lastCode : Nat := 0x10FFFF

def empty : CharSet := ⟨[]⟩

def range (first last : Char) : CharSet := ⟨[(first.toNat, last.toNat)]⟩

def single (c : Char) : CharSet := range c c

def isWithin (n : Nat) (r : Nat × Nat) : Bool := r.1 ≤ n && n ≤ r.2

def contains (s : CharSet) (c : Char) : Bool := s.ranges.any (isWithin c.toNat)

def insertRange (r : Nat × Nat) : List (Nat × Nat) → List (Nat × Nat)
  | [] => [r]
  | t :: ts =>
    if r.2 + 1 < t.1 then r :: t :: ts
    else if t.2 + 1 < r.1 then t :: insertRange r ts
    else insertRange (Nat.min r.1 t.1, Nat.max r.2 t.2) ts

def union (a b : CharSet) : CharSet := ⟨a.ranges.foldr insertRange b.ranges⟩

def unions (sets : List CharSet) : CharSet := sets.foldr union empty

def gaps (next : Nat) : List (Nat × Nat) → List (Nat × Nat)
  | [] => if next ≤ lastCode then [(next, lastCode)] else []
  | r :: rs => if next < r.1 then (next, r.1 - 1) :: gaps (r.2 + 1) rs else gaps (r.2 + 1) rs

def complement (s : CharSet) : CharSet := ⟨gaps 0 s.ranges⟩

def all : CharSet := complement empty

def intersection (a b : CharSet) : CharSet := (a.complement.union b.complement).complement

def difference (a b : CharSet) : CharSet := a.intersection b.complement

def symmetricDifference (a b : CharSet) : CharSet := (a.union b).difference (a.intersection b)

def digits : CharSet := range '0' '9'

def capitals : CharSet := range 'A' 'Z'

def smallLetters : CharSet := range 'a' 'z'

def bothCases (s : CharSet) : CharSet :=
  unions [s, ⟨(s.intersection smallLetters).ranges.map fun r => (r.1 - 32, r.2 - 32)⟩,
    ⟨(s.intersection capitals).ranges.map fun r => (r.1 + 32, r.2 + 32)⟩]

def isAscii (s : CharSet) : Bool := s.ranges.all fun r => r.2 < 128

end CharSet
end SecretKeeper.Text

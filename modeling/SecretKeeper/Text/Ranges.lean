/-!
Sets of characters as ranges of code points, both ends included, in ascending order.
-/
namespace SecretKeeper.Text

def inRanges (n : Nat) : List (Nat × Nat) → Bool
  | [] => false
  | (first, last) :: rest => if n < first then false else n ≤ last || inRanges n rest

end SecretKeeper.Text

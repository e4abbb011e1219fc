/-!
Cutting texts at byte positions. A position inside of a character cuts nothing.
-/
namespace SecretKeeper.Text

def dropBytes? : Nat → List Char → Option (List Char)
  | 0, s => some s
  | _ + 1, [] => none
  | n + 1, c :: s => if c.utf8Size ≤ n + 1 then dropBytes? (n + 1 - c.utf8Size) s else none

def takeBytes? : Nat → List Char → Option (List Char)
  | 0, _ => some []
  | _ + 1, [] => none
  | n + 1, c :: s =>
    if c.utf8Size ≤ n + 1 then (takeBytes? (n + 1 - c.utf8Size) s).map (c :: ·) else none

def cutBytes? (start stop : Nat) (s : List Char) : Option (List Char) :=
  (dropBytes? start s).bind (takeBytes? (stop - start))

end SecretKeeper.Text

import SecretKeeper.Text.Letters
import SecretKeeper.Text.Marks
import SecretKeeper.Text.Signs

/-!
Characters that a quoted text spells out by their number: those that leave no mark of their own,
which are controls, formats, separators other than the space, private and unassigned code points
and fillers, and those that join the character before them.
-/
namespace SecretKeeper.Text

def fillers : List (Nat × Nat) := [(0x115F, 0x1160), (0x3164, 0x3164), (0xFFA0, 0xFFA0)]

def isMarking (c : Char) : Bool :=
  isLetter c || isMark c || isNumber c || isPunctuation c || isSymbol c

def isPrintable (c : Char) : Bool := c == ' ' || isMarking c && !inRanges c.toNat fillers

end SecretKeeper.Text

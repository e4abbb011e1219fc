import SecretKeeper.Text.AsciiClass
import SecretKeeper.Text.Pattern.Flags

/-!
What a backslash makes of the characters behind it.
-/
namespace SecretKeeper.Text

inductive Escape where
  | char (c : Char)
  | set (s : CharSet)
  | look (condition : Look)
  deriving DecidableEq, Repr

namespace Escape

def hexDigit? (c : Char) : Option Nat :=
  if c.isDigit then some (c.toNat - '0'.toNat)
  else if 'a' ≤ c && c ≤ 'f' then some (c.toNat - 'a'.toNat + 10)
  else if 'A' ≤ c && c ≤ 'F' then some (c.toNat - 'A'.toNat + 10)
  else none

def readHex (f : Flags) : Nat → Nat → List Char → Option (Nat × List Char)
  | 0, value, s => some (value, s)
  | digits + 1, value, s =>
    match f.skip s with
    | [] => none
    | c :: rest => (hexDigit? c).bind fun d => readHex f digits (value * 16 + d) rest

/-- A character by its number. Two digits alone stand for a byte unless the pattern is in Unicode,
and a byte is a character only in ASCII. -/
def readNumbered (f : Flags) (digits : Nat) (s : List Char) : Option (Escape × List Char) := do
  let (n, rest) ← readHex f digits 0 s
  if digits = 2 && !f.unicode && 128 ≤ n then none
  else if n.isValidChar then some (char (Char.ofNat n), rest)
  else none

def class? (f : Flags) (letter : Char) : Option CharSet :=
  if f.unicode then none
  else if letter = 'd' then some .digits
  else if letter = 's' then some .spaces
  else if letter = 'w' then some .wordCharacters
  else none

def look? (f : Flags) (letter : Char) : Option Look :=
  if letter = 'A' then some .start
  else if letter = 'z' then some .finish
  else if f.unicode then none
  else if letter = 'b' then some .wordEdge
  else if letter = 'B' then some .noWordEdge
  else if letter = '<' then some .wordStart
  else if letter = '>' then some .wordEnd
  else none

def control? (letter : Char) : Option Char :=
  if letter = 'a' then some '\x07'
  else if letter = 'f' then some '\x0c'
  else if letter = 'n' then some '\n'
  else if letter = 'r' then some '\r'
  else if letter = 't' then some '\t'
  else if letter = 'v' then some '\x0b'
  else none

def isPlain (c : Char) : Bool := c.toNat < 128 && !c.isAlphanum && c != '<' && c != '>'

def read (f : Flags) : List Char → Option (Escape × List Char)
  | [] => none
  | c :: s =>
    if c = 'x' then readNumbered f 2 s
    else if c = 'u' then readNumbered f 4 s
    else if c = 'U' then readNumbered f 8 s
    else
      let found := ((class? f c).map set).or (((look? f c).map look).or
        (((control? c).map char).or (if isPlain c then some (char c) else none)))
      found.map (·, s)

end Escape
end SecretKeeper.Text

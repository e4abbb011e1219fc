import SecretKeeper.Text.Printable

/-!
A text as it is shown to a developer: between quotes, with backslash escapes for the quote, the
backslash, common controls, and every character that would be invisible or join its neighbour.
-/
namespace SecretKeeper.Text

def hexDigits (n : Nat) : List Char := Nat.toDigits 16 n

def showChar (c : Char) : List Char :=
  if c = '\x00' then ['\\', '0']
  else if c = '\t' then ['\\', 't']
  else if c = '\r' then ['\\', 'r']
  else if c = '\n' then ['\\', 'n']
  else if c = '\\' then ['\\', '\\']
  else if c = '"' then ['\\', '"']
  else if isPrintable c && !isJoining c then [c]
  else ['\\', 'u', '\x7b'] ++ hexDigits c.toNat ++ ['\x7d']

def shownChars (s : List Char) : List Char := '"' :: s.flatMap showChar ++ ['"']

def shown (s : String) : String := String.ofList (shownChars s.toList)

end SecretKeeper.Text

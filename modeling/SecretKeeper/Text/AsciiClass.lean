import SecretKeeper.Text.CharSet

/-!
Classes of ASCII characters that have a name.
-/
namespace SecretKeeper.Text

namespace CharSet

def letters : CharSet := capitals.union smallLetters

def alphanumerics : CharSet := letters.union digits

def wordCharacters : CharSet := alphanumerics.union (single '_')

def spaces : CharSet := unions [range '\t' '\r', single ' ']

def ofName? (name : String) : Option CharSet :=
  if name = "alnum" then some alphanumerics
  else if name = "alpha" then some letters
  else if name = "ascii" then some (range '\x00' '\x7f')
  else if name = "blank" then some (unions [single '\t', single ' '])
  else if name = "cntrl" then some (unions [range '\x00' '\x1f', single '\x7f'])
  else if name = "digit" then some digits
  else if name = "graph" then some (range '!' '~')
  else if name = "lower" then some smallLetters
  else if name = "print" then some (range ' ' '~')
  else if name = "punct" then some ((range '!' '~').difference alphanumerics)
  else if name = "space" then some spaces
  else if name = "upper" then some capitals
  else if name = "word" then some wordCharacters
  else if name = "xdigit" then some (unions [digits, range 'A' 'F', range 'a' 'f'])
  else none

end CharSet
end SecretKeeper.Text

/-!
Unsigned numerals: an optional plus sign and digits of one base, with a ceiling on the value.
The first character that is no digit, or takes the value over the ceiling, decides the fault.
Beside them, the texts that stand for a real number.
-/
namespace SecretKeeper.Text

inductive NumeralFault where
  | empty
  | badDigit
  | tooLarge
  deriving DecidableEq, Repr

namespace NumeralFault

def message : NumeralFault → String
  | empty => "cannot parse integer from empty string"
  | badDigit => "invalid digit found in string"
  | tooLarge => "number too large to fit in target type"

end NumeralFault

def digit? (base : Nat) (c : Char) : Option Nat :=
  if '0' ≤ c ∧ c.toNat - '0'.toNat < base then some (c.toNat - '0'.toNat) else none

def readDigits (base ceiling : Nat) : List Char → Nat → Except NumeralFault Nat
  | [], n => .ok n
  | c :: cs, n =>
    match digit? base c with
    | none => .error .badDigit
    | some d =>
      if n * base + d ≤ ceiling then readDigits base ceiling cs (n * base + d)
      else .error .tooLarge

/-- A sign alone is not a numeral, and a minus sign is never part of one. -/
def readNumeral (base ceiling : Nat) : List Char → Except NumeralFault Nat
  | [] => .error .empty
  | ['+'] => .error .badDigit
  | '+' :: cs => readDigits base ceiling cs 0
  | cs => readDigits base ceiling cs 0

def withoutSign : List Char → List Char
  | '+' :: cs => cs
  | '-' :: cs => cs
  | cs => cs

def isExponent : List Char → Bool
  | [] => true
  | c :: cs =>
    (c = 'e' || c = 'E') && !(withoutSign cs).isEmpty && (withoutSign cs).all Char.isDigit

/-- Digits around an optional point, at least one of them, and an optional exponent. -/
def isScientific (s : List Char) : Bool :=
  let whole := s.takeWhile Char.isDigit
  match s.dropWhile Char.isDigit with
  | '.' :: rest =>
    !(whole.isEmpty && (rest.takeWhile Char.isDigit).isEmpty) &&
      isExponent (rest.dropWhile Char.isDigit)
  | rest => !whole.isEmpty && isExponent rest

def isReal (s : List Char) : Bool :=
  let unsigned := withoutSign s
  ["inf", "infinity", "nan"].contains (String.ofList (unsigned.map Char.toLower)) ||
    isScientific unsigned

end SecretKeeper.Text

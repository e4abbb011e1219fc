/-!
JSON values and their compact texts. Members keep their order.
-/
namespace SecretKeeper.Json

inductive Value where
  | null
  | flag (value : Bool)
  | whole (value : Int)
  | text (value : String)
  | list (items : List Value)
  | object (members : List (String × Value))

def hexDigit (n : Nat) : Char := Nat.digitChar n

/-- Quotes, backslashes and control characters are escaped, all else stands for itself. -/
def writeChar (c : Char) : List Char :=
  if c = '"' then ['\\', '"']
  else if c = '\\' then ['\\', '\\']
  else if c = '\x08' then ['\\', 'b']
  else if c = '\t' then ['\\', 't']
  else if c = '\n' then ['\\', 'n']
  else if c = '\x0c' then ['\\', 'f']
  else if c = '\r' then ['\\', 'r']
  else if c.toNat < 32 then ['\\', 'u', '0', '0', hexDigit (c.toNat / 16), hexDigit (c.toNat % 16)]
  else [c]

def quoted (s : String) : List Char := '"' :: s.toList.flatMap writeChar ++ ['"']

def wholeDigits (n : Int) : List Char :=
  if n < 0 then '-' :: Nat.toDigits 10 n.natAbs else Nat.toDigits 10 n.natAbs

namespace Value

mutual

def chars : Value → List Char
  | null => ['n', 'u', 'l', 'l']
  | flag true => ['t', 'r', 'u', 'e']
  | flag false => ['f', 'a', 'l', 's', 'e']
  | whole n => wholeDigits n
  | text s => quoted s
  | list items => '[' :: itemsChars items ++ [']']
  | object members => '\x7b' :: membersChars members ++ ['\x7d']

def itemsChars : List Value → List Char
  | [] => []
  | [v] => chars v
  | v :: w :: vs => chars v ++ ',' :: itemsChars (w :: vs)

def memberChars : String × Value → List Char
  | (key, v) => quoted key ++ ':' :: chars v

def membersChars : List (String × Value) → List Char
  | [] => []
  | [m] => memberChars m
  | m :: n :: ms => memberChars m ++ ',' :: membersChars (n :: ms)

end

def render (v : Value) : String := String.ofList v.chars

end Value
end SecretKeeper.Json

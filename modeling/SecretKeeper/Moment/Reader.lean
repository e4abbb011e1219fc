import SecretKeeper.Moment.Basic
import SecretKeeper.Text.Blank

/-!
Moments from texts: a date, a separator, a time of day and an offset from universal time. The form
is that of RFC 3339, relaxed: white space may stand between the parts, months and the like may have
one digit, the year may have a sign and more digits, and the offset may lack its colon.
-/
namespace SecretKeeper.Moment

open Calendar Text

inductive Fault where
  | outOfRange
  | impossible
  | invalid
  | tooShort
  | trailing
  deriving DecidableEq, Repr

namespace Fault

def message : Fault → String
  | outOfRange => "input is out of range"
  | impossible => "no possible date and time matching input"
  | invalid => "input contains invalid characters"
  | tooShort => "premature end of input"
  | trailing => "trailing input"

end Fault

abbrev Part (α : Type) := α × List Char

def digitsValue (digits : List Char) : Nat :=
  digits.foldl (fun n c => n * 10 + (c.toNat - '0'.toNat)) 0

def readDigits (width : Nat) (s : List Char) : Except Fault (Part (List Char)) :=
  match s with
  | [] => .error .tooShort
  | c :: _ =>
    let digits := (s.take width).takeWhile Char.isDigit
    if c.isDigit then .ok (digits, s.drop digits.length) else .error .invalid

def readField (width least greatest : Nat) (s : List Char) : Except Fault (Part Nat) := do
  let (digits, rest) ← readDigits width (trimStart s)
  let n := digitsValue digits
  if least ≤ n ∧ n ≤ greatest then return (n, rest) else throw .outOfRange

def readMark (mark : Char) (s : List Char) : Except Fault (List Char) :=
  match trimStart s with
  | [] => .error .tooShort
  | c :: rest => if c = mark then .ok rest else .error .invalid

/-- A year without a sign has at most four digits; with one it only has to fit 32 bits. -/
def readYear (s : List Char) : Except Fault (Part Int) := do
  match trimStart s with
  | '-' :: rest =>
    let (digits, rest) ← readDigits rest.length rest
    if digitsValue digits ≤ Nat.pow 2 31 then return (-(digitsValue digits : Int), rest)
    else throw .outOfRange
  | '+' :: rest =>
    let (digits, rest) ← readDigits rest.length rest
    if digitsValue digits < Nat.pow 2 31 then return ((digitsValue digits : Int), rest)
    else throw .outOfRange
  | s =>
    let (digits, rest) ← readDigits 4 s
    return ((digitsValue digits : Int), rest)

def readDate (s : List Char) : Except Fault (Part Date) := do
  let (year, s) ← readYear s
  let s ← readMark '-' s
  let (month, s) ← readField 2 1 12 s
  let s ← readMark '-' s
  let (day, s) ← readField 2 1 31 s
  return (⟨year, month, day⟩, s)

def readSeparator : List Char → Except Fault (List Char)
  | [] => .error .tooShort
  | c :: rest => if c = 'T' ∨ c = 't' ∨ c = ' ' then .ok rest else .error .invalid

def readFraction (s : List Char) : Except Fault (Part Nat) :=
  match s with
  | '.' :: rest => do
    let (digits, rest) ← readDigits 9 rest
    return (digitsValue digits * Nat.pow 10 (9 - digits.length), rest.dropWhile Char.isDigit)
  | _ => .ok (0, s)

structure Clock where
  hour : Nat
  minute : Nat
  second : Nat
  nanos : Nat
  deriving DecidableEq, Repr

def readClock (s : List Char) : Except Fault (Part Clock) := do
  let (hour, s) ← readField 2 0 23 s
  let s ← readMark ':' s
  let (minute, s) ← readField 2 0 59 s
  let s ← readMark ':' s
  let (second, s) ← readField 2 0 60 s
  let (nanos, s) ← readFraction s
  return (⟨hour, minute, second, nanos⟩, s)

def utf8Length (s : List Char) : Nat := s.foldr (fun c n => c.utf8Size + n) 0

def readTwoDigits (s : List Char) : Except Fault (Part Nat) :=
  match s with
  | c :: d :: rest =>
    if c.isDigit ∧ d.isDigit then .ok (digitsValue [c, d], rest) else .error .invalid
  | _ => if utf8Length s < 2 then .error .tooShort else .error .invalid

def readSignedOffset (negative : Bool) (s : List Char) : Except Fault (Part Int) := do
  let (hours, s) ← readTwoDigits s
  let (minutes, s) ← readTwoDigits (s.dropWhile fun c => c == ':' || isBlank c)
  let seconds : Int := hours * 3600 + minutes * 60
  if minutes < 60 then return (if negative then -seconds else seconds, s)
  else throw .outOfRange

/-- The offset in seconds: Z, the letters UTC, or a sign with hours and minutes. The minus sign may
be the hyphen or the typographic one. -/
def readOffset (s : List Char) : Except Fault (Part Int) :=
  match s with
  | [] => .error .tooShort
  | c :: rest =>
    if (s.take 3).map Char.toUpper = ['U', 'T', 'C'] then .ok (0, s.drop 3)
    else if c = 'Z' ∨ c = 'z' then .ok (0, rest)
    else if c = '+' then readSignedOffset false rest
    else if c = '-' ∨ c = '\u2212' then readSignedOffset true rest
    else .error .invalid

/-- The moment that a date and a time of day at an offset name. Second 60 is the leap second. -/
def ofCivil (date : Date) (clock : Clock) (offset : Int) : Except Fault Moment :=
  if date.IsValid ∧ -262143 ≤ date.year ∧ date.year ≤ 262142 ∧ offset.natAbs < 86400 then
    let leap := clock.second = 60
    let second : Int := clock.hour * 3600 + clock.minute * 60 + (if leap then 59 else clock.second)
    let nanos := clock.nanos + if leap then nanosPerSecond else 0
    match of? (date.toDays * secondsPerDay + second - offset) nanos with
    | some m => .ok m
    | none => .error .impossible
  else .error .outOfRange

def ofChars (s : List Char) : Except Fault Moment := do
  let (date, s) ← readDate s
  let s ← readSeparator s
  let (clock, s) ← readClock s
  let (offset, s) ← readOffset (trimStart s)
  if trimStart s = [] then ofCivil date clock offset else throw .trailing

end SecretKeeper.Moment

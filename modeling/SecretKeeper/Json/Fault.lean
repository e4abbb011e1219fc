import SecretKeeper.Base64
import SecretKeeper.Text.Shown

/-!
What can be wrong with a JSON document, and where. A place counts lines from one and, within a
line, the bytes that were read.
-/
namespace SecretKeeper.Json

inductive Found where
  | null
  | flag (value : Bool)
  | whole (value : Int)
  | real (digits : String)
  | text (value : String)
  | list
  | object
  deriving DecidableEq, Repr

def Found.describe : Found → String
  | null => "null"
  | flag b => s!"boolean `{b}`"
  | whole n => s!"integer `{n}`"
  | real digits => s!"floating point `{digits}`"
  | text s => "string " ++ Text.shown s
  | list => "sequence"
  | object => "map"

inductive Cause where
  | endInValue
  | endInText
  | endInList
  | endInObject
  | expectedWord
  | expectedValue
  | expectedColon
  | expectedListComma
  | expectedObjectComma
  | keyNotText
  | trailingComma
  | trailingCharacters
  | controlCharacter
  | badEscape
  | loneSurrogate
  | cutSurrogatePair
  | notUnicode
  | badNumber
  | numberTooLarge
  | wrongType (found : Found) (expected : String)
  | wrongValue (found : Found) (expected : String)
  | wrongLength (length : Nat) (expected : String)
  | missingMember (key : String)
  | repeatedMember (key : String)
  | refused (reason : String)
  deriving DecidableEq, Repr

def Cause.message : Cause → String
  | endInValue => "EOF while parsing a value"
  | endInText => "EOF while parsing a string"
  | endInList => "EOF while parsing a list"
  | endInObject => "EOF while parsing an object"
  | expectedWord => "expected ident"
  | expectedValue => "expected value"
  | expectedColon => "expected `:`"
  | expectedListComma => "expected `,` or `]`"
  | expectedObjectComma => "expected `,` or `\x7d`"
  | keyNotText => "key must be a string"
  | trailingComma => "trailing comma"
  | trailingCharacters => "trailing characters"
  | controlCharacter => "control character (\\u0000-\\u001F) found while parsing a string"
  | badEscape => "invalid escape"
  | loneSurrogate => "lone leading surrogate in hex escape"
  | cutSurrogatePair => "unexpected end of hex escape"
  | notUnicode => "invalid unicode code point"
  | badNumber => "invalid number"
  | numberTooLarge => "number out of range"
  | wrongType found expected => s!"invalid type: {found.describe}, expected {expected}"
  | wrongValue found expected => s!"invalid value: {found.describe}, expected {expected}"
  | wrongLength n expected => s!"invalid length {n}, expected {expected}"
  | missingMember key => s!"missing field `{key}`"
  | repeatedMember key => s!"duplicate field `{key}`"
  | refused reason => reason

/-- A cause, and the bytes that were not read yet when it was noticed. A fault without a place gets
one from the list or object that it lies in. -/
structure Fault where
  cause : Cause
  rest : Bytes
  placed : Bool
  deriving DecidableEq, Repr

namespace Fault

/-- Noticed after the byte before the rest. -/
def here (cause : Cause) (rest : Bytes) : Fault := ⟨cause, rest, true⟩

/-- Noticed at the first byte of the rest, which counts as read. -/
def next (cause : Cause) (rest : Bytes) : Fault := ⟨cause, rest.tail, true⟩

def unplaced (cause : Cause) (rest : Bytes) : Fault := ⟨cause, rest, false⟩

/-- Gives a fault without a place the one that is left when the value around it is closed. -/
def settle (close : Bytes → Bytes) (f : Fault) : Fault :=
  if f.placed then f else ⟨f.cause, close f.rest, true⟩

end Fault

structure Place where
  line : Nat
  column : Nat
  deriving DecidableEq, Repr

def Place.after (read : Bytes) : Place :=
  ⟨read.count 10 + 1, (read.reverse.takeWhile (· != 10)).length⟩

structure DocumentFault where
  cause : Cause
  place : Option Place
  deriving DecidableEq, Repr

def DocumentFault.message (p : DocumentFault) : String :=
  match p.place with
  | none => p.cause.message
  | some place => s!"{p.cause.message} at line {place.line} column {place.column}"

def Fault.inDocument (document : Bytes) (f : Fault) : DocumentFault :=
  ⟨f.cause,
    if f.placed then some (.after (document.take (document.length - f.rest.length))) else none⟩

end SecretKeeper.Json

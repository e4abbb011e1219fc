import SecretKeeper.Text.Blank
import SecretKeeper.Text.Pattern.Basic

/-!
Flags change how a pattern is read, from where they are set to the end of the group around them.
-/
namespace SecretKeeper.Text

/-- `multiline` makes the marks for both ends those of lines, `dotAll` lets the dot take line feeds
too, `swapped` makes repetitions reluctant that are not marked so and the other way round, without
`unicode` only ASCII classes are there, with `returns` lines end at carriage returns too, and in
`spaced` patterns white space and comments are left out. -/
structure Flags where
  caseless : Bool
  multiline : Bool
  dotAll : Bool
  swapped : Bool
  unicode : Bool
  returns : Bool
  spaced : Bool
  deriving DecidableEq, Repr

namespace Flags

def default : Flags := ⟨false, false, false, false, true, false, false⟩

def set? (f : Flags) (on : Bool) (letter : Char) : Option Flags :=
  if letter = 'i' then some { f with caseless := on }
  else if letter = 'm' then some { f with multiline := on }
  else if letter = 's' then some { f with dotAll := on }
  else if letter = 'U' then some { f with swapped := on }
  else if letter = 'u' then some { f with unicode := on }
  else if letter = 'R' then some { f with returns := on }
  else if letter = 'x' then some { f with spaced := on }
  else none

/-- Sets the flags of some letters, and takes back those behind a minus sign. No letter and no minus
sign comes twice, and a letter follows the minus sign. -/
def setAll? (f : Flags) (letters : List Char) : Option Flags :=
  if letters.Nodup && letters.getLast? != some '-' then do
    let f ← (letters.takeWhile (· != '-')).foldlM (fun f c => f.set? true c) f
    ((letters.dropWhile (· != '-')).drop 1).foldlM (fun f c => f.set? false c) f
  else none

def behindSpace : Bool → List Char → List Char
  | _, [] => []
  | true, c :: s => behindSpace (c != '\n') s
  | false, c :: s =>
    if isBlank c then behindSpace false s
    else if c = '#' then behindSpace true s
    else c :: s

def skip (f : Flags) (s : List Char) : List Char := if f.spaced then behindSpace false s else s

/-- What characters stand for. The cases of ASCII letters are known and those of others are not, so
a caseless pattern has to do without Unicode if it holds characters. -/
def cased? (f : Flags) (s : CharSet) : Option CharSet :=
  if !f.caseless then some s
  else if f.unicode then none
  else some s.bothCases

def negated? (f : Flags) (s : CharSet) : Option CharSet :=
  if f.unicode then some s.complement else none

def dot? (f : Flags) : Option CharSet :=
  if !f.unicode then none
  else if f.dotAll then some .all
  else if f.returns then some ((CharSet.single '\n').union (.single '\r')).complement
  else some (CharSet.single '\n').complement

def startMark (f : Flags) : Look :=
  if !f.multiline then .start else if f.returns then .returnLineStart else .lineStart

def finishMark (f : Flags) : Look :=
  if !f.multiline then .finish else if f.returns then .returnLineEnd else .lineEnd

end Flags
end SecretKeeper.Text

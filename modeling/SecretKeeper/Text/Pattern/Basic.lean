import SecretKeeper.Text.CharSet

/-!
Patterns for texts. Of the ways in which a pattern can match one is preferred: repetitions go on as
long as they can unless they are reluctant, and of two alternatives the first comes first.
-/
namespace SecretKeeper.Text

inductive Look where
  | start
  | finish
  | lineStart
  | lineEnd
  | returnLineStart
  | returnLineEnd
  | wordEdge
  | noWordEdge
  | wordStart
  | wordEnd
  deriving DecidableEq, Repr

def isWordCharacter (c : Char) : Bool := c.isAlphanum || c = '_'

def Look.holds (before after : Option Char) : Look → Bool
  | start => before.isNone
  | finish => after.isNone
  | lineStart => before.isNone || before == some '\n'
  | lineEnd => after.isNone || after == some '\n'
  | returnLineStart =>
    before.isNone || before == some '\n' || before == some '\r' && after != some '\n'
  | returnLineEnd =>
    after.isNone || after == some '\r' || after == some '\n' && before != some '\r'
  | wordEdge => before.any isWordCharacter != after.any isWordCharacter
  | noWordEdge => before.any isWordCharacter == after.any isWordCharacter
  | wordStart => !before.any isWordCharacter && after.any isWordCharacter
  | wordEnd => before.any isWordCharacter && !after.any isWordCharacter

inductive Pattern where
  | empty
  | look (condition : Look)
  | one (set : CharSet)
  | both (first second : Pattern)
  | either (first second : Pattern)
  | group (number : Nat) (body : Pattern)
  | zeroOrMore (body : Pattern) (reluctant : Bool)
  | oneOrMore (body : Pattern) (reluctant : Bool)
  | optional (body : Pattern) (reluctant : Bool)
  deriving DecidableEq, Repr

namespace Pattern

def parts : Pattern → List Pattern
  | empty => []
  | both p q => parts p ++ parts q
  | p => [p]

def ofParts : List Pattern → Pattern
  | [] => empty
  | [p] => p
  | p :: ps => both p (ofParts ps)

def sequence (ps : List Pattern) : Pattern := ofParts (ps.flatMap parts)

def alternatives : Pattern → List Pattern
  | either p q => alternatives p ++ alternatives q
  | p => [p]

def setOf? : List Pattern → Option CharSet
  | [] => some .empty
  | one set :: ps => (setOf? ps).map set.union
  | _ => none

def foldAlternatives : List Pattern → Pattern
  | [] => one .empty
  | [p] => p
  | p :: ps => either p (foldAlternatives ps)

def ofAlternatives (ps : List Pattern) : Pattern := ((setOf? ps).map one).getD (foldAlternatives ps)

def commonStart : List Pattern → List Pattern → List Pattern
  | p :: ps, q :: qs => if p = q then p :: commonStart ps qs else []
  | _, _ => []

/-- The parts with which all alternatives begin; of an alternative without two parts nothing is
taken away. -/
def sharedStart : List (List Pattern) → List Pattern
  | [] => []
  | ps :: rest => if (ps :: rest).any (·.length < 2) then [] else rest.foldl commonStart ps

/-- One pattern or another. What all alternatives begin with is matched before one is chosen; this
decides which match is preferred. -/
def choice (ps : List Pattern) : Pattern :=
  let all := ps.flatMap alternatives
  let shared := sharedStart (all.map parts)
  if (setOf? all).isSome || shared.isEmpty then ofAlternatives all
  else
    let rests := all.map fun p => ofParts (p.parts.drop shared.length)
    sequence (shared ++ [ofAlternatives (rests.flatMap alternatives)])

def canBeEmpty : Pattern → Bool
  | empty => true
  | look _ => true
  | one _ => false
  | both p q => canBeEmpty p && canBeEmpty q
  | either p q => canBeEmpty p || canBeEmpty q
  | group _ p => canBeEmpty p
  | zeroOrMore _ _ => true
  | oneOrMore p _ => canBeEmpty p
  | optional _ _ => true

end Pattern
end SecretKeeper.Text

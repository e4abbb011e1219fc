import SecretKeeper.Text.Pattern.Machine

/-!
Searching a text for a pattern. The match that begins first wins, and of those that begin there the
preferred one. What counts is whether it ends where the text ends.
-/
namespace SecretKeeper.Text

namespace Machine

def matchesInside (m : Machine) (c : Char) : Bool :=
  1 < c.utf8Size && (m.reach (Look.holds (some c) (some c)) [m.entry]).any m.isMatch

/-- Where matches can be at a place: those that have begun, and one that begins here if none was
complete before. -/
def reachAt (m : Machine) (threads : List Nat) (searching : Bool) (before after : Option Char) :
    List Nat :=
  m.reach (Look.holds before after) (threads ++ if searching then [m.entry] else [])

/-- Goes on with matches that have begun, the preferred ones first. A complete match ends all those
that are less preferred, and after it none begins. -/
def endsAtFinish (m : Machine) : List Nat → Bool → Option Char → List Char → Bool
  | threads, searching, before, [] => (m.reachAt threads searching before none).any m.isMatch
  | threads, searching, before, c :: rest =>
    let here := m.reachAt threads searching before (some c)
    let going := (here.takeWhile fun i => !m.isMatch i).filterMap (m.take? c)
    m.endsAtFinish going (searching && !here.any m.isMatch && !m.matchesInside c) (some c) rest

end Machine

def Pattern.accepts (p : Pattern) (s : String) : Bool :=
  (Machine.ofPattern p).endsAtFinish [] true none s.toList

end SecretKeeper.Text

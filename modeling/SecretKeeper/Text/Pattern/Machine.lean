import SecretKeeper.Text.Pattern.Basic

/-!
Patterns as machines. The nodes of a machine have numbers; the number behind the last one stands for
a match. Of two ways out of a node the first is preferred.
-/
namespace SecretKeeper.Text

inductive Node where
  | look (condition : Look) (next : Nat)
  | one (set : CharSet) (next : Nat)
  | fork (first second : Nat)
  deriving DecidableEq, Repr

namespace Pattern

/-- The number of nodes of a pattern. A repetition whose body can be empty has a node for coming in
and one for coming back. -/
def size : Pattern → Nat
  | empty => 0
  | look _ => 1
  | one _ => 1
  | both p q => size p + size q
  | either p q => 1 + size p + size q
  | group _ p => size p
  | zeroOrMore p _ => if canBeEmpty p then 2 + size p else 1 + size p
  | oneOrMore p _ => 1 + size p
  | optional p _ => 1 + size p

def entry (base next : Nat) : Pattern → Nat
  | empty => next
  | look _ => base
  | one _ => base
  | both p q => entry base (entry (base + size p) next q) p
  | either _ _ => base
  | group _ p => entry base next p
  | zeroOrMore _ _ => base
  | oneOrMore p _ => entry (base + 1) base p
  | optional _ _ => base

def turn (body leave : Nat) (reluctant : Bool) : Node :=
  if reluctant then .fork leave body else .fork body leave

/-- The nodes of a pattern, numbered from `base` on, with `next` to follow. -/
def nodes (base next : Nat) : Pattern → List Node
  | empty => []
  | look condition => [.look condition next]
  | one set => [.one set next]
  | both p q => nodes base (entry (base + size p) next q) p ++ nodes (base + size p) next q
  | either p q =>
    .fork (entry (base + 1) next p) (entry (base + 1 + size p) next q) ::
      (nodes (base + 1) next p ++ nodes (base + 1 + size p) next q)
  | group _ p => nodes base next p
  | zeroOrMore p reluctant =>
    if canBeEmpty p then
      let again := turn (entry (base + 2) (base + 1) p) next reluctant
      again :: again :: nodes (base + 2) (base + 1) p
    else turn (entry (base + 1) base p) next reluctant :: nodes (base + 1) base p
  | oneOrMore p reluctant =>
    turn (entry (base + 1) base p) next reluctant :: nodes (base + 1) base p
  | optional p reluctant =>
    turn (entry (base + 1) next p) next reluctant :: nodes (base + 1) next p

end Pattern

structure Machine where
  nodes : Array Node
  entry : Nat
  deriving Repr

namespace Machine

def ofPattern (p : Pattern) : Machine := ⟨(p.nodes 0 p.size).toArray, p.entry 0 p.size⟩

/-- Follows all ways on that take no character, the preferred ones first; `met` tells of each node
whether it was met before, `found` are the nodes at which a character has to be taken or a match is
complete, the last one first. -/
def follow (m : Machine) (holds : Look → Bool) :
    Nat → List Nat → Array Bool → List Nat → List Nat
  | 0, _, _, found => found.reverse
  | _, [], _, found => found.reverse
  | fuel + 1, i :: waiting, met, found =>
    if met.getD i false then m.follow holds fuel waiting met found
    else
      let met := met.setIfInBounds i true
      match m.nodes[i]? with
      | some (.look condition next) =>
        m.follow holds fuel (if holds condition then next :: waiting else waiting) met found
      | some (.fork first second) => m.follow holds fuel (first :: second :: waiting) met found
      | _ => m.follow holds fuel waiting met (i :: found)

/-- Where one can be without taking a character, by preference. Every node is left at most once, by
two ways at most, which bounds the number of steps. -/
def reach (m : Machine) (holds : Look → Bool) (threads : List Nat) : List Nat :=
  m.follow holds (threads.length + 2 * m.nodes.size + 1) threads
    (Array.replicate (m.nodes.size + 1) false) []

def isMatch (m : Machine) (i : Nat) : Bool := m.nodes.size ≤ i

def take? (m : Machine) (c : Char) (i : Nat) : Option Nat :=
  match m.nodes[i]? with
  | some (.one set next) => if set.contains c then some next else none
  | _ => none

end Machine
end SecretKeeper.Text

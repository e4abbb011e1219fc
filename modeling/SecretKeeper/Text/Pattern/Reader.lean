import SecretKeeper.Text.Alphanumeric
import SecretKeeper.Text.Pattern.Bracket

/-!
Patterns from texts: characters, sets of characters, conditions, groups, alternatives between bars,
and repetitions. What is read is nested to a limited depth.
-/
namespace SecretKeeper.Text

structure Part where
  pattern : Pattern
  depth : Nat
  deriving DecidableEq, Repr

/-- A group that is being read: its number if it has one, the flags in force, the alternatives that
are finished, and what the one under way consists of, the last first. Nothing stands for flags that
were set, which cannot be repeated. -/
structure Draft where
  number : Option Nat
  flags : Flags
  finished : List Part
  items : List (Option Part)

namespace Draft

def opened (number : Option Nat) (flags : Flags) : Draft := ⟨number, flags, [], []⟩

def current (d : Draft) : Part :=
  let all := d.items.reverse.map fun item => item.getD ⟨.empty, 0⟩
  match all with
  | [] => ⟨.empty, 0⟩
  | [p] => p
  | ps => ⟨.sequence (ps.map Part.pattern), (ps.map Part.depth).foldr Nat.max 0 + 1⟩

def whole (d : Draft) : Part :=
  match d.finished with
  | [] => d.current
  | ps =>
    let all := ps ++ [d.current]
    ⟨.choice (all.map Part.pattern), (all.map Part.depth).foldr Nat.max 0 + 1⟩

def close (d : Draft) : Part :=
  ⟨match d.number with
    | some n => .group n d.whole.pattern
    | none => d.whole.pattern,
    d.whole.depth + 1⟩

def add (d : Draft) (p : Part) : Draft := { d with items := some p :: d.items }

def addPlain (d : Draft) (p : Pattern) : Draft := d.add ⟨p, 0⟩

def repeatLast (d : Draft) (build : Pattern → Bool → Pattern) (s : List Char) :
    Option (Draft × List Char) :=
  match d.items with
  | some p :: items =>
    let marked := s.head? == some '?'
    let again : Part := ⟨build p.pattern (marked != d.flags.swapped), p.depth + 1⟩
    some ({ d with items := some again :: items }, if marked then s.drop 1 else s)
  | _ => none

def nextAlternative (d : Draft) : Draft :=
  { d with finished := d.finished ++ [d.current], items := [] }

def setFlags (d : Draft) (flags : Flags) : Draft := { d with flags, items := none :: d.items }

end Draft

structure GroupNames where
  count : Nat
  names : List (List Char)

inductive Opening where
  | flags (flags : Flags)
  | group (draft : Draft) (groups : GroupNames)

namespace Opening

def isName : List Char → Bool
  | [] => false
  | c :: cs =>
    (c = '_' || isAlphabetic c) &&
      cs.all fun c => c = '_' || c = '.' || c = '[' || c = ']' || isAlphanumeric c

def readName (f : Flags) (g : GroupNames) (s : List Char) : Option (Opening × List Char) :=
  let name := s.takeWhile (· != '>')
  match s.dropWhile (· != '>') with
  | [] => none
  | _ :: rest =>
    if isName name && !g.names.contains name then
      some (group (.opened (some (g.count + 1)) f) ⟨g.count + 1, name :: g.names⟩, rest)
    else none

def readFlags (f : Flags) (g : GroupNames) (s : List Char) : Option (Opening × List Char) := do
  let letters := s.takeWhile fun c => c != ':' && c != ')'
  let f ← f.setAll? letters
  match s.dropWhile fun c => c != ':' && c != ')' with
  | ':' :: rest => return (group (.opened none f) g, rest)
  | ')' :: rest => if letters.isEmpty then none else return (flags f, rest)
  | _ => none

def read (f : Flags) (g : GroupNames) (s : List Char) : Option (Opening × List Char) :=
  match f.skip s with
  | '?' :: 'P' :: '<' :: s => readName f g s
  | '?' :: '<' :: s => readName f g s
  | '?' :: s => readFlags f g s
  | s => some (group (.opened (some (g.count + 1)) f) { g with count := g.count + 1 }, s)

end Opening

namespace Pattern

def depthLimit : Nat := 250

def ofEscape? (f : Flags) : Escape → Option Pattern
  | .char c => (f.cased? (.single c)).map one
  | .set s => some (one s)
  | .look condition => some (look condition)

/-- Reads on inside of a group; the groups around it wait. Every round takes a character, so the
length of the text bounds their number. There are no counted repetitions. -/
def read : Nat → GroupNames → Draft → List Draft → List Char → Option Pattern
  | 0, _, _, _, _ => none
  | fuel + 1, groups, d, outer, s =>
    match d.flags.skip s with
    | [] => if outer.isEmpty && d.whole.depth ≤ depthLimit then some d.whole.pattern else none
    | '(' :: s => do
      match ← Opening.read d.flags groups s with
      | (.flags f, rest) => read fuel groups (d.setFlags f) outer rest
      | (.group inner groups, rest) => read fuel groups inner (d :: outer) rest
    | ')' :: s =>
      match outer with
      | [] => none
      | o :: outer => read fuel groups (o.add d.close) outer s
    | '|' :: s => read fuel groups d.nextAlternative outer s
    | '[' :: s => do
      let (m, rest) ← Bracket.readSet d.flags s
      read fuel groups (d.add ⟨one m.set, m.depth⟩) outer rest
    | '*' :: s => do
      let (d, rest) ← d.repeatLast zeroOrMore s
      read fuel groups d outer rest
    | '+' :: s => do
      let (d, rest) ← d.repeatLast oneOrMore s
      read fuel groups d outer rest
    | '?' :: s => do
      let (d, rest) ← d.repeatLast optional s
      read fuel groups d outer rest
    | '.' :: s => do read fuel groups (d.addPlain (one (← d.flags.dot?))) outer s
    | '^' :: s => read fuel groups (d.addPlain (look d.flags.startMark)) outer s
    | '$' :: s => read fuel groups (d.addPlain (look d.flags.finishMark)) outer s
    | '\\' :: s => do
      let (e, rest) ← Escape.read d.flags s
      read fuel groups (d.addPlain (← ofEscape? d.flags e)) outer rest
    | c :: s =>
      if c = '\x7b' then none
      else do read fuel groups (d.addPlain (← ofEscape? d.flags (.char c))) outer s

def ofChars? (s : List Char) : Option Pattern :=
  read (s.length + 1) ⟨0, []⟩ (.opened none .default) [] s

end Pattern
end SecretKeeper.Text

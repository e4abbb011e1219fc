import SecretKeeper.Text.Pattern.Escape

/-!
Sets of characters between brackets: characters, ranges, named classes and further brackets, joined
by operations that all bind alike, from left to right.
-/
namespace SecretKeeper.Text

structure Member where
  set : CharSet
  depth : Nat
  deriving DecidableEq, Repr

inductive SetOperation where
  | intersection
  | difference
  | symmetricDifference
  deriving DecidableEq, Repr

def SetOperation.apply : SetOperation → CharSet → CharSet → CharSet
  | intersection => .intersection
  | difference => .difference
  | symmetricDifference => .symmetricDifference

/-- An open bracket: what an operation waits for, and the members that stand behind it. At its start
a minus sign stands for itself, and so does a closing bracket that comes first. -/
structure Bracket where
  negated : Bool
  atStart : Bool
  left : Option (SetOperation × Member)
  members : List Member
  deriving DecidableEq, Repr

namespace Bracket

def operand (b : Bracket) : Member :=
  match b.members with
  | [m] => m
  | [] => ⟨.empty, 0⟩
  | ms => ⟨.unions (ms.map Member.set), (ms.map Member.depth).foldr Nat.max 0 + 1⟩

def whole (b : Bracket) : Member :=
  match b.left with
  | some (op, m) => ⟨op.apply m.set b.operand.set, Nat.max m.depth b.operand.depth + 1⟩
  | none => b.operand

def add (b : Bracket) (m : Member) : Bracket :=
  { b with atStart := false, members := m :: b.members }

def operate (b : Bracket) (op : SetOperation) : Bracket :=
  { b with atStart := false, left := some (op, b.whole), members := [] }

def close (f : Flags) (b : Bracket) : Option Member :=
  (if b.negated then f.negated? b.whole.set else some b.whole.set).map fun set =>
    ⟨set, b.whole.depth + 1⟩

def plain? (f : Flags) (s : CharSet) : Option Member :=
  if f.unicode || s.isAscii then (f.cased? s).map (⟨·, 0⟩) else none

def readOpening (f : Flags) (s : List Char) : Bracket × List Char :=
  match f.skip s with
  | '^' :: s => (⟨true, true, none, []⟩, s)
  | s => (⟨false, true, none, []⟩, s)

def readNamed (f : Flags) : List Char → Option (Option Member × List Char)
  | ':' :: s =>
    let negated := s.head? == some '^'
    let s := if negated then s.drop 1 else s
    match s.dropWhile (· != ':') with
    | ':' :: ']' :: rest =>
      (CharSet.ofName? (String.ofList (s.takeWhile (· != ':')))).map fun set =>
        (do
          let m ← plain? f set
          let set ← if negated then f.negated? m.set else some m.set
          return ⟨set, 0⟩, rest)
    | _ => none
  | _ => none

def readItem (f : Flags) : List Char → Option (Escape × List Char)
  | [] => none
  | '\\' :: s => Escape.read f s
  | c :: s => some (.char c, s)

def peek (f : Flags) (s : List Char) : Option Char :=
  if !f.spaced then s.head?
  else
    match trimStart s with
    | '#' :: rest => (trimStart rest).head?
    | rest => rest.head?

def readMember (f : Flags) (s : List Char) : Option (Member × List Char) := do
  let (first, rest) ← readItem f s
  let alone : Option (Member × List Char) :=
    match first with
    | .char c => (plain? f (.single c)).map (·, rest)
    | .set set => (plain? f set).map (·, rest)
    | .look _ => none
  match f.skip rest with
  | '-' :: rest =>
    if peek f rest == some ']' || peek f rest == some '-' then alone
    else
      let (last, rest) ← readItem f (f.skip rest)
      match first, last with
      | .char a, .char b => if a ≤ b then (plain? f (.range a b)).map (·, rest) else none
      | _, _ => none
  | _ => alone

/-- Reads on inside of a bracket; the brackets around it wait. Every round takes a character, so the
length of the text bounds their number. -/
def read (f : Flags) : Nat → Bracket → List Bracket → List Char → Option (Member × List Char)
  | 0, _, _, _ => none
  | fuel + 1, b, outer, s =>
    let s := f.skip s
    let isMinus := b.atStart && s.head? == some '-'
    let isClosing := b.atStart && b.members.isEmpty && s.head? == some ']'
    if isMinus || isClosing then do
      let m ← plain? f (.single (s.headD '-'))
      read f fuel { b.add m with atStart := isMinus } outer (s.drop 1)
    else
      match s with
      | ']' :: s => do
        let m ← b.close f
        match outer with
        | [] => return (m, s)
        | o :: outer => read f fuel (o.add m) outer s
      | '[' :: s =>
        match readNamed f s with
        | some (m, rest) => m.bind fun m => read f fuel (b.add m) outer rest
        | none => read f fuel (readOpening f s).1 (b :: outer) (readOpening f s).2
      | '&' :: '&' :: s => read f fuel (b.operate .intersection) outer s
      | '-' :: '-' :: s => read f fuel (b.operate .difference) outer s
      | '~' :: '~' :: s => read f fuel (b.operate .symmetricDifference) outer s
      | s => do
        let (m, rest) ← readMember f s
        read f fuel (b.add m) outer rest

def readSet (f : Flags) (s : List Char) : Option (Member × List Char) :=
  read f (s.length + 1) (readOpening f s).1 [] (readOpening f s).2

end Bracket
end SecretKeeper.Text

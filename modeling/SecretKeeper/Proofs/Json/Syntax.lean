import SecretKeeper.Proofs.Text.Utf8

/-!
The grammar of JSON documents as a type: every document is the text of a tree, with blanks wherever
they may stand, every way to escape a character, and numerals that need not fit anything. What such
a tree means is said without reading its text.
-/
namespace SecretKeeper.Json

inductive Blank where
  | space
  | tab
  | lineFeed
  | carriageReturn

def Blank.char : Blank → Char
  | space => ' '
  | tab => '\t'
  | lineFeed => '\n'
  | carriageReturn => '\r'

def blankChars (bs : List Blank) : List Char := bs.map Blank.char

/-! Quoted texts. -/

structure HexDigit where
  value : Fin 16
  isCapital : Bool

def HexDigit.char (d : HexDigit) : Char :=
  if d.isCapital then (Nat.digitChar d.value).toUpper else Nat.digitChar d.value

structure CodeUnit where
  first : HexDigit
  second : HexDigit
  third : HexDigit
  fourth : HexDigit

namespace CodeUnit

def chars (u : CodeUnit) : List Char := [u.first.char, u.second.char, u.third.char, u.fourth.char]

def value (u : CodeUnit) : Nat :=
  ((u.first.value * 16 + u.second.value) * 16 + u.third.value) * 16 + u.fourth.value

def IsLeading (u : CodeUnit) : Prop := 0xD800 ≤ u.value ∧ u.value < 0xDC00

def IsTrailing (u : CodeUnit) : Prop := 0xDC00 ≤ u.value ∧ u.value < 0xE000

instance (u : CodeUnit) : Decidable u.IsLeading := instDecidableAnd

instance (u : CodeUnit) : Decidable u.IsTrailing := instDecidableAnd

def pair (u v : CodeUnit) : Char :=
  Char.ofNat (0x10000 + (u.value - 0xD800) * 0x400 + (v.value - 0xDC00))

end CodeUnit

inductive Letter where
  | quote
  | backslash
  | slash
  | backspace
  | formFeed
  | lineFeed
  | carriageReturn
  | tab

namespace Letter

def char : Letter → Char
  | quote => '"'
  | backslash => '\\'
  | slash => '/'
  | backspace => 'b'
  | formFeed => 'f'
  | lineFeed => 'n'
  | carriageReturn => 'r'
  | tab => 't'

def meaning : Letter → Char
  | quote => '"'
  | backslash => '\\'
  | slash => '/'
  | backspace => '\x08'
  | formFeed => '\x0c'
  | lineFeed => '\n'
  | carriageReturn => '\r'
  | tab => '\t'

end Letter

/-- A character as it stands, or an escape by a letter or a number. -/
inductive Piece where
  | plain (c : Char) (visible : 32 ≤ c.toNat ∧ c ≠ '"' ∧ c ≠ '\\')
  | letter (l : Letter)
  | unit (u : CodeUnit)

namespace Piece

def chars : Piece → List Char
  | plain c _ => [c]
  | letter l => ['\\', l.char]
  | unit u => '\\' :: 'u' :: u.chars

/-- The characters of a text; none if half of a surrogate pair stands alone. -/
def decode : List Piece → Option (List Char)
  | [] => some []
  | plain c _ :: ps => (decode ps).map (c :: ·)
  | letter l :: ps => (decode ps).map (l.meaning :: ·)
  | unit u :: ps =>
    if u.IsTrailing then none
    else if u.IsLeading then
      match ps with
      | unit v :: qs => if v.IsTrailing then (decode qs).map (u.pair v :: ·) else none
      | _ => none
    else (decode ps).map (Char.ofNat u.value :: ·)

def text? (ps : List Piece) : Option String := (decode ps).map String.ofList

end Piece

def quotedChars (ps : List Piece) : List Char := '"' :: ps.flatMap Piece.chars ++ ['"']

/-! Numerals. -/

structure Digits where
  chars : List Char
  digits : ∀ c ∈ chars, c.isDigit = true
  nonempty : chars ≠ []

namespace Digits

def value (d : Digits) : Nat := Nat.ofDigitChars 10 d.chars 0

/-- A leading zero stands alone. -/
def IsCanonical (d : Digits) : Prop := d.chars.head? = some '0' → d.chars = ['0']

end Digits

structure Exponent where
  isCapital : Bool
  sign : Option Bool
  digits : Digits

def signChars : Option Bool → List Char
  | none => []
  | some false => ['+']
  | some true => ['-']

def Exponent.chars (e : Exponent) : List Char :=
  (if e.isCapital then 'E' else 'e') :: (signChars e.sign ++ e.digits.chars)

structure Literal where
  isNegative : Bool
  whole : Digits
  canonical : whole.IsCanonical
  fraction : Option Digits
  exponent : Option Exponent

namespace Literal

def fractionChars (l : Literal) : List Char :=
  match l.fraction with
  | none => []
  | some d => '.' :: d.chars

def exponentChars (l : Literal) : List Char :=
  match l.exponent with
  | none => []
  | some e => e.chars

def chars (l : Literal) : List Char :=
  (if l.isNegative then ['-'] else []) ++
    (l.whole.chars ++ (l.fractionChars ++ l.exponentChars))

/-- The word that a literal stands for that has neither sign nor fraction nor exponent. -/
def word? (l : Literal) : Option UInt64 :=
  if l.isNegative = false ∧ l.fraction.isNone ∧ l.exponent.isNone ∧
    l.whole.value ≤ 18446744073709551615 then some (UInt64.ofNat l.whole.value)
  else none

end Literal

/-! Trees. -/

structure Padded (α : Type) where
  before : List Blank
  value : α
  after : List Blank

structure Entry (α : Type) where
  before : List Blank
  key : List Piece
  after : List Blank
  value : Padded α

inductive Tree where
  | null
  | flag (value : Bool)
  | number (literal : Literal)
  | text (pieces : List Piece)
  | list (inside : List Blank) (items : List (Padded Tree))
  | object (inside : List Blank) (members : List (Entry Tree))

namespace Tree

mutual

def chars : Tree → List Char
  | null => ['n', 'u', 'l', 'l']
  | flag true => ['t', 'r', 'u', 'e']
  | flag false => ['f', 'a', 'l', 's', 'e']
  | number literal => literal.chars
  | text pieces => quotedChars pieces
  | list inside items => '[' :: (blankChars inside ++ (itemsChars items ++ [']']))
  | object inside members => '\x7b' :: (blankChars inside ++ (membersChars members ++ ['\x7d']))

def paddedChars : Padded Tree → List Char
  | ⟨before, value, after⟩ => blankChars before ++ (chars value ++ blankChars after)

def itemsChars : List (Padded Tree) → List Char
  | [] => []
  | item :: more => paddedChars item ++ furtherItems more

def furtherItems : List (Padded Tree) → List Char
  | [] => []
  | item :: more => ',' :: (paddedChars item ++ furtherItems more)

def memberChars : Entry Tree → List Char
  | ⟨before, key, after, value⟩ =>
    blankChars before ++ (quotedChars key ++ (blankChars after ++ ':' :: paddedChars value))

def membersChars : List (Entry Tree) → List Char
  | [] => []
  | m :: more => memberChars m ++ furtherMembers more

def furtherMembers : List (Entry Tree) → List Char
  | [] => []
  | m :: more => ',' :: (memberChars m ++ furtherMembers more)

end

def text? : Tree → Option String
  | text pieces => Piece.text? pieces
  | _ => none

def flag? : Tree → Option Bool
  | flag value => some value
  | _ => none

def word? : Tree → Option UInt64
  | number literal => literal.word?
  | _ => none

end Tree

abbrev Document := Padded Tree

def Document.bytes (d : Document) : Bytes := Text.utf8 (Tree.paddedChars d)

/-! The bytes of trees, part by part. -/

open Text

theorem utf8_mark {c : Char} (ascii : c.toNat < 128) (cs : List Char) (rest : Bytes) :
    utf8 (c :: cs) ++ rest = UInt8.ofNat c.toNat :: (utf8 cs ++ rest) := by
  rw [utf8_cons, encode_ascii ascii]
  rfl

theorem utf8_closed {c : Char} (ascii : c.toNat < 128) (cs : List Char) (rest : Bytes) :
    utf8 (cs ++ [c]) ++ rest = utf8 cs ++ UInt8.ofNat c.toNat :: rest := by
  rw [utf8_append, List.append_assoc, utf8_mark ascii]
  rfl

theorem utf8_pieces (ps : List Piece) (rest : Bytes) :
    utf8 (quotedChars ps) ++ rest = 34 :: (utf8 (ps.flatMap Piece.chars) ++ 34 :: rest) := by
  rw [quotedChars, List.cons_append, utf8_mark (by decide), utf8_closed (by decide)]
  rfl

namespace Tree

theorem utf8_list (inside : List Blank) (items : List (Padded Tree)) (rest : Bytes) :
    utf8 (list inside items).chars ++ rest =
      91 :: (utf8 (blankChars inside) ++ (utf8 (itemsChars items) ++ 93 :: rest)) := by
  rw [chars, utf8_mark (by decide), utf8_append, List.append_assoc, utf8_closed (by decide)]
  rfl

theorem utf8_object (inside : List Blank) (members : List (Entry Tree)) (rest : Bytes) :
    utf8 (object inside members).chars ++ rest =
      123 :: (utf8 (blankChars inside) ++ (utf8 (membersChars members) ++ 125 :: rest)) := by
  rw [chars, utf8_mark (by decide), utf8_append, List.append_assoc, utf8_closed (by decide)]
  rfl

theorem utf8_padded (p : Padded Tree) (rest : Bytes) :
    utf8 (paddedChars p) ++ rest = utf8 (blankChars p.before) ++
      (utf8 p.value.chars ++ (utf8 (blankChars p.after) ++ rest)) := by
  rw [paddedChars, utf8_append, utf8_append, List.append_assoc, List.append_assoc]

theorem utf8_member (m : Entry Tree) (rest : Bytes) :
    utf8 (memberChars m) ++ rest = utf8 (blankChars m.before) ++
      34 :: (utf8 (m.key.flatMap Piece.chars) ++
        34 :: (utf8 (blankChars m.after) ++ 58 :: (utf8 (paddedChars m.value) ++ rest))) := by
  have colon : utf8 (':' :: paddedChars m.value) ++ rest =
      58 :: (utf8 (paddedChars m.value) ++ rest) := utf8_mark (by decide) _ rest
  rw [memberChars, utf8_append, utf8_append, utf8_append, List.append_assoc, List.append_assoc,
    List.append_assoc, utf8_pieces, colon]

theorem utf8_item (item : Padded Tree) (more : List (Padded Tree)) (rest : Bytes) :
    utf8 (itemsChars (item :: more)) ++ rest =
      utf8 (paddedChars item) ++ (utf8 (furtherItems more) ++ rest) := by
  rw [itemsChars, utf8_append, List.append_assoc]

theorem utf8_further_item (item : Padded Tree) (more : List (Padded Tree)) (rest : Bytes) :
    utf8 (furtherItems (item :: more)) ++ rest =
      44 :: (utf8 (paddedChars item) ++ (utf8 (furtherItems more) ++ rest)) := by
  rw [furtherItems, utf8_mark (by decide), utf8_append, List.append_assoc]
  rfl

theorem utf8_first_member (m : Entry Tree) (more : List (Entry Tree)) (rest : Bytes) :
    utf8 (membersChars (m :: more)) ++ rest =
      utf8 (memberChars m) ++ (utf8 (furtherMembers more) ++ rest) := by
  rw [membersChars, utf8_append, List.append_assoc]

theorem utf8_further_member (m : Entry Tree) (more : List (Entry Tree)) (rest : Bytes) :
    utf8 (furtherMembers (m :: more)) ++ rest =
      44 :: (utf8 (memberChars m) ++ (utf8 (furtherMembers more) ++ rest)) := by
  rw [furtherMembers, utf8_mark (by decide), utf8_append, List.append_assoc]
  rfl

end Tree
end SecretKeeper.Json

import SecretKeeper.Proofs.Json.Record
import SecretKeeper.Proofs.Json.Values

/-!
Compact texts as documents. The text of each value is that of a tree that stands for the value, so
that the value can be read off it, and nothing else can. No character of it is below the blank.
-/
namespace SecretKeeper.Json

open Text

/-- A text is that of a document, and of documents with one value only. -/
structure Encodes (s : String) (v : Value) : Prop where
  document : ∃ d : Document, d.bytes = s.toUTF8.toList
  value : ∀ d : Document, d.bytes = s.toUTF8.toList → d.value.value? = some v

/-! The pieces and literals that are written. -/

theorem writeChar_piece (c : Char) : ∃ p : Piece, p.chars = writeChar c ∧
    ∀ ps, Piece.decode (p :: ps) = (Piece.decode ps).map (c :: ·) := by
  unfold writeChar
  split_ifs with quote escape backspace tab line form carriage control
  · exact ⟨.letter .quote, rfl, fun ps => by rw [Piece.decode, quote]; rfl⟩
  · exact ⟨.letter .backslash, rfl, fun ps => by rw [Piece.decode, escape]; rfl⟩
  · exact ⟨.letter .backspace, rfl, fun ps => by rw [Piece.decode, backspace]; rfl⟩
  · exact ⟨.letter .tab, rfl, fun ps => by rw [Piece.decode, tab]; rfl⟩
  · exact ⟨.letter .lineFeed, rfl, fun ps => by rw [Piece.decode, line]; rfl⟩
  · exact ⟨.letter .formFeed, rfl, fun ps => by rw [Piece.decode, form]; rfl⟩
  · exact ⟨.letter .carriageReturn, rfl, fun ps => by rw [Piece.decode, carriage]; rfl⟩
  · let digit (n : Nat) (small : n < 16) : HexDigit := ⟨⟨n, small⟩, false⟩
    let u : CodeUnit := ⟨digit 0 (by decide), digit 0 (by decide),
      digit (c.toNat / 16) (by omega), digit (c.toNat % 16) (by omega)⟩
    have value : u.value = c.toNat := by
      simp only [u, digit, CodeUnit.value]
      omega
    have notTrailing : ¬u.IsTrailing := by
      rw [CodeUnit.IsTrailing, value]
      omega
    have notLeading : ¬u.IsLeading := by
      rw [CodeUnit.IsLeading, value]
      omega
    refine ⟨.unit u, rfl, fun ps => ?_⟩
    rw [Piece.decode.eq_def]
    simp only [notTrailing, notLeading, ↓reduceIte, value, Char.ofNat_toNat]
  · exact ⟨.plain c ⟨Nat.le_of_not_lt control, quote, escape⟩, rfl, fun ps => by
      rw [Piece.decode]⟩

theorem exists_pieces (s : String) :
    ∃ ps : List Piece, quotedChars ps = quoted s ∧ Piece.text? ps = some s := by
  have pieces (cs : List Char) : ∃ ps : List Piece,
      ps.flatMap Piece.chars = cs.flatMap writeChar ∧ Piece.decode ps = some cs := by
    induction cs with
    | nil => exact ⟨[], rfl, rfl⟩
    | cons c more ih =>
      obtain ⟨p, written, decodes⟩ := writeChar_piece c
      obtain ⟨ps, others, meant⟩ := ih
      refine ⟨p :: ps, ?_, ?_⟩
      · rw [List.flatMap_cons, List.flatMap_cons, written, others]
      · rw [decodes, meant, Option.map_some]
  obtain ⟨ps, written, meant⟩ := pieces s.toList
  refine ⟨ps, ?_, ?_⟩
  · rw [quotedChars, quoted, written]
  · rw [Piece.text?, meant, Option.map_some, String.ofList_toList]

theorem exists_literal (n : Int) :
    ∃ l : Literal, l.chars = wholeDigits n ∧ l.whole? = some n := by
  let l : Literal := ⟨n < 0, .ofNat n.natAbs, Digits.ofNat_canonical n.natAbs, none, none⟩
  have worth : (Digits.ofNat n.natAbs).value = n.natAbs := Nat.ofDigitChars_ten_toDigits
  refine ⟨l, ?_, ?_⟩
  · rw [Literal.chars, wholeDigits]
    simp only [l, Literal.fractionChars, Literal.exponentChars, Digits.ofNat, List.append_nil,
      decide_eq_true_eq]
    split <;> rfl
  · simp only [l, Literal.whole?, Option.isNone_none, and_self, ↓reduceIte, worth,
      decide_eq_true_eq]
    split <;> congr 1 <;> omega

namespace Value

def bare (t : Tree) : Padded Tree := ⟨[], t, []⟩

theorem bare_chars (t : Tree) : Tree.paddedChars (bare t) = t.chars := by
  rw [bare, Tree.paddedChars]
  exact List.append_nil _

mutual

/-- The text of each value is that of a tree that stands for it. -/
theorem exists_tree : ∀ v : Value, ∃ t : Tree, t.chars = v.chars ∧ t.value? = some v
  | null => ⟨.null, rfl, rfl⟩
  | flag true => ⟨.flag true, rfl, rfl⟩
  | flag false => ⟨.flag false, rfl, rfl⟩
  | whole n => by
    obtain ⟨l, written, meant⟩ := exists_literal n
    refine ⟨.number l, written, ?_⟩
    rw [Tree.value?, meant, Option.map_some]
  | text s => by
    obtain ⟨ps, written, meant⟩ := exists_pieces s
    refine ⟨.text ps, written, ?_⟩
    rw [Tree.value?, meant, Option.map_some]
  | list [] => ⟨.list [] [], rfl, rfl⟩
  | list (v :: vs) => by
    obtain ⟨t, written, meant⟩ := exists_tree v
    obtain ⟨items, others, meanOthers⟩ := exists_items vs
    refine ⟨.list [] (bare t :: items), ?_, ?_⟩
    · rw [Tree.chars, Tree.itemsChars, bare_chars, written, others, chars, Reader.itemsChars_cons]
      rfl
    · rw [Tree.value?, Tree.itemValues_cons, bare, meant, meanOthers]
      rfl
  | object [] => ⟨.object [] [], rfl, rfl⟩
  | object (m :: ms) => by
    obtain ⟨member, written, key, meant⟩ := exists_member m
    obtain ⟨members, others, meanOthers⟩ := exists_members ms
    refine ⟨.object [] (member :: members), ?_, ?_⟩
    · rw [Tree.chars, Tree.membersChars, written, others, chars, membersChars_cons]
      rfl
    · rw [Tree.value?, Tree.memberValues_cons, key, meant, meanOthers]
      rfl

theorem exists_items : ∀ vs : List Value, ∃ items : List (Padded Tree),
    Tree.furtherItems items = (vs.flatMap fun v => ',' :: v.chars) ∧
      Tree.itemValues? items = some vs
  | [] => ⟨[], rfl, rfl⟩
  | v :: vs => by
    obtain ⟨t, written, meant⟩ := exists_tree v
    obtain ⟨items, others, meanOthers⟩ := exists_items vs
    refine ⟨bare t :: items, ?_, ?_⟩
    · rw [Tree.furtherItems, bare_chars, written, others, List.flatMap_cons, List.cons_append]
    · rw [Tree.itemValues_cons, bare, meant, meanOthers]
      rfl

theorem exists_member : ∀ m : String × Value, ∃ member : Entry Tree,
    Tree.memberChars member = memberChars m ∧ Piece.text? member.key = some m.1 ∧
      member.value.value.value? = some m.2
  | (key, v) => by
    obtain ⟨t, written, meant⟩ := exists_tree v
    obtain ⟨ps, keyWritten, keyMeant⟩ := exists_pieces key
    refine ⟨⟨[], ps, [], bare t⟩, ?_, keyMeant, meant⟩
    rw [Tree.memberChars, bare_chars, written, keyWritten, memberChars]
    rfl

theorem exists_members : ∀ ms : List (String × Value), ∃ members : List (Entry Tree),
    Tree.furtherMembers members = (ms.flatMap fun m => ',' :: memberChars m) ∧
      Tree.memberValues? members = some ms
  | [] => ⟨[], rfl, rfl⟩
  | m :: ms => by
    obtain ⟨member, written, key, meant⟩ := exists_member m
    obtain ⟨members, others, meanOthers⟩ := exists_members ms
    refine ⟨member :: members, ?_, ?_⟩
    · rw [Tree.furtherMembers, written, others, List.flatMap_cons, List.cons_append]
    · rw [Tree.memberValues_cons, key, meant, meanOthers]
      rfl

end

theorem render_encodes (v : Value) : Encodes v.render v := by
  obtain ⟨t, written, meant⟩ := v.exists_tree
  have document : Document.bytes (bare t) = v.render.toUTF8.toList := by
    rw [Document.bytes, bare_chars, written, v.render_bytes]
  refine ⟨⟨bare t, document⟩, fun d same => ?_⟩
  rw [Document.value_settled (same.trans document.symm)]
  exact meant

end Value

/-! What can be seen of a text. -/

def Visible (cs : List Char) : Prop := ∀ c ∈ cs, 32 ≤ c.toNat

theorem Visible.append {cs ds : List Char} (front : Visible cs) (back : Visible ds) :
    Visible (cs ++ ds) := List.forall_mem_append.mpr ⟨front, back⟩

theorem Visible.cons {c : Char} {cs : List Char} (first : 32 ≤ c.toNat) (others : Visible cs) :
    Visible (c :: cs) := List.forall_mem_cons.mpr ⟨first, others⟩

theorem visible_nil : Visible [] := List.forall_mem_nil _

theorem Visible.between {opening closing : Char} {cs : List Char} (inside : Visible cs)
    (visible : 32 ≤ opening.toNat) (visible' : 32 ≤ closing.toNat) :
    Visible (opening :: cs ++ [closing]) :=
  (inside.cons visible).append (visible_nil.cons visible')

theorem HexDigit.visible (d : HexDigit) : 32 ≤ d.char.toNat := by
  obtain ⟨value, isCapital⟩ := d
  revert value isCapital
  decide

theorem Piece.visible (p : Piece) : Visible p.chars := by
  cases p with
  | plain c visible => exact visible_nil.cons visible.1
  | letter l =>
    have letter : 32 ≤ l.char.toNat := by
      cases l <;> decide
    exact (visible_nil.cons letter).cons (by decide)
  | unit u =>
    exact ((((visible_nil.cons u.fourth.visible).cons u.third.visible).cons u.second.visible).cons
      u.first.visible).cons (by decide) |>.cons (by decide)

theorem quoted_visible (s : String) : Visible (quoted s) := by
  refine Visible.between ?_ (by decide) (by decide)
  intro c member
  obtain ⟨d, _, written⟩ := List.mem_flatMap.mp member
  obtain ⟨p, chars, _⟩ := writeChar_piece d
  rw [← chars] at written
  exact p.visible c written

theorem wholeDigits_visible (n : Int) : Visible (wholeDigits n) := by
  have digits : Visible (Nat.toDigits 10 n.natAbs) := by
    intro c member
    have bounds := digit_bounds (digits_all n.natAbs c member)
    omega
  unfold wholeDigits
  split
  · exact digits.cons (by decide)
  · exact digits

namespace Value

mutual

theorem chars_visible : ∀ v : Value, Visible v.chars
  | null => by simp [chars, Visible]
  | flag true => by simp [chars, Visible]
  | flag false => by simp [chars, Visible]
  | whole n => wholeDigits_visible n
  | text s => quoted_visible s
  | list vs => (itemsChars_visible vs).between (by decide) (by decide)
  | object ms => (membersChars_visible ms).between (by decide) (by decide)

theorem itemsChars_visible : ∀ vs : List Value, Visible (itemsChars vs)
  | [] => visible_nil
  | [v] => chars_visible v
  | v :: w :: vs => (chars_visible v).append ((itemsChars_visible (w :: vs)).cons (by decide))

theorem memberChars_visible : ∀ m : String × Value, Visible (memberChars m)
  | (key, v) => (quoted_visible key).append ((chars_visible v).cons (by decide))

theorem membersChars_visible : ∀ ms : List (String × Value), Visible (membersChars ms)
  | [] => visible_nil
  | [m] => memberChars_visible m
  | m :: n :: ms =>
    (memberChars_visible m).append ((membersChars_visible (n :: ms)).cons (by decide))

end

end Value
end SecretKeeper.Json

import SecretKeeper.Proofs.Json.Meaning

/-!
The value that a tree stands for, if all its numbers are whole and all its texts are texts. Blanks
and escapes do not show in it, and the text of a tree settles it: however a text is taken for a
tree, its value is the same.
-/
namespace SecretKeeper.Json

open Text

def Literal.whole? (l : Literal) : Option Int :=
  if l.fraction.isNone ∧ l.exponent.isNone then
    some (if l.isNegative then -(l.whole.value : Int) else l.whole.value)
  else none

namespace Tree

mutual

def value? : Tree → Option Value
  | null => some .null
  | flag value => some (.flag value)
  | number literal => literal.whole?.map .whole
  | text pieces => (Piece.text? pieces).map .text
  | list _ items => (itemValues? items).map .list
  | object _ members => (memberValues? members).map .object

def itemValues? : List (Padded Tree) → Option (List Value)
  | [] => some []
  | ⟨_, t, _⟩ :: more => (value? t).bind fun v => (itemValues? more).map (v :: ·)

def memberValues? : List (Entry Tree) → Option (List (String × Value))
  | [] => some []
  | ⟨_, key, _, ⟨_, t, _⟩⟩ :: more => (Piece.text? key).bind fun k =>
    (value? t).bind fun v => (memberValues? more).map ((k, v) :: ·)

end

theorem itemValues_cons (item : Padded Tree) (more : List (Padded Tree)) :
    itemValues? (item :: more) =
      item.value.value?.bind fun v => (itemValues? more).map (v :: ·) := by
  rw [itemValues?]

theorem memberValues_cons (m : Entry Tree) (more : List (Entry Tree)) :
    memberValues? (m :: more) = (Piece.text? m.key).bind fun k =>
      m.value.value.value?.bind fun v => (memberValues? more).map ((k, v) :: ·) := by
  rw [memberValues?]

end Tree

/-! What a text settles. -/

theorem Literal.whole_settled {l l' : Literal} {rest rest' : Bytes} (ends : EndsNumeral rest)
    (ends' : EndsNumeral rest') (same : utf8 l.chars ++ rest = utf8 l'.chars ++ rest') :
    l.whole? = l'.whole? := by
  have read := l.readNumeral_chars ends .badNumber
  rw [same, l'.readNumeral_chars ends' .badNumber] at read
  have numeral : l'.numeral = l.numeral := (Prod.mk.inj (Except.ok.inj read)).1
  have sign : l'.isNegative = l.isNegative := congrArg Numeral.negative numeral
  have digits : l'.whole.chars = l.whole.chars := utf8_injective (congrArg Numeral.whole numeral)
  have fraction : l'.fraction = none ↔ l.fraction = none := by
    rw [← l'.fraction_nil, numeral, l.fraction_nil]
  have exponent : l'.exponent = none ↔ l.exponent = none := by
    rw [← l'.exponent_none, numeral, l.exponent_none]
  simp only [whole?, Option.isNone_iff_eq_none, Digits.value, sign, digits, fraction, exponent]

theorem text_settled {ps ps' : List Piece} {rest rest' : Bytes}
    (same : utf8 (ps.flatMap Piece.chars) ++ 34 :: rest =
      utf8 (ps'.flatMap Piece.chars) ++ 34 :: rest') :
    Piece.text? ps = Piece.text? ps' ∧ rest = rest' := by
  -- Skipping both tells that they end at one place, and only then do both read alike.
  have skipped := skipQuoted_pieces ps rest
  rw [same, skipQuoted_pieces] at skipped
  obtain rfl := Except.ok.inj skipped
  have read := readText_pieces ps rest'
  rw [same, readText_pieces] at read
  have texts := congrArg (Option.map Prod.fst) read
  simp only [Option.map_map, Function.comp_def, Option.map_id'] at texts
  exact ⟨texts.symm, rfl⟩

namespace Tree
variable {t t' : Tree} {rest rest' : Bytes}

theorem rest_settled (ends : EndsNumeral rest) (ends' : EndsNumeral rest')
    (same : utf8 t.chars ++ rest = utf8 t'.chars ++ rest') : rest = rest' := by
  have skipped := skipValue_tree [] t ends
  rw [blankChars, List.map_nil, utf8_nil, List.nil_append, same] at skipped
  exact (Except.ok.inj (skipped.symm.trans (skipValue_tree [] t' ends')))

theorem leads_of_front {b : UInt8} {more : Bytes} (front : utf8 t.chars ++ rest = b :: more) :
    t.Leads b := by
  obtain ⟨b', more', front', leads⟩ := t.start rest
  rw [front] at front'
  rw [(List.cons.inj front').1]
  exact leads

theorem skipBlanks_tree (t : Tree) (rest : Bytes) :
    skipBlanks (utf8 t.chars ++ rest) = utf8 t.chars ++ rest := by
  obtain ⟨b, more, front, leads⟩ := t.start rest
  rw [front, skipBlanks_cons leads.ink.1]

theorem Leads.eq_null {t : Tree} (leads : t.Leads 110) : t = null := by
  cases t with
  | null => rfl
  | number => exact absurd (show (110 : UInt8) = 45 ∨ isDigit 110 = true from leads) (by decide)
  | flag value => cases value <;> cases leads
  | text | list | object => cases leads

theorem Leads.eq_list {t : Tree} (leads : t.Leads 91) : ∃ inside items, t = list inside items := by
  cases t with
  | list inside items => exact ⟨inside, items, rfl⟩
  | number => exact absurd (show (91 : UInt8) = 45 ∨ isDigit 91 = true from leads) (by decide)
  | flag value => cases value <;> cases leads
  | null | text | object => cases leads

theorem Leads.eq_object {t : Tree} (leads : t.Leads 123) :
    ∃ inside members, t = object inside members := by
  cases t with
  | object inside members => exact ⟨inside, members, rfl⟩
  | number => exact absurd (show (123 : UInt8) = 45 ∨ isDigit 123 = true from leads) (by decide)
  | flag value => cases value <;> cases leads
  | null | text | list => cases leads

theorem skipBlanks_padded (p : Padded Tree) (s : Bytes) :
    skipBlanks (utf8 (paddedChars p) ++ s) =
      utf8 p.value.chars ++ (utf8 (blankChars p.after) ++ s) := by
  rw [utf8_padded, skipBlanks_blanks, skipBlanks_tree]

theorem skipBlanks_member (m : Entry Tree) (s : Bytes) :
    skipBlanks (utf8 (memberChars m) ++ s) =
      34 :: (utf8 (m.key.flatMap Piece.chars) ++
        34 :: (utf8 (blankChars m.after) ++ 58 :: (utf8 (paddedChars m.value) ++ s))) := by
  rw [utf8_member, skipBlanks_blanks, skipBlanks_cons (by decide)]

theorem key_settled {m m' : Entry Tree} {s s' : Bytes}
    (same : skipBlanks (utf8 (memberChars m) ++ s) = skipBlanks (utf8 (memberChars m') ++ s')) :
    Piece.text? m.key = Piece.text? m'.key ∧
      utf8 (paddedChars m.value) ++ s = utf8 (paddedChars m'.value) ++ s' := by
  rw [skipBlanks_member, skipBlanks_member] at same
  obtain ⟨key, back⟩ := text_settled (List.cons.inj same).2
  have colon := congrArg skipBlanks back
  rw [skipBlanks_blanks, skipBlanks_blanks, skipBlanks_cons (by decide),
    skipBlanks_cons (by decide)] at colon
  exact ⟨key, (List.cons.inj colon).2⟩

/-! An end of a list or an object is no beginning of another part. -/

theorem items_open (item : Padded Tree) (more : List (Padded Tree)) (s rest : Bytes) :
    skipBlanks (93 :: rest) ≠ skipBlanks (utf8 (itemsChars (item :: more)) ++ s) := by
  obtain ⟨b, others, front, leads⟩ := item.value.start
    (utf8 (blankChars item.after) ++ (utf8 (furtherItems more) ++ s))
  rw [utf8_item, skipBlanks_padded, skipBlanks_cons (by decide), front]
  intro same
  exact leads.ink.2 (List.cons.inj same).1.symm

theorem further_items_open (item : Padded Tree) (more : List (Padded Tree)) (s rest : Bytes) :
    skipBlanks (93 :: rest) ≠ skipBlanks (utf8 (furtherItems (item :: more)) ++ s) := by
  rw [utf8_further_item, skipBlanks_cons (by decide), skipBlanks_cons (by decide)]
  intro same
  exact absurd (List.cons.inj same).1 (by decide)

theorem members_open (m : Entry Tree) (more : List (Entry Tree)) (s rest : Bytes) :
    skipBlanks (125 :: rest) ≠ skipBlanks (utf8 (membersChars (m :: more)) ++ s) := by
  rw [utf8_first_member, skipBlanks_member, skipBlanks_cons (by decide)]
  intro same
  exact absurd (List.cons.inj same).1 (by decide)

theorem further_members_open (m : Entry Tree) (more : List (Entry Tree)) (s rest : Bytes) :
    skipBlanks (125 :: rest) ≠ skipBlanks (utf8 (furtherMembers (m :: more)) ++ s) := by
  rw [utf8_further_member, skipBlanks_cons (by decide), skipBlanks_cons (by decide)]
  intro same
  exact absurd (List.cons.inj same).1 (by decide)

/-!
By induction on the first tree. The first byte of the text fixes the kind of the second tree, and
skipping a value fixes where both end, so that lists and objects go on alike behind each part.
-/

mutual

/-- The text of a tree settles its value. -/
theorem value_settled : ∀ (t t' : Tree) {rest rest' : Bytes}, EndsNumeral rest →
    EndsNumeral rest' → utf8 t.chars ++ rest = utf8 t'.chars ++ rest' → t.value? = t'.value?
  | null, t', _, _, _, _, same => by
    obtain rfl := Leads.eq_null (leads_of_front same.symm)
    rfl
  | flag value, t', rest, _, _, _, same => by
    obtain ⟨b, more, front, leads⟩ := (flag value).start rest
    rw [front] at same
    have first : b = if value then 116 else 102 := by
      cases value <;> exact leads
    rw [first] at same
    obtain rfl := Leads.eq_flag value (leads_of_front same.symm)
    rfl
  | number literal, t', rest, _, ends, ends', same => by
    obtain ⟨b, more, front, digit⟩ := (number literal).start rest
    obtain ⟨literal', rfl⟩ := Leads.eq_number (leads_of_front (same.symm.trans front)) digit
    rw [value?, value?, Literal.whole_settled ends ends' same]
  | text pieces, t', rest, _, _, _, same => by
    rw [chars, utf8_pieces] at same
    obtain ⟨pieces', rfl⟩ := Leads.eq_text (leads_of_front same.symm)
    rw [chars, utf8_pieces] at same
    rw [value?, value?, (text_settled (List.cons.inj same).2).1]
  | list inside items, t', rest, rest', _, _, same => by
    rw [utf8_list] at same
    obtain ⟨inside', items', rfl⟩ := Leads.eq_list (leads_of_front same.symm)
    rw [utf8_list] at same
    have front := congrArg skipBlanks (List.cons.inj same).2
    rw [skipBlanks_blanks, skipBlanks_blanks] at front
    rw [value?, value?, items_settled items items' front]
  | object inside members, t', rest, rest', _, _, same => by
    rw [utf8_object] at same
    obtain ⟨inside', members', rfl⟩ := Leads.eq_object (leads_of_front same.symm)
    rw [utf8_object] at same
    have front := congrArg skipBlanks (List.cons.inj same).2
    rw [skipBlanks_blanks, skipBlanks_blanks] at front
    rw [value?, value?, members_settled members members' front]
termination_by structural t => t

theorem padded_settled : ∀ (p p' : Padded Tree) {s s' : Bytes}, EndsNumeral s → EndsNumeral s' →
    skipBlanks (utf8 (paddedChars p) ++ s) = skipBlanks (utf8 (paddedChars p') ++ s') →
      p.value.value? = p'.value.value? ∧ skipBlanks s = skipBlanks s'
  | ⟨before, t, after⟩, ⟨before', t', after'⟩, s, s', ends, ends', same => by
    rw [skipBlanks_padded, skipBlanks_padded] at same
    have endsAfter := endsNumeral_blanks after ends
    have endsAfter' := endsNumeral_blanks after' ends'
    have back := congrArg skipBlanks (rest_settled endsAfter endsAfter' same)
    rw [skipBlanks_blanks, skipBlanks_blanks] at back
    exact ⟨value_settled t t' endsAfter endsAfter' same, back⟩
termination_by structural t => t

theorem items_settled : ∀ (items items' : List (Padded Tree)) {rest rest' : Bytes},
    skipBlanks (utf8 (itemsChars items) ++ 93 :: rest) =
      skipBlanks (utf8 (itemsChars items') ++ 93 :: rest') →
        itemValues? items = itemValues? items'
  | [], [], _, _, _ => rfl
  | [], item' :: more', _, _, same => absurd same (items_open item' more' _ _)
  | item :: more, [], _, _, same => absurd same.symm (items_open item more _ _)
  | item :: more, item' :: more', rest, rest', same => by
    rw [utf8_item, utf8_item] at same
    obtain ⟨here, back⟩ := padded_settled item item' (ends_items more rest) (ends_items more' rest')
      same
    rw [itemValues_cons, itemValues_cons, here, further_items_settled more more' back]
termination_by structural t => t

theorem further_items_settled : ∀ (items items' : List (Padded Tree)) {rest rest' : Bytes},
    skipBlanks (utf8 (furtherItems items) ++ 93 :: rest) =
      skipBlanks (utf8 (furtherItems items') ++ 93 :: rest') →
        itemValues? items = itemValues? items'
  | [], [], _, _, _ => rfl
  | [], item' :: more', _, _, same => absurd same (further_items_open item' more' _ _)
  | item :: more, [], _, _, same => absurd same.symm (further_items_open item more _ _)
  | item :: more, item' :: more', rest, rest', same => by
    rw [utf8_further_item, utf8_further_item, skipBlanks_cons (by decide),
      skipBlanks_cons (by decide)] at same
    obtain ⟨here, back⟩ := padded_settled item item' (ends_items more rest) (ends_items more' rest')
      (congrArg skipBlanks (List.cons.inj same).2)
    rw [itemValues_cons, itemValues_cons, here, further_items_settled more more' back]
termination_by structural t => t

theorem members_settled : ∀ (members members' : List (Entry Tree)) {rest rest' : Bytes},
    skipBlanks (utf8 (membersChars members) ++ 125 :: rest) =
      skipBlanks (utf8 (membersChars members') ++ 125 :: rest') →
        memberValues? members = memberValues? members'
  | [], [], _, _, _ => rfl
  | [], m' :: more', _, _, same => absurd same (members_open m' more' _ _)
  | m :: more, [], _, _, same => absurd same.symm (members_open m more _ _)
  | m :: more, m' :: more', rest, rest', same => by
    rw [utf8_first_member, utf8_first_member] at same
    obtain ⟨key, front⟩ := key_settled same
    obtain ⟨here, back⟩ := padded_settled m.value m'.value (ends_members more rest)
      (ends_members more' rest') (congrArg skipBlanks front)
    rw [memberValues_cons, memberValues_cons, key, here, further_members_settled more more' back]
termination_by structural t => t

theorem further_members_settled : ∀ (members members' : List (Entry Tree)) {rest rest' : Bytes},
    skipBlanks (utf8 (furtherMembers members) ++ 125 :: rest) =
      skipBlanks (utf8 (furtherMembers members') ++ 125 :: rest') →
        memberValues? members = memberValues? members'
  | [], [], _, _, _ => rfl
  | [], m' :: more', _, _, same => absurd same (further_members_open m' more' _ _)
  | m :: more, [], _, _, same => absurd same.symm (further_members_open m more _ _)
  | m :: more, m' :: more', rest, rest', same => by
    rw [utf8_further_member, utf8_further_member, skipBlanks_cons (by decide),
      skipBlanks_cons (by decide)] at same
    obtain ⟨key, front⟩ := key_settled (congrArg skipBlanks (List.cons.inj same).2)
    obtain ⟨here, back⟩ := padded_settled m.value m'.value (ends_members more rest)
      (ends_members more' rest') (congrArg skipBlanks front)
    rw [memberValues_cons, memberValues_cons, key, here, further_members_settled more more' back]
termination_by structural t => t

end

end Tree

theorem Document.value_settled {d d' : Document} (same : d.bytes = d'.bytes) :
    d.value.value? = d'.value.value? := by
  have front : skipBlanks (utf8 (Tree.paddedChars d) ++ []) =
      skipBlanks (utf8 (Tree.paddedChars d') ++ []) := by
    rw [List.append_nil, List.append_nil]
    exact congrArg skipBlanks same
  exact (Tree.padded_settled d d' endsNumeral_nil endsNumeral_nil front).1

end SecretKeeper.Json

import Mathlib.Data.List.Forall2
import SecretKeeper.Proofs.Json.Meaning
import SecretKeeper.Proofs.Json.Record

/-!
What a record makes of a tree. The members of an object fill a draft one after the other, the items
of a list by their places; unknown keys are passed by, and the first fault ends it all.
-/
namespace SecretKeeper.Json

open Text SecretKeeper.Json.Tree

structure Slot (σ : Type) where
  key : String
  Kind : Type
  get : σ → Option Kind
  put : Kind → σ → σ
  meaning : Tree → Option Kind

namespace Slot
variable {σ : Type}

def fill? (slots : List (Slot σ)) (draft : σ) (key : String) (t : Tree) : Option σ :=
  match slots.find? fun s => s.key == key with
  | none => some draft
  | some s => if (s.get draft).isSome then none else (s.meaning t).map fun a => s.put a draft

def gather? (slots : List (Slot σ)) : σ → List (Entry Tree) → Option σ
  | draft, [] => some draft
  | draft, m :: more =>
    (Piece.text? m.key).bind fun key =>
      (fill? slots draft key m.value.value).bind fun draft => gather? slots draft more

def row? : List (Slot σ) → σ → List (Padded Tree) → Option σ
  | _, draft, [] => some draft
  | [], _, _ :: _ => none
  | s :: slots, draft, item :: more =>
    (s.meaning item.value).bind fun a => row? slots (s.put a draft) more

/-- The column reads what the slot means. -/
structure IsReadBy (s : Slot σ) (c : Column σ) : Prop where
  key : c.key = s.key
  given : ∀ draft, c.isGiven draft = (s.get draft).isSome
  value : c.value.Means fun t => (s.meaning t).map s.put

theorem isReadBy_map {α : Type} {p : Reader α} {meaning : Tree → Option α}
    (means : p.Means meaning) (key : String) (get : σ → Option α) (put : α → σ → σ) :
    IsReadBy ⟨key, α, get, put, meaning⟩ ⟨key, fun draft => (get draft).isSome, p.map put⟩ :=
  ⟨rfl, fun _ => rfl, Reader.map_means means put⟩

end Slot

def Layout.meaning? (l : Layout σ α) (slots : List (Slot σ)) : Tree → Option α
  | .object _ members => (Slot.gather? slots l.blank members).bind fun d => (l.finish d).toOption
  | .list _ items => (Slot.row? slots l.blank items).bind fun d => (l.finish d).toOption
  | _ => none

/-! Keys and items, one by one. -/

theorem readKey_pieces (ps : List Piece) (rest : Bytes) :
    (readKey (utf8 (ps.flatMap Piece.chars) ++ 34 :: rest)).toOption =
      (Piece.text? ps).map fun key => (some key, rest) := by
  rw [readKey, toOption_map, readText_pieces, Option.map_map]
  rfl

theorem nextKey_end (first : Bool) (bs : List Blank) (rest : Bytes) :
    nextKey first (utf8 (blankChars bs) ++ 125 :: rest) = .ok (none, rest) := by
  rw [nextKey, skipBlanks_blanks]
  rfl

theorem nextKey_entry (bs : List Blank) (m : Entry Tree) (rest : Bytes) :
    (nextKey true (utf8 (blankChars bs) ++ (utf8 (memberChars m) ++ rest))).toOption =
      (Piece.text? m.key).map fun key =>
        (some key, utf8 (blankChars m.after) ++ 58 :: (utf8 (paddedChars m.value) ++ rest)) := by
  rw [nextKey, utf8_member, skipBlanks_blanks, skipBlanks_blanks, skipBlanks_cons (by decide),
    ← readKey_pieces]
  rfl

theorem nextKey_comma (bs : List Blank) (m : Entry Tree) (rest : Bytes) :
    (nextKey false (utf8 (blankChars bs) ++ 44 :: (utf8 (memberChars m) ++ rest))).toOption =
      (Piece.text? m.key).map fun key =>
        (some key, utf8 (blankChars m.after) ++ 58 :: (utf8 (paddedChars m.value) ++ rest)) := by
  have comma (s : Bytes) : skipBlanks (44 :: s) = 44 :: s := skipBlanks_cons (by decide) s
  have quote (s : Bytes) : skipBlanks (34 :: s) = 34 :: s := skipBlanks_cons (by decide) s
  rw [nextKey, utf8_member, skipBlanks_blanks, comma, ← readKey_pieces]
  simp only [skipBlanks_blanks, quote]
  rfl

theorem nextItem_end (first : Bool) (bs : List Blank) (rest : Bytes) :
    nextItem first (utf8 (blankChars bs) ++ 93 :: rest) = .ok (false, rest) := by
  rw [nextItem, skipBlanks_blanks]
  rfl

theorem nextItem_padded (bs : List Blank) (item : Padded Tree) (rest : Bytes) :
    nextItem true (utf8 (blankChars bs) ++ (utf8 (paddedChars item) ++ rest)) =
      .ok (true, utf8 item.value.chars ++ (utf8 (blankChars item.after) ++ rest)) := by
  obtain ⟨b, more, front, leads⟩ := item.value.start (utf8 (blankChars item.after) ++ rest)
  rw [nextItem, utf8_padded, skipBlanks_blanks, skipBlanks_blanks, front,
    skipBlanks_cons leads.ink.1]
  simp only [leads.ink.2, ↓reduceIte]

theorem nextItem_comma (bs : List Blank) (item : Padded Tree) (rest : Bytes) :
    nextItem false (utf8 (blankChars bs) ++ 44 :: (utf8 (paddedChars item) ++ rest)) =
      .ok (true, utf8 item.value.chars ++ (utf8 (blankChars item.after) ++ rest)) := by
  obtain ⟨b, more, front, leads⟩ := item.value.start (utf8 (blankChars item.after) ++ rest)
  have comma (s : Bytes) : skipBlanks (44 :: s) = 44 :: s := skipBlanks_cons (by decide) s
  have bracket : ¬(44 : UInt8) = 93 := by decide
  rw [nextItem, utf8_padded, skipBlanks_blanks, comma]
  simp only [skipBlanks_blanks, front, skipBlanks_cons leads.ink.1, leads.ink.2, bracket,
    Bool.false_eq_true, ↓reduceIte]

theorem endList_end (bs : List Blank) (rest : Bytes) :
    endList (utf8 (blankChars bs) ++ 93 :: rest) = .ok rest := by
  rw [endList, skipBlanks_blanks]
  rfl

theorem endList_other {s more : Bytes} {b : UInt8} (front : skipBlanks s = b :: more)
    (other : b ≠ 93) : (endList s).toOption = none := by
  simp only [endList, front, other, ↓reduceIte]
  split
  · split <;> rfl
  · rfl

namespace Layout
variable {σ α : Type} {l : Layout σ α}

theorem readMembers_step (first : Bool) (draft : σ) (s : Bytes) :
    (l.readMembers first draft s).toOption = (nextKey first s).toOption.bind fun k =>
      match k.1 with
      | none => some (draft, k.2)
      | some key => (l.readMember key draft k.2).toOption.bind fun d =>
        (l.readMembers false d.1 d.2).toOption := by
  rw [readMembers]
  split <;> rename_i found <;> rw [found]
  · rfl
  · rfl
  · split <;> rename_i read <;> simp only [Except.toOption, Option.bind_some, read]
    rfl

theorem readRow_end (cs : List (Column σ)) (first : Bool) (draft : σ) (bs : List Blank)
    (rest : Bytes) :
    readRow cs first draft (utf8 (blankChars bs) ++ 93 :: rest) = .ok (draft, rest) := by
  cases cs with
  | nil =>
    rw [readRow, endList_end]
    rfl
  | cons c cs => rw [readRow, nextItem_end]

theorem readRow_item {c : Column σ} {meaning : Tree → Option (σ → σ)}
    (means : c.value.Means meaning) (cs : List (Column σ)) (draft : σ) {first : Bool}
    {s after : Bytes} {item : Padded Tree}
    (found : nextItem first s =
      .ok (true, utf8 item.value.chars ++ (utf8 (blankChars item.after) ++ after)))
    (ends : EndsNumeral after) :
    (readRow (c :: cs) first draft s).toOption = (meaning item.value).bind fun fill =>
      (readRow cs false (fill draft) (utf8 (blankChars item.after) ++ after)).toOption := by
  have value : (c.value.run (utf8 item.value.chars ++
      (utf8 (blankChars item.after) ++ after))).toOption =
        (meaning item.value).map (·, utf8 (blankChars item.after) ++ after) :=
    means [] item.value (endsNumeral_blanks item.after ends)
  rw [readRow, found]
  rcases toOption_cases value with ⟨fill, meant, read⟩ | ⟨meant, fault, read⟩ <;>
    simp only [read, meant] <;> rfl

theorem find_slot {slots : List (Slot σ)} {columns : List (Column σ)}
    (reads : List.Forall₂ Slot.IsReadBy slots columns) (key : String) :
    ((slots.find? fun s => s.key == key) = none ∧ (columns.find? fun c => c.key == key) = none) ∨
      ∃ s c, (slots.find? fun s => s.key == key) = some s ∧
        (columns.find? fun c => c.key == key) = some c ∧ s.IsReadBy c := by
  induction reads with
  | nil => exact Or.inl ⟨rfl, rfl⟩
  | @cons s c slots columns first _ ih =>
    rw [List.find?_cons, List.find?_cons, first.key]
    cases s.key == key with
    | true => exact Or.inr ⟨s, c, rfl, rfl, first⟩
    | false => exact ih

section Reading
variable {slots : List (Slot σ)} (reads : List.Forall₂ Slot.IsReadBy slots l.columns)
include reads

theorem readMember_entry (key : String) (draft : σ) (after : List Blank) (p : Padded Tree)
    {rest : Bytes} (ends : EndsNumeral rest) :
    (l.readMember key draft (utf8 (blankChars after) ++
        58 :: (utf8 (paddedChars p) ++ rest))).toOption =
      (Slot.fill? slots draft key p.value).map (·, utf8 (blankChars p.after) ++ rest) := by
  have colon (s : Bytes) : readColon (utf8 (blankChars after) ++ 58 :: s) = .ok s := by
    rw [readColon, skipBlanks_blanks]
    rfl
  have follows := endsNumeral_blanks p.after ends
  rcases find_slot reads key with ⟨unknown, missing⟩ | ⟨s, c, known, found, read⟩
  · have missing : l.column? key = none := missing
    simp only [readMember, Slot.fill?, unknown, missing, bind, Except.bind, colon, utf8_padded,
      skipValue_tree p.before p.value follows]
    rfl
  · have found : l.column? key = some c := found
    have value := read.value p.before p.value follows
    simp only [readMember, Slot.fill?, known, found, read.given]
    split
    · rfl
    · rw [utf8_padded]
      simp only [bind, Except.bind, colon]
      rcases toOption_cases value with ⟨fill, meant, took⟩ | ⟨meant, fault, took⟩
      · obtain ⟨a, meaning, rfl⟩ := Option.map_eq_some_iff.mp meant
        simp only [took, meaning]
        rfl
      · simp only [took, Option.map_eq_none_iff.mp meant]
        rfl

theorem readMembers_rest (draft : σ) (bs : List Blank) (members : List (Entry Tree))
    (rest : Bytes) :
    (l.readMembers false draft (utf8 (blankChars bs) ++
        (utf8 (furtherMembers members) ++ 125 :: rest))).toOption =
      (Slot.gather? slots draft members).map (·, rest) := by
  induction members generalizing draft bs with
  | nil =>
    rw [readMembers_step, furtherMembers, utf8_nil, List.nil_append, nextKey_end]
    rfl
  | cons m more ih =>
    rw [readMembers_step, utf8_further_member, nextKey_comma, Slot.gather?]
    cases Piece.text? m.key with
    | none => rfl
    | some key =>
      simp only [Option.map_some, Option.bind_some,
        readMember_entry reads key draft m.after m.value (ends_members more rest)]
      cases Slot.fill? slots draft key m.value.value with
      | none => rfl
      | some next => exact ih next m.value.after

theorem readMembers_all (draft : σ) (bs : List Blank) (members : List (Entry Tree))
    (rest : Bytes) :
    (l.readMembers true draft (utf8 (blankChars bs) ++
        (utf8 (membersChars members) ++ 125 :: rest))).toOption =
      (Slot.gather? slots draft members).map (·, rest) := by
  cases members with
  | nil =>
    rw [readMembers_step, membersChars, utf8_nil, List.nil_append, nextKey_end]
    rfl
  | cons m more =>
    rw [readMembers_step, utf8_first_member, nextKey_entry, Slot.gather?]
    cases Piece.text? m.key with
    | none => rfl
    | some key =>
      simp only [Option.map_some, Option.bind_some,
        readMember_entry reads key draft m.after m.value (ends_members more rest)]
      cases Slot.fill? slots draft key m.value.value with
      | none => rfl
      | some next => exact readMembers_rest reads next m.value.after more rest

end Reading

theorem readRow_rest {slots : List (Slot σ)} {cs : List (Column σ)}
    (reads : List.Forall₂ Slot.IsReadBy slots cs) (draft : σ) (bs : List Blank)
    (items : List (Padded Tree)) (rest : Bytes) :
    (readRow cs false draft (utf8 (blankChars bs) ++
        (utf8 (furtherItems items) ++ 93 :: rest))).toOption =
      (Slot.row? slots draft items).map (·, rest) := by
  induction items generalizing slots cs draft bs with
  | nil =>
    rw [furtherItems, utf8_nil, List.nil_append, readRow_end, Slot.row?]
    rfl
  | cons item more ih =>
    rw [utf8_further_item]
    cases reads with
    | nil =>
      have front := skipBlanks_blanks bs
        (44 :: (utf8 (paddedChars item) ++ (utf8 (furtherItems more) ++ 93 :: rest)))
      rw [skipBlanks_cons (by decide)] at front
      rw [readRow, toOption_map, endList_other front (by decide)]
      rfl
    | @cons s c slots cs first others =>
      rw [readRow_item first.value cs draft (nextItem_comma bs item _) (ends_items more rest),
        Slot.row?]
      cases s.meaning item.value with
      | none => rfl
      | some a => exact ih others (s.put a draft) item.after

theorem readRow_all {slots : List (Slot σ)} {cs : List (Column σ)}
    (reads : List.Forall₂ Slot.IsReadBy slots cs) (draft : σ) (bs : List Blank)
    (items : List (Padded Tree)) (rest : Bytes) :
    (readRow cs true draft (utf8 (blankChars bs) ++
        (utf8 (itemsChars items) ++ 93 :: rest))).toOption =
      (Slot.row? slots draft items).map (·, rest) := by
  cases items with
  | nil =>
    rw [itemsChars, utf8_nil, List.nil_append, readRow_end, Slot.row?]
    rfl
  | cons item more =>
    rw [utf8_item]
    cases reads with
    | nil =>
      obtain ⟨b, further, front, leads⟩ := item.value.start
        (utf8 (blankChars item.after) ++ (utf8 (furtherItems more) ++ 93 :: rest))
      have ink : skipBlanks (utf8 (blankChars bs) ++ (utf8 (paddedChars item) ++
          (utf8 (furtherItems more) ++ 93 :: rest))) = b :: further := by
        rw [skipBlanks_blanks, utf8_padded, skipBlanks_blanks, front, skipBlanks_cons leads.ink.1]
      rw [readRow, toOption_map, endList_other ink leads.ink.2]
      rfl
    | @cons s c slots cs first others =>
      rw [readRow_item first.value cs draft (nextItem_padded bs item _) (ends_items more rest),
        Slot.row?]
      cases s.meaning item.value with
      | none => rfl
      | some a => exact readRow_rest others (s.put a draft) item.after more rest

theorem read_other {s more : Bytes} {b : UInt8} (front : skipBlanks s = b :: more)
    (other : b ≠ 123 ∧ b ≠ 91) : (l.read s).toOption = none := by
  simp only [read, front, other, ↓reduceIte]
  rfl

/-- A record is read as what its members make of the tree. -/
theorem reader_means {slots : List (Slot σ)}
    (reads : List.Forall₂ Slot.IsReadBy slots l.columns) :
    l.reader.Means (l.meaning? slots) := by
  intro bs t rest _
  obtain ⟨b, more, bytes, leads⟩ := t.start rest
  have front : skipBlanks (utf8 (blankChars bs) ++ (utf8 t.chars ++ rest)) = b :: more := by
    rw [skipBlanks_blanks, bytes, skipBlanks_cons leads.ink.1]
  cases t with
  | object inside members =>
    have all := readMembers_all reads l.blank inside members rest
    obtain rfl : b = 123 := leads
    rw [utf8_object] at bytes
    simp only [reader, read, front, ↓reduceIte, ← List.tail_eq_of_cons_eq bytes, meaning?]
    rcases toOption_cases all with ⟨draft, meant, found⟩ | ⟨meant, fault, found⟩
    · simp only [found, meant, Option.bind_some]
      cases l.finish draft <;> rfl
    · simp only [found, meant]
      rfl
  | list inside items =>
    have all := readRow_all reads l.blank inside items rest
    obtain rfl : b = 91 := leads
    have brace : ¬(91 : UInt8) = 123 := by decide
    rw [utf8_list] at bytes
    simp only [reader, read, front, brace, ↓reduceIte, ← List.tail_eq_of_cons_eq bytes, meaning?]
    rcases toOption_cases all with ⟨draft, meant, found⟩ | ⟨meant, fault, found⟩
    · simp only [found, meant, Option.bind_some]
      cases l.finish draft <;> rfl
    · simp only [found, meant]
      rfl
  | number =>
    have digit : b = 45 ∨ isDigit b = true := leads
    refine read_other front ⟨?_, ?_⟩ <;> rintro rfl <;> exact absurd digit (by decide)
  | flag value => cases value <;> cases leads <;> exact read_other front (by decide)
  | null | text =>
    cases leads
    exact read_other front (by decide)

end Layout
end SecretKeeper.Json

import SecretKeeper.Proofs.Secret.Schema

/-!
Lists of secrets. What a list is read as, is what its items are read as one by one; a list with an
item that is refused is refused as a whole.
-/
namespace SecretKeeper

namespace Json

open Text SecretKeeper.Json.Tree

def meanings? (meaning : Tree → Option α) : List (Padded Tree) → Option (List α)
  | [] => some []
  | item :: more =>
    (meaning item.value).bind fun a => (meanings? meaning more).map (a :: ·)

def Tree.items? (meaning : Tree → Option α) : Tree → Option (List α)
  | list _ items => meanings? meaning items
  | _ => none

theorem meanings_iff (meaning : Tree → Option α) (items : List (Padded Tree)) (as : List α) :
    meanings? meaning items = some as ↔
      items.map (fun item => meaning item.value) = as.map some := by
  induction items generalizing as with
  | nil => cases as <;> simp [meanings?]
  | cons item more ih => cases as <;> simp [meanings?, Option.bind_eq_some_iff, ih]

namespace Reader
variable {p : Reader α} {meaning : Tree → Option α}

theorem readItems_step (p : Reader α) (first : Bool) (s : Bytes) :
    (p.readItems first s).toOption = (nextItem first s).toOption.bind fun k =>
      if k.1 then (p.run k.2).toOption.bind fun r =>
        (p.readItems false r.2).toOption.map fun rs => (r.1 :: rs.1, rs.2)
      else some ([], k.2) := by
  rw [readItems]
  split <;> rename_i found <;> rw [found]
  · rfl
  · rfl
  · split
    · rename_i read
      simp only [Except.toOption, Option.bind_some, ↓reduceIte, read]
      rfl
    · rename_i rest read
      simp only [Except.toOption, Option.bind_some, ↓reduceIte, read]
      cases p.readItems false rest <;> rfl

section Items
variable (means : p.Means meaning)
include means

theorem readItems_of_next {first : Bool} {s after : Bytes} {item : Padded Tree}
    (found : nextItem first s =
      .ok (true, utf8 item.value.chars ++ (utf8 (blankChars item.after) ++ after)))
    (ends : EndsNumeral after) :
    (p.readItems first s).toOption = (meaning item.value).bind fun a =>
      (p.readItems false (utf8 (blankChars item.after) ++ after)).toOption.map fun rs =>
        (a :: rs.1, rs.2) := by
  have value : (p.run (utf8 item.value.chars ++ (utf8 (blankChars item.after) ++ after))).toOption =
      (meaning item.value).map (·, utf8 (blankChars item.after) ++ after) :=
    means [] item.value (endsNumeral_blanks item.after ends)
  rw [readItems_step, toOption_eq_some.mpr found]
  simp only [Option.bind_some, ↓reduceIte, value, Option.bind_map]
  rfl

theorem readItems_rest (bs : List Blank) (items : List (Padded Tree)) (rest : Bytes) :
    (p.readItems false (utf8 (blankChars bs) ++
        (utf8 (furtherItems items) ++ 93 :: rest))).toOption =
      (meanings? meaning items).map (·, rest) := by
  induction items generalizing bs with
  | nil =>
    rw [furtherItems, utf8_nil, List.nil_append, readItems_end (nextItem_end false bs rest)]
    rfl
  | cons item more ih =>
    rw [utf8_further_item,
      readItems_of_next means (nextItem_comma bs item _) (ends_items more rest), ih, meanings?]
    cases meaning item.value with
    | none => rfl
    | some a => cases meanings? meaning more <;> rfl

theorem readItems_all (bs : List Blank) (items : List (Padded Tree)) (rest : Bytes) :
    (p.readItems true (utf8 (blankChars bs) ++
        (utf8 (itemsChars items) ++ 93 :: rest))).toOption =
      (meanings? meaning items).map (·, rest) := by
  cases items with
  | nil =>
    rw [itemsChars, utf8_nil, List.nil_append, readItems_end (nextItem_end true bs rest)]
    rfl
  | cons item more =>
    rw [utf8_item, readItems_of_next means (nextItem_padded bs item _) (ends_items more rest),
      readItems_rest means, meanings?]
    cases meaning item.value with
    | none => rfl
    | some a => cases meanings? meaning more <;> rfl

theorem list_means : p.list.Means (items? meaning) := by
  intro bs t rest _
  obtain ⟨b, more, bytes, leads⟩ := t.start rest
  have front : skipBlanks (utf8 (blankChars bs) ++ (utf8 t.chars ++ rest)) = b :: more := by
    rw [skipBlanks_blanks, bytes, skipBlanks_cons leads.ink.1]
  by_cases bracket : b = 91
  · subst bracket
    cases t with
    | list inside items =>
      have all := readItems_all means inside items rest
      rw [utf8_list] at bytes
      simp only [list, readList, front, ← List.tail_eq_of_cons_eq bytes, items?]
      rw [← all]
      generalize p.readItems true _ = read
      cases read <;> rfl
    | number => exact absurd (show (91 : UInt8) = 45 ∨ isDigit 91 = true from leads) (by decide)
    | flag value => cases value <;> cases leads
    | null | text | object => cases leads
  · have refused : items? meaning t = none := by
      cases t with
      | list => exact absurd leads bracket
      | null | flag | number | text | object => rfl
    rw [refused]
    simp only [list, readList, front]
    split
    · rfl
    · rename_i same
      exact absurd (List.cons.inj same).1 bracket
    · rfl

end Items
end Reader
end Json

namespace Secret

open Json Text

def listing (ds : List Document) : Bytes := 91 :: ([44].intercalate (ds.map Document.bytes) ++ [93])

theorem listing_further (d : Document) (ds : List Document) :
    [44].intercalate ((d :: ds).map Document.bytes) = d.bytes ++ utf8 (Tree.furtherItems ds) := by
  induction ds generalizing d with
  | nil => simp [Tree.furtherItems, utf8_nil, List.intercalate]
  | cons e more ih =>
    have further := Tree.utf8_further_item e more []
    rw [List.append_nil, List.append_nil] at further
    rw [List.map_cons, List.map_cons, List.intercalate_cons_cons, ← List.map_cons, ih, further,
      List.append_assoc]
    rfl

theorem listing_bytes (ds : List Document) :
    listing ds = Document.bytes ⟨[], .list [] ds, []⟩ := by
  have list := (Tree.utf8_padded ⟨[], .list [] ds, []⟩ []).trans (Tree.utf8_list [] ds [])
  rw [List.append_nil] at list
  rw [Document.bytes, list, listing]
  cases ds with
  | nil => rfl
  | cons d ds =>
    rw [listing_further, Tree.utf8_item, List.append_assoc]
    rfl

theorem listOfDocument_means (ds : List Document) :
    (listOfDocument (listing ds)).toOption = meanings? (layout.meaning? slots) ds := by
  rw [listOfDocument, toOption_mapError, listing_bytes]
  exact Reader.document_means (Reader.list_means (Layout.reader_means slots_read)) _

theorem list_iff (ds : List Document) (ss : List Secret) :
    listOfDocument (listing ds) = .ok ss ↔
      ds.map (fun d => ofDocument d.bytes) = ss.map .ok := by
  rw [← toOption_eq_some, listOfDocument_means, meanings_iff]
  induction ds generalizing ss with
  | nil => cases ss <;> simp
  | cons d ds ih =>
    cases ss with
    | nil => simp
    | cons s ss =>
      have first : layout.meaning? slots d.value = some s ↔ ofDocument d.bytes = .ok s := by
        rw [← ofDocument_means, toOption_eq_some]
      simp only [List.map_cons, List.cons.injEq, first, ih]

theorem exists_list_iff (ds : List Document) :
    (∃ ss, listOfDocument (listing ds) = .ok ss) ↔ ∀ d ∈ ds, ∃ s, ofDocument d.bytes = .ok s := by
  simp only [list_iff]
  induction ds with
  | nil => exact iff_of_true ⟨[], rfl⟩ (List.forall_mem_nil _)
  | cons d ds ih =>
    rw [List.forall_mem_cons, ← ih]
    constructor
    · rintro ⟨ss, same⟩
      cases ss with
      | nil => cases same
      | cons s ss =>
        obtain ⟨first, others⟩ := List.cons.inj same
        exact ⟨⟨s, first⟩, ss, others⟩
    · rintro ⟨⟨s, first⟩, ss, others⟩
      exact ⟨s :: ss, congrArg₂ List.cons first others⟩

theorem refused_iff (x : Except DocumentFault α) :
    (∃ fault, x.mapError Problem.serialization = .error (.serialization fault)) ↔
      ¬∃ a, x.mapError Problem.serialization = .ok a := by
  cases x <;> simp [Except.mapError]

/-- A list of documents is a list of secrets if every document is a secret, and then these are the
secrets in their order. One document that is none makes the whole list an error. -/
theorem list_agrees_with_its_documents (ds : List Document) :
    ((∃ ss, listOfDocument (listing ds) = .ok ss) ↔ ∀ d ∈ ds, ∃ s, ofDocument d.bytes = .ok s) ∧
    (∀ ss, listOfDocument (listing ds) = .ok ss ↔
      ds.map (fun d => ofDocument d.bytes) = ss.map .ok) ∧
    ((∃ fault, listOfDocument (listing ds) = .error (.serialization fault)) ↔
      ∃ d ∈ ds, ∃ fault, ofDocument d.bytes = .error (.serialization fault)) := by
  refine ⟨exists_list_iff ds, list_iff ds, ?_⟩
  have single (d : Document) :
      (∃ fault, ofDocument d.bytes = .error (.serialization fault)) ↔
        ¬∃ s, ofDocument d.bytes = .ok s := refused_iff (reader.document d.bytes)
  have whole : (∃ fault, listOfDocument (listing ds) = .error (.serialization fault)) ↔
      ¬∃ ss, listOfDocument (listing ds) = .ok ss := refused_iff (reader.list.document (listing ds))
  rw [whole, exists_list_iff]
  simp only [single, not_forall, exists_prop]

end Secret
end SecretKeeper

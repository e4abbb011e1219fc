import SecretKeeper.Proofs.Json.Delimited
import SecretKeeper.Proofs.Secret.Listing

/-!
Documents that are cut off or go on. A secret and a list of secrets tell by themselves where they
end, so that of all beginnings of a document only those are read that lack nothing but blanks.
-/
namespace SecretKeeper.Secret

open Json

theorem columns_delimited : ∀ c ∈ layout.columns, c.value.Delimited := by
  have texts := Reader.text_closed.delimited
  have contents : Content.reader.Delimited := Reader.check_delimited texts _ _
  have moments : Moment.reader.Delimited :=
    Reader.check_delimited (Reader.textFor_closed _).delimited _ _
  have flags := Reader.flag_closed.delimited
  simp only [layout, columns, List.forall_mem_cons, List.not_mem_nil, false_imp_iff, implies_true,
    and_true]
  exact ⟨Reader.map_delimited texts _, Reader.map_delimited contents _,
    Reader.map_delimited Reader.word64_delimited _, Reader.map_delimited moments _,
    Reader.map_delimited flags _, Reader.map_delimited texts _, Reader.map_delimited texts _,
    Reader.map_delimited texts _⟩

theorem reader_closed : reader.Closed := Layout.reader_closed columns_delimited

theorem mapError_eq_ok {x : Except ε α} {f : ε → δ} {a : α} :
    x.mapError f = .ok a ↔ x = .ok a := by
  cases x <;> simp [Except.mapError]

theorem ofDocument_append {d : Bytes} {s : Secret} (read : ofDocument d = .ok s) (x : Bytes)
    (s' : Secret) : ofDocument (d ++ x) = .ok s' ↔ OnlyBlanks x ∧ s' = s := by
  rw [ofDocument, mapError_eq_ok] at read ⊢
  exact Reader.document_append reader_closed read x s'

theorem listOfDocument_append {d : Bytes} {ss : List Secret} (read : listOfDocument d = .ok ss)
    (x : Bytes) (ss' : List Secret) :
    listOfDocument (d ++ x) = .ok ss' ↔ OnlyBlanks x ∧ ss' = ss := by
  rw [listOfDocument, mapError_eq_ok] at read ⊢
  exact Reader.document_append (Reader.list_closed reader_closed.delimited) read x ss'

/-- A document that is read stays one, of the same value, if blanks are added to it, and is none if
anything else is added. So if a document is read and a beginning of it too, the rest is blank. -/
theorem only_blanks_follow_a_document :
    (∀ (d x : Bytes) (s s' : Secret), ofDocument d = .ok s →
      (ofDocument (d ++ x) = .ok s' ↔ OnlyBlanks x ∧ s' = s)) ∧
    (∀ (d x : Bytes) (ss ss' : List Secret), listOfDocument d = .ok ss →
      (listOfDocument (d ++ x) = .ok ss' ↔ OnlyBlanks x ∧ ss' = ss)) ∧
    (∀ (d e : Bytes) (s s' : Secret), e <+: d → ofDocument d = .ok s → ofDocument e = .ok s' →
      ∃ x, d = e ++ x ∧ OnlyBlanks x) ∧
    ∀ (d e : Bytes) (ss ss' : List Secret), e <+: d → listOfDocument d = .ok ss →
      listOfDocument e = .ok ss' → ∃ x, d = e ++ x ∧ OnlyBlanks x := by
  refine ⟨?_, ?_, ?_, ?_⟩
  · intro d x s s' read
    exact ofDocument_append read x s'
  · intro d x ss ss' read
    exact listOfDocument_append read x ss'
  · rintro _ e s s' ⟨x, rfl⟩ whole part
    exact ⟨x, rfl, ((ofDocument_append part x s).mp whole).1⟩
  · rintro _ e ss ss' ⟨x, rfl⟩ whole part
    exact ⟨x, rfl, ((listOfDocument_append part x ss).mp whole).1⟩

def sampleDocument : Document := ⟨[], .object [] sampleMembers, []⟩

theorem only_blanks_follow_a_document_of_two_members :
    ofDocument sampleDocument.bytes = .ok sample ∧
      ofDocument (sampleDocument.bytes ++ [10]) = .ok sample ∧
      (∀ s, ofDocument (sampleDocument.bytes ++ [123, 125]) ≠ .ok s) ∧
      listOfDocument (listing [sampleDocument]) = .ok [sample] ∧
      listOfDocument (listing [sampleDocument] ++ [32]) = .ok [sample] ∧
      (∃ x, sampleDocument.bytes ++ [10] = sampleDocument.bytes ++ x ∧ OnlyBlanks x) ∧
      ∃ x, listing [sampleDocument] ++ [32] = listing [sampleDocument] ++ x ∧ OnlyBlanks x := by
  obtain ⟨further, furtherList, cut, cutList⟩ := only_blanks_follow_a_document
  have read : ofDocument sampleDocument.bytes = .ok sample :=
    (ofDocument_object [] [] [] sampleMembers sample).mpr ⟨sample_legible, sample_schema⟩
  have readList : listOfDocument (listing [sampleDocument]) = .ok [sample] :=
    (list_iff [sampleDocument] [sample]).mpr (congrArg (fun r => [r]) read)
  have lineFeed : OnlyBlanks [10] := by simp [OnlyBlanks]
  have space : OnlyBlanks [32] := by simp [OnlyBlanks]
  have ended := (further sampleDocument.bytes [10] sample sample read).mpr ⟨lineFeed, rfl⟩
  have endedList :=
    (furtherList (listing [sampleDocument]) [32] [sample] [sample] readList).mpr ⟨space, rfl⟩
  refine ⟨read, ended, ?_, readList, endedList,
    cut _ _ sample sample (List.prefix_append _ _) ended read,
    cutList _ _ [sample] [sample] (List.prefix_append _ _) endedList readList⟩
  intro s both
  have blank := ((further sampleDocument.bytes [123, 125] sample s read).mp both).1
  simp [OnlyBlanks] at blank

end SecretKeeper.Secret

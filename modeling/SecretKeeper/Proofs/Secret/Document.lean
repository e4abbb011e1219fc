import SecretKeeper.Proofs.Base64
import SecretKeeper.Proofs.Json.Record
import SecretKeeper.Proofs.Moment
import SecretKeeper.Secret.Document

/-!
Secrets read back from their documents: each of the eight members by its own reader, and then the
whole object, alone or in a list.
-/
namespace SecretKeeper

open Json Text

theorem toUTF8_injective {s t : String} (same : s.toUTF8.toList = t.toUTF8.toList) : s = t := by
  rw [← String.ofList_toList (s := s), ← String.ofList_toList (s := t), toUTF8_ofList,
    toUTF8_ofList] at same
  exact String.toList_inj.mp (utf8_injective same)

theorem Moment.reader_reads (m : Moment) : Moment.reader.Reads (.text m.text) m := by
  apply Reader.check_reads (Reader.textFor_reads _ m.text)
  rw [Moment.text, String.toList_ofList, Moment.ofChars_chars]
  rfl

namespace Secret

namespace Content

theorem encoded_bytes (c : Content) : c.encoded.toUTF8.toList = Base64.encode c.bytes := by
  rw [encoded, toUTF8_ofList, utf8_of_bytes (Base64.encode_ascii c.bytes)]

theorem ofEncoded_encoded (c : Content) : ofEncoded c.encoded = .ok c := by
  rw [ofEncoded, encoded_bytes, Base64.decode_encode]
  rfl

theorem ofEncoded_iff (s : String) (c : Content) : ofEncoded s = .ok c ↔ s = c.encoded := by
  constructor
  · intro read
    obtain ⟨bytes, decoded, rfl⟩ := map_eq_ok.mp read
    have same : s.toUTF8.toList = (encoded ⟨bytes⟩).toUTF8.toList := by
      rw [encoded_bytes, Base64.encode_of_decode decoded]
    exact toUTF8_injective same
  · rintro rfl
    exact ofEncoded_encoded c

theorem reader_reads (c : Content) : reader.Reads c.toValue c := by
  apply Reader.check_reads (Reader.text_reads c.encoded)
  rw [ofEncoded_encoded]
  rfl

end Content

def Draft.full (s : Secret) : Draft where
  name := some s.name
  content := some s.content
  length := some s.length
  createdAt := some s.createdAt
  isVersioned := some s.isVersioned
  mode := some s.mode
  owner := some s.owner
  group := some s.group

theorem finish_full (s : Secret) : (Draft.full s).finish = .ok s := rfl

theorem fills_members (s : Secret) : ∃ members, s.toValue = .object members ∧
    layout.Fills layout.blank members (Draft.full s) := by
  refine ⟨_, rfl, ?_⟩
  apply Layout.Fills.given rfl rfl (Reader.text_reads s.name)
  apply Layout.Fills.given rfl rfl (Content.reader_reads s.content)
  apply Layout.Fills.given rfl rfl (Reader.word64_reads s.length)
  apply Layout.Fills.given rfl rfl (Moment.reader_reads s.createdAt)
  apply Layout.Fills.given rfl rfl (Reader.flag_reads s.isVersioned)
  apply Layout.Fills.given rfl rfl (Reader.text_reads s.mode)
  apply Layout.Fills.given rfl rfl (Reader.text_reads s.owner)
  apply Layout.Fills.given rfl rfl (Reader.text_reads s.group)
  exact Layout.Fills.done (Draft.full s)

theorem reader_reads (s : Secret) : reader.Reads s.toValue s := by
  obtain ⟨members, object, fills⟩ := fills_members s
  rw [object]
  exact Layout.reader_reads fills (finish_full s)

theorem ofDocument_render (s : Secret) : ofDocument s.render.toUTF8.toList = .ok s := by
  rw [ofDocument, render, Value.render_bytes, Reader.document_reads (reader_reads s)]
  rfl

theorem listOfDocument_render (ss : List Secret) :
    listOfDocument (Value.list (ss.map toValue)).render.toUTF8.toList = .ok ss := by
  have reads : reader.list.Reads (.list (ss.map toValue)) ss :=
    Reader.list_reads fun s _ => reader_reads s
  rw [listOfDocument, Value.render_bytes, Reader.document_reads reads]
  rfl

/-- What is written of a secret, or of a list of secrets, reads back as it was: every text, every
content, every 64-bit length and every moment. -/
theorem documents_read_back :
    (∀ s : Secret, ofDocument s.render.toUTF8.toList = .ok s) ∧
      ∀ ss : List Secret,
        listOfDocument (Value.list (ss.map toValue)).render.toUTF8.toList = .ok ss :=
  ⟨ofDocument_render, listOfDocument_render⟩

end Secret
end SecretKeeper

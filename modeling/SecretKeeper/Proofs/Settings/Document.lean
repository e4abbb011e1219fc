import SecretKeeper.Proofs.Json.Record
import SecretKeeper.Settings.Document

/-!
Settings read back from their documents, whatever their numbers, flags and texts are, and whether
or not they keep to their bounds.
-/
namespace SecretKeeper

open Json

theorem TimingSettings.reader_reads (t : TimingSettings) : layout.reader.Reads t.toValue t := by
  refine Layout.reader_reads (?_ : layout.Fills layout.blank _
    ⟨t.freshThreshold, t.secretDeadline, t.listDeadline⟩) rfl
  apply Layout.Fills.given rfl rfl (Reader.word64_reads t.freshThreshold)
  apply Layout.Fills.given rfl rfl (Reader.word64_reads t.secretDeadline)
  apply Layout.Fills.given rfl rfl (Reader.word64_reads t.listDeadline)
  exact Layout.Fills.done _

theorem LogSettings.reader_reads (l : LogSettings) : layout.reader.Reads l.toValue l := by
  refine Layout.reader_reads (?_ : layout.Fills layout.blank _
    ⟨l.debug, l.mountpoint, l.json⟩) rfl
  apply Layout.Fills.given rfl rfl (Reader.flag_reads l.debug)
  apply Layout.Fills.given rfl rfl (Reader.text_reads l.mountpoint)
  apply Layout.Fills.given rfl rfl (Reader.flag_reads l.json)
  exact Layout.Fills.done _

namespace Settings

theorem reader_reads (s : Settings) : layout.reader.Reads s.toValue s := by
  refine Layout.reader_reads (?_ : layout.Fills layout.blank _ ⟨s.timing, s.log⟩) rfl
  apply Layout.Fills.given rfl rfl s.timing.reader_reads
  apply Layout.Fills.given rfl rfl s.log.reader_reads
  exact Layout.Fills.done _

theorem ofDocument_render (s : Settings) : ofDocument s.render.toUTF8.toList = .ok s := by
  rw [ofDocument, render, Value.render_bytes, Reader.document_reads s.reader_reads]
  rfl

theorem load_render (s : Settings) : load s.render.toUTF8.toList = s.checked := by
  rw [load, ofDocument_render]

end Settings
end SecretKeeper

import SecretKeeper.Proofs.Cache.Notes
import SecretKeeper.Proofs.Log.Filter
import SecretKeeper.Proofs.Log.Reading

/-!
A log of JSON lines. Whatever a run emits and whatever stands in names and on mounts, each event
that passes is one line, from which all of it is read back. The span is in the line if the filter
sees it: filters of settings always do, and others need not, so that a line can lose what it should
tell of its operation.
-/
namespace SecretKeeper.Cache

open Log

/-- What can be read off a log of JSON lines. -/
structure ToldInJson (wanted : Option String) (l : Logger) (origin : Moment)
    (events : List Event) (lines : List String) : Prop where
  lines : List.Forall₂ (l.Decodes origin) (l.passing events) lines
  unasked : (∀ text, wanted = some text → Filter.ofText text = .error .malformed) →
    ∀ e, l.filter.spanOf? e = e.span
  minor : (∀ d ∈ l.filter.directives, d.isAboutSpans = false) →
    ∀ e ∈ l.passing events, Span.level.rank ≤ e.level.rank → l.filter.spanOf? e = e.span

namespace World

section Moment
variable {backends : List (String × Backend)} {w : World} (moment : Moment backends w)
  {events : List Event} (emitted : w.Emits events)
include moment emitted

theorem json_lines_tell_events_with_seen_spans {wanted : Option String} {settings : LogSettings}
    {l : Logger} (made : Logger.ofSettings? wanted settings = some l)
    (json : settings.json = true) (origin : SecretKeeper.Moment) (more : List LogSettings) :
    ToldInJson wanted l origin (Logger.opening settings :: events)
      (written origin wanted (settings :: more) events) := by
  obtain ⟨filter, chosen, rfl⟩ := Option.map_eq_some_iff.mp made
  have distinct : ∀ e ∈ Logger.opening settings :: events,
      ("message" :: e.fields.map Prod.fst).Nodup := by
    have others : ∀ e ∈ events, ("message" :: e.fields.map Prod.fst).Nodup :=
      fun e member => (emitted_orderly moment emitted e member).distinct
    refine List.forall_mem_cons.mpr ⟨?_, others⟩
    exact show ["message", "mountpoint", "debug", "json"].Nodup by decide
  constructor
  · rw [written, made]
    exact Logger.lines_decode json origin distinct
  · intro unasked e
    rw [Filter.choose_of_unasked unasked] at chosen
    rw [← Option.some.inj chosen]
    exact Filter.ofSettings_spanOf settings e
  · intro topical e passing minor
    have passes : filter.admits e = true := (List.mem_filter.mp passing).2
    cases span : e.span with
    | none => rw [Filter.spanOf?, span, Option.filter_none]
    | some s =>
      rw [Filter.spanOf?, span, Option.filter_some,
        if_pos (Filter.admitsSpan_of_admits topical passes minor s)]

end Moment

theorem json_lines_tell_events_with_seen_spans_of_crafted_names :
    let name := "x\"\x7d\n\x7b\"level\":\"ERROR\"\\"
    let mountpoint := "/mnt/\r\n\x00\"a\u2028"
    let backends := [("b", { Backend.blank with fetches := [.after 0 .breakdown] })]
    let log : LogSettings := ⟨true, mountpoint, true⟩
    let w := after backends [.create "c" "b" (.ofMillis 0 1 1) log, .run "c" (.lookup name)]
    let span : Span := ⟨"secret", mountpoint, some name⟩
    let failed := ((Note.failed "secret").event 0 (some span)).completed [.label "task 1\n"]
    let events := [(Note.created ⟨0, "b", .ofMillis 0 1 1, log⟩).event 0 none, failed,
      Note.unavailable.event 0 (some span)]
    let l : Logger := ⟨.upTo .debug, true⟩
    Moment backends w ∧ w.Emits events ∧ Logger.ofSettings? none log = some l ∧
      ToldInJson none l .epoch (Logger.opening log :: events) (written .epoch none [log] events) ∧
      (written .epoch none [log] events).length = 4 ∧ l.filter.spanOf? failed = some span := by
  intro name mountpoint backends log w span failed events l
  have moment : Moment backends w := after_moment _ _
  have made : Logger.ofSettings? none log = some l := by decide
  have logged : w.events = [(Note.created ⟨0, "b", .ofMillis 0 1 1, log⟩).event 0 none,
      (Note.failed "secret").event 0 (some span), Note.unavailable.event 0 (some span)] := by
    decide +kernel
  have emitted : w.Emits events := by
    rw [Emits, logged]
    exact .cons ⟨[], rfl, rfl⟩ (.cons ⟨[_], rfl, rfl⟩ (.cons ⟨[], rfl, rfl⟩ .nil))
  have told := json_lines_tell_events_with_seen_spans moment emitted made rfl .epoch []
  have passing : (l.passing (Logger.opening log :: events)).length = 4 := by decide +kernel
  exact ⟨moment, emitted, made, told, told.lines.length_eq.symm.trans passing,
    by decide +kernel⟩

/-- If only warnings are asked for, the line of an event in a span does not tell of the span. -/
theorem json_line_of_warning_loses_its_span :
    let secret := Secret.create "x" .empty .epoch
    let settings : LogSettings := ⟨true, "/m", true⟩
    let w := after [("b", Backend.blank)] [.create "c" "b" (.ofMillis 0 1 1) ⟨true, "/mnt/a", true⟩,
      .run "c" (.add secret), .run "c" (.lookup "x")]
    let e := (Note.serving 0).event 0 (some ⟨"secret", "/mnt/a", some "x"⟩)
    let l : Logger := ⟨.upTo .warn, true⟩
    Logger.ofSettings? (some "warn") settings = some l ∧
      l.passing (Logger.opening settings :: w.events) = [e] ∧
      ∃ line v told, written .epoch (some "warn") [settings] w.events = [line] ∧
        Json.Encodes line v ∧ Line.ofValue? v = some told ∧
        told.message = "Serving cached secret after backend failure" ∧ told.span = none := by
  intro secret settings w e l
  have made : Logger.ofSettings? (some "warn") settings = some l := by decide
  have passing : l.passing (Logger.opening settings :: w.events) = [e] := by decide +kernel
  have unseen : l.filter.spanOf? e = none := by decide
  have decodes : l.Decodes .epoch e (l.record .epoch e) :=
    Logger.record_decodes rfl .epoch (by decide)
  have lines : written .epoch (some "warn") [settings] w.events = [l.record .epoch e] := by
    rw [written, made, ← lines_of_visible decodes.visible]
    simp only [Logger.lines, passing]
    exact List.flatMap_singleton _ e
  exact ⟨made, passing, _, _, _, lines, decodes.encodes, decodes.told, rfl, unseen⟩

end World
end SecretKeeper.Cache

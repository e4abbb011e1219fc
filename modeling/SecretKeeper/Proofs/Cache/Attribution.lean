import SecretKeeper.Proofs.Cache.Notes
import SecretKeeper.Proofs.Log.Filter
import SecretKeeper.Proofs.Log.Record

/-!
Whose lines the lines are. The mount point of an operation goes into the log with its span only,
so it can be read off a record exactly if the filter sees the span. The filters of the settings
always do. Filters that are asked for need not: then warnings of several mounts look alike.
-/
namespace SecretKeeper.Cache

open Log

/-- What the record of an event tells of the operation from which it comes. -/
structure Attributed (wanted : Option String) (l : Logger) (origin : Moment) (e : Event)
    (op : Operation) (s : Span) : Prop where
  span : op.span? = some s
  inside : e.span = some s
  seen : l.filter.admitsSpan logTarget s = true → l.Tells origin e op.mountpoint
  unseen : l.filter.admitsSpan logTarget s = false → l.Conceals origin e
  unasked : (∀ text, wanted = some text → Filter.ofText text = .error .malformed) →
    l.filter.admitsSpan logTarget s = true
  minor : (∀ d ∈ l.filter.directives, d.isAboutSpans = false) → l.filter.admits e = true →
    Span.level.rank ≤ e.level.rank → l.filter.admitsSpan logTarget s = true

theorem Operation.span_mountpoint {op : Operation} {s : Span} (span : op.span? = some s) :
    s.mountpoint = op.mountpoint := by
  obtain ⟨label, _, rfl⟩ := Option.map_eq_some_iff.mp span
  rfl

namespace World

/-- Each event in a span that a run emits comes from an operation that has ended, and its record
tells the mount point of that operation exactly if the filter of the logger sees the span. -/
theorem records_tell_mountpoints_with_spans_only {backends : List (String × Backend)} {w : World}
    (moment : Moment backends w) {events : List Event} (emitted : w.Emits events)
    {wanted : Option String} {settings : LogSettings} {l : Logger}
    (made : Logger.ofSettings? wanted settings = some l) (origin : SecretKeeper.Moment) {e : Event}
    (told : e ∈ events) (inSpan : e.span.isSome = true) :
    ∃ f ∈ w.finished, ∃ s, Attributed wanted l origin e f.operation s := by
  obtain ⟨noted, logged, values, _, rfl⟩ := emitted_mem emitted told
  obtain ⟨f, finished, note, _, rfl⟩ := logged_in_span moment logged inSpan
  obtain ⟨s, span⟩ := Option.isSome_iff_exists.mp inSpan
  have operation : f.operation.span? = some s := span
  refine ⟨f, finished, s, operation, span, ?_, ?_, ?_, ?_⟩
  · intro seen
    rw [← Operation.span_mountpoint operation]
    exact Logger.record_tells span origin seen
  · exact Logger.record_conceals span origin
  · intro unasked
    obtain ⟨filter, chosen, rfl⟩ := Option.map_eq_some_iff.mp made
    rw [Filter.choose_of_unasked unasked] at chosen
    rw [← Option.some.inj chosen]
    exact Filter.ofSettings_admitsSpan settings logTarget s
  · intro topical passes minor
    exact Filter.admitsSpan_of_admits topical passes minor s

/-- Calls for caches on two mounts fail, and one breaks down with an error text, while the filter is
that of the settings. -/
theorem records_tell_mountpoints_with_spans_only_of_two_mounts :
    let secret := Secret.create "x" .empty .epoch
    let timing : Timing := .ofMillis 0 10 20
    let backends := [("b", { Backend.blank with
      fetches := [.after (milliseconds 3) .nothing, .after (milliseconds 3) .breakdown] })]
    let w := after backends [
      .create "c" "b" timing ⟨true, "/mnt/a", false⟩, .run "c" (.add secret),
      .create "d" "b" timing ⟨true, "/mnt/b", false⟩, .run "d" (.add secret),
      .run "c" (.lookup "x"), .run "d" (.lookup "x")]
    let events := w.events.map fun e => e.completed (e.withheld.map fun _ => .label "task 1")
    let settings : LogSettings := ⟨false, "/m", false⟩
    let l : Logger := ⟨.upTo .info, false⟩
    let e := ((Note.failed "secret").event (milliseconds 6)
      (some ⟨"secret", "/mnt/b", some "x"⟩)).completed [.label "task 1"]
    Moment backends w ∧ w.Emits events ∧ Logger.ofSettings? none settings = some l ∧ e ∈ events ∧
      e.span.isSome = true ∧ (∃ f ∈ w.finished, ∃ s, Attributed none l .epoch e f.operation s) ∧
      l.record .epoch e = "1970-01-01T00:00:00.006000Z  WARN secret_cache\x7boperation=secret " ++
        "mountpoint=/mnt/b secret=x\x7d: secretfs::secrets::cache: " ++
        "Backend call failed operation=\"secret\" error=task 1" := by
  intro secret timing backends w events settings l e
  have moment : Moment backends w := after_moment _ _
  have emitted : w.Emits events := by
    rw [Emits, List.forall₂_map_right_iff, List.forall₂_same]
    intro e _
    exact ⟨_, List.length_map _, rfl⟩
  have made : Logger.ofSettings? none settings = some l := by decide
  have told : e ∈ events := by decide +kernel
  exact ⟨moment, emitted, made, told, rfl,
    records_tell_mountpoints_with_spans_only moment emitted made .epoch told rfl,
    by decide +kernel⟩

/-- If only warnings are asked for, the lines of two mounts are the same and name neither. -/
theorem warnings_of_two_mounts_look_alike :
    let secret := Secret.create "x" .empty .epoch
    let lines := fun mountpoint => written .epoch (some "warn") [⟨true, "/m", false⟩]
      (after [("b", Backend.blank)] [.create "c" "b" (.ofMillis 0 1 1) ⟨true, mountpoint, false⟩,
        .run "c" (.add secret), .run "c" (.lookup "x")]).events
    lines "/mnt/b" = lines "/mnt/a" ∧
      lines "/mnt/a" = ["1970-01-01T00:00:00.000000Z  WARN secretfs::secrets::cache: " ++
        "Serving cached secret after backend failure age_ms=0"] := by
  decide +kernel

end World
end SecretKeeper.Cache

import SecretKeeper.Log.Logger
import SecretKeeper.Proofs.Cache.Trails

/-!
What logged events are like. None is finer than DEBUG, and no two of its fields have one name,
those that are withheld and the message included. What a run emits is its log, with some value for
each field that is withheld.
-/
namespace SecretKeeper.Log

def Event.completed (e : Event) (values : List Field) : Event :=
  { e with fields := e.fields ++ e.withheld.zip values }

/-- An event that could be nothing but another one whose withheld fields are told. -/
def Event.Completes (told e : Event) : Prop :=
  ∃ values : List Field, values.length = e.withheld.length ∧ told = e.completed values

structure Event.Orderly (e : Event) : Prop where
  coarse : e.level ≠ .trace
  distinct : ("message" :: e.fields.map Prod.fst).Nodup

end SecretKeeper.Log

namespace SecretKeeper.Cache

open Log

namespace Note

structure Orderly (n : Note) : Prop where
  coarse : n.level ≠ .trace
  distinct : ("message" :: (n.fields.map Prod.fst ++ n.withheld)).Nodup

theorem Orderly.completed {n : Note} (orderly : n.Orderly) (time : Nat) (span : Option Span)
    {values : List Field} (length : values.length = n.withheld.length) :
    ((n.event time span).completed values).Orderly := by
  constructor
  · exact orderly.coarse
  · have names : ((n.event time span).completed values).fields.map Prod.fst =
        n.fields.map Prod.fst ++ n.withheld := by
      rw [Event.completed, List.map_append]
      exact congrArg _ (List.map_fst_zip (Nat.le_of_eq length.symm))
    rw [names]
    exact orderly.distinct

theorem created_orderly (h : Handle) : (created h).Orderly := by
  constructor <;> simp [created]

end Note

theorem Handle.waitNote_orderly (operation : String) (deadline elapsed : Nat)
    (verdict : Verdict α) : (waitNote operation deadline elapsed verdict).Orderly := by
  cases verdict with
  | answered => constructor <;> simp [waitNote, Note.answered]
  | unusable => constructor <;> simp [waitNote, Note.unusable]
  | failed => constructor <;> simp [waitNote, Note.failed]
  | late => constructor <;> simp [waitNote, Note.late]

theorem Reply.note_orderly (operation : String) (deadline : Nat) (reply : Reply α) :
    (reply.note operation deadline).Orderly := by
  rw [← reply.waitNote_eq]
  exact Handle.waitNote_orderly operation deadline _ _

theorem Fallback.orderly {name : String} {now : Nat} {before : Contents} {result : Result}
    {last : Note} (fallback : Fallback name now before result last) : last.Orderly := by
  cases fallback with
  | served => constructor <;> simp [Note.serving]
  | missed => constructor <;> simp [Note.unavailable]

theorem Trail.orderly {op : Operation} {now : Nat} {before : Contents} {q : Option Query}
    {result : Result} {notes : List Note} (trail : Trail op now before q result notes) :
    ∀ n ∈ notes, n.Orderly := by
  cases trail with
  | hit =>
    rw [List.forall_mem_singleton]
    constructor <;> simp [Note.hit]
  | stored name reply =>
    rw [List.forall_mem_cons, List.forall_mem_singleton]
    refine ⟨reply.note_orderly _ _, ?_⟩
    constructor <;> simp [Note.stored]
  | foreign name reply secret result last request brought other fallback =>
    rw [List.forall_mem_cons, List.forall_mem_cons, List.forall_mem_singleton]
    refine ⟨reply.note_orderly _ _, ?_, fallback.orderly⟩
    constructor <;> simp [Note.foreign]
  | unanswered name reply result last request nothing fallback =>
    rw [List.forall_mem_cons, List.forall_mem_singleton]
    exact ⟨reply.note_orderly _ _, fallback.orderly⟩
  | replaced reply =>
    rw [List.forall_mem_cons, List.forall_mem_singleton]
    refine ⟨reply.note_orderly _ _, ?_⟩
    constructor <;> simp [Note.replaced]
  | served reply =>
    rw [List.forall_mem_cons, List.forall_mem_singleton]
    refine ⟨reply.note_orderly _ _, ?_⟩
    constructor <;> simp [Note.servingListing]
  | seeded =>
    rw [List.forall_mem_singleton]
    constructor <;> simp [Note.seeded]
  | cleared =>
    rw [List.forall_mem_singleton]
    constructor <;> simp [Note.cleared]
  | silent => exact List.forall_mem_nil _

namespace World

/-- What a run may have emitted, as far as its log tells. -/
def Emits (w : World) (events : List Event) : Prop :=
  List.Forall₂ (fun e told => told.Completes e) w.events events

/-- What a run may have written, if these loggers are asked for before it. -/
def Writes (w : World) (origin : SecretKeeper.Moment) (wanted : Option String)
    (settings : List LogSettings) (lines : List String) : Prop :=
  ∃ events, w.Emits events ∧ written origin wanted settings events = lines

theorem emitted_mem {w : World} {events : List Event} (emitted : w.Emits events) {told : Event}
    (member : told ∈ events) : ∃ e ∈ w.events, told.Completes e := by
  unfold Emits at emitted
  generalize w.events = log at emitted ⊢
  induction emitted with
  | nil => cases member
  | cons completes _ ih =>
    cases member with
    | head => exact ⟨_, List.mem_cons_self, completes⟩
    | tail _ later =>
      obtain ⟨e, logged, completes⟩ := ih later
      exact ⟨e, List.mem_cons_of_mem _ logged, completes⟩

section Moment
variable {backends : List (String × Backend)} {w : World} (moment : Moment backends w)
include moment

theorem logged_in_span {e : Event} (logged : e ∈ w.events) (inSpan : e.span.isSome = true) :
    ∃ f ∈ w.finished, ∃ n ∈ f.effect.notes, e = n.event f.time f.operation.span? := by
  have member : e ∈ w.events.filter fun e => e.span.isSome := List.mem_filter.mpr ⟨logged, inSpan⟩
  rw [(moment_logged moment).inSpans] at member
  obtain ⟨f, finished, trail⟩ := List.mem_flatMap.mp member
  obtain ⟨n, noted, same⟩ := List.mem_map.mp trail
  exact ⟨f, finished, n, noted, same.symm⟩

theorem moment_notes {e : Event} (logged : e ∈ w.events) :
    ∃ n time span, Note.Orderly n ∧ e = n.event time span := by
  have books := moment_logged moment
  cases inside : e.span with
  | none =>
    obtain ⟨h, time, rfl⟩ := books.created e logged inside
    exact ⟨_, time, none, Note.created_orderly h, rfl⟩
  | some s =>
    have inSpan : e.span.isSome = true := by rw [inside, Option.isSome_some]
    obtain ⟨f, finished, n, noted, rfl⟩ := logged_in_span moment logged inSpan
    obtain ⟨before, rest, split⟩ := List.append_of_mem finished
    exact ⟨n, f.time, f.operation.span?, (books.trails before f rest split).2.orderly n noted, rfl⟩

theorem emitted_orderly {events : List Event} (emitted : w.Emits events) :
    ∀ e ∈ events, e.Orderly := by
  intro told member
  obtain ⟨e, logged, values, length, rfl⟩ := emitted_mem emitted member
  obtain ⟨n, time, span, orderly, rfl⟩ := moment_notes moment logged
  exact orderly.completed time span length

end Moment
end World
end SecretKeeper.Cache

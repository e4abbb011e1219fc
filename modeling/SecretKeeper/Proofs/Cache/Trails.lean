import Mathlib.Data.List.Dedup
import SecretKeeper.Proofs.Cache.Balance
import SecretKeeper.Proofs.Cache.Books
import SecretKeeper.Proofs.Cache.Traffic

/-!
The trail of an operation is what it logs when it ends. It follows from the request, from the reply
and from what is kept at that instant. The log is one trail after the other, each in the span of
its operation, and tells all counters.
-/
namespace SecretKeeper.Cache

open Log Metrics

def Request.label? : Request → Option (String × Option String)
  | .lookup name => some ("secret", some name)
  | .listing => some ("secret_list", none)
  | .add secret => some ("add", some secret.name)
  | .clear => some ("clear", none)
  | .size => none
  | .isEmpty => none
  | .info => none

def Operation.span? (op : Operation) : Option Span :=
  op.request.label?.map fun label => ⟨label.1, op.mountpoint, label.2⟩

def Reply.note (operation : String) (deadline : Nat) : Reply α → Note
  | .never => .late operation deadline
  | .after delay answer =>
    if delay < deadline then
      match answer with
      | .value _ => .answered operation delay
      | .nothing => .unusable operation
      | .breakdown => .failed operation
    else .late operation deadline

/-- How a lookup ends that the backend did not answer. -/
inductive Fallback (name : String) (now : Nat) (before : Contents) : Result → Note → Prop where
  | served (k : Kept) (kept : before name = some k) :
      Fallback name now before (.secret (some k.secret)) (.serving (now - k.observedAt))
  | missed (absent : before name = none) : Fallback name now before (.secret none) .unavailable

/-- What an operation comes to that ends now, and its trail, by what it asked, if anything, and by
what its store holds before. -/
inductive Trail (op : Operation) (now : Nat) (before : Contents) :
    Option Query → Result → List Note → Prop where
  | hit (name : String) (k : Kept) (request : op.request = .lookup name)
      (kept : before name = some k)
      (fresh : now - k.observedAt < op.handle.timing.freshThreshold) :
      Trail op now before none (.secret (some k.secret)) [.hit]
  | stored (name : String) (reply : Reply Secret) (secret : Secret)
      (request : op.request = .lookup name)
      (brought : reply.brought? op.handle.timing.secretDeadline = some secret)
      (own : secret.name = name) :
      Trail op now before (some (.fetch name reply)) (.secret (some secret))
        [reply.note "secret" op.handle.timing.secretDeadline, .stored]
  | foreign (name : String) (reply : Reply Secret) (secret : Secret) (result : Result)
      (last : Note) (request : op.request = .lookup name)
      (brought : reply.brought? op.handle.timing.secretDeadline = some secret)
      (other : secret.name ≠ name) (fallback : Fallback name now before result last) :
      Trail op now before (some (.fetch name reply)) result
        [reply.note "secret" op.handle.timing.secretDeadline, .foreign secret.name, last]
  | unanswered (name : String) (reply : Reply Secret) (result : Result) (last : Note)
      (request : op.request = .lookup name)
      (nothing : reply.brought? op.handle.timing.secretDeadline = none)
      (fallback : Fallback name now before result last) :
      Trail op now before (some (.fetch name reply)) result
        [reply.note "secret" op.handle.timing.secretDeadline, last]
  | replaced (reply : Reply (List Secret)) (secrets : List Secret)
      (request : op.request = .listing)
      (brought : reply.brought? op.handle.timing.listDeadline = some secrets) :
      Trail op now before (some (.list reply)) (.secrets secrets)
        [reply.note "secret_list" op.handle.timing.listDeadline,
          .replaced (secrets.map Secret.name).dedup.length]
  | served (reply : Reply (List Secret)) (all : List Secret) (request : op.request = .listing)
      (nothing : reply.brought? op.handle.timing.listDeadline = none) (lists : before.Lists all) :
      Trail op now before (some (.list reply)) (.secrets all)
        [reply.note "secret_list" op.handle.timing.listDeadline, .servingListing all.length]
  | seeded (secret : Secret) (request : op.request = .add secret) :
      Trail op now before none .nothing [.seeded]
  | cleared (request : op.request = .clear) :
      Trail op now before none .nothing [.cleared before.size]
  | silent (result : Result) (request : op.request.label? = none) :
      Trail op now before none result []

theorem Operation.Ends.span {op : Operation} {q : Option Query} {outcome : Outcome}
    (ends : op.Ends q outcome) : op.handle.span? outcome = op.span? := by
  cases ends with
  | fresh _ _ request | fetched _ _ request | listed _ request | added _ request
  | cleared request | sized request | emptiness request | info request =>
    rw [Operation.span?, request]
    rfl

theorem Store.size_ofListing (now : Nat) (secrets : List Secret) :
    (Store.ofListing now secrets).size = (secrets.map Secret.name).dedup.length := by
  have sound : (Store.ofListing now secrets).Sound := apply_sound empty_sound (.replace secrets) now
  have names : ((Store.ofListing now secrets).entries.map Prod.fst).Perm
      (secrets.map Secret.name).dedup := by
    refine (List.perm_ext_iff_of_nodup sound.distinct (List.nodup_dedup _)).mpr fun name => ?_
    have kept := congrFun (get?_apply (.replace secrets) now .empty) name
    simp only [Write.apply, Write.on] at kept
    rw [mem_names_iff, kept, Option.isSome_map, List.findRev?_eq_find?_reverse, List.find?_isSome]
    simp
  rw [← names.length_eq, List.length_map]
  rfl

theorem Store.secrets_length (s : Store) : s.secrets.length = s.size := by
  rw [secrets, List.length_map, List.length_mergeSort]
  rfl

theorem Reply.waitNote_eq (operation : String) (deadline : Nat) (reply : Reply α) :
    Handle.waitNote operation deadline (reply.wait deadline) (reply.verdict deadline) =
      reply.note operation deadline := by
  cases reply with
  | never => rfl
  | after delay answer =>
    by_cases inTime : delay < deadline
    · have wait : min delay deadline = delay := by omega
      cases answer <;>
        simp [verdict, note, Reply.inTime, inTime, wait, Reply.wait, Answer.verdict,
          Handle.waitNote]
    · simp [verdict, note, Reply.inTime, inTime, Handle.waitNote]

theorem Store.get?_of_fresh {s : Store} {threshold now : Nat} {name : String} {secret : Secret}
    (fresh : s.fresh? threshold now name = some secret) :
    ∃ k, s.get? name = some k ∧ k.secret = secret ∧ now - k.observedAt < threshold := by
  unfold fresh? at fresh
  split at fresh
  · rename_i k found
    split at fresh
    · rename_i young
      exact ⟨k, found, Option.some.inj fresh, of_decide_eq_true young⟩
    · cases fresh
  · cases fresh

namespace Handle

theorem fallback_trail (h : Handle) (s : Store) (now : Nat) (name : String) (notes : List Note)
    (measurements : List Measurement) :
    ∃ last, (h.fallback s now name notes measurements).notes = notes ++ [last] ∧
      Fallback name now s.get? (h.fallback s now name notes measurements).result last := by
  unfold fallback
  cases found : s.get? name with
  | some k => exact ⟨_, rfl, .served k found⟩
  | none => exact ⟨_, rfl, .missed found⟩

section Effect
variable {op : Operation} {s : Store} {now : Nat}

theorem lookup_trail {name : String} {reply : Reply Secret} (request : op.request = .lookup name)
    (time : now = op.endTime (some (.fetch name reply))) :
    let e := op.handle.lookupEffect s op.started now name
      (reply.verdict op.handle.timing.secretDeadline)
    Trail op now s.get? (some (.fetch name reply)) e.result e.notes := by
  intro e
  have wait : now - op.started = reply.wait op.handle.timing.secretDeadline := by
    rw [time]
    exact Nat.add_sub_cancel_left _ _
  have note := reply.waitNote_eq "secret" op.handle.timing.secretDeadline
  rw [← wait] at note
  cases verdict : reply.verdict op.handle.timing.secretDeadline with
  | answered secret =>
    have brought := verdict_answered_iff.mp verdict
    by_cases own : secret.name = name
    · simp only [e, lookupEffect, verdict, own, ↓reduceIte]
      rw [verdict] at note
      rw [note]
      exact .stored name reply secret request brought own
    · simp only [e, lookupEffect, verdict, own, ↓reduceIte]
      rw [verdict] at note
      rw [note]
      obtain ⟨last, notes, fallback⟩ := op.handle.fallback_trail s now name
        [reply.note "secret" op.handle.timing.secretDeadline, .foreign secret.name] _
      rw [notes]
      exact .foreign name reply secret _ last request brought own fallback
  | unusable | failed | late =>
    have nothing : reply.brought? op.handle.timing.secretDeadline = none :=
      brought_nothing (by simp [verdict])
    simp only [e, lookupEffect, verdict]
    rw [verdict] at note
    rw [note]
    obtain ⟨last, notes, fallback⟩ := op.handle.fallback_trail s now name
      [reply.note "secret" op.handle.timing.secretDeadline] _
    rw [notes]
    exact .unanswered name reply _ last request nothing fallback

theorem listing_trail {reply : Reply (List Secret)} (sound : s.Sound)
    (request : op.request = .listing) (time : now = op.endTime (some (.list reply))) :
    let e := op.handle.listingEffect s op.started now
      (reply.verdict op.handle.timing.listDeadline)
    Trail op now s.get? (some (.list reply)) e.result e.notes := by
  intro e
  have wait : now - op.started = reply.wait op.handle.timing.listDeadline := by
    rw [time]
    exact Nat.add_sub_cancel_left _ _
  have note := reply.waitNote_eq "secret_list" op.handle.timing.listDeadline
  rw [← wait] at note
  cases verdict : reply.verdict op.handle.timing.listDeadline with
  | answered secrets =>
    simp only [e, listingEffect, verdict]
    rw [verdict] at note
    rw [note]
    have count := Store.size_ofListing now secrets
    simp only [Write.apply, count]
    exact .replaced reply secrets request (verdict_answered_iff.mp verdict)
  | unusable | failed | late =>
    have nothing : reply.brought? op.handle.timing.listDeadline = none :=
      brought_nothing (by simp [verdict])
    simp only [e, listingEffect, verdict]
    rw [verdict] at note
    rw [note, ← s.secrets_length]
    exact .served reply s.secrets request nothing (Store.secrets_listed sound)

theorem effect_trail {q : Option Query} {outcome : Outcome} (ends : op.Ends q outcome)
    (sound : s.Sound) (time : now = op.endTime q)
    (current : ∀ name secret, outcome = .fresh name secret →
      s.fresh? op.handle.timing.freshThreshold now name = some secret) :
    let e := op.handle.effect s op.started now outcome
    Trail op now s.get? q e.result e.notes := by
  cases ends with
  | fresh name secret request =>
    obtain ⟨k, kept, rfl, fresh⟩ := Store.get?_of_fresh (current name secret rfl)
    exact .hit name k request kept fresh
  | fetched name reply request => exact lookup_trail request time
  | listed reply request => exact listing_trail sound request time
  | added secret request => exact .seeded secret request
  | cleared request =>
    simp only [effect, Store.size_eq sound]
    exact .cleared request
  | sized request | emptiness request | info request =>
    exact .silent _ (by rw [request]; rfl)

theorem effect_silent (h : Handle) (started : Nat) {outcome : Outcome}
    (silent : h.span? outcome = none) : (h.effect s started now outcome).notes = [] := by
  cases outcome with
  | sized | emptiness | info => rfl
  | fresh | fetched | listed | added | cleared => cases silent

end Effect
end Handle

/-! What the counters make of the log. -/

/-- The counter that goes up when a message is logged by an operation. -/
def counterOf? (message operation : String) : Option Counter :=
  match message with
  | "Cache hit for fresh secret" => some (.lookups .fresh)
  | "Stored secret from backend" => some (.lookups .backend)
  | "Serving cached secret after backend failure" => some (.lookups .fallback)
  | "Secret unavailable from backend and cache" => some (.lookups .miss)
  | "Backend had no usable answer" => some (.failures operation)
  | "Backend call failed" => some (.failures operation)
  | "Backend answered with a different secret, ignoring" => some (.failures operation)
  | "Backend call timed out, discarding any late answer" => some (.timeouts operation)
  | "Replaced cache contents from backend listing" => some (.listings true)
  | "Serving secret listing from cache" => some (.listings false)
  | _ => none

def reported? (e : Event) : Option (String × Counter) :=
  e.span.bind fun s => (counterOf? e.message s.operation).map fun c => (s.mountpoint, c)

namespace Handle

theorem fallback_reported (h : Handle) (s : Store) (now : Nat) (name : String) (notes : List Note)
    (measurements : List Measurement) (span : Span) :
    let e := h.fallback s now name notes measurements
    (e.notes.map fun n => n.event now (some span)).filterMap reported? =
      (notes.map fun n => n.event now (some span)).filterMap reported? ++
        [(span.mountpoint, .lookups (if !e.result.isMiss then .fallback else .miss))] := by
  intro e
  cases found : s.get? name <;>
    simp only [e, fallback, found, List.map_append, List.filterMap_append] <;> rfl

theorem effect_reported (h : Handle) (s : Store) (started now : Nat) (outcome : Outcome) :
    let e := h.effect s started now outcome
    (e.notes.map fun n => n.event now (h.span? outcome)).filterMap reported? =
      (outcome.counters !e.result.isMiss).map fun c => (h.log.mountpoint, c) := by
  intro e
  cases outcome with
  | fetched name verdict =>
    cases verdict with
    | answered secret =>
      by_cases own : secret.name = name
      · simp only [e, effect, lookupEffect, Outcome.counters, own, ↓reduceIte]
        rfl
      · simp only [e, effect, lookupEffect, Outcome.counters, own, ↓reduceIte, span?,
          Outcome.operation?, Option.map_some, fallback_reported]
        rfl
    | unusable | failed | late =>
      simp only [e, effect, lookupEffect, span?, Outcome.operation?, Option.map_some,
        fallback_reported]
      rfl
  | listed verdict => cases verdict <;> rfl
  | fresh | added | cleared | sized | emptiness | info => rfl

end Handle

theorem tally_at (history : List Finished) (m : String) (c : Counter) :
    tally (history.filter fun f => f.operation.mountpoint = m) c =
      (history.flatMap fun f => f.counters.map fun c => (f.operation.mountpoint, c)).count
        (m, c) := by
  induction history with
  | nil => rfl
  | cons f rest ih =>
    rw [List.flatMap_cons, List.count_append, count_at, ← ih, List.filter_cons]
    by_cases here : f.operation.mountpoint = m
    · rw [if_pos (decide_eq_true here), if_pos here, ← List.singleton_append, tally_append,
        tally_single]
    · rw [if_neg (by simpa using here), if_neg here, Nat.zero_add]

namespace World

structure Chronicled (b : Books) : Prop where
  inSpans : (b.log.filter fun e => e.span.isSome) = b.history.flatMap Finished.events
  created : ∀ e ∈ b.log, e.span = none → ∃ h time, e = (Note.created h).event time none
  creations : (b.log.countP fun e => e.span.isNone) = b.stores.length

theorem finish_chronicled {w : World} (chronicled : Chronicled w.books) (op : Operation)
    (outcome : Outcome) : Chronicled (w.finish op outcome).books := by
  let f : Finished := ⟨op, w.clock, outcome,
    op.handle.effect (w.store op.handle.store) op.started w.clock outcome⟩
  have inSpan : ∀ e ∈ f.events, e.span.isSome := by
    intro e member
    obtain ⟨note, logged, rfl⟩ := List.mem_map.mp member
    cases span : op.handle.span? outcome with
    | some span => rfl
    | none =>
      have silent : f.effect.notes = [] := op.handle.effect_silent op.started span
      rw [silent] at logged
      cases logged
  have log : (w.finish op outcome).books.log = w.books.log ++ f.events := rfl
  have history : (w.finish op outcome).books.history = w.books.history ++ [f] := rfl
  constructor
  · rw [log, history, List.filter_append, List.flatMap_append, chronicled.inSpans,
      List.filter_eq_self.mpr inSpan, List.flatMap_singleton]
  · intro e member outside
    rcases List.mem_append.mp member with old | new
    · exact chronicled.created e old outside
    · have inside := inSpan e new
      rw [outside] at inside
      cases inside
  · have none : (f.events.countP fun e => e.span.isNone) = 0 := by
      apply List.countP_eq_zero.mpr
      intro e member
      rw [← Option.not_isSome, inSpan e member]
      exact Bool.false_ne_true
    rw [log, List.countP_append, none, chronicled.creations]
    exact (finish_stores_length w op outcome).symm

theorem create_chronicled {w : World} (chronicled : Chronicled w.books) (id backend : String)
    (timing : Timing) (log : LogSettings) :
    Chronicled (w.create id backend timing log).books := by
  let h : Handle := ⟨w.stores.length, backend, timing, log⟩
  have events : (w.create id backend timing log).books.log =
      w.books.log ++ [(Note.created h).event w.clock none] := rfl
  constructor
  · rw [events, List.filter_append, chronicled.inSpans]
    exact List.append_nil _
  · intro e member outside
    rcases List.mem_append.mp member with old | new
    · exact chronicled.created e old outside
    · exact ⟨h, w.clock, List.mem_singleton.mp new⟩
  · rw [events, List.countP_append, chronicled.creations]
    simp [books, create, Note.event]

theorem moment_chronicled {backends : List (String × Backend)} {w : World}
    (moment : Moment backends w) : Chronicled w.books := by
  induction moment with
  | refl => exact ⟨rfl, by simp [books, start], rfl⟩
  | @tail w v _ move ih =>
    rcases move_stores move with noneNew | ⟨id, backend, timing, log, rfl⟩
    · refine move_books move noneNew ?_ ih
      intro u op outcome _ books
      exact finish_chronicled books op outcome
    · exact create_chronicled ih id backend timing log

/-- What is logged up to a moment. -/
structure Logged (w : World) : Prop where
  /-- An operation that has begun has ended, once, or is still under way. -/
  once : (w.operations.map Operation.ticket).Perm (List.range w.nextTicket)
  trails : Stepwise (fun before f =>
    f.time = f.operation.endTime (w.query? f.operation) ∧
      Trail f.operation f.time (replay (w.log before f.operation.handle.store))
        (w.query? f.operation) f.effect.result f.effect.notes) w.finished
  /-- In spans there is nothing else: all events of a trail carry the span of their operation, and
  what is under way or silent has logged nothing. -/
  inSpans : (w.events.filter fun e => e.span.isSome) = w.finished.flatMap fun f =>
    f.effect.notes.map fun n => n.event f.time f.operation.span?
  created : ∀ e ∈ w.events, e.span = none → ∃ h time, e = (Note.created h).event time none
  creations : (w.events.countP fun e => e.span.isNone) = w.stores.length
  counted : ∀ m c, w.shows m c = (w.events.filterMap reported?).count (m, c)

section Moment
variable {backends : List (String × Backend)} {w : World} (moment : Moment backends w)
include moment

theorem moment_trails : Stepwise (fun before f =>
    f.time = f.operation.endTime (w.query? f.operation) ∧
      Trail f.operation f.time (replay (w.log before f.operation.handle.store))
        (w.query? f.operation) f.effect.result f.effect.notes) w.finished := by
  intro before f rest split
  have member : f ∈ w.finished := by
    rw [split]
    exact List.mem_append_right _ List.mem_cons_self
  have part : before ⊆ w.finished := by
    rw [split]
    exact List.subset_append_left _ _
  obtain ⟨ends, time⟩ := ended_as_asked moment member
  obtain ⟨effect, current⟩ := (moment_recorded moment).effects before f rest split
  refine ⟨time, ?_⟩
  rw [log_eq_writes moment part, ← storeAfter_get?, effect]
  exact Handle.effect_trail ends (storeAfter_sound before _) time current

theorem moment_reported : w.events.filterMap reported? =
    w.finished.flatMap fun f => f.counters.map fun c => (f.operation.mountpoint, c) := by
  have inSpans : w.events.filterMap reported? =
      (w.events.filter fun e => e.span.isSome).filterMap reported? := by
    rw [List.filterMap_filter]
    apply List.filterMap_congr
    intro e _
    cases span : e.span <;> simp [reported?, span]
  rw [inSpans]
  have made := (moment_chronicled moment).inSpans
  simp only [books] at made
  rw [made, List.filterMap_flatMap]
  apply List.flatMap_congr
  intro f member
  obtain ⟨before, rest, split⟩ := List.append_of_mem member
  obtain ⟨effect, _⟩ := (moment_recorded moment).effects before f rest split
  have reported := f.operation.handle.effect_reported
    (storeAfter before f.operation.handle.store) f.operation.started f.time f.outcome
  rw [← effect] at reported
  exact reported

theorem moment_logged : Logged w := by
  have chronicled := moment_chronicled moment
  refine ⟨moment_numbered moment, moment_trails moment, ?_, chronicled.created,
    chronicled.creations, ?_⟩
  · refine chronicled.inSpans.trans (List.flatMap_congr ?_)
    intro f member
    rw [Finished.events, (ended_as_asked moment member).1.span]
  · intro m c
    rw [shows_eq_tally moment, endedAt, tally_at, moment_reported moment]

theorem lookup_unasked_iff {id name : String} {h : Handle} (known : w.caches.lookup id = some h)
    {v : World} (later : Later (w.begin h (.lookup name)) v) :
    v.query? (w.opening h (.lookup name)) = none ↔
      ∃ secret, w.FreshByHistory h name secret := by
  let op := w.opening h (.lookup name)
  have begun := moment.tail (.begin w id h (.lookup name) known)
  have member : op ∈ (w.begin h (.lookup name)).operations :=
    (begin_operations w h (.lookup name)).mem_iff.mpr List.mem_cons_self
  have settled {q : Option Query} (asked : (w.begin h (.lookup name)).Asked op q) :
      v.query? op = q :=
    asked_unique (moment_accounted (begun.trans later)) (query_asked v op)
      (later_asked (moment_numbered begun) later member asked)
  constructor
  · intro silent
    by_contra unfresh
    obtain ⟨reply, course⟩ := course_of_unfresh moment unfresh
    have called := settled (begin_asked_of_asks course)
    rw [silent] at called
    cases called
  · rintro ⟨secret, fresh⟩
    exact settled (begin_asked_of_ends (moment_accounted moment) (course_of_fresh moment fresh))

/-- At every moment of every run the log is made of trails, one for each operation that has ended.
A lookup has the trail of a hit exactly if its secret was fresh when it began: then it has nothing
to wait for, and only then. -/
theorem each_operation_leaves_its_trail : Logged w ∧
    ∀ id h name, w.caches.lookup id = some h → ∀ v, Later (w.begin h (.lookup name)) v →
      (v.query? (w.opening h (.lookup name)) = none ↔
        ∃ secret, w.FreshByHistory h name secret) :=
  ⟨moment_logged moment, fun _ _ _ known _ later => lookup_unasked_iff moment known later⟩

end Moment

/-- A lookup gets a foreign secret while the listing that began after it has ended. -/
theorem each_operation_leaves_its_trail_beside_a_listing :
    let named := fun name content => Secret.create name (.ofText content) .epoch
    let backends := [("b", { Backend.blank with
      fetches := [.after (milliseconds 5) (.value (named "z" "foreign"))]
      listings := [.after (milliseconds 2)
        (.value [named "a" "first", named "b" "", named "a" "last"])] })]
    let w := after backends [.create "c" "b" (.ofMillis 0 10 20) .default,
      .start "slow" "c" (.lookup "a"), .run "c" .listing, .run "c" .size, .join "slow"]
    Moment backends w ∧ Logged w ∧
      (w.events.map fun e => (e.time, e.span.map Span.operation, e.message)) =
        [(0, none, "Created secret cache"),
          (milliseconds 2, some "secret_list", "Backend answered"),
          (milliseconds 2, some "secret_list", "Replaced cache contents from backend listing"),
          (milliseconds 5, some "secret", "Backend answered"),
          (milliseconds 5, some "secret", "Backend answered with a different secret, ignoring"),
          (milliseconds 5, some "secret", "Serving cached secret after backend failure")] := by
  intro named backends w
  have moment : Moment backends w := after_moment _ _
  exact ⟨moment, (each_operation_leaves_its_trail moment).1, by decide +kernel⟩

end World
end SecretKeeper.Cache

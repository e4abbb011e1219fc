import SecretKeeper.Proofs.Cache.WriteLog
import SecretKeeper.Proofs.Metrics.Recorder

/-!
The counters of a mount point balance. What an operation adds to them follows from how it ended;
each way to end adds to both sides of every equation, so that they hold at every moment, however
operations overlap and however many caches report under the mount point.
-/
namespace SecretKeeper.Cache

open Metrics

def Request.isLookup : Request → Bool
  | .lookup _ => true
  | _ => false

def Request.isListing : Request → Bool
  | .listing => true
  | _ => false

def Operation.mountpoint (op : Operation) : String := op.handle.log.mountpoint

namespace Outcome

def isLookup : Outcome → Bool
  | .fresh _ _ => true
  | .fetched _ _ => true
  | _ => false

def isListing : Outcome → Bool
  | .listed _ => true
  | _ => false

def isFetched : Outcome → Bool
  | .fetched _ _ => true
  | _ => false

def isAwaited : Outcome → Bool
  | .fetched _ _ => true
  | .listed _ => true
  | _ => false

def isRefused : Outcome → Bool
  | .fetched _ .unusable => true
  | .fetched _ .failed => true
  | _ => false

def isForeign : Outcome → Bool
  | .fetched name (.answered secret) => secret.name ≠ name
  | _ => false

def isLate : Outcome → Bool
  | .fetched _ .late => true
  | _ => false

/-- What is counted when an operation ends, which for an unanswered lookup depends on whether
anything is kept under its name. -/
def counters (kept : Bool) : Outcome → List Counter
  | .fresh _ _ => [.lookups .fresh]
  | .fetched name (.answered secret) =>
    if secret.name = name then [.lookups .backend]
    else [.failures "secret", .lookups (if kept then .fallback else .miss)]
  | .fetched _ .unusable => [.failures "secret", .lookups (if kept then .fallback else .miss)]
  | .fetched _ .failed => [.failures "secret", .lookups (if kept then .fallback else .miss)]
  | .fetched _ .late => [.timeouts "secret", .lookups (if kept then .fallback else .miss)]
  | .listed (.answered _) => [.listings true]
  | .listed .unusable => [.failures "secret_list", .listings false]
  | .listed .failed => [.failures "secret_list", .listings false]
  | .listed .late => [.timeouts "secret_list", .listings false]
  | _ => []

end Outcome

def Result.isMiss : Result → Bool
  | .secret none => true
  | _ => false

def Finished.counters (f : Finished) : List Counter := f.outcome.counters !f.effect.result.isMiss

def counter? : Measurement → Option (String × Counter)
  | .counted m c => some (m, c)
  | _ => none

theorem count_counted (all : List Measurement) (m : String) (c : Counter) :
    all.count (.counted m c) = (all.filterMap counter?).count (m, c) := by
  induction all with
  | nil => rfl
  | cons x rest ih =>
    cases x with
    | described | entries => simp [List.filterMap_cons, counter?, ih]
    | counted m' c' => simp [List.count_cons, counter?, ih]

namespace Handle
variable (h : Handle) (s : Store)

theorem fallback_counters (now : Nat) (name : String) (notes : List Note)
    (measurements : List Measurement) :
    let e := h.fallback s now name notes measurements
    e.measurements = measurements ++
      [h.lookupCount (if !e.result.isMiss then .fallback else .miss)] := by
  unfold fallback
  cases s.get? name <;> rfl

theorem effect_counters (started now : Nat) (outcome : Outcome) :
    let e := h.effect s started now outcome
    e.measurements.filterMap counter? =
      (outcome.counters !e.result.isMiss).map fun c => (h.log.mountpoint, c) := by
  intro e
  cases outcome with
  | fetched name verdict =>
    cases verdict with
    | answered secret =>
      by_cases own : secret.name = name
      · simp only [e, effect, lookupEffect, Outcome.counters, own, ↓reduceIte]
        rfl
      · simp only [e, effect, lookupEffect, Outcome.counters, own, ↓reduceIte, fallback_counters]
        rfl
    | unusable | failed | late =>
      simp only [e, effect, lookupEffect, fallback_counters]
      rfl
  | listed verdict => cases verdict <;> rfl
  | fresh | added | cleared | sized | emptiness | info => rfl

end Handle

theorem count_at (m m' : String) (all : List Counter) (c : Counter) :
    (all.map fun c => (m', c)).count (m, c) = if m' = m then all.count c else 0 := by
  induction all with
  | nil => simp
  | cons first rest ih =>
    simp only [List.map_cons, List.count_cons, ih, beq_iff_eq, Prod.mk.injEq]
    by_cases here : m' = m <;> simp [here]

def tally (history : List Finished) (c : Counter) : Nat :=
  (history.flatMap Finished.counters).count c

theorem tally_append (first rest : List Finished) (c : Counter) :
    tally (first ++ rest) c = tally first c + tally rest c := by
  rw [tally, List.flatMap_append, List.count_append, tally, tally]

theorem tally_single (f : Finished) (c : Counter) : tally [f] c = f.counters.count c := by
  rw [tally, List.flatMap_singleton]

namespace World

def endedAt (w : World) (m : String) : List Finished :=
  w.finished.filter fun f => f.operation.mountpoint = m

structure Counted (w : World) : Prop where
  sound : w.recorder.Sound
  counts : ∀ m c, w.recorder.count m c = tally (w.endedAt m) c

theorem counted_of_same {w v : World} (counted : Counted w) (finished : v.finished = w.finished)
    (recorder : v.recorder = w.recorder) : Counted v := by
  refine ⟨recorder ▸ counted.sound, fun m c => ?_⟩
  rw [recorder, counted.counts, endedAt, endedAt, finished]

theorem finish_counted {w : World} (counted : Counted w) (op : Operation) (outcome : Outcome) :
    Counted (w.finish op outcome) := by
  refine ⟨Recorder.measures_sound counted.sound _, fun m c => ?_⟩
  let f : Finished := ⟨op, w.clock, outcome,
    op.handle.effect (w.store op.handle.store) op.started w.clock outcome⟩
  have more : (w.finish op outcome).recorder.count m c =
      w.recorder.count m c + if op.mountpoint = m then f.counters.count c else 0 := by
    simp only [finish, Recorder.count_measures, count_counted, Handle.effect_counters, count_at]
    rfl
  have one : (w.finish op outcome).endedAt m =
      w.endedAt m ++ if op.mountpoint = m then [f] else [] := by
    simp only [finish, endedAt, List.filter_append, List.filter_cons, List.filter_nil,
      decide_eq_true_eq]
    rfl
  rw [more, one, tally_append, counted.counts]
  by_cases here : op.mountpoint = m
  · rw [if_pos here, if_pos here, tally_single]
  · rw [if_neg here, if_neg here]
    rfl

theorem fire_counted {w : World} (counted : Counted w) (d : Due) : Counted (w.fire d) := by
  have ticked : Counted { w with
      clock := d.time, happenings := w.happenings ++ d.happening.toList } :=
    counted_of_same counted rfl rfl
  unfold fire
  split
  · exact finish_counted ticked _ _
  · exact ticked

theorem arrange_counted {w : World} (counted : Counted w) (d : Due) : Counted (w.arrange d) := by
  unfold arrange
  split
  · exact fire_counted counted d
  · exact counted_of_same counted rfl rfl

theorem create_counted {w : World} (counted : Counted w) (id backend : String) (timing : Timing)
    (log : LogSettings) : Counted (w.create id backend timing log) := by
  have described := Recorder.measure_sound counted.sound .described
  refine ⟨Recorder.measure_sound described (.entries log.mountpoint 0), fun m c => ?_⟩
  have silent : (w.create id backend timing log).recorder.count m c = w.recorder.count m c := by
    simp [create, Recorder.count_measure]
  rw [silent]
  exact counted.counts m c

theorem move_counted {w v : World} (counted : Counted w) (move : Move w v) : Counted v := by
  cases move with
  | clone | track | pass => exact counted_of_same counted rfl rfl
  | create id backend timing log => exact create_counted counted id backend timing log
  | fire d rest next =>
    have popped : Counted { w with agenda := rest } := counted_of_same counted rfl rfl
    exact fire_counted popped d
  | begin id h request known =>
    rcases w.begin_cases h request with ⟨outcome, _, same⟩ | ⟨q, _, same⟩ <;> rw [same]
    · have opened : Counted w.opened := counted_of_same counted rfl rfl
      exact finish_counted opened _ _
    · have called := counted_of_same (v := w.opened.call (w.opening h request) q) counted rfl rfl
      exact arranged _ called fun v d _ before => arrange_counted before d

theorem moment_counted {backends : List (String × Backend)} {w : World}
    (moment : Moment backends w) : Counted w := by
  induction moment with
  | refl => exact ⟨Recorder.empty_sound, fun m c => rfl⟩
  | tail _ move ih => exact move_counted ih move

def shows (w : World) (m : String) (c : Counter) : Nat := shown w.recorder.snapshot m c

theorem shows_eq_tally {backends : List (String × Backend)} {w : World}
    (moment : Moment backends w) (m : String) (c : Counter) :
    w.shows m c = tally (w.endedAt m) c := by
  have counted := moment_counted moment
  rw [shows, Recorder.shown_snapshot counted.sound, counted.counts]

theorem later_shows {backends : List (String × Backend)} {w v : World}
    (moment : Moment backends w) (later : Later w v) (m : String) (c : Counter) :
    w.shows m c ≤ v.shows m c := by
  obtain ⟨more, grown⟩ := (later_grown later).finished
  rw [shows_eq_tally moment, shows_eq_tally (moment.trans later), endedAt, endedAt, ← grown,
    List.filter_append, tally_append]
  exact Nat.le_add_right _ _

end World

/-! What operations that have ended add up to. -/

structure Sums (history : List Finished) : Prop where
  lookups : tally history (.lookups .fresh) + tally history (.lookups .backend) +
    tally history (.lookups .fallback) + tally history (.lookups .miss) =
      history.countP fun f => f.operation.request.isLookup
  fetched : tally history (.lookups .backend) + tally history (.lookups .fallback) +
    tally history (.lookups .miss) = history.countP fun f => f.outcome.isFetched
  unanswered : tally history (.lookups .fallback) + tally history (.lookups .miss) =
    tally history (.timeouts "secret") + tally history (.failures "secret")
  failures : tally history (.failures "secret") =
    (history.countP fun f => f.outcome.isRefused) + history.countP fun f => f.outcome.isForeign
  timeouts : tally history (.timeouts "secret") = history.countP fun f => f.outcome.isLate
  listings : tally history (.listings true) + tally history (.listings false) =
    history.countP fun f => f.operation.request.isListing
  unlisted : tally history (.listings false) =
    tally history (.timeouts "secret_list") + tally history (.failures "secret_list")

theorem sums_append {first rest : List Finished} (sums : Sums first) (more : Sums rest) :
    Sums (first ++ rest) := by
  obtain ⟨lookups, fetched, unanswered, failures, timeouts, listings, unlisted⟩ := sums
  obtain ⟨lookups', fetched', unanswered', failures', timeouts', listings', unlisted'⟩ := more
  constructor <;> simp only [tally_append, List.countP_append] <;> omega

theorem Operation.Ends.kind {op : Operation} {q : Option Query} {outcome : Outcome}
    (ends : op.Ends q outcome) :
    op.request.isLookup = outcome.isLookup ∧ op.request.isListing = outcome.isListing := by
  cases ends with
  | fresh _ _ request | fetched _ _ request | listed _ request | added _ request
  | cleared request | sized request | emptiness request | info request =>
    rw [request]
    exact ⟨rfl, rfl⟩

theorem sums_single {f : Finished} {q : Option Query} (ends : f.operation.Ends q f.outcome) :
    Sums [f] := by
  obtain ⟨lookup, listing⟩ := ends.kind
  have counters := tally_single f
  have kinds (p : Finished → Bool) : [f].countP p = (p f).toNat := by
    cases holds : p f <;> simp [holds]
  simp only [Finished.counters] at counters
  generalize (!f.effect.result.isMiss) = kept at counters
  constructor <;> simp only [counters, kinds, lookup, listing] <;>
    clear counters kinds lookup listing ends
  all_goals
    cases f.outcome with
    | fetched name verdict =>
      cases verdict with
      | answered secret =>
        by_cases own : secret.name = name <;> cases kept <;>
          simp [Outcome.counters, Outcome.isForeign, own] <;> rfl
      | _ => cases kept <;> rfl
    | listed verdict => cases verdict <;> rfl
    | _ => rfl

theorem Operation.Ends.awaited {op : Operation} {q : Option Query} {outcome : Outcome}
    (ends : op.Ends q outcome) : outcome.isAwaited = q.isSome := by
  cases ends <;> rfl

def Call.ending (c : Call) : Operation × Outcome :=
  (c.operation, c.query.outcome c.operation.handle.timing)

namespace World

/-- The calls are those of the operations that wait or have waited for their backend, one each. -/
theorem moment_calls_end {backends : List (String × Backend)} {w : World}
    (moment : Moment backends w) :
    (w.calls.map Call.ending).Perm (w.endings.filter fun e => e.2.isAwaited) := by
  induction moment with
  | refl => exact .nil
  | @tail w v before move ih =>
    cases move with
    | create | clone | track | pass => exact ih
    | begin id h request known =>
      cases course : w.course (w.opening h request) with
      | ends outcome =>
        have unasked := (course_ends course).awaited
        have endings := (begin_endings_of_ends course).filter fun e => e.2.isAwaited
        rw [List.filter_cons_of_neg (by simp [unasked])] at endings
        rw [begin_calls_of_ends course]
        exact ih.trans endings.symm
      | asks q =>
        have awaited := (course_asks course).awaited
        have endings := (begin_endings_of_asks course).filter fun e => e.2.isAwaited
        rw [List.filter_cons_of_pos (by exact awaited)] at endings
        rw [begin_calls_of_asks course, List.map_append]
        exact (List.perm_append_singleton _ _).trans ((ih.cons _).trans endings.symm)
    | fire d rest next =>
      rw [fire_calls]
      exact ih.trans ((next_endings next).symm.filter _)

def waitingAt (w : World) (m : String) : Nat :=
  w.pending.countP fun e => e.1.mountpoint = m && e.1.request.isLookup

def fetchesAt (w : World) (m : String) : Nat :=
  w.calls.countP fun c => c.operation.mountpoint = m && c.query.isFetch

section Moment
variable {backends : List (String × Backend)} {w : World} (moment : Moment backends w)
include moment

theorem moment_sums (m : String) : Sums (w.endedAt m) := by
  have ended : ∀ f ∈ w.endedAt m, ∃ q, f.operation.Ends q f.outcome := by
    intro f member
    obtain ⟨q, _, ends, _⟩ := (moment_accounted moment).ended f (List.mem_filter.mp member).1
    exact ⟨q, ends⟩
  generalize w.endedAt m = history at ended
  induction history with
  | nil => constructor <;> rfl
  | cons f rest ih =>
    obtain ⟨q, ends⟩ := ended f List.mem_cons_self
    exact sums_append (sums_single ends)
      (ih fun g member => ended g (List.mem_cons_of_mem f member))

theorem waiting_fetches (m : String) :
    w.waitingAt m = w.pending.countP fun e => e.1.mountpoint = m && e.2.isFetched := by
  apply List.countP_congr
  intro e member
  obtain ⟨d, scheduled, ending⟩ := List.mem_filterMap.mp member
  obtain ⟨q, _, ends, _⟩ := (moment_accounted moment).waiting d scheduled e ending
  have fetched : e.1.request.isLookup = e.2.isFetched := by
    rw [ends.kind.1]
    have awaited := ends.awaited
    cases outcome : e.2 <;> simp_all [Outcome.isAwaited, Outcome.isLookup, Outcome.isFetched]
  rw [fetched]

theorem fetches_accounted (m : String) :
    ((w.endedAt m).countP fun f => f.outcome.isFetched) + w.waitingAt m = w.fetchesAt m := by
  let fetching : Operation × Outcome → Bool := fun e => e.1.mountpoint = m && e.2.isFetched
  have calls : w.fetchesAt m = (w.calls.map Call.ending).countP fetching := by
    rw [List.countP_map]
    apply List.countP_congr
    intro c _
    obtain ⟨op, q⟩ := c
    cases q <;> exact Iff.rfl
  have awaited : (fun e => fetching e && e.2.isAwaited) = fetching := by
    funext e
    obtain ⟨op, outcome⟩ := e
    cases outcome <;> simp [fetching, Outcome.isFetched, Outcome.isAwaited]
  have ended : (w.endedAt m).countP (fun f => f.outcome.isFetched) =
      (w.finished.map fun f => (f.operation, f.outcome)).countP fetching := by
    rw [endedAt, List.countP_filter, List.countP_map]
    apply List.countP_congr
    intro f _
    simp only [Function.comp_apply, fetching, Bool.and_comm]
  rw [calls, (moment_calls_end moment).countP_eq, List.countP_filter, awaited, endings,
    List.countP_append, ended, waiting_fetches moment]

end Moment

/-- The counters of a mount point as a snapshot shows them, beside what caches with that mount
point have done. -/
structure Balanced (w : World) (m : String) : Prop where
  lookups : w.shows m (.lookups .fresh) + w.shows m (.lookups .backend) +
    w.shows m (.lookups .fallback) + w.shows m (.lookups .miss) =
      (w.endedAt m).countP fun f => f.operation.request.isLookup
  unanswered : w.shows m (.lookups .fallback) + w.shows m (.lookups .miss) =
    w.shows m (.timeouts "secret") + w.shows m (.failures "secret")
  fetches : w.shows m (.lookups .backend) + w.shows m (.lookups .fallback) +
    w.shows m (.lookups .miss) + w.waitingAt m = w.fetchesAt m
  failures : w.shows m (.failures "secret") =
    ((w.endedAt m).countP fun f => f.outcome.isRefused) +
      (w.endedAt m).countP fun f => f.outcome.isForeign
  timeouts : w.shows m (.timeouts "secret") = (w.endedAt m).countP fun f => f.outcome.isLate
  listings : w.shows m (.listings true) + w.shows m (.listings false) =
    (w.endedAt m).countP fun f => f.operation.request.isListing
  unlisted : w.shows m (.listings false) =
    w.shows m (.timeouts "secret_list") + w.shows m (.failures "secret_list")

/-- At every moment the counters of every mount point balance, and none of them ever decreases. -/
theorem metrics_balance {backends : List (String × Backend)} {w : World}
    (moment : Moment backends w) (m : String) :
    Balanced w m ∧ ∀ v, Later w v → ∀ c, w.shows m c ≤ v.shows m c := by
  constructor
  · have sums := moment_sums moment m
    have fetches := fetches_accounted moment m
    constructor <;> simp only [shows_eq_tally moment]
    · exact sums.lookups
    · exact sums.unanswered
    · rw [sums.fetched, fetches]
    · exact sums.failures
    · exact sums.timeouts
    · exact sums.listings
    · exact sums.unlisted
  · exact fun v later c => later_shows moment later m c

/-- Of two caches with one mount point, one gets a secret of another name, and then the right one,
while a lookup in the other cache waits in vain. -/
theorem metrics_balance_while_a_lookup_waits :
    let secret := Secret.create "a" .empty .epoch
    let backends := [("b", { Backend.blank with
      fetches := [.after (milliseconds 3) (.value (Secret.create "z" .empty .epoch)), .never,
        .after (milliseconds 2) (.value secret)] })]
    let log : LogSettings := { LogSettings.default with mountpoint := "/mnt" }
    let steps := [.create "c" "b" (.ofMillis 10 10 20) log,
      .create "d" "b" (.ofMillis 10 90 90) log, .run "c" (.lookup "a"),
      .start "waiting" "d" (.lookup "a"), .run "c" (.lookup "a"), .run "c" (.lookup "a"),
      .run "c" .listing]
    let w := after backends steps
    Moment backends w ∧ Balanced w "/mnt" ∧ w.waitingAt "/mnt" = 1 ∧ w.fetchesAt "/mnt" = 3 := by
  intro secret backends log steps w
  have moment : Moment backends w := after_moment backends steps
  exact ⟨moment, (metrics_balance moment "/mnt").1, by decide +kernel, by decide +kernel⟩

end World
end SecretKeeper.Cache

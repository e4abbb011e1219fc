import SecretKeeper.Proofs.Cache.WriteLog

/-!
How long operations take. An operation that asks its backend ends with the reply or at the
deadline, whichever is first, and every other one ends at once; nothing else that is under way or
begins later has a part in it.
-/
namespace SecretKeeper.Cache

def Reply.waitEnds (now deadline : Nat) : Reply α → Nat
  | .never => now + deadline
  | .after delay _ => min (now + delay) (now + deadline)

theorem Reply.waitEnds_eq (now deadline : Nat) (reply : Reply α) :
    reply.waitEnds now deadline = now + reply.wait deadline := by
  cases reply with
  | never => rfl
  | after delay answer => exact Nat.add_min_add_left now delay deadline

namespace World

/-- The instant at which an operation ends that begins now: a listing, and a lookup of what is not
fresh, wait for the backend; all else ends now. -/
def expectedEnd (w : World) (h : Handle) : Request → Nat
  | .lookup name =>
    if (w.store h.store).fresh? h.timing.freshThreshold w.clock name = none then
      ((backendOf w.backends h.backend).fetchReply (asked w.calls h.backend true) name).waitEnds
        w.clock h.timing.secretDeadline
    else w.clock
  | .listing =>
    ((backendOf w.backends h.backend).listReply (asked w.calls h.backend false)).waitEnds
      w.clock h.timing.listDeadline
  | _ => w.clock

theorem expectedEnd_of_ends {w : World} {op : Operation} {outcome : Outcome}
    (now : op.started = w.clock) (course : w.course op = .ends outcome) :
    w.expectedEnd op.handle op.request = op.started := by
  unfold World.course at course
  split at course
  · rename_i name request
    split at course
    · rename_i found
      simp only [request, expectedEnd, found, reduceCtorEq, ↓reduceIte, now]
    · cases course
  · cases course
  all_goals
    rename_i request
    simp only [request, expectedEnd, now]

theorem expectedEnd_of_asks {w : World} {op : Operation} {q : Query}
    (now : op.started = w.clock) (course : w.course op = .asks q) :
    w.expectedEnd op.handle op.request = op.endTime (some q) := by
  unfold World.course at course
  split at course
  · rename_i name request
    split at course
    · cases course
    · rename_i unfresh
      cases course
      simp only [request, expectedEnd, unfresh, ↓reduceIte, Reply.waitEnds_eq,
        Operation.endTime, Query.wait, now]
  · rename_i request
    cases course
    simp only [request, expectedEnd, Reply.waitEnds_eq, Operation.endTime, Query.wait, now]
  all_goals cases course

theorem opening_asked {w : World} (accounted : Accounted w) (h : Handle) (request : Request) :
    ∃ q, (w.begin h request).Asked (w.opening h request) q ∧
      (w.opening h request).endTime q = w.expectedEnd h request := by
  cases course : w.course (w.opening h request) with
  | ends outcome =>
    exact ⟨none, begin_asked_of_ends accounted course, (expectedEnd_of_ends rfl course).symm⟩
  | asks q =>
    exact ⟨some q, begin_asked_of_asks course, (expectedEnd_of_asks rfl course).symm⟩

theorem ended_iff {backends : List (String × Backend)} {w : World} (moment : Moment backends w)
    (settled : Settled w) {op : Operation} {q : Option Query} (member : op ∈ w.operations)
    (asked : w.Asked op q) :
    (∀ f ∈ w.finished, f.operation = op → f.time = op.endTime q) ∧
      ((∃ f ∈ w.finished, f.operation = op) ↔ op.endTime q ≤ w.clock) := by
  have accounted := moment_accounted moment
  have times : ∀ f ∈ w.finished, f.operation = op → f.time = op.endTime q := by
    rintro f ended rfl
    obtain ⟨q', asked', _, time⟩ := accounted.ended f ended
    rw [asked_unique accounted asked asked']
    exact time
  refine ⟨times, ?_, ?_⟩
  · rintro ⟨f, ended, same⟩
    rw [← times f ended same]
    exact (moment_recorded moment).past f ended
  · intro past
    rcases mem_operations.mp member with ended | ⟨d, scheduled, outcome, ending⟩
    · exact ended
    · have later := settled d scheduled
      rw [waiting_time accounted scheduled ending asked] at later
      omega

theorem await_spec {backends : List (String × Backend)} {w : World} (moment : Moment backends w)
    (settled : Settled w) {op : Operation} {q : Option Query} (member : op ∈ w.operations)
    (asked : w.Asked op q) :
    (w.await op.ticket).clock = max w.clock (op.endTime q) ∧
      ∃ f ∈ (w.await op.ticket).finished, f.operation = op ∧ f.time = op.endTime q ∧
        (w.await op.ticket).resultOf op.ticket = f.effect.result := by
  have timely := moment_timely moment
  have numbered := moment_numbered moment
  obtain ⟨later, still⟩ := await_later timely settled op.ticket
  have clock : (w.await op.ticket).clock = max w.clock (op.endTime q) := by
    unfold await
    cases due : w.dueTime? op.ticket with
    | some t =>
      obtain ⟨d, scheduled, time, op', outcome, ending, ticket⟩ := dueTime_mem due
      have same := same_ticket numbered
        (mem_operations.mpr (Or.inr ⟨d, scheduled, outcome, ending⟩)) member ticket
      rw [same] at ending
      have endTime := waiting_time (moment_accounted moment) scheduled ending asked
      have forward := timely.ahead d scheduled
      rw [time] at forward endTime
      rw [← endTime]
      exact (advanceTo_later timely forward).2.1.trans (Nat.max_eq_right forward).symm
    | none =>
      have past : op.endTime q ≤ w.clock := by
        refine (ended_iff moment settled member asked).2.mp ?_
        rcases mem_operations.mp member with ended | ⟨d, scheduled, outcome, ending⟩
        · exact ended
        · have absent := List.find?_eq_none.mp (Option.map_eq_none_iff.mp due) d scheduled
          simp [ending] at absent
      simp only
      omega
  have moment' : Moment backends (w.await op.ticket) := moment.trans later
  have member' := later_operations later member
  have asked' := later_asked numbered later member asked
  obtain ⟨times, iff⟩ := ended_iff moment' still member' asked'
  obtain ⟨f, ended, same⟩ := iff.mpr (by rw [clock]; exact Nat.le_max_right _ _)
  refine ⟨clock, f, ended, same, times f ended same, ?_⟩
  have result := finished_result (moment_numbered moment') ended
  rw [same] at result
  rw [resultOf, result]
  rfl

theorem moment_tracked {backends : List (String × Backend)} {w : World}
    (moment : Moment backends w) : ∀ e ∈ w.background, e.2 < w.nextTicket := by
  induction moment with
  | refl => simp [start]
  | tail before move ih =>
    cases move with
    | create | clone | pass => exact ih
    | begin id h request known =>
      rw [(begin_frame _ h request).2.2.1, (begin_frame _ h request).2.2.2.2]
      exact fun e member => Nat.lt_succ_of_lt (ih e member)
    | track name ticket given =>
      intro e member
      rcases mem_assign member with rfl | old
      · exact given
      · exact ih e old
    | fire d rest next =>
      rw [fire_background, fire_nextTicket]
      exact ih

theorem le_expectedEnd {w : World} (accounted : Accounted w) (h : Handle) (request : Request) :
    w.clock ≤ w.expectedEnd h request := by
  obtain ⟨q, _, endTime⟩ := opening_asked accounted h request
  rw [← endTime]
  cases q with
  | none => exact Nat.le_refl _
  | some q => exact Nat.le_add_right _ _

theorem join_spec {backends : List (String × Backend)} {w : World} (moment : Moment backends w)
    (settled : Settled w) {name : String} {ticket : Nat}
    (tracked : w.background.lookup name = some ticket) :
    ∃ f ∈ (w.step (.join name)).1.finished, f.operation.ticket = ticket ∧
      (w.step (.join name)).1.clock = max w.clock f.time ∧
      (w.step (.join name)).2 = f.effect.result := by
  have given := moment_tracked moment (name, ticket) (mem_of_lookup tracked)
  have numbered := moment_numbered moment
  obtain ⟨op, member, rfl⟩ :=
    List.mem_map.mp (numbered.mem_iff.mpr (List.mem_range.mpr given))
  have asked : ∃ q, w.Asked op q := by
    rcases mem_operations.mp member with ⟨f, ended, rfl⟩ | ⟨d, scheduled, outcome, ending⟩
    · obtain ⟨q, asked, _⟩ := (moment_accounted moment).ended f ended
      exact ⟨q, asked⟩
    · obtain ⟨q, asked, _⟩ := (moment_accounted moment).waiting d scheduled _ ending
      exact ⟨some q, asked⟩
  obtain ⟨q, asked⟩ := asked
  obtain ⟨clock, f, ended, same, time, result⟩ := await_spec moment settled member asked
  simp only [step, tracked]
  exact ⟨f, ended, by rw [same], by rw [clock, time], result⟩

/-- Every operation ends at the instant that its own request and reply set, whatever else is under
way: at once, or with the reply, or at the deadline. A step that runs it takes until then; in the
background it has ended exactly when the clock has got there. No wait is in vain. -/
theorem waits_are_bounded (backends : List (String × Backend)) (steps : List Step) :
    let w := after backends steps
    (∀ id h request, w.caches.lookup id = some h →
      let op := w.opening h request
      let t := w.expectedEnd h request
      ((w.step (.run id request)).1.clock = t ∧
        ∃ f ∈ (w.step (.run id request)).1.finished, f.operation = op ∧ f.time = t ∧
          (w.step (.run id request)).2 = f.effect.result) ∧
      ∀ name rest,
        let v := after backends (steps ++ .start name id request :: rest)
        (w.step (.start name id request)).1.clock = w.clock ∧
        (∀ f ∈ v.finished, f.operation = op → f.time = t) ∧
        ((∃ f ∈ v.finished, f.operation = op) ↔ t ≤ v.clock) ∧
        (v.finished.map fun f => f.operation.ticket).Nodup) ∧
    ∀ name ticket, w.background.lookup name = some ticket →
      ∃ f ∈ (w.step (.join name)).1.finished, f.operation.ticket = ticket ∧
        (w.step (.join name)).1.clock = max w.clock f.time ∧
        (w.step (.join name)).2 = f.effect.result := by
  intro w
  have moment := after_moment backends steps
  have settled := after_settled backends steps
  refine ⟨?_, fun name ticket tracked => join_spec moment settled tracked⟩
  intro id h request known op t
  have begun : Moment backends (w.begin h request) := moment.tail (.begin w id h request known)
  have still : Settled (w.begin h request) := begin_settled settled h request
  have member : op ∈ (w.begin h request).operations :=
    (begin_operations w h request).mem_iff.mpr List.mem_cons_self
  obtain ⟨q, asked, endTime⟩ := opening_asked (moment_accounted moment) h request
  constructor
  · obtain ⟨clock, f, ended, same, time, result⟩ := await_spec begun still member asked
    rw [(begin_frame w h request).1, endTime] at clock
    simp only [step, known]
    refine ⟨clock.trans (Nat.max_eq_right ?_), f, ended, same, time.trans endTime, result⟩
    exact le_expectedEnd (moment_accounted moment) h request
  · intro name rest
    have started : w.step (.start name id request) =
        ({ w.begin h request with
          background := assign name w.nextTicket (w.begin h request).background }, .nothing) := by
      simp only [step, known]
    intro v
    refine ⟨by rw [started]; exact (begin_frame w h request).1, ?_⟩
    have given : w.nextTicket < (w.begin h request).nextTicket :=
      ticket_lt (moment_numbered begun) member
    have later : Later (w.begin h request) v := by
      have tracked : Moment backends { w.begin h request with
          background := assign name w.nextTicket (w.begin h request).background } :=
        begun.tail (.track _ name w.nextTicket given)
      have more := run_later (moment_timely tracked) still rest
      have same : v = ((w.step (.start name id request)).1.run rest).1 :=
        after_append backends steps _
      rw [same, started]
      exact .head (.track _ name w.nextTicket given) more.1
    have moment' : Moment backends v := begun.trans later
    have numbered := moment_numbered begun
    obtain ⟨times, iff⟩ := ended_iff moment' (after_settled backends _)
      (later_operations later member) (later_asked numbered later member asked)
    rw [endTime] at times iff
    exact ⟨times, iff, finished_distinct (moment_numbered moment')⟩

/-- A lookup ends at its own deadline while a listing that began before it still hangs, and the
listing ends at its own. -/
theorem waits_are_bounded_beside_a_hanging_call :
    let timing : Timing := .ofMillis 1000 10 20
    let backends := [("b", { Backend.blank with
      otherListings := .never, otherFetches := .after (milliseconds 30) .nothing })]
    let w := after backends
      [.create "c" "b" timing .default, .start "hanging" "c" .listing, .sleep (milliseconds 3)]
    w.caches.lookup "c" = some ⟨0, "b", timing, .default⟩ ∧
      w.background.lookup "hanging" = some 0 ∧
      (w.step (.run "c" (.lookup "a"))).1.clock = milliseconds 13 ∧
      ∃ f ∈ (w.step (.join "hanging")).1.finished, f.operation.ticket = 0 ∧
        (w.step (.join "hanging")).1.clock = max (milliseconds 3) f.time := by
  intro timing backends w
  let steps : List Step :=
    [.create "c" "b" timing .default, .start "hanging" "c" .listing, .sleep (milliseconds 3)]
  have known : w.caches.lookup "c" = some ⟨0, "b", timing, .default⟩ := by decide +kernel
  have tracked : w.background.lookup "hanging" = some 0 := by decide +kernel
  have now : w.clock = milliseconds 3 := by decide +kernel
  have ends : w.expectedEnd ⟨0, "b", timing, .default⟩ (.lookup "a") = milliseconds 13 := by
    decide +kernel
  have here : after backends steps = w := rfl
  obtain ⟨operations, joins⟩ := waits_are_bounded backends steps
  rw [here] at operations joins
  obtain ⟨⟨clock, _⟩, _⟩ := operations "c" _ (.lookup "a") known
  obtain ⟨f, ended, ticket, joined, _⟩ := joins "hanging" 0 tracked
  rw [now] at joined
  exact ⟨known, tracked, clock.trans ends, f, ended, ticket, joined⟩

end World
end SecretKeeper.Cache

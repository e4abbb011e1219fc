import Mathlib.Logic.Equiv.Basic
import SecretKeeper.Proofs.Cache.Reordering

/-!
Operations about two names may begin in either order. If the replies of their backend depend on the
name alone, either of them takes the same course whether the other has begun or not, and what they
put on the agenda is apart; waiting for both then comes to the same.
-/
namespace SecretKeeper.Cache

open Metrics

def Request.subject? : Request → Option String
  | .lookup name => some name
  | .add secret => some secret.name
  | _ => none

/-- What a fetch comes to depends on its name alone, not on the calls before it. -/
def Backend.ByName (b : Backend) : Prop :=
  ∀ name before before', b.fetchReply before name = b.fetchReply before' name

theorem Operation.Ends.subject {op : Operation} {q : Option Query} {outcome : Outcome}
    (ends : op.Ends q outcome) : outcome.subject? = op.request.subject? := by
  cases ends with
  | fresh _ _ request | fetched _ _ request | listed _ request | added _ request
  | cleared request | sized request | emptiness request | info request =>
    rw [request]
    rfl

theorem Operation.dues_renumber (f : Nat → Nat) (op : Operation) (q : Query) :
    (op.renumber f).dues q = (op.dues q).map (Due.renumber f) := by
  unfold dues
  cases q.completion? with
  | none => rfl
  | some pair =>
    by_cases inTime : q.inTime op.handle.timing = true
    · simp only [Operation.renumber_handle, inTime, ↓reduceIte]
      rfl
    · simp only [Operation.renumber_handle, inTime]
      rfl

def Report.shown (p : Report) : Result × Nat := (p.result, p.time)

namespace World

/-- What an operation puts on the agenda that begins now; one that ends at once is due now. -/
def brings (w : World) (op : Operation) : List Due :=
  match w.course op with
  | .ends outcome => [⟨w.clock, none, some (op, outcome)⟩]
  | .asks query => op.dues query

section Course
variable {w v : World}

theorem course_renumber (f : Nat → Nat) (op : Operation) :
    w.course (op.renumber f) = w.course op := rfl

theorem brings_renumber (f : Nat → Nat) (op : Operation) :
    w.brings (op.renumber f) = (w.brings op).map (Due.renumber f) := by
  unfold brings
  rw [course_renumber]
  cases w.course op with
  | ends outcome => rfl
  | asks query => exact op.dues_renumber f query

theorem brings_ending {op : Operation} {d : Due} (member : d ∈ w.brings op)
    {e : Operation × Outcome} (ending : d.ending = some e) :
    e.1 = op ∧ e.2.subject? = op.request.subject? := by
  unfold brings at member
  split at member
  · rename_i outcome course
    obtain rfl := List.mem_singleton.mp member
    obtain rfl := Option.some.inj ending
    exact ⟨rfl, (course_ends course).subject⟩
  · rename_i query course
    obtain ⟨rfl, _⟩ := Operation.dues_ending member ending
    exact ⟨rfl, (course_asks course).subject⟩

theorem brings_apart {op op' : Operation} {n n' : String} (handle : op'.handle = op.handle)
    (subject : op.request.subject? = some n) (subject' : op'.request.subject? = some n')
    (apart : n ≠ n') {d e : Due} (member : d ∈ w.brings op) (member' : e ∈ v.brings op') :
    d.Apart e := by
  intro first outcome second outcome' ending ending'
  obtain ⟨rfl, about⟩ := brings_ending member ending
  obtain ⟨rfl, about'⟩ := brings_ending member' ending'
  exact ⟨handle, n, n', about.trans subject, about'.trans subject', apart⟩

theorem brings_again {op : Operation} {n : String} (subject : op.request.subject? = some n)
    (byName : (backendOf w.backends op.handle.backend).ByName) (clock : v.clock = w.clock)
    (backends : v.backends = w.backends)
    (kept : (v.store op.handle.store).get? n = (w.store op.handle.store).get? n) :
    v.brings op = w.brings op := by
  have course : v.course op = w.course op := by
    unfold World.course
    rw [clock, backends]
    cases request : op.request with
    | lookup name =>
      rw [request] at subject
      obtain rfl := Option.some.inj subject
      have reply := byName name (asked v.calls op.handle.backend true)
        (asked w.calls op.handle.backend true)
      simp only [Store.fresh?, kept, reply]
    | listing =>
      rw [request] at subject
      cases subject
    | add | clear | size | isEmpty | info => rfl
  unfold brings
  rw [course, clock]

theorem fire_other {op : Operation} {n n' : String} (subject : op.request.subject? = some n)
    (apart : n' ≠ n) {d : Due} (member : d ∈ v.brings op) (i : Nat) :
    ((w.fire d).store i).get? n' = (w.store i).get? n' := by
  unfold fire
  split
  · rename_i first outcome ending
    have about := (brings_ending member ending).2.trans subject
    exact finish_other _ first about apart i
  · rfl

theorem arranged_other {op : Operation} {n n' : String} (subject : op.request.subject? = some n)
    (apart : n' ≠ n) (i : Nat) :
    (((w.brings op).foldl arrange w).store i).get? n' = (w.store i).get? n' := by
  refine arranged (P := fun v => (v.store i).get? n' = (w.store i).get? n') w rfl ?_
  intro v d member before
  unfold arrange
  split
  · exact (fire_other subject apart member i).trans before
  · exact before

end Course

/-! Starting in the background. -/

def started (w : World) (h : Handle) (task : String) (request : Request) : World :=
  { w.begin h request with background := assign task w.nextTicket w.background }

section Starts
variable (w : World) (h : Handle) (task : String) (request : Request)

theorem started_clock : (w.started h task request).clock = w.clock :=
  (begin_frame w h request).1

theorem started_caches : (w.started h task request).caches = w.caches :=
  (begin_frame w h request).2.1

theorem started_tickets : (w.started h task request).nextTicket = w.nextTicket + 1 :=
  (begin_frame w h request).2.2.2.2

theorem step_start {id : String} (known : w.caches.lookup id = some h) :
    w.step (.start task id request) = (w.started h task request, .nothing) := by
  simp only [step, known, (begin_frame w h request).2.2.1, started]

theorem started_moment {backends : List (String × Backend)} (moment : Moment backends w)
    (settled : Settled w) {id : String} (known : w.caches.lookup id = some h) :
    Moment backends (w.started h task request) ∧ Settled (w.started h task request) := by
  have stepped := step_later (moment_timely moment) settled (.start task id request)
  rw [step_start w h task request known] at stepped
  exact ⟨moment.trans stepped.1, stepped.2⟩

end Starts

section Both
variable {w : World} {id id' : String} {h : Handle} (task task' : String)
  (first second : Request)

theorem started_background (name : String) :
    ((w.started h task first).started h task' second).background.lookup name =
      if name = task' then some (w.nextTicket + 1)
      else if name = task then some w.nextTicket else w.background.lookup name := by
  have background : ((w.started h task first).started h task' second).background =
      assign task' (w.nextTicket + 1) (assign task w.nextTicket w.background) := by
    rw [← started_tickets w h task first]
    rfl
  rw [background, lookup_assign, lookup_assign]

theorem opening_started :
    (w.started h task first).opening h second = w.opened.opening h second := by
  simp only [World.opening, started_clock, started_tickets]
  rfl

theorem started_operations :
    ((w.started h task first).started h task' second).operations.Perm
      (w.opened.opening h second :: w.opening h first :: w.operations) := by
  have last := begin_operations (w.started h task first) h second
  rw [opening_started] at last
  exact last.trans ((begin_operations w h first).cons _)

theorem started_tracked {backends : List (String × Backend)} (moment : Moment backends w)
    (tasks : task ≠ task') (name : String) :
    ((w.started h task' second).started h task first).background.lookup name =
      (((w.started h task first).started h task' second).background.lookup name).map
        (Equiv.swap w.nextTicket (w.nextTicket + 1)) := by
  rw [started_background, started_background]
  by_cases one : name = task
  · simp [one, tasks]
  · by_cases two : name = task'
    · simp [two, tasks.symm]
    · simp only [one, two, ↓reduceIte]
      cases old : w.background.lookup name with
      | none => rfl
      | some ticket =>
        have given := moment_tracked moment (name, ticket) (mem_of_lookup old)
        rw [Option.map_some, Equiv.swap_apply_of_ne_of_ne (Nat.ne_of_lt given) (by omega)]

variable (known : w.caches.lookup id = some h) (known' : w.caches.lookup id' = some h)
include known known'

theorem started_both {backends : List (String × Backend)} (moment : Moment backends w)
    (settled : Settled w) :
    Moment backends ((w.started h task first).started h task' second) ∧
      Settled ((w.started h task first).started h task' second) := by
  obtain ⟨moment', settled'⟩ := started_moment w h task first moment settled known
  apply started_moment _ h task' second moment' settled'
  rw [started_caches, known']

theorem run_starts (waiting : List Step) :
    let begun := (w.started h task first).started h task' second
    let all := w.run (.start task id first :: .start task' id' second :: waiting)
    all.1 = (begun.run waiting).1 ∧
      all.2.map Report.shown =
        (.nothing, w.clock) :: (.nothing, w.clock) :: (begun.run waiting).2.map Report.shown := by
  intro begun all
  have one := step_start w h task first known
  have still : (w.started h task first).caches.lookup id' = some h := by
    rw [started_caches, known']
  have two := step_start (w.started h task first) h task' second still
  have shown (v u : World) (clock : u.clock = w.clock) :
      (v.report u .nothing).shown = (.nothing, w.clock) := congrArg (Prod.mk Result.nothing) clock
  have clock : (w.started h task first).clock = w.clock := started_clock w h task first
  have clock' : begun.clock = w.clock := (started_clock _ h task' second).trans clock
  simp only [all, run, one, two, List.map_cons]
  exact ⟨rfl, congrArg₂ List.cons (shown _ _ clock)
    (congrArg₂ List.cons (shown _ _ clock') rfl)⟩

end Both

/-! Either order. -/

theorem begin_alike {w : World} (sound : ∀ i, (w.store i).Sound) (h : Handle)
    (request : Request) :
    Alike id ((w.brings (w.opening h request)).foldl arrange w) (w.begin h request) := by
  unfold brings
  rcases w.begin_cases h request with ⟨outcome, course, same⟩ | ⟨q, course, same⟩ <;>
    rw [same, course]
  · have opened : SoFar id { w with happenings := w.happenings ++ [] } w.opened :=
      .of_same sound rfl rfl rfl rfl
    have ended := finish_soFar opened (w.opening h request) outcome
    have now : Due.time ⟨w.clock, none, some (w.opening h request, outcome)⟩ = w.clock := rfl
    rw [List.foldl_cons, List.foldl_nil, arrange_now now]
    exact .of_same ended rfl
  · have called : SoFar id w (w.opened.call (w.opening h request) q) :=
      .of_same sound rfl rfl rfl rfl
    exact arranged_again (.of_same called rfl) ((w.opening h request).dues q)

theorem Alike.tracked {f : Nat → Nat} {w v : World} (alike : Alike f w v)
    (tasks tasks' : List (String × Nat)) :
    Alike f { w with background := tasks } { v with background := tasks' } :=
  ⟨⟨alike.clock, alike.stores, alike.sound, alike.sound', alike.contents, alike.ended,
    alike.recorder⟩, alike.agenda⟩

theorem started_arranged {w : World} (sound : ∀ i, (w.store i).Sound) (h : Handle)
    (task : String) (request : Request) :
    Alike id ((w.brings (w.opening h request)).foldl arrange w) (w.started h task request) :=
  (begin_alike sound h request).tracked _ _

theorem started_both_arranged {w : World} (sound : ∀ i, (w.store i).Sound) {h : Handle}
    (task task' : String) {first second : Request} {n n' : String}
    (subject : first.subject? = some n) (subject' : second.subject? = some n') (apart : n' ≠ n)
    (byName : (backendOf w.backends h.backend).ByName) :
    Alike id
      ((w.brings (w.opened.opening h second)).foldl arrange
        ((w.brings (w.opening h first)).foldl arrange w))
      ((w.started h task first).started h task' second) := by
  let v := w.started h task first
  have begun : Alike id ((w.brings (w.opening h first)).foldl arrange w) v :=
    started_arranged sound h task first
  have clock : v.clock = w.clock := started_clock w h task first
  have backends : v.backends = w.backends := (begin_frame w h first).2.2.2.1
  have kept : (v.store h.store).get? n' = (w.store h.store).get? n' := by
    rw [begun.contents]
    have about : (w.opening h first).request.subject? = some n := subject
    exact arranged_other about apart h.store
  have brings : v.brings (v.opening h second) = w.brings (w.opened.opening h second) := by
    rw [opening_started]
    have about : (w.opened.opening h second).request.subject? = some n' := subject'
    exact brings_again about byName clock backends kept
  have next := started_arranged begun.sound' h task' second
  rw [brings] at next
  exact ((arranged_again begun _).trans next :)

theorem renumber_known {w : World} (numbered : Numbered w) (sound : ∀ i, (w.store i).Sound)
    {f : Nat → Nat} (fixed : ∀ ticket < w.nextTicket, f ticket = ticket) : Alike f w w := by
  have same {op : Operation} (member : op ∈ w.operations) : op.renumber f = op := by
    rw [Operation.renumber, fixed op.ticket (ticket_lt numbered member)]
  have finished : w.finished.map (Finished.told f) = w.finished.map (Finished.told id) := by
    refine List.map_congr_left fun x member => ?_
    rw [Finished.told, same (finished_mem member)]
    rfl
  have agenda : w.agenda.map (Due.renumber f) = w.agenda := by
    refine (List.map_congr_left fun d member => ?_).trans (List.map_id' w.agenda)
    obtain ⟨time, happening, ending⟩ := d
    cases ending with
    | none => rfl
    | some e =>
      have known : e.1 ∈ w.operations := mem_operations.mpr (Or.inr ⟨_, member, e.2, rfl⟩)
      rw [Due.renumber, Option.map_some, same known]
  refine ⟨⟨rfl, rfl, sound, sound, fun _ => rfl, .of_eq finished.symm, .refl _⟩, ?_⟩
  rw [agenda]
  exact .refl w.agenda

theorem opening_swapped (w : World) (h : Handle) (request : Request) :
    (w.opening h request).renumber (Equiv.swap w.nextTicket (w.nextTicket + 1)) =
      w.opened.opening h request := by
  simp only [Operation.renumber, opening, Equiv.swap_apply_left]
  rfl

theorem opened_swapped (w : World) (h : Handle) (request : Request) :
    (w.opened.opening h request).renumber (Equiv.swap w.nextTicket (w.nextTicket + 1)) =
      w.opening h request := by
  simp only [Operation.renumber, opening, opened, Equiv.swap_apply_right]

theorem started_alike {backends : List (String × Backend)} {w : World}
    (moment : Moment backends w) {h : Handle} (task task' : String) {first second : Request}
    {n n' : String} (subject : first.subject? = some n) (subject' : second.subject? = some n')
    (apart : n ≠ n') (byName : (backendOf backends h.backend).ByName) :
    Alike (Equiv.swap w.nextTicket (w.nextTicket + 1))
      ((w.started h task first).started h task' second)
      ((w.started h task' second).started h task first) := by
  let f : Nat → Nat := Equiv.swap w.nextTicket (w.nextTicket + 1)
  rw [← moment_backends moment] at byName
  have sound := store_sound moment
  have fixed : ∀ ticket < w.nextTicket, f ticket = ticket := fun ticket given =>
    Equiv.swap_apply_of_ne_of_ne (by omega) (by omega)
  have known := renumber_known (moment_numbered moment) sound fixed
  let dues := w.brings (w.opening h first)
  let dues' := w.brings (w.opened.opening h second)
  have later : dues.map (Due.renumber f) = w.brings (w.opened.opening h first) := by
    rw [← brings_renumber, opening_swapped]
  have earlier : dues'.map (Due.renumber f) = w.brings (w.opening h second) := by
    rw [← brings_renumber, opened_swapped]
  have left := started_both_arranged sound task task' subject subject' apart.symm byName
  have right := started_both_arranged sound task' task subject' subject apart byName
  have swapped : Alike id (dues'.foldl arrange (dues.foldl arrange w))
      (dues.foldl arrange (dues'.foldl arrange w)) := by
    apply arranged_swap sound
    intro d member e member'
    have about : (w.opening h first).request.subject? = some n := subject
    have about' : (w.opened.opening h second).request.subject? = some n' := subject'
    have handle : (w.opened.opening h second).handle = (w.opening h first).handle := rfl
    exact brings_apart handle about about' apart member member'
  -- Both worlds come of what the two operations bring; what is left between them is the tickets.
  have renamed := arranged_alike (arranged_alike known dues') dues
  rw [later, earlier] at renamed
  exact (left.symm.trans (swapped.trans (renamed.trans right)) :)

/-! Waiting in the background. -/

theorem SoFar.told {f : Nat → Nat} {w v : World} (so : SoFar f w v) {x : Finished}
    (ended : x ∈ w.finished) :
    ∃ y ∈ v.finished, y.operation = x.operation.renumber f ∧ y.time = x.time ∧
      y.effect.result = x.effect.result := by
  obtain ⟨y, member, same⟩ := List.mem_map.mp (so.ended.mem_iff.mpr (List.mem_map_of_mem ended))
  exact ⟨y, member, congrArg (fun t => t.1) same, congrArg (fun t => t.2.1) same,
    congrArg (fun t => t.2.2) same⟩

theorem fireUntil_background (t : Nat) (agenda : List Due) (w : World) :
    (fireUntil t agenda w).background = w.background := by
  induction agenda generalizing w with
  | nil => rfl
  | cons d rest ih =>
    unfold fireUntil
    split
    · rw [ih, fire_background]
    · rfl

theorem join_background (w : World) (name : String) :
    (w.step (.join name)).1.background = w.background := by
  simp only [step]
  split
  · unfold await
    split
    · exact fireUntil_background _ w.agenda w
    · rfl
  · rfl

section Joins
variable {backends : List (String × Backend)} {f : Nat → Nat} {w v : World}

theorem join_alike (injective : Function.Injective f) (moment : Moment backends w)
    (moment' : Moment backends v) (settled : Settled w) (settled' : Settled v)
    (alike : Alike f w v)
    (tracked : ∀ name, v.background.lookup name = (w.background.lookup name).map f)
    (name : String) :
    Alike f (w.step (.join name)).1 (v.step (.join name)).1 ∧
      (v.step (.join name)).2 = (w.step (.join name)).2 := by
  cases known : w.background.lookup name with
  | none =>
    have unknown : v.background.lookup name = none := by rw [tracked, known, Option.map_none]
    simp only [step, known, unknown]
    exact ⟨alike, trivial⟩
  | some ticket =>
    have known' : v.background.lookup name = some (f ticket) := by
      rw [tracked, known, Option.map_some]
    obtain ⟨x, ended, rfl, _, result⟩ := join_spec moment settled known
    have later := (await_later (moment_timely moment') settled' (f x.operation.ticket)).1
    have awaited := await_alike injective alike x.operation.ticket
    simp only [step, known, known'] at ended result ⊢
    obtain ⟨y, ended', operation, _, same⟩ := awaited.toSoFar.told ended
    have shown := finished_result (moment_numbered (moment'.trans later)) ended'
    rw [operation] at shown
    refine ⟨awaited, ?_⟩
    rw [result, ← same, resultOf]
    exact congrArg (Option.getD · .nothing) shown

theorem joins_alike (injective : Function.Injective f) {waiting : List Step}
    (joins : ∀ s ∈ waiting, ∃ name, s = .join name) (moment : Moment backends w)
    (moment' : Moment backends v) (settled : Settled w) (settled' : Settled v)
    (alike : Alike f w v)
    (tracked : ∀ name, v.background.lookup name = (w.background.lookup name).map f) :
    Alike f (w.run waiting).1 (v.run waiting).1 ∧
      (v.run waiting).2.map Report.shown = (w.run waiting).2.map Report.shown := by
  induction waiting generalizing w v with
  | nil => exact ⟨alike, rfl⟩
  | cons s rest ih =>
    obtain ⟨name, rfl⟩ := joins s List.mem_cons_self
    obtain ⟨later, still⟩ := step_later (moment_timely moment) settled (.join name)
    obtain ⟨later', still'⟩ := step_later (moment_timely moment') settled' (.join name)
    obtain ⟨joined, result⟩ :=
      join_alike injective moment moment' settled settled' alike tracked name
    have tracked' (other : String) : (v.step (.join name)).1.background.lookup other =
        ((w.step (.join name)).1.background.lookup other).map f := by
      rw [join_background, join_background]
      exact tracked other
    obtain ⟨last, reports⟩ := ih (fun s member => joins s (List.mem_cons_of_mem _ member))
      (moment.trans later) (moment'.trans later') still still' joined tracked'
    have shown : (v.report (v.step (.join name)).1 (v.step (.join name)).2).shown =
        (w.report (w.step (.join name)).1 (w.step (.join name)).2).shown :=
      congrArg₂ Prod.mk result joined.clock
    exact ⟨last, congrArg₂ List.cons shown reports⟩

theorem joined_ended {waiting : List Step} (joins : ∀ s ∈ waiting, ∃ name, s = .join name)
    (moment : Moment backends w) (settled : Settled w) {name : String} {ticket : Nat}
    (tracked : w.background.lookup name = some ticket) (waits : .join name ∈ waiting) :
    ∃ x ∈ (w.run waiting).1.finished, x.operation.ticket = ticket := by
  induction waiting generalizing w with
  | nil => cases waits
  | cons s rest ih =>
    obtain ⟨first, rfl⟩ := joins s List.mem_cons_self
    obtain ⟨later, still⟩ := step_later (moment_timely moment) settled (.join first)
    have moment' := moment.trans later
    rcases List.mem_cons.mp waits with here | behind
    · obtain rfl := (Step.join.inj here)
      obtain ⟨x, ended, same, _⟩ := join_spec moment settled tracked
      have grown := later_grown (run_later (moment_timely moment') still rest).1
      exact ⟨x, grown.finished.subset ended, same⟩
    · rw [← join_background w first] at tracked
      exact ih (fun s member => joins s (List.mem_cons_of_mem _ member)) moment' still tracked
        behind

end Joins

def EndsAlike (w v : World) (op op' : Operation) : Prop :=
  ∃ x ∈ w.finished, ∃ y ∈ v.finished, x.operation = op ∧ y.operation = op' ∧
    y.time = x.time ∧ y.effect.result = x.effect.result

theorem joined_alike {backends : List (String × Backend)} {f : Nat → Nat} {w v : World}
    {waiting : List Step} (joins : ∀ s ∈ waiting, ∃ name, s = .join name)
    (moment : Moment backends w) (settled : Settled w) (alike : Alike f (w.run waiting).1 v)
    {op : Operation} (member : op ∈ w.operations) {name : String}
    (tracked : w.background.lookup name = some op.ticket) (waits : .join name ∈ waiting) :
    EndsAlike (w.run waiting).1 v op (op.renumber f) := by
  obtain ⟨x, ended, ticket⟩ := joined_ended joins moment settled tracked waits
  have later := (run_later (moment_timely moment) settled waiting).1
  have same : x.operation = op := same_ticket (moment_numbered (moment.trans later))
    (finished_mem ended) (later_operations later member) ticket
  obtain ⟨y, ended', operation, time, result⟩ := alike.toSoFar.told ended
  exact ⟨x, ended, y, ended', same, same ▸ operation, time, result⟩

/-- What two runs from one world come to in which the same two operations began, the first one
first in one run and the second one first in the other. -/
structure Commute (w : World) (h : Handle) (first second : Request)
    (left right : World × List Report) : Prop where
  shown : right.2.map Report.shown = left.2.map Report.shown
  first : EndsAlike left.1 right.1 (w.opening h first) (w.opened.opening h first)
  second : EndsAlike left.1 right.1 (w.opened.opening h second) (w.opening h second)
  clock : right.1.clock = left.1.clock
  kept : ∀ i, (right.1.store i).get? = (left.1.store i).get?
  metrics : right.1.recorder.snapshot = left.1.recorder.snapshot

/-- Two operations about different names, lookups or additions, that begin at one instant at one
cache whose backend replies by name, come to the same in either order: to the same results at the
same instants, to the same secrets with the same times of observation, and to the same series. -/
theorem operations_on_two_names_commute {backends : List (String × Backend)} {steps : List Step}
    {id id' : String} {h : Handle} {first second : Request} {n n' : String} {task task' : String}
    {waiting : List Step}
    (known : (after backends steps).caches.lookup id = some h)
    (known' : (after backends steps).caches.lookup id' = some h)
    (subject : first.subject? = some n) (subject' : second.subject? = some n') (apart : n ≠ n')
    (byName : (backendOf backends h.backend).ByName) (tasks : task ≠ task')
    (waits : waiting.Perm [.join task, .join task']) :
    let w := after backends steps
    Commute w h first second
      (w.run (.start task id first :: .start task' id' second :: waiting))
      (w.run (.start task' id' second :: .start task id first :: waiting)) := by
  intro w
  have moment : Moment backends w := after_moment backends steps
  have settled : Settled w := after_settled backends steps
  let left := (w.started h task first).started h task' second
  let right := (w.started h task' second).started h task first
  have joins : ∀ s ∈ waiting, ∃ name, s = .join name := by
    intro s member
    rcases List.mem_pair.mp (waits.mem_iff.mp member) with same | same
    · exact ⟨task, same⟩
    · exact ⟨task', same⟩
  have alike := started_alike moment task task' subject subject' apart byName
  have tracked := started_tracked (h := h) task task' first second moment tasks
  obtain ⟨here, quiet⟩ := started_both task task' first second known known' moment settled
  obtain ⟨there, quiet'⟩ := started_both task' task second first known' known moment settled
  obtain ⟨world, reports⟩ := run_starts (w := w) task task' first second known known' waiting
  obtain ⟨world', reports'⟩ := run_starts (w := w) task' task second first known' known waiting
  obtain ⟨last, shown⟩ :=
    joins_alike (Equiv.injective _) joins here there quiet quiet' alike tracked
  have operations := started_operations (w := w) (h := h) task task' first second
  have ends {op : Operation} (member : op ∈ left.operations) {name : String}
      (known : left.background.lookup name = some op.ticket) (waits : .join name ∈ waiting) :=
    joined_alike joins here quiet last member known waits
  constructor
  · rw [reports, reports', shown]
  · rw [world, world', ← opening_swapped w]
    apply ends (operations.mem_iff.mpr (List.mem_cons_of_mem _ List.mem_cons_self))
      _ (waits.mem_iff.mpr List.mem_cons_self)
    rw [started_background, if_neg tasks, if_pos rfl]
    rfl
  · rw [world, world', ← opened_swapped w]
    apply ends (operations.mem_iff.mpr List.mem_cons_self)
      _ (waits.mem_iff.mpr (List.mem_cons_of_mem _ (List.mem_singleton_self _)))
    rw [started_background, if_pos rfl]
    rfl
  · rw [world, world']
    exact last.clock
  · rw [world, world']
    exact last.contents
  · rw [world, world']
    have ran := (run_later (moment_timely here) quiet waiting).1
    have ran' := (run_later (moment_timely there) quiet' waiting).1
    exact Recorder.snapshot_agrees (moment_counted (here.trans ran)).sound
      (moment_counted (there.trans ran')).sound last.recorder

/-- Two lookups that are answered at one instant leave two secrets, in the order in which they
began. -/
theorem operations_on_two_names_commute_of_two_lookups :
    let named := fun name => Secret.create name (.ofText "text") .epoch
    let backends := [("b", { Backend.blank with
      byName := [("x", .after (milliseconds 5) (.value (named "x"))),
        ("y", .after (milliseconds 5) (.value (named "y")))] })]
    let timing : Timing := .ofMillis 10 20 20
    let h : Handle := ⟨0, "b", timing, .default⟩
    let w := after backends
      [.create "c" "b" timing .default, .clone "d" "c", .sleep (milliseconds 2)]
    let left := w.run [.start "first" "c" (.lookup "x"), .start "second" "d" (.lookup "y"),
      .join "second", .join "first"]
    let right := w.run [.start "second" "d" (.lookup "y"), .start "first" "c" (.lookup "x"),
      .join "second", .join "first"]
    w.caches.lookup "c" = some h ∧ w.caches.lookup "d" = some h ∧
      (backendOf backends h.backend).ByName ∧
      Commute w h (.lookup "x") (.lookup "y") left right ∧
      (left.1.store 0).entries =
        [("x", ⟨named "x", milliseconds 7⟩), ("y", ⟨named "y", milliseconds 7⟩)] ∧
      (right.1.store 0).entries =
        [("y", ⟨named "y", milliseconds 7⟩), ("x", ⟨named "x", milliseconds 7⟩)] := by
  intro named backends timing h w left right
  have known : w.caches.lookup "c" = some h := rfl
  have known' : w.caches.lookup "d" = some h := rfl
  have byName : (backendOf backends h.backend).ByName := fun name before before' => rfl
  have waits : [Step.join "second", .join "first"].Perm [.join "first", .join "second"] :=
    .swap _ _ []
  have commute : Commute w h (.lookup "x") (.lookup "y") left right :=
    operations_on_two_names_commute known known' rfl rfl (by decide) byName (by decide) waits
  exact ⟨known, known', byName, commute, by decide +kernel, by decide +kernel⟩

end World
end SecretKeeper.Cache

import Mathlib.Data.List.Induction
import SecretKeeper.Proofs.Cache.SideBySide

/-!
Replies that come too late. Two runs whose backends differ in such replies only go side by side:
what they have on their agendas for a cache is the same, and so is all that caches show. What is
left of a late reply is that its backend completes the call, once and at its own time.
-/
namespace SecretKeeper.Cache

/-- Other scripts have the same reply to a call, or both replies come too late for it. -/
def Inert (backends : List (String × Backend)) (before : List Call) (c : Call) : Prop :=
  let other := c.query.scripted backends before c.operation.handle.backend
  other = c.query ∨
    c.query.inTime c.operation.handle.timing = false ∧
      other.inTime c.operation.handle.timing = false

def Call.Alike (c c' : Call) : Prop :=
  c'.operation = c.operation ∧ c'.query.unanswered = c.query.unanswered ∧
    (c'.query = c.query ∨
      c.query.inTime c.operation.handle.timing = false ∧
        c'.query.inTime c.operation.handle.timing = false)

def unaffected (backends backends' : List (String × Backend)) (x : Happening) : Bool :=
  x.isCall || backendOf backends x.backend = backendOf backends' x.backend

def Report.seen (keep : Happening → Bool) (r : Report) : Report :=
  { r with happenings := r.happenings.filter keep }

theorem Operation.dues_of_late {op : Operation} {q : Query}
    (late : q.inTime op.handle.timing = false) :
    ∃ rest, op.dues q = ⟨op.started + q.deadline op.handle.timing, none,
        some (op, q.outcome op.handle.timing)⟩ :: rest ∧
      ∀ d ∈ rest, d.ending = none ∧
        ∀ x, d.happening = some x → x.backend = op.handle.backend := by
  rcases op.dues_cases q with ⟨_, dues⟩ | ⟨delay, phase, _, ⟨inTime, _⟩ | ⟨_, dues⟩⟩
  · exact ⟨[], dues, by simp⟩
  · rw [late] at inTime
    cases inTime
  · refine ⟨_, dues, ?_⟩
    intro d member
    obtain rfl := List.mem_singleton.mp member
    refine ⟨rfl, ?_⟩
    rintro x ⟨⟩
    rfl

theorem schedule_first {d : Due} {agenda : List Due} (first : ∀ e ∈ agenda, d.time < e.time) :
    schedule d agenda = d :: agenda := by
  cases agenda with
  | nil => rfl
  | cons e rest =>
    have later := first e List.mem_cons_self
    exact if_neg (by omega)

theorem schedule_filter (p : Due → Bool) (d : Due) {agenda : List Due}
    (ordered : agenda.Pairwise fun a b => a.time ≤ b.time) :
    (schedule d agenda).filter p =
      if p d then schedule d (agenda.filter p) else agenda.filter p := by
  induction agenda with
  | nil => cases chosen : p d <;> simp [schedule, chosen]
  | cons first rest ih =>
    obtain ⟨least, tail⟩ := List.pairwise_cons.mp ordered
    have place : schedule d (first :: rest) =
        if first.time ≤ d.time then first :: schedule d rest else d :: first :: rest := rfl
    by_cases behind : first.time ≤ d.time
    · rw [place, if_pos behind, List.filter_cons, List.filter_cons, ih tail]
      cases p d
      · rfl
      · cases p first <;> simp [schedule, behind]
    · rw [place, if_neg behind, List.filter_cons]
      cases p d
      · rfl
      · have all : ∀ e ∈ (first :: rest).filter p, d.time < e.time := by
          intro e member
          rcases List.mem_cons.mp (List.mem_filter.mp member).1 with rfl | old
          · omega
          · have := least e old
            omega
        exact (schedule_first all).symm

/-- Something is still going to be seen of what is due: an operation ends, or something happens
that is looked at. -/
def Due.matters (keep : Happening → Bool) (d : Due) : Bool :=
  d.ending.isSome || d.happening.any keep

namespace World

/-- A world without its scripts, the replies to calls, and what happens to some backends. -/
def seen (keep : Happening → Bool) (w : World) : World :=
  { w with
    backends := []
    agenda := w.agenda.filter (Due.matters keep)
    calls := w.calls.map Call.unanswered
    happenings := w.happenings.filter keep }

theorem fire_with_agenda (w : World) (agenda : List Due) (d : Due) :
    { w with agenda := agenda }.fire d = { w.fire d with agenda := agenda } := by
  unfold fire
  split <;> rfl

theorem fires_with_agenda (w : World) (agenda agenda' dues : List Due) :
    { dues.foldl fire { w with agenda := agenda } with agenda := agenda' } =
      { dues.foldl fire w with agenda := agenda' } := by
  induction dues generalizing w with
  | nil => rfl
  | cons d rest ih =>
    rw [List.foldl_cons, List.foldl_cons, fire_with_agenda]
    exact ih (w.fire d)

theorem fireUntil_eq (t : Nat) {agenda : List Due} (w : World)
    (ordered : agenda.Pairwise fun a b => a.time ≤ b.time) :
    fireUntil t agenda w =
      { (agenda.filter fun d => d.time ≤ t).foldl fire w with
        agenda := agenda.filter fun d => t < d.time } := by
  induction agenda generalizing w with
  | nil => rfl
  | cons d rest ih =>
    obtain ⟨least, tail⟩ := List.pairwise_cons.mp ordered
    unfold fireUntil
    by_cases due : d.time ≤ t
    · rw [if_pos due, ih _ tail, fire_with_agenda, List.filter_cons_of_pos (by simpa using due),
        List.filter_cons_of_neg (by simpa using due), List.foldl_cons]
      exact fires_with_agenda _ _ _ _
    · have later : ∀ e ∈ d :: rest, t < e.time := by
        intro e member
        rcases List.mem_cons.mp member with rfl | behind
        · omega
        · have := least e behind
          omega
      have none : (d :: rest).filter (fun e => e.time ≤ t) = [] :=
        List.filter_eq_nil_iff.mpr fun e member => by simpa using later e member
      have all : (d :: rest).filter (fun e => t < e.time) = d :: rest :=
        List.filter_eq_self.mpr fun e member => decide_eq_true (later e member)
      rw [if_neg due, none, all]
      rfl

section Seen
variable {keep : Happening → Bool}

theorem finish_seen (w : World) (op : Operation) (outcome : Outcome) :
    (w.finish op outcome).seen keep = ((w.seen keep).finish op outcome).seen keep := by
  simp [seen, finish, store]

theorem fire_seen (w : World) (d : Due) :
    (w.fire d).seen keep = ((w.seen keep).fire d).seen keep := by
  unfold fire
  split <;> simp [seen, finish, store]

theorem call_seen (w : World) (op : Operation) (q : Query) :
    (w.call op q).seen keep = ((w.seen keep).call op q.unanswered).seen keep := by
  simp [seen, call]

theorem fire_unseen (w : World) {d : Due} (nothing : d.matters keep = false) :
    (w.fire d).seen keep = { w with clock := d.time }.seen keep := by
  obtain ⟨silent, unkept⟩ := Bool.or_eq_false_iff.mp nothing
  have ending : d.ending = none :=
    Option.isNone_iff_eq_none.mp (Option.isSome_eq_false_iff.mp silent)
  have happening : d.happening.toList.filter keep = [] := by
    cases same : d.happening with
    | none => rfl
    | some x => simpa [same] using unkept
  simp [fire, ending, seen, happening]

theorem fires_seen (t : Nat) (dues : List Due) {w v : World}
    (same : { w with clock := t }.seen keep = { v with clock := t }.seen keep) :
    { dues.foldl fire w with clock := t }.seen keep =
      { (dues.filter (Due.matters keep)).foldl fire v with clock := t }.seen keep := by
  induction dues generalizing w v with
  | nil => exact same
  | cons d rest ih =>
    cases matters : d.matters keep with
    | true =>
      rw [List.filter_cons_of_pos matters, List.foldl_cons, List.foldl_cons]
      apply ih
      have fired : (w.fire d).seen keep = (v.fire d).seen keep := by
        rw [show w.fire d = { w with clock := t }.fire d from rfl, fire_seen, same, ← fire_seen]
        rfl
      exact congrArg (fun u : World => { u with clock := t }) fired
    | false =>
      rw [List.filter_cons_of_neg (by simp [matters]), List.foldl_cons]
      refine ih (Eq.trans ?_ same)
      exact congrArg (fun u : World => { u with clock := t }) (fire_unseen w matters)

theorem advanceTo_seen {w v : World} (same : w.seen keep = v.seen keep) (timely : Timely w)
    (timely' : Timely v) (t : Nat) : (w.advanceTo t).seen keep = (v.advanceTo t).seen keep := by
  have clock : w.clock = v.clock := (congrArg World.clock same :)
  have agenda : w.agenda.filter (Due.matters keep) = v.agenda.filter (Due.matters keep) :=
    (congrArg World.agenda same :)
  have due (p : Due → Bool) : (w.agenda.filter p).filter (Due.matters keep) =
      (v.agenda.filter p).filter (Due.matters keep) := by
    rw [List.filter_comm, agenda, List.filter_comm]
  let early : Due → Bool := fun d => d.time ≤ t
  let late : Due → Bool := fun d => t < d.time
  let now := max w.clock t
  have fired : { (w.agenda.filter early).foldl fire w with clock := now }.seen keep =
      { (v.agenda.filter early).foldl fire v with clock := now }.seen keep := by
    rw [fires_seen now _ (congrArg (fun u : World => { u with clock := now }) same), due,
      ← fires_seen now _ rfl]
  have apart (u : World) (timely : Timely u) (clock : u.clock = w.clock) :
      (u.advanceTo t).seen keep =
        { { (u.agenda.filter early).foldl fire u with clock := now }.seen keep with
          agenda := (u.agenda.filter late).filter (Due.matters keep) } := by
    unfold advanceTo
    rw [fireUntil_eq t u timely.ordered, clock]
    rfl
  rw [apart w timely rfl, apart v timely' clock.symm, fired, due]

theorem await_seen {w v : World} (same : w.seen keep = v.seen keep) (timely : Timely w)
    (timely' : Timely v) (ticket : Nat) :
    (w.await ticket).seen keep = (v.await ticket).seen keep := by
  have due (u : World) : u.dueTime? ticket = (u.seen keep).dueTime? ticket := by
    simp only [dueTime?, seen, List.find?_filter]
    refine congrArg (fun p => (u.agenda.find? p).map Due.time) (funext fun d => ?_)
    rw [Bool.eq_iff_iff]
    cases ending : d.ending <;> simp [Due.matters, ending]
  unfold await
  rw [due w, due v, same]
  split
  · exact advanceTo_seen same timely timely' _
  · exact same

theorem arrange_seen {w v : World} (same : w.seen keep = v.seen keep) (timely : Timely w)
    (timely' : Timely v) (d : Due) : (w.arrange d).seen keep = (v.arrange d).seen keep := by
  have clock : w.clock = v.clock := (congrArg World.clock same :)
  have agenda : w.agenda.filter (Due.matters keep) = v.agenda.filter (Due.matters keep) :=
    (congrArg World.agenda same :)
  unfold arrange
  by_cases now : d.time = w.clock
  · rw [if_pos now, if_pos (now.trans clock), fire_seen, same, ← fire_seen]
  · have scheduled : (schedule d w.agenda).filter (Due.matters keep) =
        (schedule d v.agenda).filter (Due.matters keep) := by
      rw [schedule_filter _ d timely.ordered, schedule_filter _ d timely'.ordered, agenda]
    have parts (u : World) : { u with agenda := schedule d u.agenda }.seen keep =
        { u.seen keep with agenda := (schedule d u.agenda).filter (Due.matters keep) } := rfl
    rw [if_neg now, if_neg (clock ▸ now), parts w, parts v, same, scheduled]

theorem arrange_unseen {w : World} {d : Due} (timely : Timely w)
    (nothing : d.matters keep = false) : (w.arrange d).seen keep = w.seen keep := by
  unfold arrange
  split
  · rename_i now
    rw [fire_unseen w nothing, now]
  · have parts : { w with agenda := schedule d w.agenda }.seen keep =
        { w.seen keep with agenda := (schedule d w.agenda).filter (Due.matters keep) } := rfl
    rw [parts, schedule_filter _ d timely.ordered, nothing]
    rfl

theorem arranged_seen {dues : List Due} {w v : World} (same : w.seen keep = v.seen keep)
    (timely : Timely w) (timely' : Timely v) (notBefore : ∀ d ∈ dues, w.clock ≤ d.time) :
    (dues.foldl arrange w).seen keep = (dues.foldl arrange v).seen keep := by
  induction dues generalizing w v with
  | nil => exact same
  | cons d rest ih =>
    have clock : w.clock = v.clock := (congrArg World.clock same :)
    have now := notBefore d List.mem_cons_self
    refine ih (arrange_seen same timely timely' d) (arrange_timely timely now)
      (arrange_timely timely' (clock ▸ now)) ?_
    intro e member
    rw [arrange_clock]
    exact notBefore e (List.mem_cons_of_mem d member)

theorem arranged_unseen {dues : List Due} {w : World} (timely : Timely w)
    (nothing : ∀ d ∈ dues, w.clock ≤ d.time ∧ d.matters keep = false) :
    (dues.foldl arrange w).seen keep = w.seen keep := by
  refine (arranged (P := fun v => v.seen keep = w.seen keep ∧ Timely v ∧ v.clock = w.clock) w
    ⟨rfl, timely, rfl⟩ ?_).1
  intro v d member ⟨same, timely, clock⟩
  obtain ⟨now, nothing⟩ := nothing d member
  rw [← clock] at now
  exact ⟨(arrange_unseen timely nothing).trans same, arrange_timely timely now,
    (arrange_clock v d).trans clock⟩

end Seen

section Course
variable {backends backends' : List (String × Backend)} {w v : World}
  (same : w.seen (unaffected backends backends') = v.seen (unaffected backends backends'))
include same

theorem opening_seen (h : Handle) (request : Request) :
    w.opening h request = v.opening h request := by
  have clock : w.clock = v.clock := (congrArg World.clock same :)
  have ticket : w.nextTicket = v.nextTicket := (congrArg World.nextTicket same :)
  rw [opening, opening, clock, ticket]

theorem course_seen (scripts : v.backends = backends') (op : Operation) :
    (∃ outcome, w.course op = .ends outcome ∧ v.course op = .ends outcome) ∨
      ∃ q, w.course op = .asks q ∧
        v.course op = .asks (q.scripted backends' w.calls op.handle.backend) := by
  have calls : w.calls.map Call.unanswered = v.calls.map Call.unanswered :=
    (congrArg World.calls same :)
  have counts (id : String) (isFetch : Bool) :
      asked v.calls id isFetch = asked w.calls id isFetch := by
    rw [← asked_unanswered v.calls, ← calls, asked_unanswered]
  have clock : v.clock = w.clock := (congrArg World.clock same.symm :)
  have stores : v.stores = w.stores := (congrArg World.stores same.symm :)
  rw [← scripts]
  exact course_beside clock stores counts op

theorem late_seen (timely : Timely w) (timely' : Timely v) {op : Operation}
    (now : op.started = w.clock) {q q' : Query} (question : q.unanswered = q'.unanswered)
    (late : q.inTime op.handle.timing = false) (late' : q'.inTime op.handle.timing = false)
    (differ : backendOf backends op.handle.backend ≠ backendOf backends' op.handle.backend) :
    ((op.dues q).foldl arrange w).seen (unaffected backends backends') =
      ((op.dues q').foldl arrange v).seen (unaffected backends backends') := by
  have clock : w.clock = v.clock := (congrArg World.clock same :)
  have unseen {q : Query} {d : Due} (member : d ∈ op.dues q) (silent : d.ending = none)
      (own : ∀ x, d.happening = some x → x.backend = op.handle.backend) :
      d.matters (unaffected backends backends') = false := by
    cases happening : d.happening with
    | none => simp [Due.matters, silent, happening]
    | some x =>
      have done := (Operation.dues_completes member x happening).1
      simp [Due.matters, silent, happening, unaffected, done, own x happening, differ]
  obtain ⟨rest, dues, silent⟩ := Operation.dues_of_late late
  obtain ⟨rest', dues', silent'⟩ := Operation.dues_of_late late'
  obtain ⟨outcome, deadline⟩ := Query.late_of_unanswered question late late'
  have first := arrange_seen same timely timely' ⟨op.started + q.deadline op.handle.timing, none,
    some (op, q.outcome op.handle.timing)⟩
  have forward : w.clock ≤ op.started + q.deadline op.handle.timing := by omega
  rw [dues, List.foldl_cons, arranged_unseen (arrange_timely timely forward), first]
  · rw [dues', List.foldl_cons, outcome, deadline, arranged_unseen]
    · apply arrange_timely timely'
      rw [← clock, ← now]
      exact Nat.le_add_right _ _
    · intro d member
      have due : d ∈ op.dues q' := dues' ▸ List.mem_cons_of_mem _ member
      refine ⟨?_, unseen due (silent' d member).1 (silent' d member).2⟩
      rw [arrange_clock, ← clock, ← now]
      exact Operation.dues_not_before due
  · intro d member
    have due : d ∈ op.dues q := dues ▸ List.mem_cons_of_mem _ member
    refine ⟨?_, unseen due (silent d member).1 (silent d member).2⟩
    rw [arrange_clock, ← now]
    exact Operation.dues_not_before due

theorem begin_seen (moment : Moment backends w) (moment' : Moment backends' v) (h : Handle)
    (request : Request)
    (inert : ∀ q, w.course (w.opening h request) = .asks q →
      Inert backends' w.calls ⟨w.opening h request, q⟩) :
    (w.begin h request).seen (unaffected backends backends') =
      (v.begin h request).seen (unaffected backends backends') := by
  have opening := opening_seen same h request
  have opened : w.opened.seen (unaffected backends backends') =
      v.opened.seen (unaffected backends backends') :=
    congrArg World.opened same
  rcases course_seen same (moment_backends moment') (w.opening h request) with
    ⟨outcome, ends, ends'⟩ | ⟨q, asks, asks'⟩
  · rw [opening] at ends'
    rw [begin_of_ends ends, begin_of_ends ends', opening, finish_seen, opened, ← finish_seen]
  · have scripted := course_scripted asks
    rw [moment_backends moment] at scripted
    have choice := inert q asks
    have question := (q.unanswered_scripted backends' w.calls
      (w.opening h request).handle.backend).symm
    rw [begin_of_asks asks]
    rw [opening] at asks'
    rw [begin_of_asks asks', ← opening]
    generalize other : q.scripted backends' w.calls (w.opening h request).handle.backend = q' at *
    have called : (w.opened.call (w.opening h request) q).seen (unaffected backends backends') =
        (v.opened.call (w.opening h request) q').seen (unaffected backends backends') := by
      rw [call_seen, opened, question, ← call_seen]
    have timely := timely_of_same (v := w.opened.call (w.opening h request) q)
      (moment_timely moment) rfl rfl
    have timely' := timely_of_same (v := v.opened.call (w.opening h request) q')
      (moment_timely moment') rfl rfl
    by_cases equal : q' = q
    · subst equal
      exact arranged_seen called timely timely' fun d => Operation.dues_not_before
    · obtain ⟨late, late'⟩ := choice.resolve_left (other ▸ equal)
      rw [other] at late'
      apply late_seen called timely timely' rfl question late late'
      -- With the same script the reply would be the same.
      intro script
      refine equal (Eq.trans ?_ scripted.symm)
      rw [← other]
      cases q <;> simp only [Query.scripted, script]

theorem step_seen (moment : Moment backends w) (moment' : Moment backends' v) (s : Step)
    (inert : Stepwise (Inert backends') (w.step s).1.calls) :
    (w.step s).1.seen (unaffected backends backends') =
        (v.step s).1.seen (unaffected backends backends') ∧
      (w.step s).2 = (v.step s).2 := by
  have clock : w.clock = v.clock := (congrArg World.clock same :)
  have caches : w.caches = v.caches := (congrArg World.caches same :)
  have background : w.background = v.background := (congrArg World.background same :)
  have ticket : w.nextTicket = v.nextTicket := (congrArg World.nextTicket same :)
  have timely := moment_timely moment
  have timely' := moment_timely moment'
  have results {u u' : World} (t : Nat) (alike : u.seen (unaffected backends backends') =
      u'.seen (unaffected backends backends')) : u.resultOf t = u'.resultOf t :=
    (congrArg (fun x => World.resultOf x t) alike :)
  have begun {h : Handle} {request : Request} (begins : w.begins? s = some (h, request)) :
      (w.begin h request).seen (unaffected backends backends') =
        (v.begin h request).seen (unaffected backends backends') := by
    apply begin_seen same moment moment' h request
    intro q asks
    have calls : (w.step s).1.calls = (w.begin h request).calls := by
      rw [step_calls, begins]
    rw [calls, begin_calls_of_asks asks] at inert
    exact inert _ _ [] rfl
  cases s with
  | create id backend timing log =>
    exact ⟨congrArg (fun u => World.create u id backend timing log) same, rfl⟩
  | clone id source =>
    simp only [step, caches]
    split
    · rename_i h known
      exact ⟨congrArg (fun u : World => { u with caches := assign id h v.caches }) same, rfl⟩
    · exact ⟨same, rfl⟩
  | run id request =>
    simp only [begins?] at begun
    simp only [step, caches, ticket] at begun ⊢
    split
    · rename_i h known
      have started := begun (by rw [known]; rfl)
      have awaited := await_seen started (begin_timely timely h request)
        (begin_timely timely' h request) v.nextTicket
      exact ⟨awaited, results _ awaited⟩
    · exact ⟨same, rfl⟩
  | start name id request =>
    simp only [begins?] at begun
    simp only [step, caches, ticket] at begun ⊢
    split
    · rename_i h known
      have started := begun (by rw [known]; rfl)
      have tracked := congrArg (fun u : World => { u with
        background := assign name v.nextTicket u.background }) started
      exact ⟨tracked, rfl⟩
    · exact ⟨same, rfl⟩
  | join name =>
    simp only [step, background]
    split
    · rename_i number known
      have awaited := await_seen same timely timely' number
      exact ⟨awaited, results number awaited⟩
    · exact ⟨same, rfl⟩
  | sleep nanos | jump nanos =>
    simp only [step, clock]
    exact ⟨advanceTo_seen same timely timely' _, trivial⟩
  | metrics => exact ⟨same, (congrArg (fun u => Result.samples (World.recorder u).snapshot) same :)⟩

end Course

theorem report_seen {keep : Happening → Bool} {w v w' v' : World} {result result' : Result}
    (before : w.seen keep = v.seen keep) (after : w'.seen keep = v'.seen keep)
    (grown : w.happenings <+: w'.happenings) (grown' : v.happenings <+: v'.happenings)
    (results : result = result') :
    (w.report w' result).seen keep = (v.report v' result').seen keep := by
  have part {u u' : World} (grown : u.happenings <+: u'.happenings) (result : Result) :
      (u.report u' result).seen keep = (u.seen keep).report (u'.seen keep) result := by
    obtain ⟨new, grown⟩ := grown
    have dropped : (u'.happenings.drop u.happenings.length).filter keep =
        (u'.happenings.filter keep).drop (u.happenings.filter keep).length := by
      rw [← grown, List.drop_left, List.filter_append, List.drop_left]
    simp only [Report.seen, report, dropped]
    rfl
  rw [part grown, part grown', before, after, results]

theorem run_seen {backends backends' : List (String × Backend)} {w v : World}
    (same : w.seen (unaffected backends backends') = v.seen (unaffected backends backends'))
    (moment : Moment backends w) (moment' : Moment backends' v) (settled : Settled w)
    (settled' : Settled v) (steps : List Step)
    (inert : Stepwise (Inert backends') (w.run steps).1.calls) :
    (w.run steps).1.seen (unaffected backends backends') =
        (v.run steps).1.seen (unaffected backends backends') ∧
      (w.run steps).2.map (Report.seen (unaffected backends backends')) =
        (v.run steps).2.map (Report.seen (unaffected backends backends')) := by
  induction steps generalizing w v with
  | nil => exact ⟨same, rfl⟩
  | cons s rest ih =>
    obtain ⟨later, still⟩ := step_later (moment_timely moment) settled s
    obtain ⟨later', still'⟩ := step_later (moment_timely moment') settled' s
    have stepped := moment.trans later
    have more := (run_later (moment_timely stepped) still rest).1
    obtain ⟨alike, results⟩ := step_seen same moment moment' s
      (stepwise_front (later_grown more).calls inert)
    obtain ⟨last, reports⟩ := ih alike stepped (moment'.trans later') still still' inert
    refine ⟨last, ?_⟩
    have report := report_seen same alike (later_grown later).happenings
      (later_grown later').happenings results
    simp only [run, List.map_cons]
    rw [report, reports]

theorem calls_alike {backends' : List (String × Backend)} {calls calls' : List Call}
    (same : calls.map Call.unanswered = calls'.map Call.unanswered)
    (inert : Stepwise (Inert backends') calls) (scripted : Stepwise (Scripted backends') calls') :
    List.Forall₂ Call.Alike calls calls' := by
  induction calls using List.reverseRecOn generalizing calls' with
  | nil =>
    obtain rfl := List.map_eq_nil_iff.mp same.symm
    exact .nil
  | append_singleton calls c ih =>
    rcases List.eq_nil_or_concat calls' with rfl | ⟨before, c', rfl⟩
    · simp at same
    · rw [List.concat_eq_append] at same scripted ⊢
      rw [List.map_append, List.map_append] at same
      obtain ⟨earlier, last⟩ := List.append_inj' same rfl
      have first := ih earlier (stepwise_front (List.prefix_append _ _) inert)
        (stepwise_front (List.prefix_append _ _) scripted)
      refine List.rel_append first (.cons ?_ .nil)
      obtain ⟨operation, question⟩ := Call.mk.inj (List.singleton_inj.mp last)
      have reply := scripted before c' [] rfl
      have other := inert calls c [] rfl
      rw [Scripted, ← operation, ← scripted_of_unanswered earlier question] at reply
      rw [Inert, ← reply] at other
      exact ⟨operation.symm, question.symm, other⟩

/-- Exactly those calls are completed whose time has come, each once, whether their operations
have waited for them or not. -/
def Completed (w : World) : Prop :=
  (w.happenings.filter fun x => !x.isCall).Perm
    ((w.calls.filterMap Call.completed?).filter fun x => x.time ≤ w.clock)

/-- Runs with scripts that differ in late replies only cannot be told apart, except by when and how
the backends with other scripts complete the calls to them. These are not given up: they are
completed once, at the time that the reply says. -/
theorem late_answers_are_inert {backends backends' : List (String × Backend)} {steps : List Step}
    (inert : Stepwise (Inert backends') (after backends steps).calls) :
    let w := after backends steps
    let w' := after backends' steps
    let shown := fun scripts =>
      ((start scripts).run steps).2.map (Report.seen (unaffected backends backends'))
    shown backends' = shown backends ∧ w'.finished = w.finished ∧ w'.stores = w.stores ∧
      w'.events = w.events ∧ w'.recorder = w.recorder ∧
      List.Forall₂ Call.Alike w.calls w'.calls ∧ Completed w ∧ Completed w' := by
  intro w w' shown
  have alike : (start backends).seen (unaffected backends backends') =
      (start backends').seen (unaffected backends backends') := rfl
  obtain ⟨last, reports⟩ := run_seen alike .refl .refl (start_settled backends)
    (start_settled backends') steps inert
  have moment := after_moment backends steps
  have moment' := after_moment backends' steps
  exact ⟨reports.symm, (congrArg World.finished last.symm :), (congrArg World.stores last.symm :),
    (congrArg World.events last.symm :), (congrArg World.recorder last.symm :),
    calls_alike (congrArg World.calls last :) inert (moment_scripted moment'),
    completed_by_now moment (after_settled backends steps),
    completed_by_now moment' (after_settled backends' steps)⟩

/-- A lookup has given up when the backend brings the secret, or breaks down still later. -/
theorem late_answer_is_inert_after_the_deadline :
    let secret := Secret.create "a" .empty .epoch
    let scripts := fun reply => [("b", { Backend.blank with fetches := [reply] })]
    let timing : Timing := .ofMillis 1000 10 20
    let steps := [.create "c" "b" timing .default, .run "c" (.lookup "a"),
      .sleep (milliseconds 100)]
    let late := .after (milliseconds 50) .breakdown
    let w := after (scripts (.after (milliseconds 30) (.value secret))) steps
    let w' := after (scripts late) steps
    Stepwise (Inert (scripts late)) w.calls ∧ w'.finished = w.finished ∧ Completed w ∧
      Completed w' := by
  intro secret scripts timing steps late w w'
  have asked : w.calls = [⟨⟨0, ⟨0, "b", timing, .default⟩, .lookup "a", 0⟩,
    .fetch "a" (.after (milliseconds 30) (.value secret))⟩] := by decide +kernel
  have inert : Stepwise (Inert (scripts late)) w.calls := by
    rw [asked]
    exact stepwise_concat (stepwise_nil _) (Or.inr ⟨rfl, rfl⟩)
  obtain ⟨_, finished, _, _, _, _, completed, completed'⟩ := late_answers_are_inert inert
  exact ⟨inert, finished, completed, completed'⟩

end World
end SecretKeeper.Cache

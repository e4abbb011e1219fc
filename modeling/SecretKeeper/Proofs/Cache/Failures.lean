import SecretKeeper.Log.Logger
import SecretKeeper.Proofs.Cache.SideBySide

/-!
Failures look alike to callers. A backend that has nothing, breaks down, or brings a secret of
another name is the same to those who use a cache: in runs in which calls fail in different ways
after the same delays, operations end at the same times with the same results, and what is kept and
measured is the same. Each way of failing is logged by events of its own, of which the number and
the levels differ; nothing else in the logs does.
-/
namespace SecretKeeper.Cache

open Log

/-- A reply that comes after a delay and is of no use to the one who asked, by the name that was
asked for, if any, and with what is logged when it comes. -/
inductive Query.Fails (delay : Nat) : Option String → Query → List Note → Prop where
  | refused (name : String) :
      Fails delay (some name) (.fetch name (.after delay .nothing)) [.unusable "secret"]
  | broken (name : String) :
      Fails delay (some name) (.fetch name (.after delay .breakdown)) [.failed "secret"]
  | foreign (name : String) (secret : Secret) (other : secret.name ≠ name) :
      Fails delay (some name) (.fetch name (.after delay (.value secret)))
        [.answered "secret" delay, .foreign secret.name]
  | refusedListing : Fails delay none (.list (.after delay .nothing)) [.unusable "secret_list"]
  | brokenListing : Fails delay none (.list (.after delay .breakdown)) [.failed "secret_list"]

/-- Other scripts have the same reply to a call, or both replies fail after the same delay. -/
def FailsAlike (backends : List (String × Backend)) (before : List Call) (c : Call) : Prop :=
  let other := c.query.scripted backends before c.operation.handle.backend
  other = c.query ∨ ∃ delay name told told', c.query.Fails delay name told ∧
    other.Fails delay name told'

section Retold
variable (paired : Call → Call → Prop)

/-- The calls of one operation in two runs, which fail after the same delay. -/
structure Mishap (op : Operation) (q q' : Query) (delay : Nat) (name : Option String)
    (told told' : List Note) : Prop where
  paired : paired ⟨op, q⟩ ⟨op, q'⟩
  fails : q.Fails delay name told
  fails' : q'.Fails delay name told'

inductive Happening.Retold : Happening → Happening → Prop where
  | same (x : Happening) : Retold x x
  | failed {op : Operation} {q q' : Query} {delay : Nat} {name : Option String}
      {told told' : List Note} {phase phase' : Phase}
      (mishap : Mishap paired op q q' delay name told told')
      (ends : q.completion? = some (delay, phase)) (ends' : q'.completion? = some (delay, phase')) :
      Retold (op.completed q delay phase) (op.completed q' delay phase')

/-- The same end of an operation, or two that differ in what is logged of the failure of its own
call, when the reply comes. What is logged after that is the same. -/
inductive Finished.Retold : Finished → Finished → Prop where
  | same (f : Finished) : Retold f f
  | failed {f : Finished} {q q' : Query} {delay : Nat} {name : Option String}
      {told told' rest : List Note} (mishap : Mishap paired f.operation q q' delay name told told')
      (time : f.time = f.operation.started + delay)
      (outcome : f.outcome = q.outcome f.operation.handle.timing)
      (notes : f.effect.notes = told ++ rest) :
      Retold f { f with
        outcome := q'.outcome f.operation.handle.timing
        effect := { f.effect with notes := told' ++ rest } }

inductive Due.Retold : Due → Due → Prop where
  | same (d : Due) : Retold d d
  | answered {op : Operation} {q q' : Query} {delay : Nat} {name : Option String}
      {told told' : List Note} {x x' : Happening}
      (mishap : Mishap paired op q q' delay name told told')
      (inTime : delay < q.deadline op.handle.timing) (happening : x.Retold paired x') :
      Retold ⟨op.started + delay, some x, some (op, q.outcome op.handle.timing)⟩
        ⟨op.started + delay, some x', some (op, q'.outcome op.handle.timing)⟩
  | ignored {time : Nat} {x x' : Happening} (happening : x.Retold paired x') :
      Retold ⟨time, some x, none⟩ ⟨time, some x', none⟩

end Retold

/-- Two logs that consist of what the same operations have logged at their ends, one after the
other, and in between of the same events of no operation. -/
inductive Matched : List Finished → List Finished → List Event → List Event → Prop where
  | start : Matched [] [] [] []
  | between {fs fs' : List Finished} {es es' : List Event} (before : Matched fs fs' es es')
      (e : Event) (alone : e.span = none) : Matched fs fs' (es ++ [e]) (es' ++ [e])
  | ended {fs fs' : List Finished} {es es' : List Event} (before : Matched fs fs' es es')
      (f f' : Finished) :
      Matched (fs ++ [f]) (fs' ++ [f']) (es ++ f.events) (es' ++ f'.events)

def Report.toCallers (r : Report) : Report := { r with happenings := [], events := [] }

namespace Query.Fails
variable {delay : Nat} {name : Option String} {q q' : Query} {told told' : List Note}
  (fails : q.Fails delay name told)
include fails

theorem completion : ∃ phase, q.completion? = some (delay, phase) := by
  cases fails with
  | refused | refusedListing | foreign => exact ⟨.done, rfl⟩
  | broken | brokenListing => exact ⟨.breakdown, rfl⟩

theorem inTime_eq (t : Timing) : q.inTime t = decide (delay < q.deadline t) := by
  cases fails <;> rfl

theorem unanswered_eq (fails' : q'.Fails delay name told') : q'.unanswered = q.unanswered := by
  cases fails <;> cases fails' <;> rfl

theorem deadline_eq (fails' : q'.Fails delay name told') (t : Timing) :
    q'.deadline t = q.deadline t := by
  cases fails <;> cases fails' <;> rfl

end Query.Fails

theorem Reply.verdict_early {delay deadline : Nat} (early : delay < deadline)
    (answer : Answer α) : (Reply.after delay answer).verdict deadline = answer.verdict :=
  if_pos (decide_eq_true early)

namespace Handle
variable (h : Handle) (s : Store)

def setback (now : Nat) (told : List Note) : Option String → Effect
  | some name =>
    h.fallback s now name told [.counted h.log.mountpoint (.failures "secret")]
  | none =>
    ⟨.secrets s.secrets, none, told ++ [.servingListing s.size],
      [.counted h.log.mountpoint (.failures "secret_list"), h.listingCount false]⟩

theorem setback_told (now : Nat) (name : Option String) :
    ∃ result rest measurements, ∀ told,
      h.setback s now told name = ⟨result, none, told ++ rest, measurements⟩ := by
  cases name with
  | none => exact ⟨_, _, _, fun told => rfl⟩
  | some name =>
    cases kept : s.get? name with
    | none | some => exact ⟨_, _, _, fun told => by rw [setback, fallback, kept]⟩

theorem effect_of_fails {q : Query} {delay : Nat} {name : Option String} {told : List Note}
    (fails : q.Fails delay name told) (inTime : delay < q.deadline h.timing) (started : Nat) :
    h.effect s started (started + delay) (q.outcome h.timing) =
      h.setback s (started + delay) told name := by
  cases fails with
  | refused name | broken name =>
    have early : delay < h.timing.secretDeadline := inTime
    rw [Query.outcome, Reply.verdict_early early]
    rfl
  | foreign name secret other =>
    have early : delay < h.timing.secretDeadline := inTime
    rw [Query.outcome, Reply.verdict_early early]
    simp only [Answer.verdict, effect, lookupEffect, other, ↓reduceIte, waitNote,
      Nat.add_sub_cancel_left, setback]
  | refusedListing | brokenListing =>
    have early : delay < h.timing.listDeadline := inTime
    rw [Query.outcome, Reply.verdict_early early]
    rfl

end Handle

section Dues
variable {paired : Call → Call → Prop}

theorem Mishap.dues {op : Operation} {q q' : Query} {delay : Nat} {name : Option String}
    {told told' : List Note} (mishap : Mishap paired op q q' delay name told told') :
    List.Forall₂ (Due.Retold paired) (op.dues q) (op.dues q') := by
  obtain ⟨phase, ends⟩ := mishap.fails.completion
  obtain ⟨phase', ends'⟩ := mishap.fails'.completion
  have happening := Happening.Retold.failed mishap ends ends'
  have deadline := mishap.fails.deadline_eq mishap.fails' op.handle.timing
  have inTime := mishap.fails.inTime_eq op.handle.timing
  have inTime' := mishap.fails'.inTime_eq op.handle.timing
  rw [deadline] at inTime'
  unfold Operation.dues
  simp only [ends, ends', inTime, inTime', decide_eq_true_eq]
  split
  · rename_i early
    exact .cons (.answered mishap early happening) .nil
  · rename_i late
    have late := decide_eq_false late
    have outcome := (Query.late_of_unanswered (mishap.fails.unanswered_eq mishap.fails')
      (inTime'.trans late) (inTime.trans late)).1
    rw [deadline, outcome]
    exact .cons (.same _) (.cons (.ignored happening) .nil)

theorem Finished.Retold.shown {f f' : Finished} (retold : f.Retold paired f') :
    f'.operation = f.operation ∧ f'.effect.result = f.effect.result := by
  cases retold <;> exact ⟨rfl, rfl⟩

section Wider
variable {wider : Call → Call → Prop} (more : ∀ {c c'}, paired c c' → wider c c')
include more

theorem Happening.Retold.widened {x x' : Happening} (retold : x.Retold paired x') :
    x.Retold wider x' := by
  cases retold with
  | same => exact .same _
  | failed mishap ends ends' =>
    exact .failed { mishap with paired := more mishap.paired } ends ends'

theorem Finished.Retold.widened {f f' : Finished} (retold : f.Retold paired f') :
    f.Retold wider f' := by
  cases retold with
  | same => exact .same _
  | failed mishap time outcome notes =>
    exact .failed { mishap with paired := more mishap.paired } time outcome notes

end Wider
end Dues

namespace World

/-- What is the same in two worlds in which calls have failed in different ways. -/
structure SameToCallers (scripts : List (String × Backend)) (paired : Call → Call → Prop)
    (w v : World) : Prop where
  scripts : v.backends = scripts
  clock : v.clock = w.clock
  caches : v.caches = w.caches
  stores : v.stores = w.stores
  agenda : List.Forall₂ (Due.Retold paired) w.agenda v.agenda
  nextTicket : v.nextTicket = w.nextTicket
  background : v.background = w.background
  calls : v.calls.map Call.unanswered = w.calls.map Call.unanswered
  finished : List.Forall₂ (Finished.Retold paired) w.finished v.finished
  recorder : v.recorder = w.recorder
  events : Matched w.finished v.finished w.events v.events
  happenings : List.Forall₂ (Happening.Retold paired) w.happenings v.happenings

section Same
variable {scripts : List (String × Backend)} {paired : Call → Call → Prop} {w v : World}
  (same : SameToCallers scripts paired w v)
include same

theorem finish_retold (op : Operation) {outcome outcome' : Outcome} {result : Result}
    {write : Option Write} {notes notes' : List Note} {measurements : List Metrics.Measurement}
    (effect : op.handle.effect (w.store op.handle.store) op.started w.clock outcome =
      ⟨result, write, notes, measurements⟩)
    (effect' : op.handle.effect (w.store op.handle.store) op.started w.clock outcome' =
      ⟨result, write, notes', measurements⟩)
    (retold : Finished.Retold paired ⟨op, w.clock, outcome, ⟨result, write, notes, measurements⟩⟩
      ⟨op, w.clock, outcome', ⟨result, write, notes', measurements⟩⟩) :
    SameToCallers scripts paired (w.finish op outcome) (v.finish op outcome') := by
  have store : v.store op.handle.store = w.store op.handle.store := by
    rw [World.store, World.store, same.stores]
  unfold finish
  simp only [store, same.clock, effect, effect']
  refine { same with
    clock := rfl, stores := ?_, finished := ?_, recorder := ?_, events := ?_ }
  · simp only [same.stores]
  · exact List.rel_append same.finished (.cons retold .nil)
  · simp only [same.recorder]
  · exact same.events.ended _ _

theorem finish_same (op : Operation) (outcome : Outcome) :
    SameToCallers scripts paired (w.finish op outcome) (v.finish op outcome) :=
  finish_retold same op rfl rfl (.same _)

theorem finish_failed {op : Operation} {q q' : Query} {delay : Nat} {name : Option String}
    {told told' : List Note} (mishap : Mishap paired op q q' delay name told told')
    (inTime : delay < q.deadline op.handle.timing) (clock : w.clock = op.started + delay) :
    SameToCallers scripts paired (w.finish op (q.outcome op.handle.timing))
      (v.finish op (q'.outcome op.handle.timing)) := by
  have inTime' : delay < q'.deadline op.handle.timing :=
    (mishap.fails.deadline_eq mishap.fails' op.handle.timing).symm ▸ inTime
  have effect := op.handle.effect_of_fails (w.store op.handle.store) mishap.fails inTime op.started
  have effect' :=
    op.handle.effect_of_fails (w.store op.handle.store) mishap.fails' inTime' op.started
  obtain ⟨result, rest, measurements, setback⟩ :=
    op.handle.setback_told (w.store op.handle.store) (op.started + delay) name
  rw [setback, ← clock] at effect effect'
  exact finish_retold same op effect effect' (.failed mishap clock rfl rfl)

theorem ticked {x x' : Option Happening} (time : Nat)
    (happening : Option.Rel (Happening.Retold paired) x x') :
    SameToCallers scripts paired
      { w with clock := time, happenings := w.happenings ++ x.toList }
      { v with clock := time, happenings := v.happenings ++ x'.toList } := by
  refine { same with clock := rfl, happenings := List.rel_append same.happenings ?_ }
  cases happening with
  | none => exact .nil
  | some retold => exact .cons retold .nil

theorem fire_retold {d e : Due} (due : d.Retold paired e) :
    SameToCallers scripts paired (w.fire d) (v.fire e) := by
  cases due with
  | same d =>
    have own : Option.Rel (Happening.Retold paired) d.happening d.happening := by
      cases d.happening with
      | none => exact .none
      | some x => exact .some (.same x)
    have now := ticked same d.time own
    unfold fire
    cases d.ending with
    | none => exact now
    | some ending => exact finish_same now ending.1 ending.2
  | answered mishap inTime happening =>
    exact finish_failed (ticked same _ (.some happening)) mishap inTime rfl
  | ignored happening => exact ticked same _ (.some happening)

end Same

theorem retold_keptByTime (scripts : List (String × Backend)) (paired : Call → Call → Prop) :
    KeptByTime (SameToCallers scripts paired) (Due.Retold paired) where
  time due := by cases due <;> rfl
  ticket due := by cases due <;> rfl
  clock same := same.clock
  agenda same := same.agenda
  passed t same := { same with clock := rfl }
  rearranged same dues := { same with agenda := dues }
  fired same due := fire_retold same due

def Allowed (scripts : List (String × Backend)) (paired : Call → Call → Prop) (before : List Call)
    (c : Call) : Prop :=
  FailsAlike scripts before c ∧
    paired c ⟨c.operation, c.query.scripted scripts before c.operation.handle.backend⟩

section Begin
variable {scripts : List (String × Backend)} {paired : Call → Call → Prop} {w v : World}
  (same : SameToCallers scripts paired w v)
include same

theorem asked_same (id : String) (isFetch : Bool) :
    asked v.calls id isFetch = asked w.calls id isFetch := by
  rw [← asked_unanswered v.calls, same.calls, asked_unanswered]

theorem begin_same (h : Handle) (request : Request)
    (allowed : ∀ q, w.course (w.opening h request) = .asks q →
      Allowed scripts paired w.calls ⟨w.opening h request, q⟩) :
    SameToCallers scripts paired (w.begin h request) (v.begin h request) := by
  have opening : v.opening h request = w.opening h request := by
    rw [World.opening, World.opening, same.nextTicket, same.clock]
  have opened : SameToCallers scripts paired w.opened v.opened :=
    { same with nextTicket := congrArg (· + 1) same.nextTicket }
  rcases course_beside same.clock same.stores (asked_same same) (w.opening h request) with
    ⟨outcome, ends, ends'⟩ | ⟨q, asks, asks'⟩
  · rw [← opening] at ends'
    rw [begin_of_ends ends, begin_of_ends ends', opening]
    exact finish_same opened _ _
  · have other := q.unanswered_scripted scripts w.calls (w.opening h request).handle.backend
    obtain ⟨alike, together⟩ := allowed q asks
    have asked' : v.course (v.opening h request) =
        .asks (q.scripted scripts w.calls (w.opening h request).handle.backend) := by
      rw [opening, asks', same.scripts]
    rw [begin_of_asks asks, begin_of_asks asked', opening]
    simp only [FailsAlike] at alike together
    generalize q.scripted scripts w.calls (w.opening h request).handle.backend = q' at *
    have name : q'.name? = q.name? := by
      rw [← q'.unanswered_name?, other, q.unanswered_name?]
    have called : SameToCallers scripts paired (w.opened.call (w.opening h request) q)
        (v.opened.call (w.opening h request) q') := by
      refine { opened with calls := ?_, happenings := ?_ }
      · simp [call, opened.calls, other]
      · refine List.rel_append opened.happenings (.cons ?_ .nil)
        rw [name, opened.clock]
        exact .same _
    apply arranged_beside (retold_keptByTime scripts paired) called
    rcases alike with rfl | ⟨delay, asked, told, told', fails, fails'⟩
    · exact List.forall₂_same.mpr fun d _ => .same d
    · exact Mishap.dues ⟨together, fails, fails'⟩

end Begin

theorem result_same {scripts : List (String × Backend)} {paired : Call → Call → Prop} {w v : World}
    (same : SameToCallers scripts paired w v) (ticket : Nat) :
    v.resultOf ticket = w.resultOf ticket := by
  have found (all all' : List Finished) (retold : List.Forall₂ (Finished.Retold paired) all all') :
      (all'.find? fun f => f.operation.ticket == ticket).map (fun f => f.effect.result) =
        (all.find? fun f => f.operation.ticket == ticket).map fun f => f.effect.result := by
    induction retold with
    | nil => rfl
    | cons first rest ih =>
      obtain ⟨operation, result⟩ := first.shown
      simp only [List.find?_cons, operation]
      split
      · exact congrArg some result
      · exact ih
  rw [resultOf, resultOf, result?, result?, found _ _ same.finished]

theorem retold_keptBySteps (scripts : List (String × Backend)) (paired : Call → Call → Prop) :
    KeptBySteps (SameToCallers scripts paired) Eq Eq Eq Eq (Allowed scripts paired) where
  ticket same := same.nextTicket
  background same := same.background
  caches {w v} id same := by
    rw [same.caches]
    cases w.caches.lookup id with
    | none => exact .none
    | some h => exact .some rfl
  created := by
    rintro w v log _ id backend timing same rfl
    refine { same with caches := ?_, stores := ?_, recorder := ?_, events := ?_ }
    · simp only [create, same.stores, same.caches]
    · simp only [create, same.stores]
    · simp only [create, same.recorder]
    · simp only [create, same.stores, same.clock]
      exact same.events.between _ rfl
  cloned := by
    rintro w v h _ id same rfl
    exact { same with caches := congrArg (assign id h) same.caches }
  tracked name ticket same :=
    { same with background := congrArg (assign name ticket) same.background }
  begun := by
    rintro w v h _ request _ same rfl rfl allowed
    exact begin_same same h request allowed
  nothing := rfl
  result ticket same := (result_same same ticket).symm
  samples same := by
    rw [same.recorder]

theorem report_same {scripts : List (String × Backend)} {paired : Call → Call → Prop}
    {w w' v v' : World} {r r' : Result} (after : SameToCallers scripts paired w' v')
    (result : r = r') : (w.report w' r).toCallers = (v.report v' r').toCallers := by
  have sizes : v'.sizes = w'.sizes := by
    simp only [World.sizes, World.store, after.caches, after.stores]
  simp only [Report.toCallers, report, sizes, after.clock, result]

/-- In runs in which calls fail in different ways after the same delays, callers see the same: the
same results at the same times, the same secrets kept with the same times of observation, and the
same measurements. The logs have the same events at the same places, but for those of an operation
whose own call fails in two ways: each of these tells of its failure, by its own events, when the
reply comes. Of what backends go through, only how those calls are completed differs. -/
theorem failures_look_alike {backends backends' : List (String × Backend)} {steps : List Step}
    (alike : Stepwise (FailsAlike backends') (after backends steps).calls) :
    let w := after backends steps
    let w' := after backends' steps
    let shown := fun scripts => ((start scripts).run steps).2.map Report.toCallers
    let paired := fun c c' => c ∈ w.calls ∧ c' ∈ w'.calls
    shown backends' = shown backends ∧ w'.stores = w.stores ∧ w'.recorder = w.recorder ∧
      w'.calls.map Call.unanswered = w.calls.map Call.unanswered ∧
      List.Forall₂ (Finished.Retold paired) w.finished w'.finished ∧
      Matched w.finished w'.finished w.events w'.events ∧
      List.Forall₂ (Happening.Retold paired) w.happenings w'.happenings := by
  intro w w' shown paired
  -- The simulation pairs calls by their places, before it is known that the other run has them.
  let placed : Call → Call → Prop := fun c c' => ∃ before rest, w.calls = before ++ c :: rest ∧
    c' = ⟨c.operation, c.query.scripted backends' before c.operation.handle.backend⟩
  have started : SameToCallers backends' placed (start backends) (start backends') :=
    ⟨rfl, rfl, rfl, rfl, .nil, rfl, rfl, rfl, .nil, rfl, .start, .nil⟩
  have beside : List.Forall₂ (Step.Beside Eq Eq) steps steps := by
    refine List.forall₂_same.mpr fun s _ => ?_
    cases s <;> constructor <;> rfl
  have allowed : Stepwise (Allowed backends' placed) w.calls := by
    intro before c rest split
    exact ⟨alike before c rest split, before, rest, split, rfl⟩
  obtain ⟨last, reports⟩ := run_beside (retold_keptByTime backends' placed)
    (retold_keptBySteps backends' placed) (fun r r' => r.toCallers = r'.toCallers)
    (fun _ after _ _ result => report_same after result)
    started .refl .refl (start_settled backends) (start_settled backends') beside allowed
  have found {c c' : Call} (place : placed c c') : paired c c' := by
    obtain ⟨before, rest, split, rfl⟩ := place
    refine ⟨?_, scripted_place last.calls.symm (moment_scripted (after_moment _ _)) split⟩
    rw [split]
    exact List.mem_append_right _ List.mem_cons_self
  exact ⟨(forall₂_eq_iff.mp reports).symm, last.stores, last.recorder, last.calls,
    last.finished.imp fun _ _ retold => retold.widened found, last.events,
    last.happenings.imp fun _ _ retold => retold.widened found⟩

/-- A lookup of a secret that is kept for long, and a listing beside it. -/
theorem failures_look_alike_to_overlapping_operations :
    let secret := Secret.create "a" .empty .epoch
    let scripts := fun fetch list => [("b", { Backend.blank with
      fetches := [.after (milliseconds 3) fetch], listings := [.after (milliseconds 5) list] })]
    let backends := scripts (.value (Secret.create "z" .empty .epoch)) .nothing
    let backends' := scripts .breakdown .breakdown
    let timing : Timing := .ofMillis 10 10 20
    let steps := [.create "c" "b" timing .default, .run "c" (.add secret),
      .sleep (milliseconds 20), .start "l" "c" .listing, .run "c" (.lookup "a"), .join "l",
      .metrics]
    let w := after backends steps
    let w' := after backends' steps
    Stepwise (FailsAlike backends') w.calls ∧ w'.stores = w.stores ∧ w'.recorder = w.recorder ∧
      Matched w.finished w'.finished w.events w'.events ∧
      w.events.length = 7 ∧ w'.events.length = 6 := by
  intro secret scripts backends backends' timing steps w w'
  have asked : w.calls =
      [⟨⟨1, ⟨0, "b", timing, .default⟩, .listing, milliseconds 20⟩,
          .list (.after (milliseconds 5) .nothing)⟩,
        ⟨⟨2, ⟨0, "b", timing, .default⟩, .lookup "a", milliseconds 20⟩,
          .fetch "a" (.after (milliseconds 3) (.value (Secret.create "z" .empty .epoch)))⟩] := by
    decide +kernel
  have alike : Stepwise (FailsAlike backends') w.calls := by
    rw [asked, ← List.singleton_append]
    refine stepwise_concat (stepwise_concat (stepwise_nil _) ?_) ?_
    · exact Or.inr ⟨_, _, _, _, .refusedListing, .brokenListing⟩
    · exact Or.inr ⟨_, _, _, _, .foreign "a" _ (by decide), .broken "a"⟩
  obtain ⟨_, stores, recorder, _, _, matched, _⟩ := failures_look_alike alike
  exact ⟨alike, stores, recorder, matched, by decide +kernel, by decide +kernel⟩

/-- The log tells a refusal, a breakdown and a foreign secret apart by the number of events and by
their levels, so that with warnings only some of them are told at all. -/
theorem failures_are_logged_apart :
    let foreign := Answer.value (Secret.create "z" .empty .epoch)
    let scripts := fun fetch =>
      [("b", { Backend.blank with fetches := [.after (milliseconds 3) fetch] })]
    let timing : Timing := .ofMillis 0 10 20
    let w := fun fetch => after (scripts fetch)
      [.create "c" "b" timing .default, .run "c" (.lookup "x")]
    let lines := fun fetch =>
      written .epoch (some "warn") [⟨true, "/m", false⟩] (w fetch).events
    Stepwise (FailsAlike (scripts .breakdown)) (w .nothing).calls ∧
      Stepwise (FailsAlike (scripts foreign)) (w .nothing).calls ∧
      (w .nothing).events.map Event.level = [.debug, .debug, .debug] ∧
      (w .breakdown).events.map Event.level = [.debug, .warn, .debug] ∧
      (w foreign).events.map Event.level = [.debug, .debug, .warn, .debug] ∧
      lines .nothing = [] ∧
      lines foreign = ["1970-01-01T00:00:00.003000Z  WARN secretfs::secrets::cache: " ++
        "Backend answered with a different secret, ignoring returned=z"] := by
  intro foreign scripts timing w lines
  have asked : (w .nothing).calls = [⟨⟨0, ⟨0, "b", timing, .default⟩, .lookup "x", 0⟩,
      .fetch "x" (.after (milliseconds 3) .nothing)⟩] := by decide +kernel
  have refused : (Query.fetch "x" (.after (milliseconds 3) .nothing)).Fails (milliseconds 3)
      (some "x") [.unusable "secret"] := .refused "x"
  refine ⟨?_, ?_, by decide +kernel, by decide +kernel, by decide +kernel, by decide +kernel,
    by decide +kernel⟩
  · rw [asked]
    exact stepwise_concat (stepwise_nil _) (Or.inr ⟨_, _, _, _, refused, .broken "x"⟩)
  · rw [asked]
    exact stepwise_concat (stepwise_nil _)
      (Or.inr ⟨_, _, _, _, refused, .foreign "x" _ (by decide)⟩)

end World
end SecretKeeper.Cache

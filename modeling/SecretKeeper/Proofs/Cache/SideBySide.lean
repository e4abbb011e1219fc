import Mathlib.Data.List.Forall2
import SecretKeeper.Proofs.Cache.Happenings

/-!
Two runs side by side. A relation between two worlds that is kept when the same happens in both of
them is kept by all steps of two scripts that correspond, and so are the reports of these steps.
-/
namespace SecretKeeper.Cache

inductive Step.Beside (logs : LogSettings → LogSettings → Prop)
    (requests : Request → Request → Prop) : Step → Step → Prop where
  | create (id backend : String) (timing : Timing) {log log' : LogSettings}
      (settings : logs log log') :
      Beside logs requests (.create id backend timing log) (.create id backend timing log')
  | clone (id source : String) : Beside logs requests (.clone id source) (.clone id source)
  | run (id : String) {request request' : Request} (asked : requests request request') :
      Beside logs requests (.run id request) (.run id request')
  | start (name id : String) {request request' : Request} (asked : requests request request') :
      Beside logs requests (.start name id request) (.start name id request')
  | join (name : String) : Beside logs requests (.join name) (.join name)
  | sleep (nanos : Nat) : Beside logs requests (.sleep nanos) (.sleep nanos)
  | jump (nanos : Nat) : Beside logs requests (.jump nanos) (.jump nanos)
  | metrics : Beside logs requests .metrics .metrics

/-! Calls apart from the replies to them. -/

def Query.unanswered : Query → Query
  | .fetch name _ => .fetch name .never
  | .list _ => .list .never

def Call.unanswered (c : Call) : Call := ⟨c.operation, c.query.unanswered⟩

@[simp] theorem Query.unanswered_unanswered (q : Query) :
    q.unanswered.unanswered = q.unanswered := by
  cases q <;> rfl

@[simp] theorem Query.unanswered_name? (q : Query) : q.unanswered.name? = q.name? := by
  cases q <;> rfl

@[simp] theorem Call.unanswered_unanswered (c : Call) :
    c.unanswered.unanswered = c.unanswered := by
  simp [Call.unanswered]

@[simp] theorem Call.unanswered_mk (op : Operation) (q : Query) :
    Call.unanswered ⟨op, q⟩ = ⟨op, q.unanswered⟩ := rfl

theorem asked_unanswered (calls : List Call) (id : String) (isFetch : Bool) :
    asked (calls.map Call.unanswered) id isFetch = asked calls id isFetch := by
  rw [asked, List.countP_map]
  apply List.countP_congr
  rintro ⟨op, q⟩ _
  cases q <;> exact Iff.rfl

theorem scripted_of_unanswered {calls calls' : List Call} {q q' : Query}
    (before : calls.map Call.unanswered = calls'.map Call.unanswered)
    (same : q.unanswered = q'.unanswered) (backends : List (String × Backend)) (id : String) :
    q.scripted backends calls id = q'.scripted backends calls' id := by
  have counts : ∀ isFetch, asked calls id isFetch = asked calls' id isFetch := by
    intro isFetch
    rw [← asked_unanswered calls, before, asked_unanswered]
  cases q <;> cases q' <;> cases same <;> simp only [Query.scripted, counts]

namespace Query

theorem unanswered_scripted (q : Query) (backends : List (String × Backend))
    (before : List Call) (id : String) :
    (q.scripted backends before id).unanswered = q.unanswered := by
  cases q <;> rfl

theorem late_of_unanswered {q q' : Query} {t : Timing} (same : q.unanswered = q'.unanswered)
    (late : q.inTime t = false) (late' : q'.inTime t = false) :
    q.outcome t = q'.outcome t ∧ q.deadline t = q'.deadline t := by
  have verdict {α : Type} {reply : Reply α} {deadline : Nat}
      (late : reply.inTime deadline = false) : reply.verdict deadline = .late := by
    cases reply with
    | never => rfl
    | after delay answer => simp [Reply.verdict, late]
  cases q <;> cases q' <;> cases same
  all_goals
    refine ⟨?_, rfl⟩
    simp only [outcome, verdict late, verdict late']

end Query

theorem forall₂_eq_iff {f : α → γ} {g : β → γ} {l : List α} {l' : List β} :
    List.Forall₂ (fun a b => f a = g b) l l' ↔ l.map f = l'.map g := by
  rw [← List.forall₂_eq_eq_eq, List.forall₂_map_left_iff, List.forall₂_map_right_iff]

namespace World

theorem scripted_place {backends : List (String × Backend)} {calls calls' before after : List Call}
    {c : Call} (same : calls.map Call.unanswered = calls'.map Call.unanswered)
    (scripted : Stepwise (Scripted backends) calls') (split : calls = before ++ c :: after) :
    ⟨c.operation, c.query.scripted backends before c.operation.handle.backend⟩ ∈ calls' := by
  rw [split, List.map_append, List.map_cons] at same
  obtain ⟨before', rest, split', earlier, others⟩ := List.map_eq_append_iff.mp same.symm
  obtain ⟨c', after', rfl, here, _⟩ := List.map_eq_cons_iff.mp others
  obtain ⟨operation, question⟩ := Call.mk.inj here
  have reply := scripted before' c' after' split'
  rw [Scripted, operation, scripted_of_unanswered earlier question] at reply
  rw [← reply, ← operation, split']
  exact List.mem_append_right _ List.mem_cons_self

theorem course_beside {w v : World} (clock : v.clock = w.clock) (stores : v.stores = w.stores)
    (counts : ∀ id isFetch, asked v.calls id isFetch = asked w.calls id isFetch) (op : Operation) :
    (∃ outcome, w.course op = .ends outcome ∧ v.course op = .ends outcome) ∨
      ∃ q, w.course op = .asks q ∧
        v.course op = .asks (q.scripted v.backends w.calls op.handle.backend) := by
  have store (i : Nat) : v.store i = w.store i := by
    rw [World.store, World.store, stores]
  unfold World.course
  rw [store, clock]
  cases op.request with
  | lookup name =>
    dsimp only
    cases fresh : (w.store op.handle.store).fresh? op.handle.timing.freshThreshold w.clock name with
    | some secret => exact Or.inl ⟨_, rfl, rfl⟩
    | none =>
      refine Or.inr ⟨_, rfl, ?_⟩
      simp only [Query.scripted, counts]
  | listing =>
    refine Or.inr ⟨_, rfl, ?_⟩
    simp only [Query.scripted, counts]
  | add | clear | size | isEmpty | info => exact Or.inl ⟨_, rfl, rfl⟩

/-- A relation of worlds, with one of what is due in them, that is kept while time passes: the same
operations end at the same instants, and what happens then keeps the worlds related. -/
structure KeptByTime (worlds : World → World → Prop) (dues : Due → Due → Prop) : Prop where
  time : ∀ {d e}, dues d e → e.time = d.time
  ticket : ∀ {d e}, dues d e →
    (e.ending.map fun x => x.1.ticket) = d.ending.map fun x => x.1.ticket
  clock : ∀ {w v}, worlds w v → v.clock = w.clock
  agenda : ∀ {w v}, worlds w v → List.Forall₂ dues w.agenda v.agenda
  passed : ∀ {w v} (t : Nat), worlds w v → worlds { w with clock := t } { v with clock := t }
  rearranged : ∀ {w v ds es}, worlds w v → List.Forall₂ dues ds es →
    worlds { w with agenda := ds } { v with agenda := es }
  fired : ∀ {w v d e}, worlds w v → dues d e → worlds (w.fire d) (v.fire e)

/-- A relation of worlds that is kept by what steps do besides letting time pass. An operation that
asks its backend keeps it if its call is one of those that are allowed for. -/
structure KeptBySteps (worlds : World → World → Prop) (handles : Handle → Handle → Prop)
    (logs : LogSettings → LogSettings → Prop) (requests : Request → Request → Prop)
    (results : Result → Result → Prop) (allowed : List Call → Call → Prop) : Prop where
  ticket : ∀ {w v}, worlds w v → v.nextTicket = w.nextTicket
  background : ∀ {w v}, worlds w v → v.background = w.background
  caches : ∀ {w v} (id : String), worlds w v →
    Option.Rel handles (w.caches.lookup id) (v.caches.lookup id)
  created : ∀ {w v log log'} (id backend : String) (timing : Timing), worlds w v → logs log log' →
    worlds (w.create id backend timing log) (v.create id backend timing log')
  cloned : ∀ {w v h h'} (id : String), worlds w v → handles h h' →
    worlds { w with caches := assign id h w.caches } { v with caches := assign id h' v.caches }
  tracked : ∀ {w v} (name : String) (ticket : Nat), worlds w v →
    worlds { w with background := assign name ticket w.background }
      { v with background := assign name ticket v.background }
  begun : ∀ {w v h h' request request'}, worlds w v → handles h h' → requests request request' →
    (∀ q, w.course (w.opening h request) = .asks q → allowed w.calls ⟨w.opening h request, q⟩) →
    worlds (w.begin h request) (v.begin h' request')
  nothing : results .nothing .nothing
  result : ∀ {w v} (ticket : Nat), worlds w v → results (w.resultOf ticket) (v.resultOf ticket)
  samples : ∀ {w v}, worlds w v →
    results (.samples w.recorder.snapshot) (.samples v.recorder.snapshot)

section Time
variable {worlds : World → World → Prop} {dues : Due → Due → Prop} (kept : KeptByTime worlds dues)
  {w v : World}
include kept

theorem schedule_beside {d e : Due} (due : dues d e) {ds es : List Due}
    (others : List.Forall₂ dues ds es) : List.Forall₂ dues (schedule d ds) (schedule e es) := by
  induction others with
  | nil => exact .cons due .nil
  | cons first rest ih =>
    unfold schedule
    rw [kept.time due, kept.time first]
    split
    · exact .cons first ih
    · exact .cons due (.cons first rest)

theorem fireUntil_beside (t : Nat) {ds es : List Due} (falling : List.Forall₂ dues ds es)
    (related : worlds w v) : worlds (fireUntil t ds w) (fireUntil t es v) := by
  induction falling generalizing w v with
  | nil => exact kept.rearranged related .nil
  | cons first rest ih =>
    unfold fireUntil
    rw [kept.time first]
    split
    · exact ih (kept.fired (kept.rearranged related rest) first)
    · exact kept.rearranged related (.cons first rest)

theorem advanceTo_beside (t : Nat) (related : worlds w v) :
    worlds (w.advanceTo t) (v.advanceTo t) := by
  unfold advanceTo
  rw [kept.clock related]
  exact kept.passed _ (fireUntil_beside kept t (kept.agenda related) related)

theorem dueTime_beside (ticket : Nat) (related : worlds w v) :
    v.dueTime? ticket = w.dueTime? ticket := by
  have ends (d : Due) : d.ending.any (fun e => e.1.ticket == ticket) =
      (d.ending.map fun e => e.1.ticket).any (· == ticket) := by
    cases d.ending <;> rfl
  have agenda := kept.agenda related
  simp only [dueTime?, ends]
  generalize w.agenda = ds, v.agenda = es at agenda
  induction agenda with
  | nil => rfl
  | cons first rest ih =>
    simp only [List.find?_cons, kept.ticket first]
    split
    · exact congrArg some (kept.time first)
    · exact ih

theorem await_beside (ticket : Nat) (related : worlds w v) :
    worlds (w.await ticket) (v.await ticket) := by
  unfold await
  rw [dueTime_beside kept ticket related]
  split
  · exact advanceTo_beside kept _ related
  · exact related

theorem arrange_beside {d e : Due} (related : worlds w v) (due : dues d e) :
    worlds (w.arrange d) (v.arrange e) := by
  have same : e.time = v.clock ↔ d.time = w.clock := by
    rw [kept.time due, kept.clock related]
  unfold arrange
  by_cases now : d.time = w.clock
  · rw [if_pos now, if_pos (same.mpr now)]
    exact kept.fired related due
  · rw [if_neg now, if_neg (same.not.mpr now)]
    exact kept.rearranged related (schedule_beside kept due (kept.agenda related))

theorem arranged_beside {ds es : List Due} (related : worlds w v)
    (arranging : List.Forall₂ dues ds es) :
    worlds (ds.foldl arrange w) (es.foldl arrange v) := by
  induction arranging generalizing w v with
  | nil => exact related
  | cons first rest ih => exact ih (arrange_beside kept related first)

end Time

section Steps
variable {worlds : World → World → Prop} {dues : Due → Due → Prop}
  {handles : Handle → Handle → Prop} {logs : LogSettings → LogSettings → Prop}
  {requests : Request → Request → Prop} {results : Result → Result → Prop}
  {allowed : List Call → Call → Prop} (time : KeptByTime worlds dues)
  (steps : KeptBySteps worlds handles logs requests results allowed) {w v : World}
include time steps

theorem step_beside {s s' : Step} (related : worlds w v) (beside : s.Beside logs requests s')
    (each : Stepwise allowed (w.step s).1.calls) :
    worlds (w.step s).1 (v.step s').1 ∧ results (w.step s).2 (v.step s').2 := by
  have begun {h h' : Handle} {request request' : Request} (same : handles h h')
      (asked : requests request request') (begins : w.begins? s = some (h, request)) :
      worlds (w.begin h request) (v.begin h' request') := by
    apply steps.begun related same asked
    intro q asks
    have calls : (w.step s).1.calls = (w.begin h request).calls := by
      rw [step_calls, begins]
    rw [calls, begin_calls_of_asks asks] at each
    exact each _ _ [] rfl
  have known (id : String) : w.caches.lookup id = none ∧ v.caches.lookup id = none ∨
      ∃ h h', w.caches.lookup id = some h ∧ v.caches.lookup id = some h' ∧ handles h h' := by
    have found := steps.caches id related
    generalize w.caches.lookup id = here, v.caches.lookup id = there at found
    cases found with
    | none => exact Or.inl ⟨rfl, rfl⟩
    | some same => exact Or.inr ⟨_, _, rfl, rfl, same⟩
  cases beside with
  | create id backend timing settings =>
    exact ⟨steps.created id backend timing related settings, steps.nothing⟩
  | clone id source =>
    rcases known source with ⟨none, none'⟩ | ⟨h, h', found, found', same⟩
    · simp only [step, none, none']
      exact ⟨related, steps.nothing⟩
    · simp only [step, found, found']
      exact ⟨steps.cloned id related same, steps.nothing⟩
  | run id asked =>
    rcases known id with ⟨none, none'⟩ | ⟨h, h', found, found', same⟩
    · simp only [step, none, none']
      exact ⟨related, steps.nothing⟩
    · have started := begun same asked (by simp only [begins?, found, Option.map_some])
      have awaited := await_beside time w.nextTicket started
      simp only [step, found, found', steps.ticket related]
      exact ⟨awaited, steps.result _ awaited⟩
  | start name id asked =>
    rcases known id with ⟨none, none'⟩ | ⟨h, h', found, found', same⟩
    · simp only [step, none, none']
      exact ⟨related, steps.nothing⟩
    · have started := begun same asked (by simp only [begins?, found, Option.map_some])
      simp only [step, found, found', steps.ticket related]
      exact ⟨steps.tracked name _ started, steps.nothing⟩
  | join name =>
    simp only [step, steps.background related]
    split
    · rename_i ticket tracked
      have awaited := await_beside time ticket related
      exact ⟨awaited, steps.result _ awaited⟩
    · exact ⟨related, steps.nothing⟩
  | sleep nanos | jump nanos =>
    simp only [step, time.clock related]
    exact ⟨advanceTo_beside time _ related, steps.nothing⟩
  | metrics => exact ⟨related, steps.samples related⟩

/-- Two runs that correspond stay related, and so are their reports, if reports can be told from
the worlds before and after a step. -/
theorem run_beside {backends backends' : List (String × Backend)}
    (reports : Report → Report → Prop)
    (reported : ∀ {w w' v v' r r'}, worlds w v → worlds w' v' → Later w w' → Later v v' →
      results r r' → reports (w.report w' r) (v.report v' r'))
    (related : worlds w v) (moment : Moment backends w) (moment' : Moment backends' v)
    (settled : Settled w) (settled' : Settled v) {script script' : List Step}
    (beside : List.Forall₂ (Step.Beside logs requests) script script')
    (each : Stepwise allowed (w.run script).1.calls) :
    worlds (w.run script).1 (v.run script').1 ∧
      List.Forall₂ reports (w.run script).2 (v.run script').2 := by
  induction beside generalizing w v with
  | nil => exact ⟨related, .nil⟩
  | @cons s s' rest rest' first more ih =>
    obtain ⟨later, still⟩ := step_later (moment_timely moment) settled s
    obtain ⟨later', still'⟩ := step_later (moment_timely moment') settled' s'
    have front : (w.step s).1.calls <+: (w.run (s :: rest)).1.calls :=
      (later_grown (run_later (moment_timely (moment.trans later)) still rest).1).calls
    obtain ⟨stepped, shown⟩ := step_beside time steps related first (stepwise_front front each)
    obtain ⟨last, others⟩ :=
      ih stepped (moment.trans later) (moment'.trans later') still still' each
    exact ⟨last, .cons (reported related stepped later later' shown) others⟩

end Steps

end World
end SecretKeeper.Cache

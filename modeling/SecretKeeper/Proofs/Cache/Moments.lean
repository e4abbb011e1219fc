import Mathlib.Logic.Relation
import SecretKeeper.Cache.Step

/-!
Moments of a run. Between two steps of a script operations end one after the other while time
passes. A move is the least change that can be seen, and every step is a sequence of moves; what
each move keeps therefore holds at every moment of every run. The agenda is always in the order of
time and never behind the clock; between two steps nothing on it is due.
-/
namespace SecretKeeper.Cache

open Relation

def Finished.events (f : Finished) : List Log.Event :=
  f.effect.notes.map fun n => n.event f.time (f.operation.handle.span? f.outcome)

theorem mem_schedule {d e : Due} {agenda : List Due} :
    e ∈ schedule d agenda ↔ e = d ∨ e ∈ agenda := by
  induction agenda with
  | nil => simp [schedule]
  | cons first rest ih =>
    unfold schedule
    split
    · simp only [List.mem_cons, ih]
      exact or_left_comm
    · simp

theorem schedule_perm (d : Due) (agenda : List Due) : (schedule d agenda).Perm (d :: agenda) := by
  induction agenda with
  | nil => exact .refl _
  | cons first rest ih =>
    unfold schedule
    split
    · exact (ih.cons first).trans (.swap d first rest)
    · exact .refl _

theorem schedule_ordered {d : Due} {agenda : List Due}
    (ordered : agenda.Pairwise fun a b => a.time ≤ b.time) :
    (schedule d agenda).Pairwise fun a b => a.time ≤ b.time := by
  induction agenda with
  | nil => simp [schedule]
  | cons first rest ih =>
    obtain ⟨least, tail⟩ := List.pairwise_cons.mp ordered
    unfold schedule
    split
    · rename_i before
      refine List.pairwise_cons.mpr ⟨?_, ih tail⟩
      intro e member
      rcases mem_schedule.mp member with same | old
      · rw [same]
        exact before
      · exact least e old
    · refine List.pairwise_cons.mpr ⟨?_, ordered⟩
      intro e member
      rcases List.mem_cons.mp member with same | old
      · rw [same]
        omega
      · have := least e old
        omega

namespace Operation

def completed (op : Operation) (q : Query) (delay : Nat) (phase : Phase) : Happening :=
  ⟨op.handle.backend, phase, op.started + delay, q.name?⟩

theorem dues_cases (op : Operation) (q : Query) :
    let ending := some (op, q.outcome op.handle.timing)
    let deadline := op.started + q.deadline op.handle.timing
    (q.completion? = none ∧ op.dues q = [⟨deadline, none, ending⟩]) ∨
    ∃ delay phase, q.completion? = some (delay, phase) ∧
      ((q.inTime op.handle.timing = true ∧
        op.dues q = [⟨op.started + delay, some (op.completed q delay phase), ending⟩]) ∨
      (q.inTime op.handle.timing = false ∧
        op.dues q = [⟨deadline, none, ending⟩,
          ⟨op.started + delay, some (op.completed q delay phase), none⟩])) := by
  intro ending deadline
  unfold dues
  cases completion : q.completion? with
  | none => exact Or.inl ⟨rfl, rfl⟩
  | some pair =>
    obtain ⟨delay, phase⟩ := pair
    refine Or.inr ⟨delay, phase, rfl, ?_⟩
    cases inTime : q.inTime op.handle.timing with
    | true => exact Or.inl ⟨rfl, rfl⟩
    | false => exact Or.inr ⟨rfl, rfl⟩

theorem dues_not_before {op : Operation} {q : Query} {d : Due} (member : d ∈ op.dues q) :
    op.started ≤ d.time := by
  rcases op.dues_cases q with ⟨_, dues⟩ | ⟨delay, phase, _, ⟨_, dues⟩ | ⟨_, dues⟩⟩ <;>
    rw [dues] at member
  · obtain rfl := List.mem_singleton.mp member
    exact Nat.le_add_right _ _
  · obtain rfl := List.mem_singleton.mp member
    exact Nat.le_add_right _ _
  · rcases List.mem_cons.mp member with rfl | late
    · exact Nat.le_add_right _ _
    · obtain rfl := List.mem_singleton.mp late
      exact Nat.le_add_right _ _

end Operation

namespace World

/-! What single operations leave as it is. -/

section Frames
variable (w : World) (d : Due)

@[simp] theorem fire_clock : (w.fire d).clock = d.time := by
  unfold fire
  split <;> rfl

@[simp] theorem fire_caches : (w.fire d).caches = w.caches := by
  unfold fire
  split <;> rfl

@[simp] theorem fire_agenda : (w.fire d).agenda = w.agenda := by
  unfold fire
  split <;> rfl

@[simp] theorem fire_nextTicket : (w.fire d).nextTicket = w.nextTicket := by
  unfold fire
  split <;> rfl

@[simp] theorem fire_background : (w.fire d).background = w.background := by
  unfold fire
  split <;> rfl

@[simp] theorem fire_backends : (w.fire d).backends = w.backends := by
  unfold fire
  split <;> rfl

@[simp] theorem fire_calls : (w.fire d).calls = w.calls := by
  unfold fire
  split <;> rfl

@[simp] theorem fire_happenings :
    (w.fire d).happenings = w.happenings ++ d.happening.toList := by
  unfold fire
  split <;> rfl

@[simp] theorem arrange_clock : (w.arrange d).clock = w.clock := by
  unfold arrange
  split
  · rename_i now
    rw [fire_clock, now]
  · rfl

@[simp] theorem arrange_caches : (w.arrange d).caches = w.caches := by
  unfold arrange
  split <;> simp

@[simp] theorem arrange_nextTicket : (w.arrange d).nextTicket = w.nextTicket := by
  unfold arrange
  split <;> simp

@[simp] theorem arrange_background : (w.arrange d).background = w.background := by
  unfold arrange
  split <;> simp

@[simp] theorem arrange_backends : (w.arrange d).backends = w.backends := by
  unfold arrange
  split <;> simp

@[simp] theorem arrange_calls : (w.arrange d).calls = w.calls := by
  unfold arrange
  split <;> simp

end Frames

/-- The least change that can be seen. -/
inductive Move : World → World → Prop where
  | create (w : World) (id backend : String) (timing : Timing) (log : LogSettings) :
      Move w (w.create id backend timing log)
  | clone (w : World) (id source : String) (h : Handle)
      (known : w.caches.lookup source = some h) :
      Move w { w with caches := assign id h w.caches }
  | begin (w : World) (id : String) (h : Handle) (request : Request)
      (known : w.caches.lookup id = some h) : Move w (w.begin h request)
  | track (w : World) (name : String) (ticket : Nat) (given : ticket < w.nextTicket) :
      Move w { w with background := assign name ticket w.background }
  | fire (w : World) (d : Due) (rest : List Due) (next : w.agenda = d :: rest) :
      Move w ({ w with agenda := rest }.fire d)
  | pass (w : World) (t : Nat) (forward : w.clock ≤ t) (quiet : ∀ d ∈ w.agenda, t < d.time) :
      Move w { w with clock := t }

def Later : World → World → Prop := ReflTransGen Move

/-- A world as it can be at some moment, with backends that follow their scripts. -/
def Moment (backends : List (String × Backend)) (w : World) : Prop := Later (start backends) w

def after (backends : List (String × Backend)) (steps : List Step) : World :=
  ((start backends).run steps).1

structure Timely (w : World) : Prop where
  ordered : w.agenda.Pairwise fun a b => a.time ≤ b.time
  ahead : ∀ d ∈ w.agenda, w.clock ≤ d.time

def Settled (w : World) : Prop := ∀ d ∈ w.agenda, w.clock < d.time

theorem timely_of_same {w v : World} (timely : Timely w) (agenda : v.agenda = w.agenda)
    (clock : v.clock = w.clock) : Timely v :=
  ⟨agenda ▸ timely.ordered, fun d member => clock ▸ timely.ahead d (agenda ▸ member)⟩

theorem arrange_timely {w : World} {d : Due} (timely : Timely w) (notBefore : w.clock ≤ d.time) :
    Timely (w.arrange d) := by
  unfold arrange
  split
  · rename_i now
    exact timely_of_same timely (fire_agenda w d) (by rw [fire_clock, now])
  · refine ⟨schedule_ordered timely.ordered, ?_⟩
    intro e member
    rcases mem_schedule.mp member with rfl | old
    · exact notBefore
    · exact timely.ahead e old

theorem arrange_settled {w : World} {d : Due} (settled : Settled w) (notBefore : w.clock ≤ d.time) :
    Settled (w.arrange d) := by
  unfold arrange
  split
  · rename_i now
    intro e member
    rw [fire_agenda] at member
    rw [fire_clock, now]
    exact settled e member
  · rename_i later
    intro e member
    rcases mem_schedule.mp member with rfl | old
    · exact Nat.lt_of_le_of_ne notBefore (Ne.symm later)
    · exact settled e old

theorem arranged {P : World → Prop} (w : World) {dues : List Due} (start : P w)
    (kept : ∀ v, ∀ d ∈ dues, P v → P (v.arrange d)) : P (dues.foldl arrange w) := by
  induction dues generalizing w with
  | nil => exact start
  | cons d rest ih =>
    exact ih _ (kept w d List.mem_cons_self start) fun v e member =>
      kept v e (List.mem_cons_of_mem d member)

def opening (w : World) (h : Handle) (request : Request) : Operation :=
  ⟨w.nextTicket, h, request, w.clock⟩

def opened (w : World) : World := { w with nextTicket := w.nextTicket + 1 }

theorem begin_of_ends {w : World} {h : Handle} {request : Request} {outcome : Outcome}
    (course : w.course (w.opening h request) = .ends outcome) :
    w.begin h request = w.opened.finish (w.opening h request) outcome := by
  simp only [opening] at course
  simp only [begin, course]
  rfl

theorem begin_of_asks {w : World} {h : Handle} {request : Request} {q : Query}
    (course : w.course (w.opening h request) = .asks q) :
    w.begin h request = ((w.opening h request).dues q).foldl arrange
      (w.opened.call (w.opening h request) q) := by
  simp only [opening] at course
  simp only [begin, course]
  rfl

theorem begin_cases (w : World) (h : Handle) (request : Request) :
    (∃ outcome, w.course (w.opening h request) = .ends outcome ∧
      w.begin h request = w.opened.finish (w.opening h request) outcome) ∨
    ∃ q, w.course (w.opening h request) = .asks q ∧
      w.begin h request = ((w.opening h request).dues q).foldl arrange
        (w.opened.call (w.opening h request) q) := by
  cases course : w.course (w.opening h request) with
  | ends outcome => exact Or.inl ⟨outcome, rfl, begin_of_ends course⟩
  | asks q => exact Or.inr ⟨q, rfl, begin_of_asks course⟩

theorem begin_frame (w : World) (h : Handle) (request : Request) :
    (w.begin h request).clock = w.clock ∧ (w.begin h request).caches = w.caches ∧
      (w.begin h request).background = w.background ∧
      (w.begin h request).backends = w.backends ∧
      (w.begin h request).nextTicket = w.nextTicket + 1 := by
  rcases w.begin_cases h request with ⟨outcome, _, same⟩ | ⟨q, _, same⟩ <;> rw [same]
  · exact ⟨rfl, rfl, rfl, rfl, rfl⟩
  · refine arranged (P := fun v => v.clock = w.clock ∧ v.caches = w.caches ∧
      v.background = w.background ∧ v.backends = w.backends ∧ v.nextTicket = w.nextTicket + 1)
      (w.opened.call (w.opening h request) q) ⟨rfl, rfl, rfl, rfl, rfl⟩ ?_
    intro v d _ frame
    simpa using frame

theorem begin_timely {w : World} (timely : Timely w) (h : Handle) (request : Request) :
    Timely (w.begin h request) := by
  rcases w.begin_cases h request with ⟨outcome, _, same⟩ | ⟨q, _, same⟩ <;> rw [same]
  · exact timely_of_same timely rfl rfl
  · refine (arranged (P := fun v => Timely v ∧ v.clock = w.clock)
      (w.opened.call (w.opening h request) q) ⟨timely_of_same timely rfl rfl, rfl⟩ ?_).1
    intro v d member ⟨before, clock⟩
    refine ⟨arrange_timely before ?_, (arrange_clock v d).trans clock⟩
    rw [clock]
    exact Operation.dues_not_before member

theorem begin_settled {w : World} (settled : Settled w) (h : Handle) (request : Request) :
    Settled (w.begin h request) := by
  rcases w.begin_cases h request with ⟨outcome, _, same⟩ | ⟨q, _, same⟩ <;> rw [same]
  · exact settled
  · refine (arranged (P := fun v => Settled v ∧ v.clock = w.clock)
      (w.opened.call (w.opening h request) q) ⟨settled, rfl⟩ ?_).1
    intro v d member ⟨before, clock⟩
    refine ⟨arrange_settled before ?_, (arrange_clock v d).trans clock⟩
    rw [clock]
    exact Operation.dues_not_before member

theorem fire_timely {w : World} {d : Due} {rest : List Due} (timely : Timely w)
    (next : w.agenda = d :: rest) : Timely ({ w with agenda := rest }.fire d) := by
  have ordered := timely.ordered
  rw [next] at ordered
  obtain ⟨least, tail⟩ := List.pairwise_cons.mp ordered
  constructor
  · rw [fire_agenda]
    exact tail
  · intro e member
    rw [fire_agenda] at member
    rw [fire_clock]
    exact least e member

theorem move_timely {w v : World} (timely : Timely w) (move : Move w v) : Timely v := by
  cases move with
  | create | clone | track => exact timely_of_same timely rfl rfl
  | begin id h request known => exact begin_timely timely h request
  | fire d rest next => exact fire_timely timely next
  | pass t forward quiet => exact ⟨timely.ordered, fun d member => Nat.le_of_lt (quiet d member)⟩

theorem later_timely {w v : World} (timely : Timely w) (later : Later w v) : Timely v := by
  induction later with
  | refl => exact timely
  | tail _ move ih => exact move_timely ih move

/-! What is only added to while a run goes on. -/

structure Grown (w v : World) : Prop where
  calls : w.calls <+: v.calls
  finished : w.finished <+: v.finished
  events : w.events <+: v.events
  happenings : w.happenings <+: v.happenings

theorem Grown.refl (w : World) : w.Grown w :=
  ⟨List.prefix_rfl, List.prefix_rfl, List.prefix_rfl, List.prefix_rfl⟩

theorem Grown.trans {w v u : World} (first : w.Grown v) (second : v.Grown u) : w.Grown u :=
  ⟨first.calls.trans second.calls, first.finished.trans second.finished,
    first.events.trans second.events, first.happenings.trans second.happenings⟩

theorem finish_grown (w : World) (op : Operation) (outcome : Outcome) :
    w.Grown (w.finish op outcome) :=
  ⟨List.prefix_rfl, List.prefix_append _ _, List.prefix_append _ _, List.prefix_rfl⟩

theorem fire_grown (w : World) (d : Due) : w.Grown (w.fire d) := by
  have happened : w.Grown { w with
      clock := d.time, happenings := w.happenings ++ d.happening.toList } :=
    ⟨List.prefix_rfl, List.prefix_rfl, List.prefix_rfl, List.prefix_append _ _⟩
  unfold fire
  split
  · exact happened.trans (finish_grown _ _ _)
  · exact happened

theorem arrange_grown (w : World) (d : Due) : w.Grown (w.arrange d) := by
  unfold arrange
  split
  · exact fire_grown w d
  · exact ⟨List.prefix_rfl, List.prefix_rfl, List.prefix_rfl, List.prefix_rfl⟩

theorem begin_grown (w : World) (h : Handle) (request : Request) :
    w.Grown (w.begin h request) := by
  have opened : w.Grown w.opened :=
    ⟨List.prefix_rfl, List.prefix_rfl, List.prefix_rfl, List.prefix_rfl⟩
  rcases w.begin_cases h request with ⟨outcome, _, same⟩ | ⟨q, _, same⟩ <;> rw [same]
  · exact opened.trans (finish_grown _ _ _)
  · have called : w.opened.Grown (w.opened.call (w.opening h request) q) :=
      ⟨List.prefix_append _ _, List.prefix_rfl, List.prefix_rfl, List.prefix_append _ _⟩
    exact arranged (P := w.Grown) _ (opened.trans called) fun v d _ before =>
      before.trans (arrange_grown v d)

theorem later_grown {w v : World} (later : Later w v) : w.Grown v := by
  induction later with
  | refl => exact .refl w
  | @tail v u _ move ih =>
    apply ih.trans
    cases move with
    | clone | track | pass =>
      exact ⟨List.prefix_rfl, List.prefix_rfl, List.prefix_rfl, List.prefix_rfl⟩
    | create => exact ⟨List.prefix_rfl, List.prefix_rfl, List.prefix_append _ _, List.prefix_rfl⟩
    | begin id h request known => exact begin_grown v h request
    | fire d rest next =>
      have fired := fire_grown { v with agenda := rest } d
      exact ⟨fired.calls, fired.finished, fired.events, fired.happenings⟩

theorem fireUntil_later {t : Nat} {agenda : List Due} {w : World} (same : w.agenda = agenda)
    (timely : Timely w) (forward : w.clock ≤ t) :
    Later w (fireUntil t agenda w) ∧ (fireUntil t agenda w).clock ≤ t ∧
      ∀ d ∈ (fireUntil t agenda w).agenda, t < d.time := by
  induction agenda generalizing w with
  | nil =>
    have unchanged : fireUntil t [] w = w := by
      simp only [fireUntil, ← same]
    rw [unchanged]
    exact ⟨.refl, forward, by simp [same]⟩
  | cons d rest ih =>
    unfold fireUntil
    split
    · rename_i due
      have fired := fire_timely timely same
      obtain ⟨later, clock, quiet⟩ := ih (fire_agenda _ d) fired (by rw [fire_clock]; exact due)
      exact ⟨.head (.fire w d rest same) later, clock, quiet⟩
    · rename_i notDue
      have unchanged : { w with agenda := d :: rest } = w := by
        simp only [← same]
      rw [unchanged]
      refine ⟨.refl, forward, ?_⟩
      have ordered := timely.ordered
      rw [same] at ordered ⊢
      intro e member
      rcases List.mem_cons.mp member with rfl | behind
      · omega
      · have := (List.pairwise_cons.mp ordered).1 e behind
        omega

theorem advanceTo_later {w : World} {t : Nat} (timely : Timely w) (forward : w.clock ≤ t) :
    Later w (w.advanceTo t) ∧ (w.advanceTo t).clock = t ∧ Settled (w.advanceTo t) := by
  obtain ⟨later, clock, quiet⟩ := fireUntil_later rfl timely forward
  have now : max w.clock t = t := Nat.max_eq_right forward
  unfold advanceTo
  rw [now]
  exact ⟨later.tail (.pass _ t clock quiet), rfl, quiet⟩

theorem dueTime_mem {w : World} {ticket t : Nat} (due : w.dueTime? ticket = some t) :
    ∃ d ∈ w.agenda, d.time = t ∧
      ∃ op outcome, d.ending = some (op, outcome) ∧ op.ticket = ticket := by
  obtain ⟨d, found, time⟩ := Option.map_eq_some_iff.mp due
  refine ⟨d, List.mem_of_find?_eq_some found, time, ?_⟩
  have ends := List.find?_some found
  cases ending : d.ending with
  | none => simp [ending] at ends
  | some e =>
    simp only [ending, Option.any_some, beq_iff_eq] at ends
    exact ⟨e.1, e.2, rfl, ends⟩

theorem await_later {w : World} (timely : Timely w) (settled : Settled w) (ticket : Nat) :
    Later w (w.await ticket) ∧ Settled (w.await ticket) := by
  unfold await
  split
  · rename_i t due
    obtain ⟨d, member, time, _⟩ := dueTime_mem due
    have advanced := advanceTo_later timely (time ▸ timely.ahead d member)
    exact ⟨advanced.1, advanced.2.2⟩
  · exact ⟨.refl, settled⟩

/-- A step is a sequence of moves after which nothing is due. -/
theorem step_later {w : World} (timely : Timely w) (settled : Settled w) (s : Step) :
    Later w (w.step s).1 ∧ Settled (w.step s).1 := by
  cases s with
  | create id backend timing log => exact ⟨.single (.create w id backend timing log), settled⟩
  | clone id source =>
    simp only [step]
    split
    · rename_i h known
      exact ⟨.single (.clone w id source h known), settled⟩
    · exact ⟨.refl, settled⟩
  | run id request =>
    simp only [step]
    split
    · rename_i h known
      have awaited := await_later (begin_timely timely h request)
        (begin_settled settled h request) w.nextTicket
      exact ⟨.head (.begin w id h request known) awaited.1, awaited.2⟩
    · exact ⟨.refl, settled⟩
  | start name id request =>
    simp only [step]
    split
    · rename_i h known
      have given : w.nextTicket < (w.begin h request).nextTicket := by
        rw [(begin_frame w h request).2.2.2.2]
        exact Nat.lt_succ_self _
      exact ⟨.head (.begin w id h request known) (.single (.track _ name w.nextTicket given)),
        begin_settled settled h request⟩
    · exact ⟨.refl, settled⟩
  | join name =>
    simp only [step]
    split
    · exact await_later timely settled _
    · exact ⟨.refl, settled⟩
  | sleep nanos | jump nanos =>
    have advanced := advanceTo_later timely (Nat.le_add_right w.clock nanos)
    exact ⟨advanced.1, advanced.2.2⟩
  | metrics => exact ⟨.refl, settled⟩

theorem start_timely (backends : List (String × Backend)) : Timely (start backends) :=
  ⟨.nil, by simp [start]⟩

theorem start_settled (backends : List (String × Backend)) : Settled (start backends) := by
  simp [Settled, start]

theorem run_later {w : World} (timely : Timely w) (settled : Settled w) (steps : List Step) :
    Later w (w.run steps).1 ∧ Settled (w.run steps).1 := by
  induction steps generalizing w with
  | nil => exact ⟨.refl, settled⟩
  | cons s rest ih =>
    obtain ⟨later, still⟩ := step_later timely settled s
    obtain ⟨more, last⟩ := ih (later_timely timely later) still
    exact ⟨later.trans more, last⟩

theorem run_append (w : World) (first rest : List Step) :
    (w.run (first ++ rest)).1 = ((w.run first).1.run rest).1 := by
  induction first generalizing w with
  | nil => rfl
  | cons s more ih => exact ih (w.step s).1

theorem after_append (backends : List (String × Backend)) (first rest : List Step) :
    after backends (first ++ rest) = ((after backends first).run rest).1 :=
  run_append _ first rest

theorem after_moment (backends : List (String × Backend)) (steps : List Step) :
    Moment backends (after backends steps) :=
  (run_later (start_timely backends) (start_settled backends) steps).1

theorem after_settled (backends : List (String × Backend)) (steps : List Step) :
    Settled (after backends steps) :=
  (run_later (start_timely backends) (start_settled backends) steps).2

theorem moment_timely {backends : List (String × Backend)} {w : World}
    (moment : Moment backends w) : Timely w :=
  later_timely (start_timely backends) moment

end World
end SecretKeeper.Cache

import SecretKeeper.Proofs.Cache.Operations

/-!
What backends go through. Every call is noticed once, in the order in which calls are made, and is
completed once, at its own time, whether anybody still waits for it or not; until then it is on the
agenda.
-/
namespace SecretKeeper.Cache

def Happening.isCall (x : Happening) : Bool := x.phase = .call

namespace Call

def issued (c : Call) : Happening :=
  ⟨c.operation.handle.backend, .call, c.operation.started, c.query.name?⟩

def completed? (c : Call) : Option Happening :=
  c.query.completion?.map fun completion =>
    c.operation.completed c.query completion.1 completion.2

end Call

theorem completion_phase {q : Query} {delay : Nat} {phase : Phase}
    (completion : q.completion? = some (delay, phase)) : phase ≠ .call := by
  have answers {α : Type} (answer : Answer α) : answer.phase ≠ .call := by
    cases answer <;> simp [Answer.phase]
  cases q with
  | fetch name reply | list reply =>
    cases reply with
    | never => cases completion
    | after delay answer =>
      cases completion
      exact answers answer

namespace Due

def Completes (d : Due) : Prop :=
  ∀ x, d.happening = some x → x.isCall = false ∧ x.time = d.time

theorem completes_filter {d : Due} (completes : d.Completes) :
    (d.happening.toList.filter Happening.isCall = []) ∧
      (d.happening.toList.filter fun x => !x.isCall) = d.happening.toList := by
  cases happening : d.happening with
  | none => exact ⟨rfl, rfl⟩
  | some x => simp [(completes x happening).1]

end Due

namespace Operation

theorem dues_completes {op : Operation} {q : Query} {d : Due} (member : d ∈ op.dues q) :
    d.Completes := by
  have done {delay : Nat} {phase : Phase} (completion : q.completion? = some (delay, phase)) :
      (op.completed q delay phase).isCall = false :=
    decide_eq_false (completion_phase completion)
  intro x happening
  rcases op.dues_cases q with
    ⟨_, dues⟩ | ⟨delay, phase, completion, ⟨_, dues⟩ | ⟨_, dues⟩⟩ <;> rw [dues] at member
  · obtain rfl := List.mem_singleton.mp member
    cases happening
  · obtain rfl := List.mem_singleton.mp member
    cases happening
    exact ⟨done completion, rfl⟩
  · rcases List.mem_cons.mp member with rfl | late
    · cases happening
    · obtain rfl := List.mem_singleton.mp late
      cases happening
      exact ⟨done completion, rfl⟩

theorem dues_happenings (op : Operation) (q : Query) :
    (op.dues q).filterMap Due.happening = (Call.completed? ⟨op, q⟩).toList := by
  rcases op.dues_cases q with
    ⟨completion, dues⟩ | ⟨delay, phase, completion, ⟨_, dues⟩ | ⟨_, dues⟩⟩ <;>
      simp [dues, Call.completed?, completion]

end Operation

namespace World

def completions (w : World) : List Happening :=
  (w.happenings.filter fun x => !x.isCall) ++ w.agenda.filterMap Due.happening

/-- Calls are noticed in their order, nothing is noticed before its time, and what is still to come
completes calls. -/
structure Noticed (w : World) : Prop where
  issued : w.happenings.filter Happening.isCall = w.calls.map Call.issued
  past : ∀ x ∈ w.happenings, x.time ≤ w.clock
  ahead : ∀ d ∈ w.agenda, d.Completes

theorem fire_noticed {w : World} {d : Due} (noticed : Noticed w) (completes : d.Completes)
    (forward : w.clock ≤ d.time) : Noticed (w.fire d) := by
  refine ⟨?_, ?_, ?_⟩
  · rw [fire_happenings, List.filter_append, (Due.completes_filter completes).1,
      List.append_nil, fire_calls]
    exact noticed.issued
  · intro x member
    rw [fire_happenings] at member
    rw [fire_clock]
    rcases List.mem_append.mp member with old | new
    · exact Nat.le_trans (noticed.past x old) forward
    · exact Nat.le_of_eq (completes x (Option.mem_toList.mp new)).2
  · rw [fire_agenda]
    exact noticed.ahead

theorem arrange_noticed {w : World} {d : Due} (noticed : Noticed w) (completes : d.Completes) :
    Noticed (w.arrange d) := by
  unfold arrange
  split
  · rename_i now
    exact fire_noticed noticed completes (Nat.le_of_eq now.symm)
  · refine ⟨noticed.issued, noticed.past, ?_⟩
    intro e member
    rcases mem_schedule.mp member with rfl | old
    · exact completes
    · exact noticed.ahead e old

theorem call_noticed {w : World} (noticed : Noticed w) {op : Operation}
    (now : op.started = w.clock) (q : Query) : Noticed (w.call op q) := by
  refine ⟨?_, ?_, noticed.ahead⟩
  · simp only [call, List.filter_append, List.map_append, noticed.issued, ← now]
    rfl
  · intro x member
    rcases List.mem_append.mp member with old | new
    · exact noticed.past x old
    · obtain rfl := List.mem_singleton.mp new
      exact Nat.le_refl _

theorem begin_noticed {w : World} (noticed : Noticed w) (h : Handle) (request : Request) :
    Noticed (w.begin h request) := by
  have opened : Noticed w.opened := ⟨noticed.issued, noticed.past, noticed.ahead⟩
  rcases w.begin_cases h request with ⟨outcome, _, same⟩ | ⟨q, _, same⟩ <;> rw [same]
  · exact ⟨noticed.issued, noticed.past, noticed.ahead⟩
  · apply arranged _ (call_noticed opened rfl q)
    intro v d member before
    exact arrange_noticed before (Operation.dues_completes member)

theorem moment_noticed {backends : List (String × Backend)} {w : World}
    (moment : Moment backends w) : Noticed w := by
  induction moment with
  | refl => exact ⟨rfl, by simp [start], by simp [start]⟩
  | tail before move ih =>
    cases move with
    | create | clone | track => exact ⟨ih.issued, ih.past, ih.ahead⟩
    | begin id h request known => exact begin_noticed ih h request
    | fire d rest next =>
      have ahead := ih.ahead
      rw [next] at ahead
      have popped : Noticed { ‹World› with agenda := rest } :=
        ⟨ih.issued, ih.past, fun e member => ahead e (List.mem_cons_of_mem d member)⟩
      have forward := (moment_timely before).ahead d (next ▸ List.mem_cons_self)
      exact fire_noticed popped (ahead d List.mem_cons_self) forward
    | pass t forward quiet =>
      exact ⟨ih.issued, fun x member => Nat.le_trans (ih.past x member) forward, ih.ahead⟩

theorem fire_completions (w : World) {d : Due} (completes : d.Completes) :
    (w.fire d).completions.Perm (d.happening.toList ++ w.completions) := by
  simp only [completions, fire_happenings, fire_agenda, List.filter_append,
    (Due.completes_filter completes).2, List.append_assoc]
  exact List.perm_append_comm_assoc _ _ _

theorem arrange_completions (w : World) {d : Due} (completes : d.Completes) :
    (w.arrange d).completions.Perm (d.happening.toList ++ w.completions) := by
  unfold arrange
  split
  · exact fire_completions w completes
  · refine ((schedule_filterMap Due.happening d w.agenda).append_left _).trans ?_
    exact List.perm_append_comm_assoc _ _ _

theorem arranged_completions (w : World) {dues : List Due}
    (completes : ∀ d ∈ dues, d.Completes) :
    (dues.foldl arrange w).completions.Perm
      (dues.filterMap Due.happening ++ w.completions) := by
  induction dues generalizing w with
  | nil => exact .refl _
  | cons d rest ih =>
    have first := (arrange_completions w (completes d List.mem_cons_self)).append_left
      (rest.filterMap Due.happening)
    have others := ih (w.arrange d) fun e member => completes e (List.mem_cons_of_mem d member)
    refine others.trans (first.trans ?_)
    refine (List.perm_append_comm_assoc _ _ _).trans (.of_eq ?_)
    rw [filterMap_first, List.append_assoc]

theorem call_completions (w : World) (op : Operation) (q : Query) :
    ((op.dues q).foldl arrange (w.call op q)).completions.Perm
      ((Call.completed? ⟨op, q⟩).toList ++ w.completions) := by
  refine (arranged_completions _ fun d => Operation.dues_completes).trans (.of_eq ?_)
  rw [Operation.dues_happenings]
  simp [completions, call, Happening.isCall]

theorem moment_completions {backends : List (String × Backend)} {w : World}
    (moment : Moment backends w) : w.completions.Perm (w.calls.filterMap Call.completed?) := by
  induction moment with
  | refl => exact .refl _
  | @tail w v before move ih =>
    cases move with
    | create | clone | track | pass => exact ih
    | begin id h request known =>
      rcases w.begin_cases h request with ⟨outcome, _, same⟩ | ⟨q, asks, same⟩
      · rw [same]
        exact ih
      · rw [begin_calls_of_asks asks, same, List.filterMap_append, filterMap_first,
          List.filterMap_nil, List.append_nil]
        refine (call_completions w.opened (w.opening h request) q).trans ?_
        exact (ih.append_left _).trans List.perm_append_comm
    | fire d rest next =>
      have completes := (moment_noticed before).ahead d (next ▸ List.mem_cons_self)
      rw [fire_calls]
      refine (fire_completions _ completes).trans (.trans ?_ ih)
      simp only [completions, next, filterMap_first]
      exact List.perm_append_comm_assoc _ _ _

theorem completed_by_now {backends : List (String × Backend)} {w : World}
    (moment : Moment backends w) (settled : Settled w) :
    (w.happenings.filter fun x => !x.isCall).Perm
      ((w.calls.filterMap Call.completed?).filter fun x => x.time ≤ w.clock) := by
  have noticed := moment_noticed moment
  have due := (moment_completions moment).filter fun x => x.time ≤ w.clock
  rw [completions, List.filter_append] at due
  have gone : (w.happenings.filter fun x => !x.isCall).filter (fun x => x.time ≤ w.clock) =
      w.happenings.filter fun x => !x.isCall := by
    apply List.filter_eq_self.mpr
    intro x member
    exact decide_eq_true (noticed.past x (List.mem_filter.mp member).1)
  have open' : (w.agenda.filterMap Due.happening).filter (fun x => x.time ≤ w.clock) = [] := by
    apply List.filter_eq_nil_iff.mpr
    intro x member
    obtain ⟨d, scheduled, happening⟩ := List.mem_filterMap.mp member
    have later := settled d scheduled
    rw [← (noticed.ahead d scheduled x happening).2] at later
    simp only [decide_eq_true_eq]
    omega
  rw [gone, open', List.append_nil] at due
  exact due

end World
end SecretKeeper.Cache

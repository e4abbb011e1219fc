import Mathlib.Data.List.Nodup
import Mathlib.Data.List.Perm.Basic
import SecretKeeper.Proofs.Cache.Moments

/-!
The operations of a run. Each has a ticket of its own and is either under way or has ended, exactly
once. It asks its backend at most once, and how and when it ends follows from its request and from
the reply alone.
-/
namespace SecretKeeper.Cache

def Stepwise (P : List α → α → Prop) (all : List α) : Prop :=
  ∀ before a after, all = before ++ a :: after → P before a

theorem stepwise_nil (P : List α → α → Prop) : Stepwise P [] := by
  intro before a after split
  simp at split

theorem stepwise_front {P : List α → α → Prop} {first all : List α}
    (start : first <+: all) (each : Stepwise P all) : Stepwise P first := by
  obtain ⟨more, rfl⟩ := start
  rintro before a after rfl
  exact each before a (after ++ more) (by simp)

theorem split_concat {all before after : List α} {a last : α}
    (split : all ++ [last] = before ++ a :: after) :
    (after = [] ∧ all = before ∧ last = a) ∨
      ∃ rest, after = rest ++ [last] ∧ all = before ++ a :: rest := by
  rcases List.eq_nil_or_concat after with rfl | ⟨rest, b, rfl⟩
  · obtain ⟨same, tail⟩ := List.append_inj' split rfl
    exact Or.inl ⟨rfl, same, List.singleton_inj.mp tail⟩
  · rw [List.concat_eq_append, ← List.cons_append, ← List.append_assoc] at split
    obtain ⟨same, tail⟩ := List.append_inj' split rfl
    rw [List.singleton_inj.mp tail]
    exact Or.inr ⟨rest, List.concat_eq_append, same⟩

theorem stepwise_concat {P : List α → α → Prop} {all : List α} {last : α}
    (each : Stepwise P all) (new : P all last) : Stepwise P (all ++ [last]) := by
  intro before a after split
  rcases split_concat split with ⟨_, rfl, rfl⟩ | ⟨rest, _, old⟩
  · exact new
  · exact each before a rest old

def Reply.wait (deadline : Nat) : Reply α → Nat
  | .never => deadline
  | .after delay _ => min delay deadline

def Query.wait (t : Timing) : Query → Nat
  | .fetch _ reply => reply.wait t.secretDeadline
  | .list reply => reply.wait t.listDeadline

def Query.scripted (backends : List (String × Backend)) (before : List Call) (id : String) :
    Query → Query
  | .fetch name _ => .fetch name ((backendOf backends id).fetchReply (asked before id true) name)
  | .list _ => .list ((backendOf backends id).listReply (asked before id false))

namespace Operation

def endTime (op : Operation) : Option Query → Nat
  | some q => op.started + q.wait op.handle.timing
  | none => op.started

/-- How an operation may end, by what it asked its backend, if anything. -/
inductive Ends (op : Operation) : Option Query → Outcome → Prop where
  | fresh (name : String) (secret : Secret) (request : op.request = .lookup name) :
      Ends op none (.fresh name secret)
  | fetched (name : String) (reply : Reply Secret) (request : op.request = .lookup name) :
      Ends op (some (.fetch name reply))
        (.fetched name (reply.verdict op.handle.timing.secretDeadline))
  | listed (reply : Reply (List Secret)) (request : op.request = .listing) :
      Ends op (some (.list reply)) (.listed (reply.verdict op.handle.timing.listDeadline))
  | added (secret : Secret) (request : op.request = .add secret) : Ends op none (.added secret)
  | cleared (request : op.request = .clear) : Ends op none .cleared
  | sized (request : op.request = .size) : Ends op none .sized
  | emptiness (request : op.request = .isEmpty) : Ends op none .emptiness
  | info (request : op.request = .info) : Ends op none .info

end Operation

theorem Reply.wait_of_inTime {deadline delay : Nat} {phase : Phase} {reply : Reply α}
    (completion : reply.completion? = some (delay, phase))
    (inTime : reply.inTime deadline = true) : reply.wait deadline = delay := by
  cases reply with
  | never => simp [Reply.completion?] at completion
  | after after answer =>
    simp only [Reply.completion?, Option.some.injEq, Prod.mk.injEq] at completion
    simp only [Reply.inTime, decide_eq_true_eq] at inTime
    simp only [Reply.wait]
    omega

theorem Reply.wait_of_late {deadline : Nat} {reply : Reply α}
    (late : reply.inTime deadline = false) : reply.wait deadline = deadline := by
  cases reply with
  | never => rfl
  | after delay answer =>
    simp only [Reply.inTime, decide_eq_false_iff_not] at late
    simp only [Reply.wait]
    omega

theorem Query.wait_of_inTime {q : Query} {t : Timing} {delay : Nat} {phase : Phase}
    (completion : q.completion? = some (delay, phase)) (inTime : q.inTime t = true) :
    q.wait t = delay := by
  cases q with
  | fetch name reply | list reply => exact Reply.wait_of_inTime completion inTime

theorem Query.wait_of_late {q : Query} {t : Timing} (late : q.inTime t = false) :
    q.wait t = q.deadline t := by
  cases q with
  | fetch name reply | list reply => exact Reply.wait_of_late late

theorem Query.late_of_no_completion {q : Query} {t : Timing} (none : q.completion? = none) :
    q.inTime t = false := by
  cases q with
  | fetch name reply | list reply =>
    cases reply with
    | never => rfl
    | after delay answer => simp [Query.completion?, Reply.completion?] at none

theorem Operation.dues_ending {op : Operation} {q : Query} {d : Due} {e : Operation × Outcome}
    (member : d ∈ op.dues q) (ending : d.ending = some e) :
    e = (op, q.outcome op.handle.timing) ∧ d.time = op.endTime (some q) := by
  rcases op.dues_cases q with
    ⟨silent, dues⟩ | ⟨delay, phase, completion, ⟨inTime, dues⟩ | ⟨late, dues⟩⟩ <;>
      rw [dues] at member
  · obtain rfl := List.mem_singleton.mp member
    have wait := Query.wait_of_late (Query.late_of_no_completion (t := op.handle.timing) silent)
    exact ⟨(Option.some.inj ending).symm, by simp only [Operation.endTime, wait]⟩
  · obtain rfl := List.mem_singleton.mp member
    have wait := Query.wait_of_inTime completion inTime
    exact ⟨(Option.some.inj ending).symm, by simp only [Operation.endTime, wait]⟩
  · rcases List.mem_cons.mp member with rfl | still
    · have wait := Query.wait_of_late late
      exact ⟨(Option.some.inj ending).symm, by simp only [Operation.endTime, wait]⟩
    · obtain rfl := List.mem_singleton.mp still
      cases ending

theorem Operation.dues_endings (op : Operation) (q : Query) :
    (op.dues q).filterMap Due.ending = [(op, q.outcome op.handle.timing)] := by
  rcases op.dues_cases q with ⟨_, dues⟩ | ⟨delay, phase, _, ⟨_, dues⟩ | ⟨_, dues⟩⟩ <;>
    rw [dues] <;> rfl

def Due.Accounted (calls : List Call) (d : Due) : Prop :=
  ∀ e, d.ending = some e →
    ∃ q, ⟨e.1, q⟩ ∈ calls ∧ e.1.Ends (some q) e.2 ∧ d.time = e.1.endTime (some q)

theorem Operation.dues_accounted {op : Operation} {q : Query} {d : Due} {calls : List Call}
    (member : d ∈ op.dues q) (ends : op.Ends (some q) (q.outcome op.handle.timing))
    (called : ⟨op, q⟩ ∈ calls) : d.Accounted calls := by
  intro e ending
  obtain ⟨rfl, time⟩ := dues_ending member ending
  exact ⟨q, called, ends, time⟩

theorem filterMap_first (g : α → Option β) (a : α) (rest : List α) :
    (a :: rest).filterMap g = (g a).toList ++ rest.filterMap g := by
  cases found : g a <;> simp [found]

theorem schedule_filterMap (g : Due → Option β) (d : Due) (agenda : List Due) :
    ((schedule d agenda).filterMap g).Perm ((g d).toList ++ agenda.filterMap g) :=
  ((schedule_perm d agenda).filterMap g).trans (.of_eq (filterMap_first g d agenda))

namespace World

def pending (w : World) : List (Operation × Outcome) := w.agenda.filterMap Due.ending

def operations (w : World) : List Operation :=
  (w.finished.map fun f => f.operation) ++ w.pending.map fun e => e.1

/-- What an operation has asked its backend. -/
def Asked (w : World) (op : Operation) : Option Query → Prop
  | some q => ⟨op, q⟩ ∈ w.calls
  | none => ∀ c ∈ w.calls, c.operation ≠ op

theorem course_ends {w : World} {op : Operation} {outcome : Outcome}
    (course : w.course op = .ends outcome) : op.Ends none outcome := by
  unfold World.course at course
  split at course
  · rename_i name request
    split at course
    · cases course
      exact .fresh name _ request
    · cases course
  · cases course
  · rename_i secret request
    cases course
    exact .added secret request
  · rename_i request
    cases course
    exact .cleared request
  · rename_i request
    cases course
    exact .sized request
  · rename_i request
    cases course
    exact .emptiness request
  · rename_i request
    cases course
    exact .info request

theorem course_asks {w : World} {op : Operation} {q : Query} (course : w.course op = .asks q) :
    op.Ends (some q) (q.outcome op.handle.timing) := by
  unfold World.course at course
  split at course
  · rename_i name request
    split at course
    · cases course
    · cases course
      exact .fetched name _ request
  · rename_i request
    cases course
    exact .listed _ request
  all_goals cases course

theorem course_scripted {w : World} {op : Operation} {q : Query} (course : w.course op = .asks q) :
    q = q.scripted w.backends w.calls op.handle.backend := by
  unfold World.course at course
  split at course
  · split at course <;> cases course
    rfl
  · cases course
    rfl
  all_goals cases course

/-! How operations have ended or are going to end. -/

def endings (w : World) : List (Operation × Outcome) :=
  (w.finished.map fun f => (f.operation, f.outcome)) ++ w.pending

theorem operations_eq (w : World) : w.operations = w.endings.map fun e => e.1 := by
  simp [operations, endings]

theorem finish_endings (w : World) (op : Operation) (outcome : Outcome) :
    (w.finish op outcome).endings.Perm ((op, outcome) :: w.endings) := by
  simp only [endings, pending, finish, List.map_append, List.map_cons, List.map_nil,
    List.append_assoc]
  exact List.perm_middle

theorem fire_endings (w : World) (d : Due) :
    (w.fire d).endings.Perm (d.ending.toList ++ w.endings) := by
  unfold fire
  split
  · rename_i op outcome ending
    rw [ending]
    exact finish_endings _ op outcome
  · rename_i none
    rw [none]
    exact .refl _

theorem arrange_endings (w : World) (d : Due) :
    (w.arrange d).endings.Perm (d.ending.toList ++ w.endings) := by
  unfold arrange
  split
  · exact fire_endings w d
  · refine ((schedule_filterMap Due.ending d w.agenda).append_left _).trans ?_
    exact List.perm_append_comm_assoc _ _ _

theorem arranged_endings (w : World) (dues : List Due) :
    (dues.foldl arrange w).endings.Perm (dues.filterMap Due.ending ++ w.endings) := by
  induction dues generalizing w with
  | nil => exact .refl _
  | cons d rest ih =>
    have first := (arrange_endings w d).append_left (rest.filterMap Due.ending)
    refine (ih (w.arrange d)).trans (first.trans ?_)
    refine (List.perm_append_comm_assoc _ _ _).trans (.of_eq ?_)
    rw [filterMap_first, List.append_assoc]

theorem begin_endings_of_ends {w : World} {h : Handle} {request : Request} {outcome : Outcome}
    (course : w.course (w.opening h request) = .ends outcome) :
    (w.begin h request).endings.Perm ((w.opening h request, outcome) :: w.endings) := by
  rw [begin_of_ends course]
  exact finish_endings _ _ outcome

theorem begin_endings_of_asks {w : World} {h : Handle} {request : Request} {q : Query}
    (course : w.course (w.opening h request) = .asks q) :
    (w.begin h request).endings.Perm
      ((w.opening h request, q.outcome h.timing) :: w.endings) := by
  rw [begin_of_asks course]
  refine (arranged_endings _ _).trans (.of_eq ?_)
  rw [Operation.dues_endings]
  rfl

theorem next_endings {w : World} {d : Due} {rest : List Due} (next : w.agenda = d :: rest) :
    ({ w with agenda := rest }.fire d).endings.Perm w.endings := by
  refine (fire_endings _ d).trans ((List.perm_append_comm_assoc _ _ _).trans (.of_eq ?_))
  simp only [endings, pending, next, filterMap_first]

theorem begin_operations (w : World) (h : Handle) (request : Request) :
    (w.begin h request).operations.Perm (w.opening h request :: w.operations) := by
  rw [operations_eq, operations_eq]
  cases course : w.course (w.opening h request) with
  | ends outcome => exact (begin_endings_of_ends course).map _
  | asks q => exact (begin_endings_of_asks course).map _

theorem next_operations {w : World} {d : Due} {rest : List Due} (next : w.agenda = d :: rest) :
    ({ w with agenda := rest }.fire d).operations.Perm w.operations := by
  rw [operations_eq, operations_eq]
  exact (next_endings next).map _

/-! Tickets. -/

def Numbered (w : World) : Prop :=
  (w.operations.map Operation.ticket).Perm (List.range w.nextTicket)

theorem move_numbered {w v : World} (numbered : Numbered w) (move : Move w v) : Numbered v := by
  cases move with
  | create | clone | track | pass => exact numbered
  | begin id h request known =>
    unfold Numbered
    rw [(begin_frame w h request).2.2.2.2, List.range_succ]
    refine ((begin_operations w h request).map Operation.ticket).trans ?_
    exact (numbered.cons w.nextTicket).trans (List.perm_append_singleton w.nextTicket _).symm
  | fire d rest next =>
    unfold Numbered
    rw [fire_nextTicket]
    exact ((next_operations next).map Operation.ticket).trans numbered

theorem moment_numbered {backends : List (String × Backend)} {w : World}
    (moment : Moment backends w) : Numbered w := by
  induction moment with
  | refl => exact .refl _
  | tail _ move ih => exact move_numbered ih move

theorem later_operations {w v : World} (later : Later w v) {op : Operation}
    (member : op ∈ w.operations) : op ∈ v.operations := by
  induction later with
  | refl => exact member
  | tail _ move ih =>
    cases move with
    | create | clone | track | pass => exact ih
    | begin id h request known =>
      exact (begin_operations _ h request).mem_iff.mpr (List.mem_cons_of_mem _ ih)
    | fire d rest next => exact (next_operations next).mem_iff.mpr ih

theorem ticket_lt {w : World} (numbered : Numbered w) {op : Operation}
    (member : op ∈ w.operations) : op.ticket < w.nextTicket :=
  List.mem_range.mp (numbered.mem_iff.mp (List.mem_map_of_mem member))

theorem mem_operations {w : World} {op : Operation} :
    op ∈ w.operations ↔ (∃ f ∈ w.finished, f.operation = op) ∨
      ∃ d ∈ w.agenda, ∃ outcome, d.ending = some (op, outcome) := by
  simp only [operations, pending, List.mem_append, List.mem_map, List.mem_filterMap]
  apply or_congr_right
  constructor
  · rintro ⟨e, ⟨d, member, ending⟩, rfl⟩
    exact ⟨d, member, e.2, ending⟩
  · rintro ⟨d, member, outcome, ending⟩
    exact ⟨(op, outcome), ⟨d, member, ending⟩, rfl⟩

theorem finished_mem {w : World} {f : Finished} (member : f ∈ w.finished) :
    f.operation ∈ w.operations :=
  mem_operations.mpr (Or.inl ⟨f, member, rfl⟩)

theorem numbered_distinct {w : World} (numbered : Numbered w) :
    (w.operations.map Operation.ticket).Nodup :=
  numbered.nodup_iff.mpr List.nodup_range

theorem same_ticket {w : World} (numbered : Numbered w) {op op' : Operation}
    (member : op ∈ w.operations) (member' : op' ∈ w.operations)
    (ticket : op.ticket = op'.ticket) : op = op' :=
  List.inj_on_of_nodup_map (numbered_distinct numbered) member member' ticket

theorem finished_distinct {w : World} (numbered : Numbered w) :
    (w.finished.map fun f => f.operation.ticket).Nodup := by
  have distinct := numbered_distinct numbered
  rw [operations, List.map_append, List.map_map] at distinct
  exact (List.nodup_append.mp distinct).1

theorem finished_result {w : World} (numbered : Numbered w) {f : Finished}
    (member : f ∈ w.finished) : w.result? f.operation.ticket = some f.effect.result := by
  unfold result?
  cases found : w.finished.find? fun g => g.operation.ticket == f.operation.ticket with
  | none =>
    have absent := List.find?_eq_none.mp found f member
    simp at absent
  | some g =>
    have matched := List.find?_some found
    have same : g.operation.ticket = f.operation.ticket := beq_iff_eq.mp matched
    have equal := List.inj_on_of_nodup_map (finished_distinct numbered)
      (List.mem_of_find?_eq_some found) member same
    rw [equal]
    rfl

/-! How operations end. -/

structure Accounted (w : World) : Prop where
  issued : ∀ c ∈ w.calls, c.operation.ticket < w.nextTicket
  single : w.calls.Pairwise fun a b => a.operation.ticket < b.operation.ticket
  ended : ∀ f ∈ w.finished, ∃ q, w.Asked f.operation q ∧ f.operation.Ends q f.outcome ∧
    f.time = f.operation.endTime q
  waiting : ∀ d ∈ w.agenda, Due.Accounted w.calls d

theorem asked_unique {w : World} (accounted : Accounted w) {op : Operation}
    {q q' : Option Query} (asked : w.Asked op q) (asked' : w.Asked op q') : q = q' := by
  have distinct : (w.calls.map fun c => c.operation.ticket).Nodup :=
    List.pairwise_map.mpr (accounted.single.imp Nat.ne_of_lt)
  cases q with
  | none =>
    cases q' with
    | none => rfl
    | some q' => exact absurd rfl (asked _ asked')
  | some q =>
    cases q' with
    | none => exact absurd rfl (asked' _ asked)
    | some q' =>
      have same := List.inj_on_of_nodup_map distinct asked asked' rfl
      rw [(Call.mk.inj same).2]

theorem waiting_time {w : World} (accounted : Accounted w) {d : Due} (scheduled : d ∈ w.agenda)
    {op : Operation} {outcome : Outcome} (ending : d.ending = some (op, outcome))
    {q : Option Query} (asked : w.Asked op q) : d.time = op.endTime q := by
  obtain ⟨q', called, _, time⟩ := accounted.waiting d scheduled (op, outcome) ending
  have asked' : w.Asked op (some q') := called
  rw [asked_unique accounted asked asked']
  exact time

theorem finish_accounted {w : World} {op : Operation} {outcome : Outcome} {q : Option Query}
    (accounted : Accounted w) (asked : w.Asked op q) (ends : op.Ends q outcome)
    (time : w.clock = op.endTime q) : Accounted (w.finish op outcome) := by
  refine ⟨accounted.issued, accounted.single, ?_, accounted.waiting⟩
  intro f member
  rcases List.mem_append.mp member with old | new
  · exact accounted.ended f old
  · obtain rfl := List.mem_singleton.mp new
    exact ⟨q, asked, ends, time⟩

theorem fire_accounted {w : World} {d : Due} (accounted : Accounted w)
    (due : Due.Accounted w.calls d) : Accounted (w.fire d) := by
  have ticked : Accounted { w with
      clock := d.time, happenings := w.happenings ++ d.happening.toList } :=
    ⟨accounted.issued, accounted.single, accounted.ended, accounted.waiting⟩
  unfold fire
  split
  · rename_i op outcome ending
    obtain ⟨q, asked, ends, time⟩ := due _ ending
    exact finish_accounted ticked (q := some q) asked ends time
  · exact ticked

theorem arrange_accounted {w : World} {d : Due} (accounted : Accounted w)
    (due : Due.Accounted w.calls d) : Accounted (w.arrange d) := by
  unfold arrange
  split
  · exact fire_accounted accounted due
  · refine ⟨accounted.issued, accounted.single, accounted.ended, ?_⟩
    intro e member
    rcases mem_schedule.mp member with rfl | old
    · exact due
    · exact accounted.waiting e old

theorem opened_accounted {w : World} (accounted : Accounted w) : Accounted w.opened :=
  ⟨fun c member => Nat.lt_succ_of_lt (accounted.issued c member), accounted.single,
    accounted.ended, accounted.waiting⟩

theorem opening_unasked {w : World} (accounted : Accounted w) (h : Handle) (request : Request) :
    w.Asked (w.opening h request) none := by
  intro c member same
  have lower := accounted.issued c member
  rw [same] at lower
  exact Nat.lt_irrefl _ lower

theorem call_accounted {w : World} (accounted : Accounted w)
    (numbered : Numbered w) (h : Handle) (request : Request)
    (q : Query) : Accounted (w.opened.call (w.opening h request) q) := by
  constructor
  · intro c member
    rcases List.mem_append.mp member with old | new
    · exact Nat.lt_succ_of_lt (accounted.issued c old)
    · obtain rfl := List.mem_singleton.mp new
      exact Nat.lt_succ_self _
  · refine List.pairwise_append.mpr ⟨accounted.single, List.pairwise_singleton _ _, ?_⟩
    intro c old c' new
    obtain rfl := List.mem_singleton.mp new
    exact accounted.issued c old
  · intro f member
    obtain ⟨q', asked, ends, time⟩ := accounted.ended f member
    refine ⟨q', ?_, ends, time⟩
    cases q' with
    | some q' => exact List.mem_append_left _ asked
    | none =>
      intro c called same
      rcases List.mem_append.mp called with old | new
      · exact asked c old same
      · obtain rfl := List.mem_singleton.mp new
        have lower := ticket_lt numbered (finished_mem member)
        rw [← same] at lower
        exact Nat.lt_irrefl _ lower
  · intro d member e ending
    obtain ⟨q', asked, rest⟩ := accounted.waiting d member e ending
    exact ⟨q', List.mem_append_left _ asked, rest⟩

theorem begin_accounted {w : World} (accounted : Accounted w)
    (numbered : Numbered w) (h : Handle) (request : Request) :
    Accounted (w.begin h request) := by
  rcases w.begin_cases h request with ⟨outcome, course, same⟩ | ⟨q, course, same⟩ <;> rw [same]
  · exact finish_accounted (opened_accounted accounted) (q := none)
      (opening_unasked accounted h request) (course_ends course) rfl
  · have called := call_accounted accounted numbered h request q
    refine (arranged (P := fun v => Accounted v ∧ v.calls = w.calls ++ [⟨w.opening h request, q⟩])
      (w.opened.call (w.opening h request) q) ⟨called, rfl⟩ ?_).1
    intro v d member ⟨before, calls⟩
    refine ⟨arrange_accounted before ?_, (arrange_calls v d).trans calls⟩
    rw [calls]
    exact Operation.dues_accounted member (course_asks course)
      (List.mem_append_right _ (List.mem_singleton_self _))

theorem move_accounted {w v : World} (accounted : Accounted w)
    (numbered : Numbered w) (move : Move w v) : Accounted v := by
  cases move with
  | create | clone | track | pass =>
    exact ⟨accounted.issued, accounted.single, accounted.ended, accounted.waiting⟩
  | begin id h request known => exact begin_accounted accounted numbered h request
  | fire d rest next =>
    have waiting := accounted.waiting
    rw [next] at waiting
    refine fire_accounted ⟨accounted.issued, accounted.single, accounted.ended, ?_⟩
      (waiting d List.mem_cons_self)
    exact fun e member => waiting e (List.mem_cons_of_mem d member)

theorem begin_calls_of_ends {w : World} {h : Handle} {request : Request} {outcome : Outcome}
    (course : w.course (w.opening h request) = .ends outcome) :
    (w.begin h request).calls = w.calls := by
  rw [begin_of_ends course]
  rfl

theorem begin_calls_of_asks {w : World} {h : Handle} {request : Request} {q : Query}
    (course : w.course (w.opening h request) = .asks q) :
    (w.begin h request).calls = w.calls ++ [⟨w.opening h request, q⟩] := by
  rw [begin_of_asks course]
  exact arranged (P := fun v => v.calls = w.calls ++ [⟨w.opening h request, q⟩])
    (w.opened.call (w.opening h request) q) rfl
    fun v d _ before => (arrange_calls v d).trans before

theorem begin_asked_of_ends {w : World} (accounted : Accounted w) {h : Handle} {request : Request}
    {outcome : Outcome} (course : w.course (w.opening h request) = .ends outcome) :
    (w.begin h request).Asked (w.opening h request) none := by
  intro c called
  rw [begin_calls_of_ends course] at called
  exact opening_unasked accounted h request c called

theorem begin_asked_of_asks {w : World} {h : Handle} {request : Request} {q : Query}
    (course : w.course (w.opening h request) = .asks q) :
    (w.begin h request).Asked (w.opening h request) (some q) := by
  rw [Asked, begin_calls_of_asks course]
  exact List.mem_append_right _ (List.mem_singleton_self _)

def begins? (w : World) : Step → Option (Handle × Request)
  | .run id request => (w.caches.lookup id).map fun h => (h, request)
  | .start _ id request => (w.caches.lookup id).map fun h => (h, request)
  | _ => none

theorem fireUntil_calls (t : Nat) (agenda : List Due) (w : World) :
    (fireUntil t agenda w).calls = w.calls := by
  induction agenda generalizing w with
  | nil => rfl
  | cons d rest ih =>
    unfold fireUntil
    split
    · rw [ih, fire_calls]
    · rfl

theorem await_calls (w : World) (ticket : Nat) : (w.await ticket).calls = w.calls := by
  unfold await
  split
  · exact fireUntil_calls _ w.agenda w
  · rfl

/-- What a step does is to begin an operation, if at all, and then to wait. -/
theorem step_calls (w : World) (s : Step) :
    (w.step s).1.calls =
      match w.begins? s with
      | some (h, request) => (w.begin h request).calls
      | none => w.calls := by
  cases s with
  | create | metrics => rfl
  | clone id source =>
    simp only [step, begins?]
    split <;> rfl
  | run id request =>
    cases known : w.caches.lookup id with
    | none => simp only [step, begins?, known, Option.map_none]
    | some h => simp only [step, begins?, known, Option.map_some, await_calls]
  | start name id request =>
    cases known : w.caches.lookup id with
    | none => simp only [step, begins?, known, Option.map_none]
    | some h => simp only [step, begins?, known, Option.map_some]
  | join name =>
    simp only [step, begins?]
    split
    · exact await_calls _ _
    · rfl
  | sleep | jump => exact fireUntil_calls _ w.agenda w

theorem move_backends {w v : World} (move : Move w v) : v.backends = w.backends := by
  cases move with
  | create | clone | track | pass => rfl
  | begin id h request known => exact (begin_frame w h request).2.2.2.1
  | fire d rest next => exact fire_backends _ d

theorem moment_backends {backends : List (String × Backend)} {w : World}
    (moment : Moment backends w) : w.backends = backends := by
  induction moment with
  | refl => rfl
  | tail _ move ih => exact (move_backends move).trans ih

/-- Every call gets the reply that stands in the script after the calls before it. -/
def Scripted (backends : List (String × Backend)) (before : List Call) (c : Call) : Prop :=
  c.query = c.query.scripted backends before c.operation.handle.backend

theorem moment_scripted {backends : List (String × Backend)} {w : World}
    (moment : Moment backends w) : Stepwise (Scripted backends) w.calls := by
  induction moment with
  | refl => exact stepwise_nil _
  | tail before move ih =>
    have scripts := moment_backends before
    cases move with
    | create | clone | track | pass => exact ih
    | begin id h request known =>
      cases course : World.course _ (opening _ h request) with
      | ends outcome =>
        rw [begin_calls_of_ends course]
        exact ih
      | asks q =>
        rw [begin_calls_of_asks course]
        exact stepwise_concat ih (scripts ▸ course_scripted course)
    | fire d rest next =>
      rw [fire_calls]
      exact ih

theorem later_asked {w v : World} (numbered : Numbered w) (later : Later w v) {op : Operation}
    (member : op ∈ w.operations) {q : Option Query} (asked : w.Asked op q) : v.Asked op q := by
  have still : Numbered v ∧ op ∈ v.operations ∧ v.Asked op q := by
    induction later with
    | refl => exact ⟨numbered, member, asked⟩
    | @tail v u before move ih =>
      obtain ⟨numbered, member, asked⟩ := ih
      refine ⟨move_numbered numbered move, later_operations (.single move) member, ?_⟩
      cases move with
      | create | clone | track | pass => exact asked
      | fire d rest next =>
        cases q <;> simpa only [Asked, fire_calls] using asked
      | begin id h request known =>
        cases course : v.course (v.opening h request) with
        | ends outcome => cases q <;> simpa only [Asked, begin_calls_of_ends course] using asked
        | asks q' =>
          cases q <;> simp only [Asked, begin_calls_of_asks course]
          · intro c called
            rcases List.mem_append.mp called with old | new
            · exact asked c old
            · obtain rfl := List.mem_singleton.mp new
              have lower := ticket_lt numbered member
              intro equal
              rw [← equal] at lower
              exact Nat.lt_irrefl _ lower
          · exact List.mem_append_left _ asked
  exact still.2.2

theorem moment_accounted {backends : List (String × Backend)} {w : World}
    (moment : Moment backends w) : Accounted w := by
  induction moment with
  | refl => exact ⟨by simp [start], .nil, by simp [start], by simp [start]⟩
  | tail before move ih => exact move_accounted ih (moment_numbered before) move

end World
end SecretKeeper.Cache

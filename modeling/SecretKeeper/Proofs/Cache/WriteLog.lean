import SecretKeeper.Proofs.Cache.Effects

/-!
The log of writes. At every moment a store is what the replay of the writes to it comes to, in the
order in which they happened; each write follows from the request of an operation and from the
reply to it, and the result of an operation is read from the replay at the instant at which it
ends.
-/
namespace SecretKeeper.Cache

def writes (history : List Finished) (i : Nat) : List (Nat × Write) :=
  history.filterMap fun f =>
    if f.operation.handle.store = i then f.effect.write.map fun write => (f.time, write) else none

def storeAfter (history : List Finished) (i : Nat) : Store :=
  (writes history i).foldl (fun s entry => entry.2.apply entry.1 s) .empty

theorem storeAfter_sound (history : List Finished) (i : Nat) : (storeAfter history i).Sound :=
  List.foldlRecOn _ _ Store.empty_sound fun _ sound entry _ =>
    Store.apply_sound sound entry.2 entry.1

theorem storeAfter_get? (history : List Finished) (i : Nat) :
    (storeAfter history i).get? = replay (writes history i) := by
  have follow : ∀ (log : List (Nat × Write)) (s : Store),
      (log.foldl (fun s entry => entry.2.apply entry.1 s) s).get? =
        log.foldl (fun m entry => entry.2.on entry.1 m) s.get? := by
    intro log
    induction log with
    | nil => intro s; rfl
    | cons entry rest ih =>
      intro s
      rw [List.foldl_cons, List.foldl_cons, ih, Store.get?_apply]
  exact follow _ .empty

theorem storeAfter_concat (history : List Finished) (f : Finished) (i : Nat) :
    storeAfter (history ++ [f]) i =
      if f.operation.handle.store = i then
        match f.effect.write with
        | some write => write.apply f.time (storeAfter history i)
        | none => storeAfter history i
      else storeAfter history i := by
  simp only [storeAfter, writes, List.filterMap_append, List.foldl_append]
  by_cases here : f.operation.handle.store = i
  · cases write : f.effect.write <;> simp [here, write]
  · simp [here]

namespace World

structure Housed (w : World) : Prop where
  caches : ∀ e ∈ w.caches, e.2.store < w.stores.length
  operations : ∀ op ∈ w.operations, op.handle.store < w.stores.length

/-- The effect of an operation is the one on its store as the operations before it left it; what
was served fresh was fresh in it. -/
def Faithful (before : List Finished) (f : Finished) : Prop :=
  let s := storeAfter before f.operation.handle.store
  f.effect = f.operation.handle.effect s f.operation.started f.time f.outcome ∧
    ∀ name secret, f.outcome = .fresh name secret →
      s.fresh? f.operation.handle.timing.freshThreshold f.time name = some secret

structure Recorded (w : World) : Prop where
  stores : ∀ i, w.store i = storeAfter w.finished i
  effects : Stepwise Faithful w.finished
  ordered : w.finished.Pairwise fun a b => a.time ≤ b.time
  past : ∀ f ∈ w.finished, f.time ≤ w.clock

theorem finish_stores_length (w : World) (op : Operation) (outcome : Outcome) :
    (w.finish op outcome).stores.length = w.stores.length := by
  simp only [finish]
  split <;> simp

theorem finish_store {w : World} {op : Operation} (housed : op.handle.store < w.stores.length)
    (outcome : Outcome) (i : Nat) :
    (w.finish op outcome).store i =
      if op.handle.store = i then
        op.handle.leaves (w.store op.handle.store) op.started w.clock outcome
      else w.store i := by
  simp only [store, finish, Handle.leaves, List.getD_eq_getElem?_getD]
  cases (op.handle.effect _ op.started w.clock outcome).write with
  | none =>
    by_cases here : op.handle.store = i <;> simp [here]
  | some write =>
    by_cases here : op.handle.store = i
    · subst here
      simp [housed]
    · simp [here]

theorem finish_recorded {w : World} {op : Operation} {outcome : Outcome}
    (recorded : Recorded w) (housed : op.handle.store < w.stores.length)
    (current : ∀ name secret, outcome = .fresh name secret →
      (w.store op.handle.store).fresh? op.handle.timing.freshThreshold w.clock name = some secret) :
    Recorded (w.finish op outcome) := by
  constructor
  · intro i
    have concat := storeAfter_concat w.finished ⟨op, w.clock, outcome,
      op.handle.effect (w.store op.handle.store) op.started w.clock outcome⟩ i
    rw [finish_store housed]
    refine Eq.trans ?_ concat.symm
    by_cases here : op.handle.store = i
    · subst here
      rw [if_pos rfl, if_pos rfl, ← recorded.stores]
      rfl
    · simp only [here, ↓reduceIte, recorded.stores]
  · refine stepwise_concat recorded.effects ⟨?_, ?_⟩
    · simp only [recorded.stores]
    · rw [← recorded.stores]
      exact current
  · refine List.pairwise_append.mpr ⟨recorded.ordered, List.pairwise_singleton _ _, ?_⟩
    intro f old g new
    obtain rfl := List.mem_singleton.mp new
    exact recorded.past f old
  · intro f member
    rcases List.mem_append.mp member with old | new
    · exact recorded.past f old
    · obtain rfl := List.mem_singleton.mp new
      exact Nat.le_refl _

theorem fire_recorded {w : World} {d : Due} (recorded : Recorded w) (forward : w.clock ≤ d.time)
    (accounted : Due.Accounted w.calls d)
    (housed : ∀ e, d.ending = some e → e.1.handle.store < w.stores.length) :
    Recorded (w.fire d) := by
  have ticked : Recorded { w with
      clock := d.time, happenings := w.happenings ++ d.happening.toList } :=
    ⟨recorded.stores, recorded.effects, recorded.ordered,
      fun f member => Nat.le_trans (recorded.past f member) forward⟩
  unfold fire
  split
  · rename_i op outcome ending
    apply finish_recorded ticked (housed _ ending)
    -- Only what ends at once is served fresh.
    obtain ⟨q, _, ends, _⟩ := accounted _ ending
    rintro name secret rfl
    cases ends
  · exact ticked

theorem fire_stores_length (w : World) (d : Due) :
    (w.fire d).stores.length = w.stores.length := by
  unfold fire
  split
  · exact finish_stores_length _ _ _
  · rfl

theorem arrange_stores_length (w : World) (d : Due) :
    (w.arrange d).stores.length = w.stores.length := by
  unfold arrange
  split
  · exact fire_stores_length w d
  · rfl

theorem arrange_recorded {w : World} {d : Due} (recorded : Recorded w)
    (accounted : Due.Accounted w.calls d)
    (housed : ∀ e, d.ending = some e → e.1.handle.store < w.stores.length) :
    Recorded (w.arrange d) := by
  unfold arrange
  split
  · rename_i now
    exact fire_recorded recorded (Nat.le_of_eq now.symm) accounted housed
  · exact ⟨recorded.stores, recorded.effects, recorded.ordered, recorded.past⟩

theorem begin_stores_length (w : World) (h : Handle) (request : Request) :
    (w.begin h request).stores.length = w.stores.length := by
  rcases w.begin_cases h request with ⟨outcome, _, same⟩ | ⟨q, _, same⟩ <;> rw [same]
  · exact finish_stores_length _ _ _
  · refine arranged (P := fun v => v.stores.length = w.stores.length) _ rfl ?_
    exact fun v d _ before => (arrange_stores_length v d).trans before

theorem course_fresh {w : World} {op : Operation} {name : String} {secret : Secret}
    (course : w.course op = .ends (.fresh name secret)) :
    (w.store op.handle.store).fresh? op.handle.timing.freshThreshold w.clock name =
      some secret := by
  unfold World.course at course
  split at course
  · split at course
    · rename_i found
      cases course
      exact found
    · cases course
  all_goals cases course

theorem begin_recorded {w : World} (recorded : Recorded w) {h : Handle}
    (housed : h.store < w.stores.length) (request : Request) :
    Recorded (w.begin h request) := by
  rcases w.begin_cases h request with ⟨outcome, course, same⟩ | ⟨q, course, same⟩ <;> rw [same]
  · have opened : Recorded w.opened :=
      ⟨recorded.stores, recorded.effects, recorded.ordered, recorded.past⟩
    apply finish_recorded opened housed
    rintro name secret rfl
    exact course_fresh course
  · have called : Recorded (w.opened.call (w.opening h request) q) :=
      ⟨recorded.stores, recorded.effects, recorded.ordered, recorded.past⟩
    refine (arranged (P := fun v => Recorded v ∧ v.stores.length = w.stores.length ∧
      v.calls = w.calls ++ [⟨w.opening h request, q⟩]) _ ⟨called, rfl, rfl⟩ ?_).1
    intro v d member ⟨before, length, calls⟩
    refine ⟨arrange_recorded before ?_ ?_, (arrange_stores_length v d).trans length,
      (arrange_calls v d).trans calls⟩
    · rw [calls]
      exact Operation.dues_accounted member (course_asks course)
        (List.mem_append_right _ (List.mem_singleton_self _))
    · intro e ending
      obtain ⟨rfl, _⟩ := Operation.dues_ending member ending
      exact Nat.lt_of_lt_of_eq housed length.symm

theorem create_store (w : World) (id backend : String) (timing : Timing) (log : LogSettings)
    (i : Nat) : (w.create id backend timing log).store i = w.store i := by
  simp only [store, create, List.getD_eq_getElem?_getD, List.getElem?_append]
  split
  · rfl
  · rename_i outside
    rw [List.getElem?_eq_none (Nat.le_of_not_lt outside), List.getElem?_singleton]
    split <;> rfl

theorem move_housed {w v : World} (housed : Housed w) (move : Move w v) : Housed v := by
  cases move with
  | create id backend timing log =>
    have longer : w.stores.length < (w.stores ++ [Store.empty]).length := by simp
    refine ⟨?_, fun op member => Nat.lt_trans (housed.operations op member) longer⟩
    intro e member
    rcases mem_assign member with rfl | old
    · exact longer
    · exact Nat.lt_trans (housed.caches e old) longer
  | clone id source h known =>
    refine ⟨?_, housed.operations⟩
    intro e member
    rcases mem_assign member with rfl | old
    · exact housed.caches (source, h) (mem_of_lookup known)
    · exact housed.caches e old
  | begin id h request known =>
    refine ⟨?_, ?_⟩ <;> rw [begin_stores_length]
    · rw [(begin_frame w h request).2.1]
      exact housed.caches
    · intro op member
      rcases List.mem_cons.mp ((begin_operations w h request).mem_iff.mp member) with rfl | old
      · exact housed.caches _ (mem_of_lookup known)
      · exact housed.operations op old
  | track | pass => exact ⟨housed.caches, housed.operations⟩
  | fire d rest next =>
    refine ⟨?_, ?_⟩ <;> rw [fire_stores_length]
    · rw [fire_caches]
      exact housed.caches
    · intro op member
      exact housed.operations op ((next_operations next).mem_iff.mp member)

theorem moment_housed {backends : List (String × Backend)} {w : World}
    (moment : Moment backends w) : Housed w := by
  induction moment with
  | refl => exact ⟨by simp [start], by simp [operations, pending, start]⟩
  | tail _ move ih => exact move_housed ih move

theorem move_recorded {w v : World} (recorded : Recorded w) (timely : Timely w)
    (accounted : Accounted w) (housed : Housed w) (move : Move w v) : Recorded v := by
  cases move with
  | create id backend timing log =>
    refine ⟨?_, recorded.effects, recorded.ordered, recorded.past⟩
    exact fun i => (create_store w id backend timing log i).trans (recorded.stores i)
  | clone | track => exact ⟨recorded.stores, recorded.effects, recorded.ordered, recorded.past⟩
  | begin id h request known =>
    exact begin_recorded recorded (housed.caches _ (mem_of_lookup known)) request
  | fire d rest next =>
    have member : d ∈ w.agenda := next ▸ List.mem_cons_self
    have popped : Recorded { w with agenda := rest } :=
      ⟨recorded.stores, recorded.effects, recorded.ordered, recorded.past⟩
    apply fire_recorded popped (timely.ahead d member) (accounted.waiting d member)
    intro e ending
    exact housed.operations e.1 (mem_operations.mpr (Or.inr ⟨d, member, e.2, ending⟩))
  | pass t forward quiet =>
    exact ⟨recorded.stores, recorded.effects, recorded.ordered,
      fun f member => Nat.le_trans (recorded.past f member) forward⟩

theorem moment_recorded {backends : List (String × Backend)} {w : World}
    (moment : Moment backends w) : Recorded w := by
  induction moment with
  | refl =>
    refine ⟨?_, stepwise_nil _, .nil, by simp [start]⟩
    intro i
    rfl
  | tail before move ih =>
    exact move_recorded ih (moment_timely before) (moment_accounted before)
      (moment_housed before) move

def query? (w : World) (op : Operation) : Option Query :=
  (w.calls.find? fun c => c.operation = op).map Call.query

theorem query_asked (w : World) (op : Operation) : w.Asked op (w.query? op) := by
  unfold query?
  cases found : w.calls.find? fun c => c.operation = op with
  | none =>
    intro c member same
    have differs := List.find?_eq_none.mp found c member
    simp [same] at differs
  | some c =>
    have same := List.find?_some found
    rw [decide_eq_true_eq] at same
    rw [← same]
    exact List.mem_of_find?_eq_some found

def log (w : World) (history : List Finished) (i : Nat) : List (Nat × Write) :=
  history.filterMap fun f =>
    let q := w.query? f.operation
    if f.operation.handle.store = i then
      (f.operation.write? q).map fun write => (f.operation.endTime q, write)
    else none

/-- What an operation that has ended did, told from the operations that ended before it: the reply
to what it asked, if anything, says when it ended and what it wrote, and its result is read from
what its store holds then. -/
def Told (w : World) (before : List Finished) (f : Finished) : Prop :=
  let q := w.query? f.operation
  f.time = f.operation.endTime q ∧ f.effect.write = f.operation.write? q ∧
    f.operation.Reads q (replay (w.log (before ++ [f]) f.operation.handle.store)) f.effect.result

section Told
variable {backends : List (String × Backend)} {w : World} (moment : Moment backends w)
include moment

theorem ended_as_asked {f : Finished} (member : f ∈ w.finished) :
    f.operation.Ends (w.query? f.operation) f.outcome ∧
      f.time = f.operation.endTime (w.query? f.operation) := by
  have accounted := moment_accounted moment
  obtain ⟨q, asked, ends, time⟩ := accounted.ended f member
  rw [asked_unique accounted (query_asked w f.operation) asked]
  exact ⟨ends, time⟩

theorem written_as_asked {f : Finished} (member : f ∈ w.finished) :
    f.effect.write = f.operation.write? (w.query? f.operation) := by
  obtain ⟨before, rest, split⟩ := List.append_of_mem member
  rw [((moment_recorded moment).effects before f rest split).1]
  exact Handle.effect_write (ended_as_asked moment member).1 _ f.time

theorem log_eq_writes {history : List Finished} (part : history ⊆ w.finished) (i : Nat) :
    w.log history i = writes history i := by
  apply List.filterMap_congr
  intro f member
  have ended := part member
  simp only [← written_as_asked moment ended, ← (ended_as_asked moment ended).2]

theorem store_get? (i : Nat) : (w.store i).get? = replay (w.log w.finished i) := by
  rw [(moment_recorded moment).stores, storeAfter_get?,
    log_eq_writes moment (List.Subset.refl _)]

theorem moment_told : Stepwise w.Told w.finished := by
  intro before f rest split
  have member : f ∈ w.finished := by
    rw [split]
    exact List.mem_append_right _ List.mem_cons_self
  have part : before ++ [f] ⊆ w.finished := by
    rw [split, List.append_cons before f rest]
    exact List.subset_append_left _ _
  obtain ⟨ends, time⟩ := ended_as_asked moment member
  obtain ⟨effect, current⟩ := (moment_recorded moment).effects before f rest split
  have reads := Handle.effect_reads ends (storeAfter_sound before _) f.time current
  have leaves : storeAfter (before ++ [f]) f.operation.handle.store =
      f.operation.handle.leaves (storeAfter before f.operation.handle.store)
        f.operation.started f.time f.outcome := by
    rw [storeAfter_concat, if_pos rfl, effect]
    rfl
  refine ⟨time, written_as_asked moment member, ?_⟩
  rw [log_eq_writes moment part, ← storeAfter_get?, leaves, effect]
  exact reads

end Told

/-- The history of a run up to a moment, as a log of writes. -/
structure Ledger (backends : List (String × Backend)) (w : World) : Prop where
  /-- A store holds what the replay of the writes to it comes to. -/
  kept : ∀ i, (w.store i).get? = replay (w.log w.finished i)
  inOrder : w.finished.Pairwise fun a b => a.time ≤ b.time
  /-- Each did what its request and the reply to it say, and nothing else. -/
  told : Stepwise w.Told w.finished
  shown : ∀ f ∈ w.finished, w.result? f.operation.ticket = some f.effect.result
  /-- An operation that has begun has ended, once, or is under way. -/
  complete : (w.operations.map Operation.ticket).Perm (List.range w.nextTicket)
  waiting : ∀ e ∈ w.pending, w.clock ≤ e.1.endTime (w.query? e.1)
  single : (w.calls.map Call.operation).Nodup
  scripted : Stepwise (Scripted backends) w.calls
  housed : ∀ e ∈ w.caches, e.2.store < w.stores.length
  unused : ∀ i, w.stores.length ≤ i → w.log w.finished i = []

/-- At every moment of every run, each store is the replay of exactly those writes to it that the
operations on it made, and the operations read their results from it. -/
theorem stores_replay_their_writes {backends : List (String × Backend)} {w : World}
    (moment : Moment backends w) : Ledger backends w := by
  have accounted := moment_accounted moment
  have numbered := moment_numbered moment
  have recorded := moment_recorded moment
  have housed := moment_housed moment
  refine ⟨store_get? moment, recorded.ordered, moment_told moment,
    fun f => finished_result numbered, numbered, ?_, ?_, moment_scripted moment,
    housed.caches, ?_⟩
  · intro e member
    obtain ⟨d, scheduled, ending⟩ := List.mem_filterMap.mp member
    have ahead := (moment_timely moment).ahead d scheduled
    rw [waiting_time accounted scheduled ending (query_asked w e.1)] at ahead
    exact ahead
  · refine List.pairwise_map.mpr (accounted.single.imp ?_)
    intro a b earlier same
    rw [same] at earlier
    exact Nat.lt_irrefl _ earlier
  · intro i outside
    apply List.filterMap_eq_nil_iff.mpr
    intro f member
    have inside := housed.operations f.operation (finished_mem member)
    rw [if_neg (by omega)]

/-- A lookup that an addition and a clearing have overtaken keeps what it fetched. -/
theorem stores_replay_overtaken_lookup :
    let secret := Secret.create "a" .empty .epoch
    let backends := [("b", { Backend.blank with
      fetches := [.after (milliseconds 5) (.value secret)] })]
    let w := after backends
      [.create "c" "b" .default .default, .start "slow" "c" (.lookup "a"), .run "c" (.add secret),
        .run "c" .clear, .sleep (milliseconds 5)]
    Moment backends w ∧ Ledger backends w ∧
      w.log w.finished 0 = [(0, .add secret), (0, .clear), (milliseconds 5, .add secret)] := by
  intro secret backends w
  have moment : Moment backends w := after_moment _ _
  exact ⟨moment, stores_replay_their_writes moment, by decide +kernel⟩

end World
end SecretKeeper.Cache

import SecretKeeper.Proofs.Cache.LateAnswers
import SecretKeeper.Proofs.Cache.Locality

/-!
What is due at one instant may happen in any order, if it is about different names. Two worlds with
agendas that differ in such orders, and in the tickets of operations, come to the same while time
passes: the same contents, the same ends of operations and the same series.
-/
namespace SecretKeeper.Cache

open Metrics

def Operation.renumber (f : Nat → Nat) (op : Operation) : Operation :=
  { op with ticket := f op.ticket }

@[simp] theorem Operation.renumber_handle (f : Nat → Nat) (op : Operation) :
    (op.renumber f).handle = op.handle := rfl

@[simp] theorem Operation.renumber_started (f : Nat → Nat) (op : Operation) :
    (op.renumber f).started = op.started := rfl

def Due.renumber (f : Nat → Nat) (d : Due) : Due :=
  { d with ending := d.ending.map fun e => (e.1.renumber f, e.2) }

def Due.Apart (d e : Due) : Prop :=
  ∀ op outcome op' outcome', d.ending = some (op, outcome) → e.ending = some (op', outcome') →
    op'.handle = op.handle ∧
      ∃ n n', outcome.subject? = some n ∧ outcome'.subject? = some n' ∧ n ≠ n'

inductive Reordered : List Due → List Due → Prop where
  | refl (agenda : List Due) : Reordered agenda agenda
  | cons (d : Due) {agenda agenda' : List Due} (rest : Reordered agenda agenda') :
      Reordered (d :: agenda) (d :: agenda')
  | swap {d e : Due} (time : d.time = e.time) (apart : d.Apart e) (rest : List Due) :
      Reordered (d :: e :: rest) (e :: d :: rest)
  | trans {first second third : List Due} (front : Reordered first second)
      (back : Reordered second third) : Reordered first third

section Agendas

theorem Due.Apart.symm {d e : Due} (apart : d.Apart e) : e.Apart d := by
  intro op' outcome' op outcome ending' ending
  obtain ⟨handle, n, n', subject, subject', other⟩ := apart op outcome op' outcome' ending ending'
  exact ⟨handle.symm, n', n, subject', subject, other.symm⟩

theorem Reordered.symm {agenda agenda' : List Due} (reordered : Reordered agenda agenda') :
    Reordered agenda' agenda := by
  induction reordered with
  | refl agenda => exact .refl agenda
  | cons d rest ih => exact .cons d ih
  | swap time apart rest => exact .swap time.symm apart.symm rest
  | trans front back ih ih' => exact .trans ih' ih

theorem renumber_id (d : Due) : d.renumber id = d := by
  obtain ⟨time, happening, ending⟩ := d
  cases ending <;> rfl

theorem renumber_comp (f g : Nat → Nat) (d : Due) :
    (d.renumber f).renumber g = d.renumber (g ∘ f) := by
  obtain ⟨time, happening, ending⟩ := d
  cases ending <;> rfl

theorem renumber_apart (f : Nat → Nat) {d e : Due} (apart : d.Apart e) :
    (d.renumber f).Apart (e.renumber f) := by
  intro op outcome op' outcome' ending ending'
  obtain ⟨e, here, ⟨⟩⟩ := Option.map_eq_some_iff.mp ending
  obtain ⟨e', here', ⟨⟩⟩ := Option.map_eq_some_iff.mp ending'
  exact apart e.1 e.2 e'.1 e'.2 here here'

theorem reordered_renumber (f : Nat → Nat) {agenda agenda' : List Due}
    (reordered : Reordered agenda agenda') :
    Reordered (agenda.map (Due.renumber f)) (agenda'.map (Due.renumber f)) := by
  induction reordered with
  | refl agenda => exact .refl _
  | cons d rest ih => exact .cons _ ih
  | @swap d e time apart rest =>
    have time' : (d.renumber f).time = (e.renumber f).time := time
    exact .swap time' (renumber_apart f apart) _
  | trans front back ih ih' => exact .trans ih ih'

theorem schedule_renumber (f : Nat → Nat) (d : Due) (agenda : List Due) :
    schedule (d.renumber f) (agenda.map (Due.renumber f)) =
      (schedule d agenda).map (Due.renumber f) := by
  induction agenda with
  | nil => rfl
  | cons e rest ih =>
    simp only [schedule, List.map_cons, ih]
    by_cases behind : e.time ≤ d.time
    · have behind' : (e.renumber f).time ≤ (d.renumber f).time := behind
      rw [if_pos behind, if_pos behind', List.map_cons]
    · have behind' : ¬(e.renumber f).time ≤ (d.renumber f).time := behind
      rw [if_neg behind, if_neg behind', List.map_cons, List.map_cons]

theorem schedule_reordered (d : Due) {agenda agenda' : List Due}
    (reordered : Reordered agenda agenda') :
    Reordered (schedule d agenda) (schedule d agenda') := by
  induction reordered with
  | refl agenda => exact .refl _
  | cons e rest ih =>
    simp only [schedule]
    split
    · exact .cons e ih
    · exact .cons d (.cons e rest)
  | @swap a b time apart rest =>
    simp only [schedule, time]
    split
    · exact .swap time apart _
    · exact .cons d (.swap time apart rest)
  | trans front back ih ih' => exact .trans ih ih'

/-- It matters for two of what is apart only at one instant which is put on the agenda first. -/
theorem schedule_apart {d e : Due} (apart : d.Apart e) (agenda : List Due) :
    Reordered (schedule e (schedule d agenda)) (schedule d (schedule e agenda)) := by
  induction agenda with
  | nil =>
    rcases Nat.lt_trichotomy d.time e.time with before | same | after
    · simp only [schedule, Nat.le_of_lt before, Nat.not_le_of_lt before, ↓reduceIte]
      exact .refl _
    · simp only [schedule, same, Nat.le_refl, ↓reduceIte]
      exact .swap same apart []
    · simp only [schedule, Nat.le_of_lt after, Nat.not_le_of_lt after, ↓reduceIte]
      exact .refl _
  | cons x rest ih =>
    by_cases behind : x.time ≤ d.time <;> by_cases behind' : x.time ≤ e.time
    · simp only [schedule, behind, behind', ↓reduceIte]
      exact .cons x ih
    · have order : e.time ≤ d.time := by omega
      simp only [schedule, behind, behind', order, ↓reduceIte]
      exact .refl _
    · have order : d.time ≤ e.time := by omega
      simp only [schedule, behind, behind', order, ↓reduceIte]
      exact .refl _
    · rcases Nat.lt_trichotomy d.time e.time with before | same | after
      · simp only [schedule, behind, behind', Nat.le_of_lt before, Nat.not_le_of_lt before,
          ↓reduceIte]
        exact .refl _
      · have order : d.time ≤ e.time := Nat.le_of_eq same
        have order' : e.time ≤ d.time := Nat.le_of_eq same.symm
        simp only [schedule, behind, behind', order, order', ↓reduceIte]
        exact .swap same apart _
      · simp only [schedule, behind, behind', Nat.le_of_lt after, Nat.not_le_of_lt after,
          ↓reduceIte]
        exact .refl _

theorem dueTime_reordered {agenda agenda' : List Due} (reordered : Reordered agenda agenda')
    (p : Due → Bool) : (agenda'.find? p).map Due.time = (agenda.find? p).map Due.time := by
  induction reordered with
  | refl agenda => rfl
  | cons d rest ih =>
    simp only [List.find?_cons]
    split
    · rfl
    · exact ih
  | @swap d e time apart rest =>
    simp only [List.find?_cons]
    cases p d <;> cases p e <;> simp [time]
  | trans front back ih ih' => exact ih'.trans ih

end Agendas

def Finished.told (f : Nat → Nat) (x : Finished) : Operation × Nat × Result :=
  (x.operation.renumber f, x.time, x.effect.result)

namespace World

/-- The same has happened in two worlds, up to the tickets of operations and to the order of what
happened at one instant. -/
structure SoFar (f : Nat → Nat) (w v : World) : Prop where
  clock : v.clock = w.clock
  stores : v.stores.length = w.stores.length
  sound : ∀ i, (w.store i).Sound
  sound' : ∀ i, (v.store i).Sound
  contents : ∀ i, (v.store i).get? = (w.store i).get?
  ended : (v.finished.map (Finished.told id)).Perm (w.finished.map (Finished.told f))
  recorder : w.recorder.Agrees v.recorder

structure Alike (f : Nat → Nat) (w v : World) : Prop extends SoFar f w v where
  agenda : Reordered (w.agenda.map (Due.renumber f)) v.agenda

theorem told_trans (f g : Nat → Nat) {all all' : List Finished}
    (ended : (all'.map (Finished.told id)).Perm (all.map (Finished.told f))) :
    (all'.map (Finished.told g)).Perm (all.map (Finished.told (g ∘ f))) := by
  have renamed := ended.map fun x => (x.1.renumber g, x.2)
  rw [List.map_map, List.map_map] at renamed
  exact renamed

section Relation
variable {f g : Nat → Nat} {w v u : World}

theorem SoFar.of_same (sound : ∀ i, (w.store i).Sound) (clock : v.clock = w.clock)
    (stores : v.stores = w.stores) (finished : v.finished = w.finished)
    (recorder : v.recorder = w.recorder) : SoFar id w v := by
  have store (i : Nat) : v.store i = w.store i := by
    rw [World.store, World.store, stores]
  exact ⟨clock, by rw [stores], sound, fun i => store i ▸ sound i, fun i => by rw [store],
    by rw [finished], recorder ▸ .refl w.recorder⟩

theorem SoFar.refl (sound : ∀ i, (w.store i).Sound) : SoFar id w w :=
  .of_same sound rfl rfl rfl rfl

theorem SoFar.trans (first : SoFar f w v) (second : SoFar g v u) : SoFar (g ∘ f) w u where
  clock := second.clock.trans first.clock
  stores := second.stores.trans first.stores
  sound := first.sound
  sound' := second.sound'
  contents i := (second.contents i).trans (first.contents i)
  ended := second.ended.trans (told_trans f g first.ended)
  recorder := first.recorder.trans second.recorder

theorem SoFar.planned (so : SoFar f w v) (agenda agenda' : List Due) :
    SoFar f { w with agenda := agenda } { v with agenda := agenda' } :=
  ⟨so.clock, so.stores, so.sound, so.sound', so.contents, so.ended, so.recorder⟩

theorem SoFar.rearranged (so : SoFar f w v) {agenda agenda' : List Due}
    (reordered : Reordered (agenda.map (Due.renumber f)) agenda') :
    Alike f { w with agenda := agenda } { v with agenda := agenda' } :=
  ⟨so.planned agenda agenda', reordered⟩

theorem map_renumber_id (agenda : List Due) : agenda.map (Due.renumber id) = agenda := by
  rw [funext renumber_id, List.map_id']

theorem Alike.trans (first : Alike f w v) (second : Alike g v u) : Alike (g ∘ f) w u := by
  refine ⟨first.toSoFar.trans second.toSoFar, ?_⟩
  have agenda := (reordered_renumber g first.agenda).trans second.agenda
  have renumbered : Due.renumber g ∘ Due.renumber f = Due.renumber (g ∘ f) :=
    funext (renumber_comp f g)
  rw [List.map_map, renumbered] at agenda
  exact agenda

end Relation

/-! The end of an operation, and all else that happens while time passes. -/

theorem finish_clock (w : World) (op : Operation) (outcome : Outcome) :
    (w.finish op outcome).clock = w.clock := rfl

theorem finish_finished (w : World) (op : Operation) (outcome : Outcome) :
    (w.finish op outcome).finished = w.finished ++ [⟨op, w.clock, outcome,
      op.handle.effect (w.store op.handle.store) op.started w.clock outcome⟩] := rfl

theorem store_finish (w : World) (op : Operation) (outcome : Outcome) (i : Nat) :
    (w.finish op outcome).store i =
      if op.handle.store = i ∧ i < w.stores.length then
        op.handle.leaves (w.store i) op.started w.clock outcome
      else w.store i := by
  by_cases housed : op.handle.store < w.stores.length
  · rw [finish_store housed]
    by_cases here : op.handle.store = i
    · have inside : i < w.stores.length := here ▸ housed
      simp only [here, inside, and_self, ↓reduceIte]
    · simp only [here, false_and, ↓reduceIte]
  · have outside : ¬(op.handle.store = i ∧ i < w.stores.length) := fun both =>
      housed (both.1 ▸ both.2)
    rw [if_neg outside]
    have stores : (w.finish op outcome).stores = w.stores := by
      unfold finish
      dsimp only
      split
      · exact List.set_eq_of_length_le (Nat.le_of_not_lt housed)
      · rfl
    rw [store, store, stores]

theorem finish_sound {w : World} (sound : ∀ i, (w.store i).Sound) (op : Operation)
    (outcome : Outcome) (i : Nat) : ((w.finish op outcome).store i).Sound := by
  rw [store_finish]
  split
  · exact op.handle.leaves_sound (sound i) op.started w.clock outcome
  · exact sound i

section Time
variable {f : Nat → Nat} {w v : World}

theorem finish_soFar (so : SoFar f w v) (op : Operation) (outcome : Outcome) :
    SoFar f (w.finish op outcome) (v.finish (op.renumber f) outcome) := by
  have effect : op.handle.effect (v.store op.handle.store) op.started v.clock outcome =
      op.handle.effect (w.store op.handle.store) op.started w.clock outcome := by
    rw [so.clock]
    exact op.handle.effect_of_contents (so.sound _) (so.sound' _) (so.contents _) op.started
      w.clock outcome
  constructor
  · exact so.clock
  · rw [finish_stores_length, finish_stores_length, so.stores]
  · exact finish_sound so.sound op outcome
  · exact finish_sound so.sound' (op.renumber f) outcome
  · intro i
    rw [store_finish, store_finish, so.stores, so.clock, Operation.renumber_handle,
      Operation.renumber_started]
    by_cases here : op.handle.store = i ∧ i < w.stores.length
    · rw [if_pos here, if_pos here]
      exact op.handle.leaves_of_contents (so.sound i) (so.sound' i) (so.contents i) op.started
        w.clock outcome
    · rw [if_neg here, if_neg here]
      exact so.contents i
  · have one : Finished.told id ⟨op.renumber f, v.clock, outcome,
        op.handle.effect (v.store op.handle.store) op.started v.clock outcome⟩ =
        Finished.told f ⟨op, w.clock, outcome,
          op.handle.effect (w.store op.handle.store) op.started w.clock outcome⟩ := by
      rw [effect, so.clock]
      rfl
    simp only [finish, List.map_append, List.map_cons, List.map_nil]
    exact so.ended.append (.of_eq (congrArg (fun x => [x]) one))
  · simp only [finish, Operation.renumber_handle, Operation.renumber_started, effect]
    exact Recorder.measures_agree so.recorder (fun _ _ => rfl) (fun _ => rfl) .rfl

theorem fire_soFar (so : SoFar f w v) (d : Due) :
    SoFar f (w.fire d) (v.fire (d.renumber f)) := by
  have passed (happenings happenings' : List Happening) :
      SoFar f { w with clock := d.time, happenings := happenings }
        { v with clock := d.time, happenings := happenings' } :=
    ⟨rfl, so.stores, so.sound, so.sound', so.contents, so.ended, so.recorder⟩
  obtain ⟨time, happening, ending⟩ := d
  cases ending with
  | none => exact passed _ _
  | some e => exact finish_soFar (passed _ _) e.1 e.2

theorem fireUntil_renumber (t : Nat) (agenda : List Due) (so : SoFar f w v) :
    Alike f (fireUntil t agenda w) (fireUntil t (agenda.map (Due.renumber f)) v) := by
  induction agenda generalizing w v with
  | nil => exact so.rearranged (.refl [])
  | cons d rest ih =>
    simp only [fireUntil, List.map_cons]
    by_cases due : d.time ≤ t
    · have due' : (d.renumber f).time ≤ t := due
      rw [if_pos due, if_pos due']
      exact ih (fire_soFar (so.planned _ _) d)
    · have due' : ¬(d.renumber f).time ≤ t := due
      rw [if_neg due, if_neg due']
      exact so.rearranged (.refl _)

end Time

/-! What is apart commutes. -/

theorem finish_other (w : World) (op : Operation) {outcome : Outcome} {n other : String}
    (subject : outcome.subject? = some n) (apart : other ≠ n) (i : Nat) :
    ((w.finish op outcome).store i).get? other = (w.store i).get? other := by
  rw [store_finish]
  split
  · exact op.handle.leaves_other subject op.started w.clock apart (w.store i)
  · rfl

section Apart
variable {w : World} (sound : ∀ i, (w.store i).Sound)

section Finish
variable {op op' : Operation} {outcome outcome' : Outcome} {n n' : String}
  (handle : op'.handle = op.handle) (subject : outcome.subject? = some n)
  (subject' : outcome'.subject? = some n') (apart : n ≠ n')
include subject subject' apart

theorem told_apart :
    Finished.told id ⟨op', w.clock, outcome', op'.handle.effect
      ((w.finish op outcome).store op'.handle.store) op'.started w.clock outcome'⟩ =
    Finished.told id ⟨op', w.clock, outcome', op'.handle.effect
      (w.store op'.handle.store) op'.started w.clock outcome'⟩ := by
  have kept := finish_other w op subject apart.symm op'.handle.store
  have result := (op'.handle.effect_of_subject subject' op'.started w.clock kept).1
  exact congrArg (fun result => (op', w.clock, result)) result

include handle

theorem contents_apart (i : Nat) :
    (((w.finish op' outcome').finish op outcome).store i).get? =
      (((w.finish op outcome).finish op' outcome').store i).get? := by
  simp only [store_finish, finish_stores_length, handle]
  by_cases here : op.handle.store = i ∧ i < w.stores.length
  · simp only [here, and_self, ↓reduceIte]
    exact op.handle.leaves_apart (w.store i) op.started op'.started w.clock subject subject' apart
  · simp only [here, ↓reduceIte]

include sound

theorem recorders_apart :
    ((w.finish op outcome).finish op' outcome').recorder.Agrees
      ((w.finish op' outcome').finish op outcome).recorder := by
  obtain ⟨ticket', h, request', started'⟩ := op'
  obtain rfl : h = op.handle := handle
  let op' : Operation := ⟨ticket', op.handle, request', started'⟩
  have kept := finish_other w op subject apart.symm op.handle.store
  have kept' := finish_other w op' subject' apart op.handle.store
  apply op.handle.measures_apart (w.store op.handle.store) op.started started' w.clock subject
    subject' w.recorder kept kept'
  rw [store_finish, store_finish]
  by_cases housed : op.handle.store = op.handle.store ∧ op.handle.store < w.stores.length
  · rw [if_pos housed, if_pos housed]
    exact op.handle.sizes_apart _ op.started started' w.clock subject subject'
      (sound op.handle.store) apart
  · -- A store that is not there stays empty.
    have outside : w.stores.length ≤ op.handle.store := by
      rw [eq_self, true_and] at housed
      exact Nat.le_of_not_lt housed
    have nothing : w.store op.handle.store = .empty := by
      rw [World.store, List.getD_eq_getElem?_getD, List.getElem?_eq_none outside, Option.getD_none]
    rw [if_neg housed, if_neg housed, nothing]
    exact op.handle.sizes_of_empty op.started started' w.clock subject subject'

theorem finish_apart :
    SoFar id ((w.finish op outcome).finish op' outcome')
      ((w.finish op' outcome').finish op outcome) := by
  constructor
  · rfl
  · simp only [finish_stores_length]
  · exact finish_sound (finish_sound sound op outcome) op' outcome'
  · exact finish_sound (finish_sound sound op' outcome') op outcome
  · exact contents_apart handle subject subject' apart
  · simp only [finish_finished, finish_clock, List.map_append, List.map_cons, List.map_nil,
      List.append_assoc]
    rw [told_apart subject subject' apart, told_apart subject' subject apart.symm]
    exact List.Perm.append_left _ (List.Perm.swap _ _ [])
  · exact recorders_apart sound handle subject subject' apart

end Finish

include sound

theorem fire_apart {d e : Due} (time : d.time = e.time) (apart : d.Apart e) :
    SoFar id ((w.fire d).fire e) ((w.fire e).fire d) := by
  obtain ⟨t, happening, ending⟩ := d
  obtain ⟨t', happening', ending'⟩ := e
  obtain rfl : t = t' := time
  let now : World := { w with clock := t }
  cases ending with
  | none =>
    cases ending' with
    | none => exact .of_same sound rfl rfl rfl rfl
    | some e => exact .of_same (finish_sound (w := now) sound e.1 e.2) rfl rfl rfl rfl
  | some d =>
    cases ending' with
    | none => exact .of_same (finish_sound (w := now) sound d.1 d.2) rfl rfl rfl rfl
    | some e =>
      obtain ⟨handle, n, n', subject, subject', other⟩ := apart d.1 d.2 e.1 e.2 rfl rfl
      have ends : SoFar id ((now.finish d.1 d.2).finish e.1 e.2)
          ((now.finish e.1 e.2).finish d.1 d.2) :=
        finish_apart (w := now) sound handle subject subject' other
      exact ⟨rfl, ends.stores, ends.sound, ends.sound', ends.contents, ends.ended,
        ends.recorder⟩

end Apart

section Passing
variable {f : Nat → Nat} {w v : World}

theorem fire_again (so : SoFar id w v) (d : Due) : SoFar id (w.fire d) (v.fire d) := by
  have fired := fire_soFar so d
  rw [renumber_id] at fired
  exact fired

theorem fireUntil_reordered (t : Nat) {agenda agenda' : List Due}
    (reordered : Reordered agenda agenda') (so : SoFar id w v) :
    Alike id (fireUntil t agenda w) (fireUntil t agenda' v) := by
  -- The worlds are general, for what has changed places leaves different ones behind.
  induction reordered generalizing w v with
  | refl agenda =>
    have same := fireUntil_renumber t agenda so
    rw [map_renumber_id] at same
    exact same
  | @cons d agenda agenda' rest ih =>
    simp only [fireUntil]
    by_cases due : d.time ≤ t
    · rw [if_pos due, if_pos due]
      exact ih (fire_again (so.planned agenda agenda') d)
    · rw [if_neg due, if_neg due]
      apply so.rearranged
      rw [map_renumber_id]
      exact .cons d rest
  | @swap d e time apart rest =>
    simp only [fireUntil]
    rw [← time]
    by_cases due : d.time ≤ t
    · simp only [due, ↓reduceIte]
      have first := fire_apart (w := w) so.sound time apart
      have second := fire_again (fire_again so e) d
      have both : SoFar id ((w.fire d).fire e) ((v.fire e).fire d) := (first.trans second :)
      have same := fireUntil_renumber t rest (both.planned rest rest)
      rw [map_renumber_id] at same
      simp only [fire_with_agenda]
      exact same
    · rw [if_neg due, if_neg due]
      apply so.rearranged
      rw [map_renumber_id]
      exact .swap time apart rest
  | trans front back ih ih' => exact ((ih (.refl so.sound)).trans (ih' so) :)

theorem advanceTo_alike (alike : Alike f w v) (t : Nat) :
    Alike f (w.advanceTo t) (v.advanceTo t) := by
  have renumbered := fireUntil_renumber t w.agenda alike.toSoFar
  have reordered := fireUntil_reordered t alike.agenda (.refl alike.sound')
  have fired : Alike f (fireUntil t w.agenda w) (fireUntil t v.agenda v) :=
    (renumbered.trans reordered :)
  have clock : max v.clock t = max w.clock t := by rw [alike.clock]
  exact ⟨⟨clock, fired.stores, fired.sound, fired.sound', fired.contents, fired.ended,
    fired.recorder⟩, fired.agenda⟩

theorem dueTime_alike (injective : Function.Injective f) (alike : Alike f w v) (ticket : Nat) :
    v.dueTime? (f ticket) = w.dueTime? ticket := by
  have ends (d : Due) : ((d.renumber f).ending.any fun e => e.1.ticket == f ticket) =
      d.ending.any fun e => e.1.ticket == ticket := by
    obtain ⟨time, happening, ending⟩ := d
    cases ending with
    | none => rfl
    | some e =>
      rw [Bool.eq_iff_iff]
      simp only [Due.renumber, Operation.renumber, Option.map_some, Option.any_some, beq_iff_eq]
      exact injective.eq_iff
  unfold dueTime?
  rw [dueTime_reordered alike.agenda, List.find?_map, Option.map_map]
  exact congrArg (fun p => (w.agenda.find? p).map Due.time) (funext ends)

theorem await_alike (injective : Function.Injective f) (alike : Alike f w v) (ticket : Nat) :
    Alike f (w.await ticket) (v.await (f ticket)) := by
  unfold await
  rw [dueTime_alike injective alike]
  split
  · exact advanceTo_alike alike _
  · exact alike

theorem arrange_alike (alike : Alike f w v) (d : Due) :
    Alike f (w.arrange d) (v.arrange (d.renumber f)) := by
  unfold arrange
  by_cases now : d.time = w.clock
  · have now' : (d.renumber f).time = v.clock := now.trans alike.clock.symm
    rw [if_pos now, if_pos now']
    refine ⟨fire_soFar alike.toSoFar d, ?_⟩
    rw [fire_agenda, fire_agenda]
    exact alike.agenda
  · have now' : ¬(d.renumber f).time = v.clock := alike.clock ▸ now
    rw [if_neg now, if_neg now']
    apply alike.toSoFar.rearranged
    rw [← schedule_renumber]
    exact schedule_reordered _ alike.agenda

theorem arranged_alike (alike : Alike f w v) (dues : List Due) :
    Alike f (dues.foldl arrange w) ((dues.map (Due.renumber f)).foldl arrange v) := by
  induction dues generalizing w v with
  | nil => exact alike
  | cons d rest ih => exact ih (arrange_alike alike d)

end Passing

/-! What is put on the agenda may change places, if it is apart. -/

section Arranging
variable {w v : World}

theorem Alike.of_same (so : SoFar id w v) (agenda : v.agenda = w.agenda) : Alike id w v := by
  refine ⟨so, ?_⟩
  rw [map_renumber_id, agenda]
  exact .refl w.agenda

theorem Alike.refl (sound : ∀ i, (w.store i).Sound) : Alike id w w := .of_same (.refl sound) rfl

theorem Alike.symm (alike : Alike id w v) : Alike id v w := by
  refine ⟨⟨alike.clock.symm, alike.stores.symm, alike.sound', alike.sound,
    fun i => (alike.contents i).symm, alike.ended.symm, alike.recorder.symm⟩, ?_⟩
  have agenda := alike.agenda.symm
  rw [map_renumber_id] at agenda ⊢
  exact agenda

theorem arranged_again (alike : Alike id w v) (dues : List Due) :
    Alike id (dues.foldl arrange w) (dues.foldl arrange v) := by
  have arranged := arranged_alike alike dues
  rw [map_renumber_id] at arranged
  exact arranged

theorem arranged_sound (sound : ∀ i, (w.store i).Sound) (dues : List Due) (i : Nat) :
    ((dues.foldl arrange w).store i).Sound :=
  (arranged_again (.refl sound) dues).sound i

theorem arrange_now {d : Due} (now : d.time = w.clock) : w.arrange d = w.fire d := if_pos now

theorem arrange_later {d : Due} (later : d.time ≠ w.clock) :
    w.arrange d = { w with agenda := schedule d w.agenda } := if_neg later

theorem arrange_now_later {d e : Due} (now : d.time = w.clock) (later : e.time ≠ w.clock) :
    (w.arrange d).arrange e = (w.arrange e).arrange d := by
  have still : e.time ≠ (w.fire d).clock := by
    rw [fire_clock, now]
    exact later
  have still' : d.time = { w with agenda := schedule e w.agenda }.clock := now
  rw [arrange_now now, arrange_later later, arrange_later still, arrange_now still', fire_agenda]
  exact (fire_with_agenda w _ d).symm

theorem arrange_apart (sound : ∀ i, (w.store i).Sound) {d e : Due} (apart : d.Apart e) :
    Alike id ((w.arrange d).arrange e) ((w.arrange e).arrange d) := by
  have sound' : ∀ i, (((w.arrange d).arrange e).store i).Sound :=
    arranged_sound sound [d, e]
  by_cases now : d.time = w.clock <;> by_cases now' : e.time = w.clock
  · have again : e.time = (w.fire d).clock := by rw [fire_clock, now, now']
    have again' : d.time = (w.fire e).clock := by rw [fire_clock, now, now']
    rw [arrange_now now, arrange_now now', arrange_now again, arrange_now again']
    exact .of_same (fire_apart sound (now.trans now'.symm) apart) (by simp only [fire_agenda])
  · rw [← arrange_now_later now now']
    exact .refl sound'
  · rw [arrange_now_later now' now]
    exact .refl sound'
  · have still : e.time ≠ { w with agenda := schedule d w.agenda }.clock := now'
    have still' : d.time ≠ { w with agenda := schedule e w.agenda }.clock := now
    rw [arrange_later now, arrange_later now', arrange_later still, arrange_later still']
    apply (SoFar.refl sound).rearranged
    rw [map_renumber_id]
    exact schedule_apart apart w.agenda

theorem arranged_apart (sound : ∀ i, (w.store i).Sound) {d : Due} {dues : List Due}
    (apart : ∀ e ∈ dues, d.Apart e) :
    Alike id (dues.foldl arrange (w.arrange d)) ((dues.foldl arrange w).arrange d) := by
  induction dues generalizing w with
  | nil => exact .refl (arranged_sound sound [d])
  | cons e rest ih =>
    have swapped := arrange_apart sound (apart e List.mem_cons_self)
    have behind := ih (arranged_sound sound [e]) fun x member =>
      apart x (List.mem_cons_of_mem e member)
    exact ((arranged_again swapped rest).trans behind :)

theorem arranged_swap (sound : ∀ i, (w.store i).Sound) {dues dues' : List Due}
    (apart : ∀ d ∈ dues, ∀ e ∈ dues', d.Apart e) :
    Alike id (dues'.foldl arrange (dues.foldl arrange w))
      (dues.foldl arrange (dues'.foldl arrange w)) := by
  induction dues generalizing w with
  | nil => exact .refl (arranged_sound sound dues')
  | cons d rest ih =>
    have others := ih (arranged_sound sound [d]) fun x member =>
      apart x (List.mem_cons_of_mem d member)
    have first := arranged_apart sound (apart d List.mem_cons_self)
    exact (others.trans (arranged_again first rest) :)

end Arranging

end World
end SecretKeeper.Cache

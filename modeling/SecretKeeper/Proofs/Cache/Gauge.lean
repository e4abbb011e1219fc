import SecretKeeper.Proofs.Cache.Balance
import SecretKeeper.Proofs.Cache.Books

/-!
The gauge of a mount point follows its store. As long as no mount point gets a second store, the
gauge is the number of kept secrets at every moment: each write to the store reports the size that
it leaves, and nothing else does.
-/
namespace SecretKeeper.Cache

open Metrics

def Step.mountpoint? : Step → Option String
  | .create _ _ _ log => some log.mountpoint
  | _ => none

namespace Handle
variable (h : Handle) (s : Store) (m : String)

@[simp] theorem entriesAfter_entries (w : Write) (now : Nat) :
    (h.entriesAfter w now s).entries? m =
      if m = h.log.mountpoint then some (w.apply now s).size else none := rfl

@[simp] theorem counted_entries (mountpoint : String) (c : Counter) :
    (Measurement.counted mountpoint c).entries? m = none := rfl

@[simp] theorem lookupCount_entries (outcome : LookupOutcome) :
    (h.lookupCount outcome).entries? m = none := rfl

@[simp] theorem listingCount_entries (fromBackend : Bool) :
    (h.listingCount fromBackend).entries? m = none := rfl

@[simp] theorem waitMeasurements_entries (operation : String) (verdict : Verdict α) :
    (h.waitMeasurements operation verdict).filterMap (·.entries? m) = [] := by
  cases verdict <;> rfl

@[simp] theorem fallback_entries (now : Nat) (name : String) (notes : List Note)
    (measurements : List Measurement) :
    (h.fallback s now name notes measurements).measurements.filterMap (·.entries? m) =
      measurements.filterMap (·.entries? m) := by
  unfold fallback
  cases s.get? name <;> simp

@[simp] theorem fallback_write (now : Nat) (name : String) (notes : List Note)
    (measurements : List Measurement) :
    (h.fallback s now name notes measurements).write = none :=
  (h.fallback_reads s now name notes measurements).2

theorem effect_entries (started now : Nat) (outcome : Outcome) :
    let e := h.effect s started now outcome
    (e.measurements.filterMap (·.entries? m)).getLast? =
      if m = h.log.mountpoint then e.write.map fun w => (w.apply now s).size else none := by
  intro e
  cases outcome with
  | fetched name verdict =>
    simp only [e, effect, lookupEffect]
    cases verdict with
    | answered secret =>
      by_cases own : secret.name = name
      · by_cases here : m = h.log.mountpoint <;> simp [own, here, List.filterMap_cons]
      · simp [own]
    | unusable | failed | late => simp
  | listed verdict =>
    simp only [e, effect, listingEffect]
    cases verdict with
    | answered secrets =>
      by_cases here : m = h.log.mountpoint <;> simp [here, List.filterMap_cons]
    | unusable | failed | late => simp
  | added | cleared => by_cases here : m = h.log.mountpoint <;> simp [e, effect, here]
  | fresh | sized | emptiness | info => simp [e, effect]

/-- An operation keeps the gauge of its own mount point at the size of its store, and leaves all
other gauges as they are. -/
theorem effect_gauge (r : Recorder) (started now : Nat) (outcome : Outcome) :
    let after := (h.effect s started now outcome).measurements.foldl Recorder.measure r
    (m ≠ h.log.mountpoint → after.gauge? m = r.gauge? m) ∧
      (m = h.log.mountpoint → r.gauge? m = some s.size →
        after.gauge? m = some (h.leaves s started now outcome).size) := by
  intro after
  have reported := h.effect_entries s m started now outcome
  simp only [after, Recorder.gauge_measures, reported]
  refine ⟨fun other => by rw [if_neg other, Option.none_or], ?_⟩
  intro own before
  rw [if_pos own, before, leaves]
  cases (h.effect s started now outcome).write <;> rfl

end Handle

theorem place_concat {all : List α} {last a : α} {i : Nat}
    (here : (all ++ [last])[i]? = some a) : all[i]? = some a ∨ (i = all.length ∧ last = a) := by
  rcases Nat.lt_trichotomy i all.length with old | rfl | outside
  · rw [List.getElem?_append_left old] at here
    exact Or.inl here
  · rw [List.getElem?_concat_length] at here
    exact Or.inr ⟨rfl, Option.some.inj here⟩
  · rw [List.getElem?_eq_none (by simpa using outside)] at here
    cases here

namespace World

/-- A moment of a run, with the mount points of the caches that were created up to it. -/
inductive Reached (backends : List (String × Backend)) : List String → World → Prop where
  | start : Reached backends [] (start backends)
  | create {labels : List String} {w : World} (before : Reached backends labels w)
      (id backend : String) (timing : Timing) (log : LogSettings) :
      Reached backends (labels ++ [log.mountpoint]) (w.create id backend timing log)
  | move {labels : List String} {w v : World} (before : Reached backends labels w)
      (move : Move w v) (noneNew : v.stores.length = w.stores.length) : Reached backends labels v

def Gauged (labels : List String) (b : Books) : Prop :=
  labels.length = b.stores.length ∧
    ∀ i m, labels[i]? = some m → b.recorder.gauge? m = some (b.stores.getD i .empty).size

structure Labelled (labels : List String) (w : World) : Prop where
  caches : ∀ e ∈ w.caches, labels[e.2.store]? = some e.2.log.mountpoint
  operations : ∀ op ∈ w.operations, labels[op.handle.store]? = some op.handle.log.mountpoint

section Labels
variable {labels : List String}

theorem reached_moment {backends : List (String × Backend)} {w : World}
    (reached : Reached backends labels w) : Moment backends w := by
  induction reached with
  | start => exact .refl
  | create before id backend timing log ih => exact ih.tail (.create _ id backend timing log)
  | move before move noneNew ih => exact ih.tail move

theorem moment_reached {backends : List (String × Backend)} {w : World}
    (moment : Moment backends w) : ∃ labels, Reached backends labels w := by
  induction moment with
  | refl => exact ⟨[], .start⟩
  | @tail w v _ move ih =>
    obtain ⟨labels, before⟩ := ih
    rcases move_stores move with noneNew | ⟨id, backend, timing, log, rfl⟩
    · exact ⟨labels, .move before move noneNew⟩
    · exact ⟨_, .create before id backend timing log⟩

theorem finish_gauged {w : World} {op : Operation} (distinct : labels.Nodup)
    (gauged : Gauged labels w.books)
    (own : labels[op.handle.store]? = some op.handle.log.mountpoint) (outcome : Outcome) :
    Gauged labels (w.finish op outcome).books := by
  obtain ⟨length, gauges⟩ := gauged
  have inside := (List.getElem?_eq_some_iff.mp own).1
  have housed : op.handle.store < w.stores.length := length ▸ inside
  refine ⟨length.trans (finish_stores_length w op outcome).symm, ?_⟩
  intro i m here
  have effect := op.handle.effect_gauge (w.store op.handle.store) m w.recorder op.started w.clock
    outcome
  have store := finish_store housed outcome i
  simp only [books] at gauges ⊢
  rw [show (w.finish op outcome).stores.getD i .empty = (w.finish op outcome).store i from rfl,
    store]
  by_cases same : op.handle.store = i
  · subst same
    rw [own] at here
    obtain rfl := Option.some.inj here
    rw [if_pos rfl]
    exact effect.2 rfl (gauges _ _ own)
  · have other : m ≠ op.handle.log.mountpoint := by
      rintro rfl
      exact same ((List.getElem?_inj inside distinct).mp (own.trans here.symm))
    rw [if_neg same]
    exact (effect.1 other).trans (gauges i m here)

theorem create_gauged {w : World} {log : LogSettings}
    (distinct : (labels ++ [log.mountpoint]).Nodup) (gauged : Gauged labels w.books)
    (id backend : String) (timing : Timing) :
    Gauged (labels ++ [log.mountpoint]) (w.create id backend timing log).books := by
  obtain ⟨length, gauges⟩ := gauged
  refine ⟨by simp [length, books, create], ?_⟩
  intro i m here
  have gauge : (w.create id backend timing log).recorder.gauge? m =
      (if m = log.mountpoint then some 0 else none).or (w.recorder.gauge? m) := by
    simp only [create, Recorder.gauge_measure, Measurement.entries?, Option.none_or]
  have store := create_store w id backend timing log i
  simp only [World.store] at store
  simp only [books] at gauges length ⊢
  rw [gauge, store]
  rcases place_concat here with old | ⟨rfl, rfl⟩
  · have other : m ≠ log.mountpoint := by
      rintro rfl
      exact (List.nodup_append.mp distinct).2.2 _ (List.mem_of_getElem? old) _
        (List.mem_singleton_self _) rfl
    rw [if_neg other, Option.none_or]
    exact gauges i m old
  · rw [if_pos rfl, length, List.getD_eq_getElem?_getD, List.getElem?_eq_none (Nat.le_refl _)]
    rfl

theorem move_labelled {w v : World} (labelled : Labelled labels w) (move : Move w v)
    (noneNew : v.stores.length = w.stores.length) : Labelled labels v := by
  cases move with
  | create => simp [create] at noneNew
  | clone id source h known =>
    refine ⟨?_, labelled.operations⟩
    intro e member
    rcases mem_assign member with rfl | old
    · exact labelled.caches (source, h) (mem_of_lookup known)
    · exact labelled.caches e old
  | begin id h request known =>
    constructor
    · rw [(begin_frame w h request).2.1]
      exact labelled.caches
    · intro op member
      rcases List.mem_cons.mp ((begin_operations w h request).mem_iff.mp member) with rfl | old
      · exact labelled.caches _ (mem_of_lookup known)
      · exact labelled.operations op old
  | track | pass => exact ⟨labelled.caches, labelled.operations⟩
  | fire d rest next =>
    constructor
    · rw [fire_caches]
      exact labelled.caches
    · intro op member
      exact labelled.operations op ((next_operations next).mem_iff.mp member)

theorem create_labelled {w : World} (labelled : Labelled labels w)
    (length : labels.length = w.stores.length) (id backend : String) (timing : Timing)
    (log : LogSettings) :
    Labelled (labels ++ [log.mountpoint]) (w.create id backend timing log) := by
  have kept {i : Nat} {m : String} (own : labels[i]? = some m) :
      (labels ++ [log.mountpoint])[i]? = some m := by
    rw [List.getElem?_append_left (List.getElem?_eq_some_iff.mp own).1, own]
  refine ⟨?_, fun op member => kept (labelled.operations op member)⟩
  intro e member
  rcases mem_assign member with rfl | old
  · simp [← length]
  · exact kept (labelled.caches e old)

theorem reached_gauged {backends : List (String × Backend)} {w : World}
    (reached : Reached backends labels w) (distinct : labels.Nodup) :
    Labelled labels w ∧ Gauged labels w.books := by
  induction reached with
  | start =>
    refine ⟨⟨by simp [start], by simp [operations, pending, start]⟩, rfl, ?_⟩
    intro i m here
    cases here
  | create before id backend timing log ih =>
    obtain ⟨labelled, gauged⟩ := ih (List.nodup_append.mp distinct).1
    exact ⟨create_labelled labelled gauged.1 id backend timing log,
      create_gauged distinct gauged id backend timing⟩
  | move before move noneNew ih =>
    obtain ⟨labelled, gauged⟩ := ih distinct
    have still := move_labelled labelled move noneNew
    refine ⟨still, move_books move noneNew ?_ gauged⟩
    intro u op outcome member books
    exact finish_gauged distinct books (still.operations op member) outcome

/-! Only the step that creates a cache makes a store. -/

theorem move_stores_le {w v : World} (move : Move w v) : w.stores.length ≤ v.stores.length := by
  rcases move_stores move with noneNew | ⟨id, backend, timing, log, rfl⟩
  · exact Nat.le_of_eq noneNew.symm
  · simp [create]

theorem later_stores_le {w v : World} (later : Later w v) :
    w.stores.length ≤ v.stores.length := by
  induction later with
  | refl => exact Nat.le_refl _
  | tail _ move ih => exact Nat.le_trans ih (move_stores_le move)

theorem reached_later {backends : List (String × Backend)} {w v : World}
    (before : Reached backends labels w) (later : Later w v)
    (noneNew : v.stores.length = w.stores.length) : Reached backends labels v := by
  induction later with
  | refl => exact before
  | tail first move ih =>
    have grown := later_stores_le first
    have last := move_stores_le move
    exact .move (ih (by omega)) move (by omega)

theorem fireUntil_stores_length (t : Nat) (agenda : List Due) (w : World) :
    (fireUntil t agenda w).stores.length = w.stores.length := by
  induction agenda generalizing w with
  | nil => rfl
  | cons d rest ih =>
    unfold fireUntil
    split
    · exact (ih _).trans (fire_stores_length _ d)
    · rfl

theorem await_stores_length (w : World) (ticket : Nat) :
    (w.await ticket).stores.length = w.stores.length := by
  unfold await
  split
  · exact fireUntil_stores_length _ _ _
  · rfl

theorem reached_step {backends : List (String × Backend)} {w : World}
    (before : Reached backends labels w) (settled : Settled w) (s : Step) :
    Reached backends (labels ++ s.mountpoint?.toList) (w.step s).1 := by
  have later := (step_later (moment_timely (reached_moment before)) settled s).1
  have noneNew (same : (w.step s).1.stores.length = w.stores.length) :
      Reached backends (labels ++ []) (w.step s).1 := by
    rw [List.append_nil]
    exact reached_later before later same
  cases s with
  | create id backend timing log => exact .create before id backend timing log
  | clone id source =>
    apply noneNew
    simp only [step]
    split <;> rfl
  | run id request =>
    apply noneNew
    simp only [step]
    split
    · exact (await_stores_length _ _).trans (begin_stores_length w _ request)
    · rfl
  | start name id request =>
    apply noneNew
    simp only [step]
    split
    · exact begin_stores_length w _ request
    · rfl
  | join name =>
    apply noneNew
    simp only [step]
    split
    · exact await_stores_length w _
    · rfl
  | sleep nanos | jump nanos =>
    apply noneNew
    exact fireUntil_stores_length _ _ w
  | metrics => exact noneNew rfl

theorem reached_run {backends : List (String × Backend)} {w : World}
    (before : Reached backends labels w) (settled : Settled w) (steps : List Step) :
    Reached backends (labels ++ steps.filterMap Step.mountpoint?) (w.run steps).1 := by
  induction steps generalizing w labels with
  | nil =>
    rw [List.filterMap_nil, List.append_nil]
    exact before
  | cons s rest ih =>
    have still := (step_later (moment_timely (reached_moment before)) settled s).2
    have all := ih (reached_step before settled s) still
    rw [List.append_assoc, ← filterMap_first] at all
    exact all

end Labels

theorem after_reached (backends : List (String × Backend)) (steps : List Step) :
    Reached backends (steps.filterMap Step.mountpoint?) (after backends steps) :=
  reached_run .start (start_settled backends) steps

def showsGauge? (w : World) (m : String) : Option Nat := shownGauge? w.recorder.snapshot m

/-- The gauge of each cache is the number of secrets in its store, in the recorder and, as far as
a floating-point number goes, in a snapshot. -/
def GaugesTrack (w : World) : Prop :=
  ∀ id h, (id, h) ∈ w.caches →
    let size := (w.store h.store).size
    w.recorder.gauge? h.log.mountpoint = some size ∧
      w.showsGauge? h.log.mountpoint = some (roundToFloat size) ∧
      (size ≤ 9007199254740992 → w.showsGauge? h.log.mountpoint = some size)

/-- Every moment is reached with the mount points of the caches created up to it. If they differ,
all gauges track their stores: at every moment, and so after every step of a script and whenever an
operation in the background ends. -/
theorem gauges_track_stores (backends : List (String × Backend)) :
    (∀ w, Moment backends w → ∃ labels, Reached backends labels w) ∧
    (∀ labels w, Reached backends labels w → labels.Nodup → w.GaugesTrack) ∧
    ∀ steps, (steps.filterMap Step.mountpoint?).Nodup → (after backends steps).GaugesTrack := by
  have tracked : ∀ labels w, Reached backends labels w → labels.Nodup → w.GaugesTrack := by
    intro labels w reached distinct id h known size
    obtain ⟨labelled, _, gauges⟩ := reached_gauged reached distinct
    have gauge := gauges h.store _ (labelled.caches _ known)
    have shown := Recorder.shownGauge_snapshot (moment_counted (reached_moment reached)).sound
      h.log.mountpoint
    simp only [books] at gauge
    rw [gauge] at shown
    refine ⟨gauge, shown, fun small => shown.trans ?_⟩
    rw [Option.map_some]
    exact congrArg some (roundToFloat_of_le small)
  exact ⟨fun w => moment_reached, tracked,
    fun steps distinct => tracked _ _ (after_reached backends steps) distinct⟩

/-- Two mount points, one of them with a copy of its cache. A listing with two secrets of one name
ends while a rejected lookup waits; then one listing fails, and the other cache is cleared. -/
theorem gauges_track_stores_of_copies :
    let named := fun name content => Secret.create name (.ofText content) .epoch
    let backends := [("b", { Backend.blank with
      fetches := [.after (milliseconds 5) (.value (named "z" "foreign"))]
      listings := [.after (milliseconds 2)
        (.value [named "a" "first", named "b" "", named "a" "last"])] })]
    let mounted := fun mountpoint => { LogSettings.default with mountpoint }
    let steps := [.create "c" "b" (.ofMillis 0 10 20) (mounted "/m"),
      .create "d" "b" (.ofMillis 0 10 20) (mounted "/n"), .clone "e" "c",
      .start "slow" "c" (.lookup "y"), .run "e" .listing,
      .run "c" (.add (named "x" "")), .run "d" (.add (named "x" "")), .run "d" .clear,
      .join "slow", .run "e" .listing]
    let w := after backends steps
    (steps.filterMap Step.mountpoint?).Nodup ∧ w.GaugesTrack ∧
      w.showsGauge? "/m" = some 3 ∧ w.showsGauge? "/n" = some 0 := by
  intro named backends mounted steps w
  have distinct : (steps.filterMap Step.mountpoint?).Nodup := by decide
  have tracked : w.GaugesTrack := (gauges_track_stores backends).2.2 steps distinct
  have known : ("e", ⟨0, "b", .ofMillis 0 10 20, mounted "/m"⟩) ∈ w.caches := by decide +kernel
  have other : ("d", ⟨1, "b", .ofMillis 0 10 20, mounted "/n"⟩) ∈ w.caches := by decide +kernel
  have three : (w.store 0).size = 3 := by decide +kernel
  have none : (w.store 1).size = 0 := by decide +kernel
  obtain ⟨_, _, shown⟩ := tracked _ _ known
  obtain ⟨_, _, empty⟩ := tracked _ _ other
  rw [three] at shown
  rw [none] at empty
  exact ⟨distinct, tracked, shown (by decide), empty (by decide)⟩

end World
end SecretKeeper.Cache

import Mathlib.Data.List.Infix
import Mathlib.Data.List.Forall2
import SecretKeeper.Metrics.Session
import SecretKeeper.Proofs.Metrics.Rounding

/-!
Mount points do not touch each other's series. What a snapshot shows of a mount point is what it
would show if nothing had been reported for any other, and that follows from the steps: how often
each counter was reported under its label, and which number was reported last. Descriptions are
about all series, whenever they are given.
-/
namespace SecretKeeper.Metrics

theorem split_unique {α : Type} {q : α → Bool} {front back front' back' : List α}
    (same : front ++ back = front' ++ back') (before : ∀ a ∈ front, q a) (after : ∀ a ∈ back, ¬q a)
    (before' : ∀ a ∈ front', q a) (after' : ∀ a ∈ back', ¬q a) : front = front' ∧ back = back' := by
  have fronts := congrArg (List.filter q) same
  have backs := congrArg (List.filter fun a => !q a) same
  have none {l : List α} (all : ∀ a ∈ l, q a) : (l.filter fun a => !q a) = [] :=
    List.filter_eq_nil_iff.mpr fun a member => by simp [all a member]
  have whole {l : List α} (all : ∀ a ∈ l, ¬q a) : (l.filter fun a => !q a) = l :=
    List.filter_eq_self.mpr fun a member => by simp [all a member]
  rw [List.filter_append, List.filter_append, List.filter_eq_self.mpr before,
    List.filter_eq_self.mpr before', List.filter_eq_nil_iff.mpr after,
    List.filter_eq_nil_iff.mpr after', List.append_nil, List.append_nil] at fronts
  rw [List.filter_append, List.filter_append, none before, none before', whole after,
    whole after'] at backs
  exact ⟨fronts, backs⟩

/-- It is the same to sort and then to select, because sorting keeps the order of equals. -/
theorem mergeSort_filter {α : Type} {le : α → α → Bool}
    (trans : ∀ a b c, le a b → le b c → le a c) (total : ∀ a b, le a b || le b a) (p : α → Bool)
    (l : List α) : (l.mergeSort le).filter p = (l.filter p).mergeSort le := by
  induction l with
  | nil => simp
  | cons a rest ih =>
    obtain ⟨front, back, whole, others, above⟩ := List.mergeSort_cons trans total a rest
    have parts : front.filter p ++ back.filter p = (rest.filter p).mergeSort le := by
      rw [← List.filter_append, ← others, ih]
    rw [whole, List.filter_append, List.filter_cons, List.filter_cons]
    by_cases kept : p a
    · obtain ⟨front', back', whole', others', above'⟩ :=
        List.mergeSort_cons trans total a (rest.filter p)
      have sorted := List.pairwise_mergeSort trans total (a :: rest)
      have sorted' := List.pairwise_mergeSort trans total (a :: rest.filter p)
      rw [whole] at sorted
      rw [whole'] at sorted'
      have below := (List.pairwise_cons.mp (List.pairwise_append.mp sorted).2.1).1
      have below' := (List.pairwise_cons.mp (List.pairwise_append.mp sorted').2.1).1
      obtain ⟨fronts, backs⟩ := split_unique (q := fun b => !le a b) (parts.trans others')
        (fun b member => above b (List.mem_of_mem_filter member))
        (fun b member => by simp [below b (List.mem_of_mem_filter member)]) above'
        (fun b member => by simp [below' b member])
      rw [if_pos kept, if_pos kept, whole', fronts, backs]
    · rw [if_neg kept, if_neg kept, parts]

theorem alter_filter {κ : Type} [DecidableEq κ] (p : κ → Bool) (key : κ) (f : Option Nat → Nat)
    (series : List (κ × Nat)) :
    (alter key f series).filter (fun e => p e.1) =
      if p key then alter key f (series.filter fun e => p e.1)
      else series.filter fun e => p e.1 := by
  induction series with
  | nil => cases own : p key <;> simp [alter, own]
  | cons first rest ih =>
    obtain ⟨k, n⟩ := first
    by_cases here : k = key
    · subst here
      cases own : p k <;> simp [alter, own]
    · cases other : p k <;> cases own : p key <;> simp [alter, here, other, own] at ih ⊢ <;>
        exact ih

def Measurement.concerns (m : String) : Measurement → Bool
  | .described => true
  | .counted mountpoint _ => mountpoint = m
  | .entries mountpoint _ => mountpoint = m

def Sample.isOf (m : String) (s : Sample) : Bool := s.labels.lookup "mountpoint" = some m

namespace Recorder

def of (r : Recorder) (m : String) : Recorder :=
  ⟨r.counts.filter fun e => e.1.1 = m, r.gauges.filter fun e => e.1 = m, r.isDescribed⟩

theorem measure_of (r : Recorder) (x : Measurement) (m : String) :
    (r.measure x).of m = if x.concerns m then (r.of m).measure x else r.of m := by
  cases x with
  | described => rfl
  | counted mountpoint c =>
    have counts := alter_filter (fun key : String × Counter => decide (key.1 = m)) (mountpoint, c)
      (fun n => n.getD 0 + 1) r.counts
    simp only [of, measure, counts, Measurement.concerns]
    by_cases own : mountpoint = m <;> simp only [own, decide_true, decide_false, ↓reduceIte,
      Bool.false_eq_true]
  | entries mountpoint n =>
    have gauges := alter_filter (fun key : String => decide (key = m)) mountpoint (fun _ => n)
      r.gauges
    simp only [of, measure, gauges, Measurement.concerns]
    by_cases own : mountpoint = m <;> simp only [own, decide_true, decide_false, ↓reduceIte,
      Bool.false_eq_true]

theorem measures_of (r : Recorder) (all : List Measurement) (m : String) :
    (all.foldl measure r).of m = (all.filter (·.concerns m)).foldl measure (r.of m) := by
  induction all generalizing r with
  | nil => rfl
  | cons x rest ih =>
    rw [List.foldl_cons, ih, measure_of, List.filter_cons]
    split <;> rfl

theorem snapshot_of (r : Recorder) (m : String) :
    r.snapshot.filter (·.isOf m) = (r.of m).snapshot := by
  have trans (a b c : Sample) : decide (a.orderKey ≤ b.orderKey) →
      decide (b.orderKey ≤ c.orderKey) → decide (a.orderKey ≤ c.orderKey) := by
    simp only [decide_eq_true_eq]
    exact String.le_trans
  have total (a b : Sample) :
      decide (a.orderKey ≤ b.orderKey) || decide (b.orderKey ≤ a.orderKey) := by
    simp only [Bool.or_eq_true, decide_eq_true_eq]
    exact String.le_total _ _
  have counter : (Sample.isOf m) ∘ counterSample r.isDescribed =
      fun e : (String × Counter) × Nat => decide (e.1.1 = m) := by
    funext e
    simp [Sample.isOf, counterSample]
  have gauge : (Sample.isOf m) ∘ gaugeSample r.isDescribed =
      fun e : String × Nat => decide (e.1 = m) := by
    funext e
    simp [Sample.isOf, gaugeSample]
  rw [snapshot, mergeSort_filter trans total, List.filter_append, List.filter_map, List.filter_map,
    counter, gauge]
  rfl

theorem counts_measures (r : Recorder) (all : List Measurement) (m : String) (c : Counter) :
    (all.foldl measure r).counts.lookup (m, c) =
      if all.count (.counted m c) = 0 then r.counts.lookup (m, c)
      else some (r.count m c + all.count (.counted m c)) := by
  induction all generalizing r with
  | nil => rfl
  | cons x rest ih =>
    have known : (r.measure x).counts.lookup (m, c) =
        if x = .counted m c then some (r.count m c + 1) else r.counts.lookup (m, c) := by
      cases x with
      | described | entries => simp [measure]
      | counted mountpoint c' =>
        simp only [measure, lookup_alter, Measurement.counted.injEq, Prod.mk.injEq]
        by_cases same : m = mountpoint ∧ c = c'
        · obtain ⟨rfl, rfl⟩ := same
          simp [count]
        · rw [if_neg same, if_neg fun other => same ⟨other.1.symm, other.2.symm⟩]
    rw [List.foldl_cons, ih, known, count_measure, List.count_cons]
    by_cases own : x = .counted m c
    · simp only [own, ↓reduceIte, beq_self_eq_true]
      split <;> simp <;> omega
    · simp only [own, ↓reduceIte, beq_iff_eq, Nat.add_zero]

theorem isDescribed_measures (r : Recorder) (all : List Measurement) :
    (all.foldl measure r).isDescribed = (r.isDescribed || decide (.described ∈ all)) := by
  induction all generalizing r with
  | nil => simp
  | cons x rest ih =>
    rw [List.foldl_cons, ih]
    cases x <;> simp [measure]

section Members
variable {r : Recorder} (sound : r.Sound)
include sound

theorem mem_snapshot (s : Sample) :
    s ∈ r.snapshot ↔
      (∃ m c n, r.counts.lookup (m, c) = some n ∧ s = counterSample r.isDescribed ((m, c), n)) ∨
        ∃ m n, r.gauge? m = some n ∧ s = gaugeSample r.isDescribed (m, n) := by
  have counts (m : String) (c : Counter) (n : Nat) :
      r.counts.lookup (m, c) = some n ↔ ((m, c), n) ∈ r.counts :=
    lookup_eq_some_iff_mem sound.counts
  have gauges (m : String) (n : Nat) : r.gauges.lookup m = some n ↔ (m, n) ∈ r.gauges :=
    lookup_eq_some_iff_mem sound.gauges
  simp only [gauge?, counts, gauges, snapshot, List.mem_mergeSort, List.mem_append, List.mem_map,
    Prod.exists, eq_comm (a := s)]

theorem snapshot_distinct :
    r.snapshot.Pairwise fun s t => (s.name, s.labels) ≠ (t.name, t.labels) := by
  have apart : (r.counts.map (counterSample r.isDescribed) ++
      r.gauges.map (gaugeSample r.isDescribed)).Pairwise
        fun s t => (s.name, s.labels) ≠ (t.name, t.labels) := by
    refine List.pairwise_append.mpr ⟨?_, ?_, ?_⟩
    · refine List.pairwise_map.mpr ((List.pairwise_map.mp sound.counts).imp ?_)
      rintro ⟨⟨m, c⟩, n⟩ ⟨⟨m', c'⟩, n'⟩ other same
      simp only [counterSample, Prod.mk.injEq, List.cons.injEq, true_and, and_true] at same
      obtain ⟨name, mountpoint, label⟩ := same
      exact other (Prod.ext mountpoint (Counter.eq_of_series name label))
    · refine List.pairwise_map.mpr ((List.pairwise_map.mp sound.gauges).imp ?_)
      rintro ⟨m, n⟩ ⟨m', n'⟩ other same
      simp only [gaugeSample, Prod.mk.injEq, List.cons.injEq, true_and, and_true] at same
      exact other same
    · intro s counter t gauge same
      obtain ⟨e, _, rfl⟩ := List.mem_map.mp counter
      obtain ⟨e', _, rfl⟩ := List.mem_map.mp gauge
      exact e.1.2.name_ne_gauge (congrArg Prod.fst same)
  refine (List.mergeSort_perm _ _).symm.pairwise apart ?_
  exact fun other same => other same.symm

end Members
end Recorder

namespace Step

def report? (label : String) : Step → Option Measurement
  | .relabel _ => none
  | .describe => some .described
  | .count c => some (.counted label c)
  | .entries n => some (.entries label n)

def entries? : Step → Option Nat
  | .entries n => some n
  | _ => none

end Step

namespace Session

def after (steps : List Step) : Session := steps.foldl step start

def reports (label : String) : List Step → List Measurement
  | [] => []
  | .relabel mountpoint :: rest => reports mountpoint rest
  | s :: rest => (s.report? label).toList ++ reports label rest

/-- The steps that report under one label, those that set this label, and the descriptions. -/
def keep (m label : String) : List Step → List Step
  | [] => []
  | .relabel mountpoint :: rest =>
    if mountpoint = m then .relabel mountpoint :: keep m mountpoint rest else keep m mountpoint rest
  | .describe :: rest => .describe :: keep m label rest
  | s :: rest => if label = m then s :: keep m label rest else keep m label rest

/-- The steps of a script that matter to a mount point. -/
def own (m : String) (steps : List Step) : List Step := keep m start.mountpoint steps

theorem recorder_after (s : Session) (steps : List Step) :
    (steps.foldl step s).recorder =
      (reports s.mountpoint steps).foldl Recorder.measure s.recorder := by
  induction steps generalizing s with
  | nil => rfl
  | cons x rest ih =>
    rw [List.foldl_cons, ih]
    cases x <;> rfl

section Keep
variable {m label label' : String} (under : label = m → label' = m)
include under

theorem reports_keep (steps : List Step) :
    reports label' (keep m label steps) = (reports label steps).filter (·.concerns m) ∧
      reports label' (keep m label steps) = (keep m label steps).filterMap (Step.report? m) := by
  induction steps generalizing label label' with
  | nil => exact ⟨rfl, rfl⟩
  | cons x rest ih =>
    cases x with
    | relabel mountpoint =>
      by_cases same : mountpoint = m
      · simp only [keep, same, ↓reduceIte, reports]
        exact ih fun _ => rfl
      · simp only [keep, same, ↓reduceIte, reports]
        exact ih fun other => absurd other same
    | describe =>
      obtain ⟨selected, labelled⟩ := ih under
      constructor
      · simp [keep, reports, Step.report?, Measurement.concerns, selected]
      · simp [keep, reports, Step.report?, labelled]
    | count | entries =>
      obtain ⟨selected, labelled⟩ := ih under
      by_cases same : label = m
      · have now := under same
        subst now same
        constructor
        · simp [keep, reports, Step.report?, Measurement.concerns, selected]
        · simp [keep, reports, Step.report?, labelled]
      · simp only [keep, same, ↓reduceIte]
        refine ⟨?_, labelled⟩
        simp [reports, Step.report?, Measurement.concerns, same, selected]

end Keep

variable (steps : List Step) (m : String)

theorem own_reports : (reports "" steps).filter (·.concerns m) =
    (own m steps).filterMap (Step.report? m) := by
  obtain ⟨selected, labelled⟩ := reports_keep (m := m) (fun same : "" = m => same) steps
  exact selected.symm.trans labelled

theorem recorder_own : (after (own m steps)).recorder = (after steps).recorder.of m := by
  obtain ⟨selected, _⟩ := reports_keep (m := m) (fun same : "" = m => same) steps
  rw [after, recorder_after, after, recorder_after, Recorder.measures_of, start, ← selected]
  rfl

theorem count_own (c : Counter) :
    (reports "" steps).count (.counted m c) = (own m steps).count (.count c) := by
  have concerns : Measurement.concerns m (.counted m c) = true := by simp [Measurement.concerns]
  rw [← List.count_filter concerns, own_reports, List.count_filterMap, List.count]
  apply List.countP_congr
  intro s _
  cases s <;> simp [Step.report?]

theorem entries_own :
    (reports "" steps).filterMap (·.entries? m) = (own m steps).filterMap Step.entries? := by
  have unconcerned (x : Measurement) :
      x.entries? m = if x.concerns m then x.entries? m else none := by
    cases x with
    | described | counted => simp [Measurement.entries?]
    | entries mountpoint n =>
      by_cases same : mountpoint = m <;> simp [Measurement.entries?, Measurement.concerns, same]
      exact fun other => same other.symm
  have selected : (reports "" steps).filterMap (·.entries? m) =
      ((reports "" steps).filter (·.concerns m)).filterMap (·.entries? m) := by
    rw [List.filterMap_filter]
    exact List.filterMap_congr fun x _ => unconcerned x
  rw [selected, own_reports, List.filterMap_filterMap]
  apply List.filterMap_congr
  intro s _
  cases s <;> simp [Step.report?, Step.entries?, Measurement.entries?]

theorem described_iff (label : String) : .described ∈ reports label steps ↔ .describe ∈ steps := by
  induction steps generalizing label with
  | nil => simp [reports]
  | cons s rest ih => cases s <;> simp [reports, Step.report?, ih]

end Session

def told (steps : List Step) (text : String) : Option String :=
  if .describe ∈ steps then some text else none

/-- What a snapshot shows after some steps. -/
structure Shows (steps : List Step) (samples : List Sample) : Prop where
  /-- The series of a mount point are those that its own steps leave. -/
  isolated : ∀ m, samples.filter (·.isOf m) =
    (Session.after (Session.own m steps)).recorder.snapshot
  counters : ∀ s, (s ∈ samples ∧ s.kind = .counter) ↔
    ∃ m c, .count c ∈ Session.own m steps ∧ s = {
      name := c.name
      kind := .counter
      labels := [("mountpoint", m), c.label]
      value := (Session.own m steps).count (.count c)
      description := told steps c.description }
  gauges : ∀ s, (s ∈ samples ∧ s.kind = .gauge) ↔
    ∃ m n, ((Session.own m steps).filterMap Step.entries?).getLast? = some n ∧ s = {
      name := gaugeName
      kind := .gauge
      labels := [("mountpoint", m)]
      value := roundToFloat n
      description := told steps gaugeDescription }
  units : ∀ s ∈ samples, s.unit? = told steps "count"
  distinct : samples.Pairwise fun s t => (s.name, s.labels) ≠ (t.name, t.labels)

namespace Session

theorem after_shows (steps : List Step) : Shows steps (after steps).recorder.snapshot := by
  have recorder : (after steps).recorder = (reports "" steps).foldl Recorder.measure .empty :=
    recorder_after start steps
  have sound : (after steps).recorder.Sound := by
    rw [recorder]
    exact Recorder.measures_sound Recorder.empty_sound _
  have described : (after steps).recorder.isDescribed = decide (.describe ∈ steps) := by
    rw [recorder, Recorder.isDescribed_measures]
    simp [Recorder.empty, described_iff]
  have counted (m : String) (c : Counter) (n : Nat) :
      (after steps).recorder.counts.lookup (m, c) = some n ↔
        .count c ∈ own m steps ∧ n = (own m steps).count (.count c) := by
    have known := Recorder.counts_measures .empty (reports "" steps) m c
    rw [← recorder, count_own] at known
    rw [known, ← List.count_pos_iff]
    by_cases never : (own m steps).count (.count c) = 0
    · simp [never, Recorder.empty]
    · simp [never, Nat.pos_of_ne_zero never, Recorder.count, Recorder.empty, eq_comm]
  have set (m : String) : (after steps).recorder.gauge? m =
      ((own m steps).filterMap Step.entries?).getLast? := by
    rw [recorder, Recorder.gauge_measures, entries_own]
    simp [Recorder.gauge?, Recorder.empty]
  have members := Recorder.mem_snapshot sound
  simp only [counted, set, described] at members
  constructor
  · intro m
    rw [Recorder.snapshot_of, recorder_own]
  · intro s
    rw [members]
    constructor
    · rintro ⟨⟨m, c, n, ⟨reported, rfl⟩, rfl⟩ | ⟨m, n, _, rfl⟩, kind⟩
      · exact ⟨m, c, reported, by simp [Recorder.counterSample, told]⟩
      · cases kind
    · rintro ⟨m, c, reported, rfl⟩
      exact ⟨Or.inl ⟨m, c, _, ⟨reported, rfl⟩, by simp [Recorder.counterSample, told]⟩, rfl⟩
  · intro s
    rw [members]
    constructor
    · rintro ⟨⟨m, c, n, _, rfl⟩ | ⟨m, n, last, rfl⟩, kind⟩
      · cases kind
      · exact ⟨m, n, last, by simp [Recorder.gaugeSample, told]⟩
    · rintro ⟨m, n, last, rfl⟩
      exact ⟨Or.inr ⟨m, n, last, by simp [Recorder.gaugeSample, told]⟩, rfl⟩
  · intro s member
    rcases (members s).mp member with ⟨m, c, n, _, rfl⟩ | ⟨m, n, _, rfl⟩ <;>
      simp only [Recorder.counterSample, Recorder.gaugeSample, Sample.unit?, told] <;>
        by_cases given : Step.describe ∈ steps <;> simp [given]
  · exact Recorder.snapshot_distinct sound

theorem run_eq (s : Session) (steps : List Step) :
    s.run steps = steps.inits.tail.map fun front => (front.foldl step s).recorder.snapshot := by
  induction steps generalizing s with
  | nil => rfl
  | cons x rest ih =>
    rw [run, ih, List.inits_cons, List.tail_cons, List.map_map]
    cases rest with
    | nil => rfl
    | cons y more => simp

/-- Every snapshot of a run shows of each mount point what its own steps leave, as they are counted
and set. The gauge is a floating-point number: that is the number reported last up to 53 bits, and
the float nearest to it beyond. -/
theorem mountpoints_are_isolated (steps : List Step) :
    List.Forall₂ Shows steps.inits.tail (start.run steps) ∧
      ∀ n, (n ≤ 9007199254740992 → roundToFloat n = n) ∧ NearestFloat n (roundToFloat n) := by
  constructor
  · rw [run_eq, List.forall₂_map_right_iff, List.forall₂_same]
    exact fun front _ => after_shows front
  · intro n
    exact ⟨roundToFloat_of_le, roundToFloat_nearest n⟩

/-- Beyond 53 bits a gauge does not show the number that was reported last. -/
theorem great_gauge_is_rounded :
    ¬∀ (steps : List Step) (m : String) (n : Nat) (s : Sample),
      ((own m steps).filterMap Step.entries?).getLast? = some n →
        s ∈ (after steps).recorder.snapshot → s.name = gaugeName →
          s.labels = [("mountpoint", m)] → s.value = n := by
  intro always
  have shown : (after [.entries 9007199254740993]).recorder.snapshot =
      [⟨gaugeName, .gauge, [("mountpoint", "")], 9007199254740992, none⟩] := by decide +kernel
  have wrong := always [.entries 9007199254740993] "" 9007199254740993
    ⟨gaugeName, .gauge, [("mountpoint", "")], 9007199254740992, none⟩ rfl
    (by rw [shown]; exact List.mem_singleton_self _) rfl rfl
  cases wrong

end Session
end SecretKeeper.Metrics

import Mathlib.Data.List.Nodup
import SecretKeeper.Metrics.Recorder

/-!
What a recorder counts and shows. Each counter of a mount point has one series, which grows by one
with each report of that counter and with nothing else, and its gauge has the number that was
reported last; a snapshot shows both, a gauge to the precision of a floating-point number.
-/
namespace SecretKeeper.Metrics

section Keys
variable {κ : Type} [DecidableEq κ]

theorem alter_keys (key : κ) (f : Option Nat → Nat) (series : List (κ × Nat)) :
    (alter key f series).map Prod.fst =
      if key ∈ series.map Prod.fst then series.map Prod.fst else series.map Prod.fst ++ [key] := by
  induction series with
  | nil => simp [alter]
  | cons first rest ih =>
    obtain ⟨k, n⟩ := first
    unfold alter
    by_cases here : k = key
    · simp [here]
    · rw [if_neg here, List.map_cons, ih]
      by_cases known : key ∈ rest.map Prod.fst
      · simp [known]
      · have absent : key ∉ k :: rest.map Prod.fst := by
          rintro (_ | ⟨_, behind⟩)
          · exact here rfl
          · exact known behind
        rw [if_neg known, List.map_cons, if_neg absent, List.cons_append]

theorem alter_distinct {key : κ} {f : Option Nat → Nat} {series : List (κ × Nat)}
    (distinct : (series.map Prod.fst).Nodup) : ((alter key f series).map Prod.fst).Nodup := by
  rw [alter_keys]
  split
  · exact distinct
  · rename_i absent
    refine List.nodup_append.mpr ⟨distinct, List.nodup_singleton key, ?_⟩
    rintro k known _ new rfl
    rw [List.mem_singleton.mp new] at known
    exact absent known

end Keys

section Lookup
variable {κ : Type} [BEq κ] [LawfulBEq κ]

theorem lookup_series (key other : κ) (n : Nat) (rest : List (κ × Nat)) [DecidableEq κ] :
    ((key, n) :: rest).lookup other = if other = key then some n else rest.lookup other := by
  by_cases same : other = key
  · simp [same]
  · simp only [List.lookup_cons, beq_false_of_ne same, same, ↓reduceIte]

theorem lookup_alter [DecidableEq κ] (key other : κ) (f : Option Nat → Nat)
    (series : List (κ × Nat)) :
    (alter key f series).lookup other =
      if other = key then some (f (series.lookup key)) else series.lookup other := by
  induction series with
  | nil => exact lookup_series key other (f none) []
  | cons first rest ih =>
    obtain ⟨k, n⟩ := first
    unfold alter
    simp only [lookup_series]
    by_cases here : k = key
    · subst here
      simp only [↓reduceIte, lookup_series]
      split <;> rfl
    · simp only [if_neg here, if_neg (Ne.symm here), lookup_series, ih]
      by_cases same : other = k
      · simp [same, here]
      · simp [same]

theorem lookup_of_distinct {key : κ} {n : Nat} {series : List (κ × Nat)}
    (distinct : (series.map Prod.fst).Nodup) (member : (key, n) ∈ series) :
    series.lookup key = some n := by
  induction series with
  | nil => cases member
  | cons first rest ih =>
    obtain ⟨fresh, distinct⟩ := List.nodup_cons.mp distinct
    rcases List.mem_cons.mp member with rfl | behind
    · simp
    · have apart : key ≠ first.1 := by
        rintro rfl
        exact fresh (List.mem_map.mpr ⟨_, behind, rfl⟩)
      rw [List.lookup_cons, beq_false_of_ne apart]
      exact ih distinct behind

theorem lookup_eq_some_iff_mem {key : κ} {n : Nat} {series : List (κ × Nat)}
    (distinct : (series.map Prod.fst).Nodup) : series.lookup key = some n ↔ (key, n) ∈ series := by
  refine ⟨fun found => ?_, lookup_of_distinct distinct⟩
  obtain ⟨before, after, split, _⟩ := List.lookup_eq_some_iff.mp found
  rw [split]
  exact List.mem_append_right _ List.mem_cons_self

end Lookup

theorem LookupOutcome.label_injective {o o' : LookupOutcome} (same : o.label = o'.label) :
    o = o' := by
  cases o <;> cases o' <;> first | rfl | simp [label] at same

theorem Counter.eq_of_series {c c' : Counter} (name : c.name = c'.name)
    (label : c.label = c'.label) : c = c' := by
  cases c <;> cases c' <;> simp only [Counter.name, Counter.label, Prod.mk.injEq, true_and,
    String.reduceEq] at name label
  · rw [LookupOutcome.label_injective label]
  · rw [label]
  · rw [label]
  · rename_i a b
    cases a <;> cases b <;> simp_all

theorem Counter.name_ne_gauge (c : Counter) : c.name ≠ gaugeName := by
  cases c <;> simp [Counter.name, gaugeName]

def Measurement.entries? (m : String) : Measurement → Option Nat
  | .entries mountpoint n => if m = mountpoint then some n else none
  | _ => none

namespace Recorder

structure Sound (r : Recorder) : Prop where
  counts : (r.counts.map Prod.fst).Nodup
  gauges : (r.gauges.map Prod.fst).Nodup

theorem empty_sound : Sound .empty := ⟨List.nodup_nil, List.nodup_nil⟩

theorem measure_sound {r : Recorder} (sound : r.Sound) (x : Measurement) :
    (r.measure x).Sound := by
  cases x with
  | described => exact ⟨sound.counts, sound.gauges⟩
  | counted mountpoint c => exact ⟨alter_distinct sound.counts, sound.gauges⟩
  | entries mountpoint n => exact ⟨sound.counts, alter_distinct sound.gauges⟩

theorem measures_sound {r : Recorder} (sound : r.Sound) (all : List Measurement) :
    (all.foldl measure r).Sound := by
  induction all generalizing r with
  | nil => exact sound
  | cons x rest ih => exact ih (measure_sound sound x)

theorem count_measure (r : Recorder) (x : Measurement) (m : String) (c : Counter) :
    (r.measure x).count m c = r.count m c + if x = .counted m c then 1 else 0 := by
  cases x with
  | described | entries => simp [measure, count]
  | counted mountpoint c' =>
    simp only [measure, count, lookup_alter, Measurement.counted.injEq]
    by_cases same : (m, c) = (mountpoint, c')
    · obtain ⟨rfl, rfl⟩ := Prod.mk.inj same
      simp
    · have apart : ¬(mountpoint = m ∧ c' = c) := by
        rintro ⟨rfl, rfl⟩
        exact same rfl
      rw [if_neg same, if_neg apart, Nat.add_zero]

theorem count_measures (r : Recorder) (all : List Measurement) (m : String) (c : Counter) :
    (all.foldl measure r).count m c = r.count m c + all.count (.counted m c) := by
  induction all generalizing r with
  | nil => rfl
  | cons x rest ih =>
    rw [List.foldl_cons, ih, count_measure, List.count_cons]
    simp only [beq_iff_eq]
    omega

theorem gauge_measure (r : Recorder) (x : Measurement) (m : String) :
    (r.measure x).gauge? m = (x.entries? m).or (r.gauge? m) := by
  cases x with
  | described | counted => rfl
  | entries mountpoint n =>
    simp only [measure, gauge?, lookup_alter, Measurement.entries?]
    by_cases same : m = mountpoint <;> simp [same]

theorem gauge_measures (r : Recorder) (all : List Measurement) (m : String) :
    (all.foldl measure r).gauge? m = (all.filterMap (·.entries? m)).getLast?.or (r.gauge? m) := by
  induction all generalizing r with
  | nil => rfl
  | cons x rest ih =>
    rw [List.foldl_cons, ih, gauge_measure, ← Option.or_assoc, List.filterMap_cons]
    cases x.entries? m with
    | none => simp
    | some n =>
      rw [List.getLast?_cons]
      cases (rest.filterMap (·.entries? m)).getLast? <;> rfl

end Recorder

/-- The value of a counter in a snapshot; a series that is not there counts as zero. -/
def shown (samples : List Sample) (m : String) (c : Counter) : Nat :=
  ((samples.find? fun s => s.name = c.name ∧ s.labels = [("mountpoint", m), c.label]).map
    Sample.value).getD 0

namespace Recorder

theorem sample_of_counter {r : Recorder} {s : Sample} {m : String} {c : Counter}
    (member : s ∈ r.snapshot) (name : s.name = c.name)
    (labels : s.labels = [("mountpoint", m), c.label]) : ((m, c), s.value) ∈ r.counts := by
  unfold snapshot at member
  rcases List.mem_append.mp (List.mem_mergeSort.mp member) with counter | gauge
  · obtain ⟨⟨⟨m', c'⟩, n⟩, known, rfl⟩ := List.mem_map.mp counter
    simp only [counterSample, List.cons.injEq, Prod.mk.injEq, true_and, and_true] at name labels
    obtain rfl := Counter.eq_of_series name labels.2
    obtain rfl := labels.1
    exact known
  · obtain ⟨e, _, rfl⟩ := List.mem_map.mp gauge
    exact absurd name.symm c.name_ne_gauge

theorem shown_snapshot {r : Recorder} (sound : r.Sound) (m : String) (c : Counter) :
    shown r.snapshot m c = r.count m c := by
  unfold shown count
  cases found : r.snapshot.find? fun s =>
      s.name = c.name ∧ s.labels = [("mountpoint", m), c.label] with
  | some s =>
    have series := List.find?_some found
    rw [decide_eq_true_eq] at series
    have counted := sample_of_counter (List.mem_of_find?_eq_some found) series.1 series.2
    rw [lookup_of_distinct sound.counts counted]
    rfl
  | none =>
    cases counted : r.counts.lookup (m, c) with
    | none => rfl
    | some n =>
      -- A series that was counted is in the snapshot.
      have known : ((m, c), n) ∈ r.counts := (lookup_eq_some_iff_mem sound.counts).mp counted
      have member : counterSample r.isDescribed ((m, c), n) ∈ r.snapshot :=
        List.mem_mergeSort.mpr (List.mem_append_left _ (List.mem_map_of_mem known))
      have absent := List.find?_eq_none.mp found _ member
      simp [counterSample] at absent

end Recorder

def shownGauge? (samples : List Sample) (m : String) : Option Nat :=
  (samples.find? fun s => s.name = gaugeName ∧ s.labels = [("mountpoint", m)]).map Sample.value

namespace Recorder

theorem sample_of_gauge {r : Recorder} {s : Sample} {m : String} (member : s ∈ r.snapshot)
    (name : s.name = gaugeName) (labels : s.labels = [("mountpoint", m)]) :
    ∃ n, (m, n) ∈ r.gauges ∧ s.value = roundToFloat n := by
  unfold snapshot at member
  rcases List.mem_append.mp (List.mem_mergeSort.mp member) with counter | gauge
  · obtain ⟨e, _, rfl⟩ := List.mem_map.mp counter
    exact absurd name e.1.2.name_ne_gauge
  · obtain ⟨⟨m', n⟩, known, rfl⟩ := List.mem_map.mp gauge
    simp only [gaugeSample, List.cons.injEq, Prod.mk.injEq, true_and, and_true] at labels
    obtain rfl := labels
    exact ⟨n, known, rfl⟩

theorem shownGauge_snapshot {r : Recorder} (sound : r.Sound) (m : String) :
    shownGauge? r.snapshot m = (r.gauge? m).map roundToFloat := by
  unfold shownGauge? gauge?
  cases found : r.snapshot.find? fun s => s.name = gaugeName ∧ s.labels = [("mountpoint", m)] with
  | some s =>
    have series := List.find?_some found
    rw [decide_eq_true_eq] at series
    obtain ⟨n, known, value⟩ :=
      sample_of_gauge (List.mem_of_find?_eq_some found) series.1 series.2
    rw [lookup_of_distinct sound.gauges known, Option.map_some, Option.map_some, value]
  | none =>
    cases set : r.gauges.lookup m with
    | none => rfl
    | some n =>
      -- A gauge that was set is in the snapshot.
      have known : (m, n) ∈ r.gauges := (lookup_eq_some_iff_mem sound.gauges).mp set
      have member : gaugeSample r.isDescribed (m, n) ∈ r.snapshot :=
        List.mem_mergeSort.mpr (List.mem_append_right _ (List.mem_map_of_mem known))
      have absent := List.find?_eq_none.mp found _ member
      simp [gaugeSample] at absent

end Recorder

theorem roundToFloat_of_lt {n : Nat} (small : n < 9007199254740992) : roundToFloat n = n := by
  have bits : n.log2 - 52 = 0 := by
    by_cases zero : n = 0
    · rw [zero]
      rfl
    · have := (Nat.log2_lt zero (k := 53)).mpr small
      omega
  rw [roundToFloat, bits]
  simp [Nat.mod_one]

theorem roundToFloat_of_le {n : Nat} (small : n ≤ 9007199254740992) : roundToFloat n = n := by
  rcases Nat.lt_or_eq_of_le small with less | rfl
  · exact roundToFloat_of_lt less
  · decide

end SecretKeeper.Metrics

import SecretKeeper.Proofs.Cache.Gauge
import SecretKeeper.Proofs.Cache.Integrity
import SecretKeeper.Proofs.Metrics.Agreement

/-!
What the end of an operation depends on. All of it follows from what is kept, whatever the order of
the entries; if the operation is about one name, its result and its write follow from what is kept
under that name, and nothing else is written. Two ends about different names therefore leave the
same and report the same, whichever comes first.
-/
namespace SecretKeeper.Cache

open Metrics

theorem Contents.Lists.unique {m : Contents} {all all' : List Secret} (lists : m.Lists all)
    (lists' : m.Lists all') : all' = all := by
  have members (secret : Secret) : secret ∈ all' ↔ secret ∈ all :=
    (lists'.2 secret).trans (lists.2 secret).symm
  have perm : all'.Perm all :=
    (List.perm_ext_iff_of_nodup lists'.distinct.of_map lists.distinct.of_map).mpr members
  refine perm.eq_of_pairwise ?_ lists'.1 lists.1
  intro a b _ _ before after
  exact absurd after (String.lt_asymm before)

section Contents
variable {s s' : Store} (sound : s.Sound) (sound' : s'.Sound) (same : s'.get? = s.get?)
include sound sound' same

theorem Store.size_of_contents : s'.size = s.size := by
  rw [size_eq sound', size_eq sound, same]

theorem Store.secrets_of_contents : s'.secrets = s.secrets :=
  (secrets_listed sound).unique (same ▸ secrets_listed sound')

theorem Store.size_apply_of_contents (w : Write) (now : Nat) :
    (w.apply now s').size = (w.apply now s).size := by
  apply size_of_contents (apply_sound sound w now) (apply_sound sound' w now)
  rw [get?_apply, get?_apply, same]

namespace Handle
variable (h : Handle) (started now : Nat) (outcome : Outcome)

/-- What an operation does follows from what is kept, not from the order of the entries. -/
theorem effect_of_contents : h.effect s' started now outcome = h.effect s started now outcome := by
  have size : s'.size = s.size := Store.size_of_contents sound sound' same
  have secrets : s'.secrets = s.secrets := Store.secrets_of_contents sound sound' same
  have reported (w : Write) : h.entriesAfter w now s' = h.entriesAfter w now s := by
    rw [entriesAfter, entriesAfter, Store.size_apply_of_contents sound sound' same]
  have kept (name : String) (notes : List Note) (measurements : List Measurement) :
      h.fallback s' now name notes measurements = h.fallback s now name notes measurements := by
    rw [fallback, fallback, same]
  cases outcome with
  | fetched name verdict =>
    cases verdict <;> simp only [effect, lookupEffect, reported, kept]
  | listed verdict =>
    cases verdict <;> simp only [effect, listingEffect, reported, secrets, size, Write.apply]
  | added | cleared => simp only [effect, reported, size]
  | sized | emptiness => simp only [effect, size]
  | fresh | info => rfl

theorem leaves_of_contents :
    (h.leaves s' started now outcome).get? = (h.leaves s started now outcome).get? := by
  rw [leaves, leaves, effect_of_contents sound sound' same]
  cases (h.effect s started now outcome).write with
  | some w => simp only [Store.get?_apply, same]
  | none => exact same

end Handle
end Contents

namespace Handle
variable (h : Handle)

theorem leaves_sound {s : Store} (sound : s.Sound) (started now : Nat) (outcome : Outcome) :
    (h.leaves s started now outcome).Sound := by
  unfold leaves
  split
  · exact Store.apply_sound sound _ now
  · exact sound

theorem leaves_eq (s : Store) (started now : Nat) (outcome : Outcome) :
    h.leaves s started now outcome =
      (h.effect s started now outcome).write.elim s fun w => w.apply now s := by
  unfold leaves
  cases (h.effect s started now outcome).write <;> rfl

theorem leaves_get? (s : Store) (started now : Nat) (outcome : Outcome) :
    (h.leaves s started now outcome).get? =
      match (h.effect s started now outcome).write with
      | some w => w.on now s.get?
      | none => s.get? := by
  rw [leaves_eq]
  cases (h.effect s started now outcome).write with
  | some w => exact Store.get?_apply w now s
  | none => rfl

theorem effect_undescribed (s : Store) (started now : Nat) (outcome : Outcome) :
    .described ∉ (h.effect s started now outcome).measurements := by
  have fallen (name : String) (notes : List Note) {measurements : List Measurement}
      (undescribed : .described ∉ measurements) :
      .described ∉ (h.fallback s now name notes measurements).measurements := by
    unfold fallback
    cases s.get? name <;> simp [undescribed, lookupCount]
  cases outcome with
  | fetched name verdict =>
    cases verdict with
    | answered secret =>
      by_cases own : secret.name = name
      · simp [effect, lookupEffect, own, entriesAfter, lookupCount]
      · simpa [effect, lookupEffect, own] using fallen name _ (by simp)
    | unusable | failed | late => exact fallen name _ (by simp [waitMeasurements])
  | listed verdict =>
    cases verdict <;> simp [effect, listingEffect, entriesAfter, listingCount, waitMeasurements]
  | fresh | added | cleared | sized | emptiness | info =>
    simp [effect, entriesAfter, lookupCount]

end Handle

namespace Handle
variable (h : Handle) {outcome : Outcome} {n : String} (subject : outcome.subject? = some n)
  (started now : Nat)
include subject

theorem effect_of_subject {s s' : Store} (kept : s'.get? n = s.get? n) :
    (h.effect s' started now outcome).result = (h.effect s started now outcome).result ∧
      (h.effect s' started now outcome).write = (h.effect s started now outcome).write := by
  have fallen (notes : List Note) (measurements : List Measurement) :
      (h.fallback s' now n notes measurements).result =
        (h.fallback s now n notes measurements).result := by
    rw [(h.fallback_reads s' now n notes measurements).1, kept,
      (h.fallback_reads s now n notes measurements).1]
  cases outcome with
  | fetched name verdict =>
    obtain rfl := Option.some.inj subject
    cases verdict with
    | answered secret =>
      by_cases own : secret.name = name
      · simp only [effect, lookupEffect, own, ↓reduceIte, and_self]
      · simp only [effect, lookupEffect, own, ↓reduceIte, fallen, fallback_write, and_self]
    | unusable | failed | late =>
      simp only [effect, lookupEffect, fallen, fallback_write, and_self]
  | fresh | added => exact ⟨rfl, rfl⟩
  | listed | cleared | sized | emptiness | info => cases subject

theorem write_of_subject (s : Store) :
    (h.effect s started now outcome).write = none ∨
      ∃ secret, secret.name = n ∧ (h.effect s started now outcome).write = some (.add secret) := by
  cases outcome with
  | fetched name verdict =>
    obtain rfl := Option.some.inj subject
    cases verdict with
    | answered secret =>
      by_cases own : secret.name = name
      · exact Or.inr ⟨secret, own, by simp only [effect, lookupEffect, own, ↓reduceIte]⟩
      · exact Or.inl (by simp only [effect, lookupEffect, own, ↓reduceIte, fallback_write])
    | unusable | failed | late =>
      exact Or.inl (by simp only [effect, lookupEffect, fallback_write])
  | added secret => exact Or.inr ⟨secret, Option.some.inj subject, rfl⟩
  | fresh => exact Or.inl rfl
  | listed | cleared | sized | emptiness | info => cases subject

theorem leaves_other {other : String} (apart : other ≠ n) (s : Store) :
    (h.leaves s started now outcome).get? other = s.get? other := by
  rw [leaves_get?]
  rcases h.write_of_subject subject started now s with silent | ⟨secret, own, write⟩
  · rw [silent]
  · rw [write]
    exact Function.update_of_ne (own ▸ apart) _ _

end Handle

/-! Two operations that end at one instant, about different names. -/

namespace Handle
variable (h : Handle) (s : Store) (started started' now : Nat)

theorem last_size (outcome outcome' : Outcome) :
    let s' := h.leaves s started now outcome
    let write := (h.effect s started now outcome).write
    let write' := (h.effect s' started' now outcome').write
    (write'.map fun w => (w.apply now s').size).or (write.map fun w => (w.apply now s).size) =
      (write'.or write).map fun _ => (h.leaves s' started' now outcome').size := by
  intro s' write write'
  have left : s' = write.elim s fun w => w.apply now s := h.leaves_eq s started now outcome
  have left' : h.leaves s' started' now outcome' = write'.elim s' fun w => w.apply now s' :=
    h.leaves_eq s' started' now outcome'
  rw [left']
  clear_value write' write s'
  cases write' with
  | some w => simp
  | none =>
    cases write with
    | some w => simp [left]
    | none => simp

variable {outcome outcome' : Outcome} {n n' : String} (subject : outcome.subject? = some n)
  (subject' : outcome'.subject? = some n')
include subject subject'

theorem leaves_apart (apart : n ≠ n') :
    (h.leaves (h.leaves s started' now outcome') started now outcome).get? =
      (h.leaves (h.leaves s started now outcome) started' now outcome').get? := by
  have kept : (h.leaves s started now outcome).get? n' = s.get? n' :=
    h.leaves_other subject started now apart.symm s
  have kept' : (h.leaves s started' now outcome').get? n = s.get? n :=
    h.leaves_other subject' started' now apart s
  have write := (h.effect_of_subject subject' started' now kept).2
  have write' := (h.effect_of_subject subject started now kept').2
  simp only [leaves_get?, write, write']
  rcases h.write_of_subject subject started now s with silent | ⟨secret, own, adds⟩ <;>
    rcases h.write_of_subject subject' started' now s with silent' | ⟨secret', own', adds'⟩
  · rw [silent, silent']
  · rw [silent, adds']
  · rw [adds, silent']
  · rw [adds, adds']
    have names : secret.name ≠ secret'.name := by
      rw [own, own']
      exact apart
    exact Function.update_comm names.symm _ _ _

theorem sizes_apart (sound : s.Sound) (apart : n ≠ n') :
    let write := (h.effect s started now outcome).write
    let write' := (h.effect s started' now outcome').write
    let s₁ := h.leaves s started now outcome
    let s₂ := h.leaves s started' now outcome'
    (write.map fun w => (w.apply now s₂).size).or (write'.map fun w => (w.apply now s).size) =
      (write'.map fun w => (w.apply now s₁).size).or (write.map fun w => (w.apply now s).size) := by
  intro write write' s₁ s₂
  have kept : s₁.get? n' = s.get? n' := h.leaves_other subject started now apart.symm s
  have kept' : s₂.get? n = s.get? n := h.leaves_other subject' started' now apart s
  have write₁ : (h.effect s₁ started' now outcome').write = write' :=
    (h.effect_of_subject subject' started' now kept).2
  have write₂ : (h.effect s₂ started now outcome).write = write :=
    (h.effect_of_subject subject started now kept').2
  have size : (h.leaves s₂ started now outcome).size = (h.leaves s₁ started' now outcome').size :=
    Store.size_of_contents
      (h.leaves_sound (h.leaves_sound sound started now outcome) started' now outcome')
      (h.leaves_sound (h.leaves_sound sound started' now outcome') started now outcome)
      (h.leaves_apart s started started' now subject subject' apart)
  calc
    _ = (write.or write').map fun _ => (h.leaves s₂ started now outcome).size := by
      rw [← write₂]
      exact h.last_size s started' started now outcome' outcome
    _ = (write'.or write).map fun _ => (h.leaves s₁ started' now outcome').size := by
      rw [size]
      cases write <;> cases write' <;> rfl
    _ = _ := by
      rw [← write₁]
      exact (h.last_size s started started' now outcome outcome').symm

theorem sizes_of_empty :
    let write := (h.effect .empty started now outcome).write
    let write' := (h.effect .empty started' now outcome').write
    let size (w : Write) := (w.apply now .empty).size
    (write.map size).or (write'.map size) = (write'.map size).or (write.map size) := by
  intro write write' size
  have one (secret : Secret) : size (.add secret) = 1 := rfl
  rcases h.write_of_subject subject started now .empty with silent | ⟨secret, _, adds⟩ <;>
    rcases h.write_of_subject subject' started' now .empty with silent' | ⟨secret', _, adds'⟩
  · simp only [write, write', silent, silent']
  · simp only [write, write', silent, adds', Option.map_none, Option.none_or, Option.or_none]
  · simp only [write, write', adds, silent', Option.map_none, Option.none_or, Option.or_none]
  · simp only [write, write', adds, adds', Option.map_some, one]

theorem measures_apart (r : Recorder) {s₁ s₂ : Store} (kept : s₁.get? n' = s.get? n')
    (kept' : s₂.get? n = s.get? n)
    (sizes :
      let write := (h.effect s started now outcome).write
      let write' := (h.effect s started' now outcome').write
      (write.map fun w => (w.apply now s₂).size).or (write'.map fun w => (w.apply now s).size) =
        (write'.map fun w => (w.apply now s₁).size).or (write.map fun w => (w.apply now s).size)) :
    Recorder.Agrees
      ((h.effect s₁ started' now outcome').measurements.foldl Recorder.measure
        ((h.effect s started now outcome).measurements.foldl Recorder.measure r))
      ((h.effect s₂ started now outcome).measurements.foldl Recorder.measure
        ((h.effect s started' now outcome').measurements.foldl Recorder.measure r)) := by
  obtain ⟨result, write⟩ := h.effect_of_subject subject' started' now kept
  obtain ⟨result', write'⟩ := h.effect_of_subject subject started now kept'
  rw [← List.foldl_append, ← List.foldl_append]
  apply Recorder.measures_agree (.refl r)
  · intro m c
    simp only [List.count_append, count_counted, effect_counters, result, result']
    exact Nat.add_comm _ _
  · intro m
    simp only [List.filterMap_append, List.getLast?_append, effect_entries, write, write']
    by_cases here : m = h.log.mountpoint
    · simpa only [here, ↓reduceIte] using sizes
    · simp only [here, ↓reduceIte]
  · simp only [List.mem_append, effect_undescribed, or_self]

end Handle
end SecretKeeper.Cache

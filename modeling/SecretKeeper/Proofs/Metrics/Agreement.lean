import SecretKeeper.Proofs.Log.Record
import SecretKeeper.Proofs.Metrics.Isolation

/-!
Recorders that agree. Two recorders with the same value for each series show the same snapshot,
sample by sample: the text that orders samples tells the series of each.
-/
namespace SecretKeeper.Metrics

open Json

/-! The text that orders samples. -/

def labelItem (l : String × String) : Value := .list [.text l.1, .text l.2]

theorem labelItem_append_inj {l l' : String × String} {cs ds : List Char}
    (same : (labelItem l).chars ++ cs = (labelItem l').chars ++ ds) : l = l' ∧ cs = ds := by
  have chars (l : String × String) (cs : List Char) : (labelItem l).chars ++ cs =
      '[' :: (quoted l.1 ++ ',' :: (quoted l.2 ++ ']' :: cs)) := by
    simp [labelItem, Value.chars, Value.itemsChars]
  rw [chars, chars] at same
  have keys := List.tail_eq_of_cons_eq same
  have key := quoted_append_inj keys
  rw [key] at keys
  have values := List.tail_eq_of_cons_eq (List.append_cancel_left keys)
  have value := quoted_append_inj values
  rw [value] at values
  exact ⟨Prod.ext key value, List.tail_eq_of_cons_eq (List.append_cancel_left values)⟩

theorem labelItems_inj {ls ls' : List (String × String)} {cs ds : List Char}
    (same : (ls.flatMap fun l => ',' :: (labelItem l).chars) ++ ']' :: cs =
      (ls'.flatMap fun l => ',' :: (labelItem l).chars) ++ ']' :: ds) : ls = ls' := by
  induction ls generalizing ls' with
  | nil =>
    cases ls' with
    | nil => rfl
    | cons l' more' => simp at same
  | cons l more ih =>
    cases ls' with
    | nil => simp at same
    | cons l' more' =>
      simp only [List.flatMap_cons, List.cons_append, List.append_assoc, List.cons.injEq,
        true_and] at same
      obtain ⟨first, rest⟩ := labelItem_append_inj same
      rw [first, ih rest]

theorem labelList_inj {ls ls' : List (String × String)} {cs ds : List Char}
    (same : Value.itemsChars (ls.map labelItem) ++ ']' :: cs =
      Value.itemsChars (ls'.map labelItem) ++ ']' :: ds) : ls = ls' := by
  have bracket (l : String × String) : (labelItem l).chars.head? = some '[' := by
    simp [labelItem, Value.chars]
  cases ls with
  | nil =>
    cases ls' with
    | nil => rfl
    | cons l' more' =>
      have heads := congrArg List.head? same
      simp [Reader.itemsChars_cons, Value.itemsChars, bracket] at heads
  | cons l more =>
    cases ls' with
    | nil =>
      have heads := congrArg List.head? same
      simp [Reader.itemsChars_cons, Value.itemsChars, bracket] at heads
    | cons l' more' =>
      simp only [List.map_cons, Reader.itemsChars_cons, List.flatMap_map,
        List.append_assoc] at same
      obtain ⟨first, others⟩ := labelItem_append_inj same
      rw [first, labelItems_inj others]

theorem orderKey_inj {s t : Sample} (same : s.orderKey = t.orderKey) :
    (s.name, s.labels) = (t.name, t.labels) := by
  have chars (s : Sample) : s.orderKey.toList = '[' :: (quoted s.name ++
      ',' :: '[' :: (Value.itemsChars (s.labels.map labelItem) ++ ']' :: [']'])) := by
    simp only [Sample.orderKey, Value.render, String.toList_ofList, Value.chars, Value.itemsChars,
      List.append_assoc, List.cons_append, List.nil_append]
    rfl
  have texts := congrArg String.toList same
  rw [chars, chars] at texts
  have rest := List.tail_eq_of_cons_eq texts
  have name := quoted_append_inj rest
  rw [name] at rest
  have labels := List.tail_eq_of_cons_eq (List.tail_eq_of_cons_eq (List.append_cancel_left rest))
  exact Prod.ext name (labelList_inj labels)

namespace Recorder

structure Agrees (r r' : Recorder) : Prop where
  counts : ∀ m c, r'.counts.lookup (m, c) = r.counts.lookup (m, c)
  gauges : ∀ m, r'.gauge? m = r.gauge? m
  isDescribed : r'.isDescribed = r.isDescribed

theorem Agrees.refl (r : Recorder) : r.Agrees r := ⟨fun _ _ => rfl, fun _ => rfl, rfl⟩

theorem Agrees.symm {r r' : Recorder} (agrees : r.Agrees r') : r'.Agrees r :=
  ⟨fun m c => (agrees.counts m c).symm, fun m => (agrees.gauges m).symm, agrees.isDescribed.symm⟩

theorem Agrees.trans {r r' r'' : Recorder} (agrees : r.Agrees r') (agrees' : r'.Agrees r'') :
    r.Agrees r'' :=
  ⟨fun m c => (agrees'.counts m c).trans (agrees.counts m c),
    fun m => (agrees'.gauges m).trans (agrees.gauges m),
    agrees'.isDescribed.trans agrees.isDescribed⟩

/-- It matters how often each counter is reported, and which number is the last one for each
gauge. -/
theorem measures_agree {r r' : Recorder} (agrees : r.Agrees r') {all all' : List Measurement}
    (counts : ∀ m c, all'.count (.counted m c) = all.count (.counted m c))
    (gauges : ∀ m,
      (all'.filterMap (·.entries? m)).getLast? = (all.filterMap (·.entries? m)).getLast?)
    (described : .described ∈ all' ↔ .described ∈ all) :
    Agrees (all.foldl measure r) (all'.foldl measure r') where
  counts m c := by
    have before := agrees.counts m c
    rw [counts_measures, counts_measures, counts, count, count, before]
  gauges m := by rw [gauge_measures, gauge_measures, gauges, agrees.gauges]
  isDescribed := by
    rw [isDescribed_measures, isDescribed_measures, agrees.isDescribed,
      decide_eq_decide.mpr described]

theorem snapshot_sorted (r : Recorder) :
    r.snapshot.Pairwise fun s t => s.orderKey ≤ t.orderKey := by
  refine (List.pairwise_mergeSort ?_ ?_ _).imp of_decide_eq_true
  · intro a b c
    simp only [decide_eq_true_eq]
    exact String.le_trans
  · intro a b
    simp only [Bool.or_eq_true, decide_eq_true_eq]
    exact String.le_total a.orderKey b.orderKey

theorem snapshot_nodup {r : Recorder} (sound : r.Sound) : r.snapshot.Nodup :=
  (snapshot_distinct sound).imp fun apart same => apart (by rw [same])

theorem snapshot_agrees {r r' : Recorder} (sound : r.Sound) (sound' : r'.Sound)
    (agrees : r.Agrees r') :
    r'.snapshot = r.snapshot := by
  have members (s : Sample) : s ∈ r'.snapshot ↔ s ∈ r.snapshot := by
    rw [mem_snapshot sound, mem_snapshot sound']
    simp only [agrees.counts, agrees.gauges, agrees.isDescribed]
  have perm : r'.snapshot.Perm r.snapshot :=
    (List.perm_ext_iff_of_nodup (snapshot_nodup sound') (snapshot_nodup sound)).mpr members
  refine perm.eq_of_pairwise ?_ (snapshot_sorted r') (snapshot_sorted r)
  intro s t member member' before after
  have key : s.orderKey = t.orderKey := String.le_antisymm before after
  -- Samples with the same text are of one series, and a snapshot has one sample of each.
  have distinct : (r.snapshot.map fun s => (s.name, s.labels)).Nodup :=
    List.pairwise_map.mpr (snapshot_distinct sound)
  exact List.inj_on_of_nodup_map distinct ((members s).mp member) member' (orderKey_inj key)

end Recorder
end SecretKeeper.Metrics

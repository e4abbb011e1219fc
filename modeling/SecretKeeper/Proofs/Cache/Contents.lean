import Mathlib.Data.Set.Card
import SecretKeeper.Cache.Store

/-!
What a store holds, seen as a function from names. Writes are replayed on it; a store holds what
the replay of its writes says, its size is the number of names, and its secrets are read in the
order of their names, which are those under which they are kept.
-/
namespace SecretKeeper.Cache

abbrev Contents := String → Option Kept

namespace Contents

def empty : Contents := fun _ => none

noncomputable def size (m : Contents) : Nat := {name | (m name).isSome}.ncard

def Lists (m : Contents) (all : List Secret) : Prop :=
  all.Pairwise (fun a b => a.name < b.name) ∧
    ∀ secret, secret ∈ all ↔ ∃ time, m secret.name = some ⟨secret, time⟩

end Contents

/-- A write at an instant. An addition sets its name, a listing leaves the last secret of each
name that it lists and nothing else, and clearing leaves nothing. -/
def Write.on (time : Nat) (w : Write) (m : Contents) : Contents :=
  match w with
  | .add secret => Function.update m secret.name (some ⟨secret, time⟩)
  | .replace secrets => fun name =>
    (secrets.findRev? fun secret => secret.name = name).map fun secret => ⟨secret, time⟩
  | .clear => .empty

def replay (log : List (Nat × Write)) : Contents :=
  log.foldl (fun m entry => entry.2.on entry.1 m) .empty

theorem replay_concat (log : List (Nat × Write)) (time : Nat) (w : Write) :
    replay (log ++ [(time, w)]) = w.on time (replay log) := by
  simp [replay, List.foldl_append]

theorem lookup_first (key name : String) (value : α) (rest : List (String × α)) :
    ((key, value) :: rest).lookup name = if name = key then some value else rest.lookup name := by
  by_cases same : name = key
  · simp [same]
  · have test : (name == key) = false := beq_eq_false_iff_ne.mpr same
    simp only [List.lookup_cons, test, same, ↓reduceIte]

theorem mem_of_lookup {key : String} {value : α} {l : List (String × α)}
    (found : l.lookup key = some value) : (key, value) ∈ l := by
  obtain ⟨before, after, rfl, _⟩ := List.lookup_eq_some_iff.mp found
  exact List.mem_append_right _ List.mem_cons_self

theorem lookup_assign (key name : String) (value : α) (entries : List (String × α)) :
    (assign key value entries).lookup name =
      if name = key then some value else entries.lookup name := by
  induction entries with
  | nil => exact lookup_first key name value []
  | cons first rest ih =>
    obtain ⟨k, v⟩ := first
    by_cases here : k = key
    · subst here
      simp only [assign, ↓reduceIte, lookup_first]
      split <;> rfl
    · simp only [assign, here, ↓reduceIte, lookup_first, ih]
      split
      · rename_i same
        rw [same, if_neg here]
      · rfl

theorem assign_keys (key : String) (value : α) (entries : List (String × α)) :
    (assign key value entries).map Prod.fst =
      if key ∈ entries.map Prod.fst then entries.map Prod.fst
      else entries.map Prod.fst ++ [key] := by
  induction entries with
  | nil => rfl
  | cons first rest ih =>
    obtain ⟨k, v⟩ := first
    by_cases here : k = key
    · simp [assign, here]
    · simp only [assign, here, ↓reduceIte, List.map_cons, ih, List.mem_cons, Ne.symm here, false_or]
      split <;> simp

theorem mem_assign {key : String} {value : α} {entries : List (String × α)}
    {e : String × α} (member : e ∈ assign key value entries) :
    e = (key, value) ∨ e ∈ entries := by
  induction entries with
  | nil => exact Or.inl (List.mem_singleton.mp member)
  | cons first rest ih =>
    obtain ⟨k, v⟩ := first
    unfold assign at member
    split at member
    · rename_i here
      rcases List.mem_cons.mp member with rfl | behind
      · exact Or.inl (by rw [here])
      · exact Or.inr (List.mem_cons_of_mem _ behind)
    · rcases List.mem_cons.mp member with rfl | behind
      · exact Or.inr List.mem_cons_self
      · rcases ih behind with new | old
        · exact Or.inl new
        · exact Or.inr (List.mem_cons_of_mem _ old)

namespace Store

theorem get?_add (s : Store) (now : Nat) (secret : Secret) :
    (s.add now secret).get? = Function.update s.get? secret.name (some ⟨secret, now⟩) := by
  funext name
  simp only [get?, add, lookup_assign, Function.update_apply]

theorem get?_foldl_add (s : Store) (now : Nat) (secrets : List Secret) (name : String) :
    (secrets.foldl (fun s secret => s.add now secret) s).get? name =
      ((secrets.findRev? fun secret => secret.name = name).map fun secret => ⟨secret, now⟩).or
        (s.get? name) := by
  induction secrets generalizing s with
  | nil => rfl
  | cons first rest ih =>
    rw [List.foldl_cons, ih, get?_add]
    simp only [List.findRev?]
    cases (rest.findRev? fun secret => secret.name = name) with
    | some found => rfl
    | none =>
      by_cases same : first.name = name
      · simp [same]
      · simp [same, Function.update_of_ne (Ne.symm same)]

theorem get?_apply (w : Write) (now : Nat) (s : Store) :
    (w.apply now s).get? = w.on now s.get? := by
  cases w with
  | add secret => exact get?_add s now secret
  | replace secrets =>
    funext name
    have none : empty.get? name = none := rfl
    simp only [Write.apply, ofListing, get?_foldl_add, none, Option.or_none, Write.on]
  | clear => rfl

/-- Each name stands once and is that of the secret under it. -/
structure Sound (s : Store) : Prop where
  distinct : (s.entries.map Prod.fst).Nodup
  named : ∀ e ∈ s.entries, e.2.secret.name = e.1

theorem empty_sound : empty.Sound := ⟨.nil, by simp [empty]⟩

theorem add_sound {s : Store} (sound : s.Sound) (now : Nat) (secret : Secret) :
    (s.add now secret).Sound := by
  constructor
  · simp only [add, assign_keys]
    split
    · exact sound.distinct
    · rename_i fresh
      refine List.nodup_append.mpr ⟨sound.distinct, List.nodup_singleton _, ?_⟩
      intro name old key new same
      rw [List.mem_singleton.mp new] at same
      exact fresh (same ▸ old)
  · intro e member
    rcases mem_assign member with rfl | old
    · rfl
    · exact sound.named e old

theorem apply_sound {s : Store} (sound : s.Sound) (w : Write) (now : Nat) :
    (w.apply now s).Sound := by
  cases w with
  | add secret => exact add_sound sound now secret
  | replace secrets =>
    exact List.foldlRecOn secrets _ empty_sound fun _ before secret _ =>
      add_sound before now secret
  | clear => exact empty_sound

theorem mem_entries_iff {s : Store} (sound : s.Sound) {name : String} {k : Kept} :
    (name, k) ∈ s.entries ↔ s.get? name = some k := by
  obtain ⟨entries⟩ := s
  have distinct := sound.distinct
  simp only [get?] at *
  clear sound
  induction entries with
  | nil => simp
  | cons first rest ih =>
    obtain ⟨key, v⟩ := first
    simp only [List.map_cons, List.nodup_cons] at distinct
    rw [List.mem_cons, lookup_first]
    by_cases same : name = key
    · subst same
      have absent : (name, k) ∉ rest := fun member =>
        distinct.1 (List.mem_map_of_mem (f := Prod.fst) member)
      simp [absent, eq_comm]
    · simp [same, ih distinct.2]

theorem mem_names_iff {s : Store} {name : String} :
    name ∈ s.entries.map Prod.fst ↔ (s.get? name).isSome := by
  simp only [get?, List.lookup_isSome_iff, beq_iff_eq, List.mem_map]
  constructor
  · rintro ⟨e, member, same⟩
    exact ⟨e, member, same.symm⟩
  · rintro ⟨e, member, same⟩
    exact ⟨e, member, same.symm⟩

theorem size_eq {s : Store} (sound : s.Sound) : s.size = Contents.size s.get? := by
  have names : {name | (s.get? name).isSome} = ↑(s.entries.map Prod.fst).toFinset := by
    ext name
    rw [Set.mem_ofPred_eq, List.coe_toFinset, ← mem_names_iff]
    rfl
  rw [Contents.size, names, Set.ncard_coe_finset, List.toFinset_card_of_nodup sound.distinct,
    List.length_map]
  rfl

theorem size_eq_zero_iff {s : Store} : s.size = 0 ↔ ∀ name, s.get? name = none := by
  obtain ⟨entries⟩ := s
  cases entries with
  | nil => simp [size, get?]
  | cons first rest =>
    simp only [size, get?, List.length_cons, Nat.add_one_ne_zero, false_iff, not_forall]
    exact ⟨first.1, by simp⟩

theorem entries_sorted (s : Store) :
    (s.entries.mergeSort fun a b => a.1 ≤ b.1).Pairwise fun a b => a.1 ≤ b.1 := by
  refine (List.pairwise_mergeSort ?_ ?_ s.entries).imp of_decide_eq_true
  · intro a b c first second
    simp only [decide_eq_true_eq] at *
    exact String.le_trans first second
  · intro a b
    simp only [Bool.or_eq_true, decide_eq_true_eq]
    exact String.le_total a.1 b.1

theorem secrets_listed {s : Store} (sound : s.Sound) : Contents.Lists s.get? s.secrets := by
  have order := List.mergeSort_perm s.entries fun a b => decide (a.1 ≤ b.1)
  constructor
  · have different := (order.map Prod.fst).nodup_iff.mpr sound.distinct
    apply List.pairwise_map.mpr
    refine ((entries_sorted s).and (List.pairwise_map.mp different)).imp_of_mem ?_
    intro a b memberA memberB ⟨notAfter, apart⟩
    rw [sound.named a (order.mem_iff.mp memberA), sound.named b (order.mem_iff.mp memberB)]
    exact String.not_le.mp fun after => apart (String.le_antisymm notAfter after)
  · intro secret
    simp only [secrets, List.mem_map]
    constructor
    · rintro ⟨e, member, rfl⟩
      have old := order.mem_iff.mp member
      refine ⟨e.2.observedAt, ?_⟩
      rw [sound.named e old]
      exact (mem_entries_iff sound).mp old
    · rintro ⟨time, found⟩
      exact ⟨_, order.mem_iff.mpr ((mem_entries_iff sound).mpr found), rfl⟩

end Store
end SecretKeeper.Cache

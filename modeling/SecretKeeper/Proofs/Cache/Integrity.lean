import SecretKeeper.Proofs.Cache.Waits

/-!
Entries are whole. Whatever backends answer, and however operations overlap, each entry is kept
under the name of its secret, no name is kept twice, and no entry was observed in the future. A
lookup therefore never comes to a secret of another name, and a listing that the backend did not
answer names every secret once.
-/
namespace SecretKeeper.Cache

namespace Store

def Past (t : Nat) (s : Store) : Prop := ∀ e ∈ s.entries, e.2.observedAt ≤ t

theorem past_empty (t : Nat) : Past t .empty := by
  intro e member
  cases member

theorem add_past {s : Store} {t now : Nat} (past : s.Past t) (written : now ≤ t)
    (secret : Secret) : (s.add now secret).Past t := by
  intro e member
  rcases mem_assign member with rfl | old
  · exact written
  · exact past e old

theorem apply_past {s : Store} {t now : Nat} (past : s.Past t) (written : now ≤ t) (w : Write) :
    (w.apply now s).Past t := by
  cases w with
  | add secret => exact add_past past written secret
  | replace secrets =>
    exact List.foldlRecOn secrets _ (past_empty t) fun _ before secret _ =>
      add_past before written secret
  | clear => exact past_empty t

end Store

theorem storeAfter_past {history : List Finished} {t : Nat} (past : ∀ f ∈ history, f.time ≤ t)
    (i : Nat) : (storeAfter history i).Past t := by
  apply List.foldlRecOn _ _ (Store.past_empty t)
  intro s before entry member
  obtain ⟨f, ended, written⟩ := List.mem_filterMap.mp member
  split at written
  · obtain ⟨write, _, rfl⟩ := Option.map_eq_some_iff.mp written
    exact Store.apply_past before (past f ended) write
  · cases written

theorem Operation.Ends.of_listing {op : Operation} {q : Option Query} {outcome : Outcome}
    (ends : op.Ends q outcome) (request : op.request = .listing) :
    ∃ reply, q = some (.list reply) := by
  cases ends with
  | listed reply _ => exact ⟨reply, rfl⟩
  | fresh _ _ other | fetched _ _ other | added _ other | cleared other | sized other
  | emptiness other | info other =>
    rw [request] at other
    cases other

theorem Contents.Lists.distinct {m : Contents} {all : List Secret} (lists : m.Lists all) :
    (all.map Secret.name).Nodup := by
  refine List.pairwise_map.mpr (lists.1.imp ?_)
  intro a b before same
  rw [same] at before
  exact String.lt_irrefl _ before

namespace World

/-- What no backend can spoil. -/
structure Whole (w : World) : Prop where
  entries : ∀ i, (w.store i).Sound
  past : ∀ i, (w.store i).Past w.clock
  own : ∀ f ∈ w.finished, ∀ name, f.operation.request = .lookup name →
    ∃ found, f.effect.result = .secret found ∧ ∀ secret ∈ found, secret.name = name
  distinct : ∀ f ∈ w.finished, f.operation.request = .listing →
    ∃ reply all, w.query? f.operation = some (.list reply) ∧ f.effect.result = .secrets all ∧
      (reply.brought? f.operation.handle.timing.listDeadline = none →
        (all.map Secret.name).Nodup)

section Moment
variable {backends : List (String × Backend)} {w : World} (moment : Moment backends w)
include moment

theorem store_sound (i : Nat) : (w.store i).Sound := by
  rw [(moment_recorded moment).stores]
  exact storeAfter_sound w.finished i

theorem store_past (i : Nat) : (w.store i).Past w.clock := by
  rw [(moment_recorded moment).stores]
  exact storeAfter_past (moment_recorded moment).past i

theorem replay_named {history : List Finished} (part : history ⊆ w.finished) {i : Nat}
    {name : String} {k : Kept} (kept : replay (w.log history i) name = some k) :
    k.secret.name = name := by
  have sound := storeAfter_sound history i
  rw [log_eq_writes moment part, ← storeAfter_get?] at kept
  exact sound.named _ ((Store.mem_entries_iff sound).mpr kept)

theorem moment_whole : Whole w := by
  refine ⟨store_sound moment, store_past moment, ?_, ?_⟩
  · intro f member name request
    obtain ⟨before, rest, split⟩ := List.append_of_mem member
    obtain ⟨_, _, reads⟩ := moment_told moment before f rest split
    simp only [Operation.Reads, request] at reads
    refine ⟨_, reads, ?_⟩
    intro secret found
    obtain ⟨k, kept, rfl⟩ := Option.map_eq_some_iff.mp found
    refine replay_named moment ?_ kept
    rw [split, List.append_cons before f rest]
    exact List.subset_append_left _ _
  · intro f member request
    obtain ⟨before, rest, split⟩ := List.append_of_mem member
    obtain ⟨_, _, reads⟩ := moment_told moment before f rest split
    obtain ⟨reply, asked⟩ := (ended_as_asked moment member).1.of_listing request
    simp only [Operation.Reads, request, asked] at reads
    refine ⟨reply, ?_⟩
    cases brought : reply.brought? f.operation.handle.timing.listDeadline with
    | some secrets =>
      rw [brought] at reads
      exact ⟨secrets, asked, reads, fun missing => by cases missing⟩
    | none =>
      rw [brought] at reads
      obtain ⟨all, result, lists⟩ := reads
      exact ⟨all, asked, result, fun _ => lists.distinct⟩

end Moment

theorem run_lookup_own {backends : List (String × Backend)} {w : World}
    (moment : Moment backends w) (settled : Settled w) {id : String} {h : Handle}
    (known : w.caches.lookup id = some h) (name : String) :
    ∃ found, (w.step (.run id (.lookup name))).2 = .secret found ∧
      ∀ secret ∈ found, secret.name = name := by
  let op := w.opening h (.lookup name)
  have begun : Moment backends (w.begin h (.lookup name)) :=
    moment.tail (.begin w id h (.lookup name) known)
  have still := begin_settled settled h (.lookup name)
  have member : op ∈ (w.begin h (.lookup name)).operations :=
    (begin_operations w h (.lookup name)).mem_iff.mpr List.mem_cons_self
  obtain ⟨q, asked, _⟩ := opening_asked (moment_accounted moment) h (.lookup name)
  obtain ⟨_, f, ended, same, _, result⟩ := await_spec begun still member asked
  have awaited := begun.trans (await_later (moment_timely begun) still op.ticket).1
  simp only [step, known]
  obtain ⟨found, came, own⟩ := (moment_whole awaited).own f ended name (by rw [same]; rfl)
  exact ⟨found, result.trans came, own⟩

theorem join_lookup_own {backends : List (String × Backend)} {w : World}
    (moment : Moment backends w) (settled : Settled w) {task name : String} {op : Operation}
    (tracked : w.background.lookup task = some op.ticket) (member : op ∈ w.operations)
    (request : op.request = .lookup name) :
    ∃ found, (w.step (.join task)).2 = .secret found ∧ ∀ secret ∈ found, secret.name = name := by
  obtain ⟨f, ended, ticket, _, result⟩ := join_spec moment settled tracked
  have later := (step_later (moment_timely moment) settled (.join task)).1
  have joined : Moment backends (w.step (.join task)).1 := moment.trans later
  have same := same_ticket (moment_numbered joined) (finished_mem ended)
    (later_operations later member) ticket
  rw [result]
  exact (moment_whole joined).own f ended name (by rw [same]; exact request)

/-- At every moment of every run all entries are whole, and so is what operations came to. What a
step shows of a lookup that it runs or waits for is a secret of the name that was asked for, or
nothing. -/
theorem no_torn_entries (backends : List (String × Backend)) :
    (∀ w, Moment backends w → Whole w) ∧
    ∀ steps,
      let w := after backends steps
      (∀ id h name, w.caches.lookup id = some h →
        ∃ found, (w.step (.run id (.lookup name))).2 = .secret found ∧
          ∀ secret ∈ found, secret.name = name) ∧
      ∀ task op name, w.background.lookup task = some op.ticket → op ∈ w.operations →
        op.request = .lookup name →
          ∃ found, (w.step (.join task)).2 = .secret found ∧
            ∀ secret ∈ found, secret.name = name := by
  refine ⟨fun w => moment_whole, ?_⟩
  intro steps w
  have moment : Moment backends w := after_moment backends steps
  have settled : Settled w := after_settled backends steps
  constructor
  · intro id h name known
    exact run_lookup_own moment settled known name
  · intro task op name tracked member request
    exact join_lookup_own moment settled tracked member request

/-- A lookup that begins before a listing with two secrets of one name gets a foreign secret after
it, and one that runs then gets what the listing left. -/
theorem no_torn_entries_of_a_hostile_backend :
    let named := fun name content => Secret.create name (.ofText content) .epoch
    let backends := [("b", { Backend.blank with
      fetches := [.after (milliseconds 5) (.value (named "z" "foreign")),
        .after (milliseconds 1) .breakdown]
      otherListings := .after (milliseconds 2)
        (.value [named "a" "first", named "b" "", named "a" "last"]) })]
    let timing : Timing := .ofMillis 0 10 20
    let steps := [.create "c" "b" timing .default, .start "slow" "c" (.lookup "a"),
      .run "c" .listing]
    let w := after backends steps
    let op : Operation := ⟨0, ⟨0, "b", timing, .default⟩, .lookup "a", 0⟩
    Moment backends w ∧ Whole w ∧
      (w.store 0).entries =
        [("a", ⟨named "a" "last", milliseconds 2⟩), ("b", ⟨named "b" "", milliseconds 2⟩)] ∧
      (∃ found, (w.step (.run "c" (.lookup "a"))).2 = .secret found ∧
        ∀ secret ∈ found, secret.name = "a") ∧
      w.background.lookup "slow" = some op.ticket ∧ op ∈ w.operations ∧
      ∃ found, (w.step (.join "slow")).2 = .secret found ∧
        ∀ secret ∈ found, secret.name = "a" := by
  intro named backends timing steps w op
  have moment : Moment backends w := after_moment backends steps
  have known : w.caches.lookup "c" = some ⟨0, "b", timing, .default⟩ := by
    decide +kernel
  have tracked : w.background.lookup "slow" = some op.ticket := by decide +kernel
  have member : op ∈ w.operations := by decide +kernel
  obtain ⟨whole, shown⟩ := no_torn_entries backends
  obtain ⟨runs, joins⟩ := shown steps
  exact ⟨moment, whole w moment, by decide +kernel, runs "c" _ "a" known, tracked, member,
    joins "slow" op "a" tracked member rfl⟩

end World
end SecretKeeper.Cache

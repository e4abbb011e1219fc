import SecretKeeper.Proofs.Cache.Integrity
import SecretKeeper.Proofs.Cache.Traffic

/-!
Listings. One that the backend answers in time is passed on as it is, and leaves its store with the
last secret of each name in it and nothing else, observed at that instant. This is what the store
shows until it is written to again. Any other listing leaves all stores as they are.
-/
namespace SecretKeeper.Cache

def IsLast (secrets : List Secret) (secret : Secret) : Prop := ∃ before after,
  secrets = before ++ secret :: after ∧ ∀ other ∈ after, other.name ≠ secret.name

theorem findRev_eq_some_iff (secrets : List Secret) (name : String) (secret : Secret) :
    (secrets.findRev? fun secret => secret.name = name) = some secret ↔
      IsLast secrets secret ∧ secret.name = name := by
  rw [List.findRev?_eq_find?_reverse, List.find?_eq_some_iff_append]
  constructor
  · intro found
    obtain ⟨own, after, before, split, others⟩ := found
    have same := of_decide_eq_true own
    refine ⟨⟨before.reverse, after.reverse, ?_, ?_⟩, same⟩
    · rw [← List.reverse_reverse secrets, split]
      simp
    · intro other member
      have differs := others other (List.mem_reverse.mp member)
      rw [same]
      simpa using differs
  · intro last
    obtain ⟨⟨before, after, rfl, others⟩, rfl⟩ := last
    refine ⟨by simp, after.reverse, before.reverse, by simp, ?_⟩
    intro other member
    simpa using others other (List.mem_reverse.mp member)

theorem findRev_isSome_iff (secrets : List Secret) (name : String) :
    (secrets.findRev? fun secret => secret.name = name).isSome = true ↔
      name ∈ secrets.map Secret.name := by
  rw [List.findRev?_eq_find?_reverse, List.find?_isSome]
  simp

/-- Each name in the list has a kept secret: the last one of the name, observed at that instant. -/
structure Store.Mirrors (s : Store) (secrets : List Secret) (time : Nat) : Prop where
  size : s.size = (secrets.map Secret.name).toFinset.card
  unlisted : ∀ name, name ∉ secrets.map Secret.name → s.get? name = none
  listed : ∀ name ∈ secrets.map Secret.name, ∃ secret,
    IsLast secrets secret ∧ secret.name = name ∧ s.get? name = some ⟨secret, time⟩

section Replaced
variable (secrets : List Secret) (time : Nat) (m : Contents)

theorem on_replace_eq_some_iff (name : String) (k : Kept) :
    (Write.replace secrets).on time m name = some k ↔
      IsLast secrets k.secret ∧ k.secret.name = name ∧ k.observedAt = time := by
  rw [Write.on, Option.map_eq_some_iff]
  constructor
  · intro found
    obtain ⟨secret, last, rfl⟩ := found
    obtain ⟨last, own⟩ := (findRev_eq_some_iff secrets name secret).mp last
    exact ⟨last, own, rfl⟩
  · intro kept
    obtain ⟨last, own, rfl⟩ := kept
    exact ⟨k.secret, (findRev_eq_some_iff secrets name k.secret).mpr ⟨last, own⟩, rfl⟩

theorem on_replace_isSome_iff (name : String) :
    ((Write.replace secrets).on time m name).isSome = true ↔ name ∈ secrets.map Secret.name := by
  rw [← findRev_isSome_iff, Write.on, Option.isSome_map]

theorem mirrors_of_replaced {s : Store} (sound : s.Sound)
    (replaced : s.get? = (Write.replace secrets).on time m) : s.Mirrors secrets time := by
  have some := on_replace_isSome_iff secrets time m
  refine ⟨?_, ?_, ?_⟩
  · have names : {name | ((Write.replace secrets).on time m name).isSome} =
        ↑(secrets.map Secret.name).toFinset := by
      ext name
      rw [Set.mem_ofPred_eq, List.coe_toFinset]
      exact some name
    rw [Store.size_eq sound, replaced, Contents.size, names, Set.ncard_coe_finset]
  · intro name unlisted
    rw [replaced]
    exact Option.not_isSome_iff_eq_none.mp fun found => unlisted ((some name).mp found)
  · intro name listed
    obtain ⟨k, kept⟩ := Option.isSome_iff_exists.mp ((some name).mpr listed)
    obtain ⟨last, own, at_time⟩ := (on_replace_eq_some_iff secrets time m name k).mp kept
    refine ⟨k.secret, last, own, ?_⟩
    rw [replaced, kept, ← at_time]

theorem lists_of_replaced {all : List Secret}
    (lists : Contents.Lists ((Write.replace secrets).on time m) all) :
    all.Pairwise (fun a b => a.name < b.name) ∧ ∀ secret, secret ∈ all ↔ IsLast secrets secret := by
  refine ⟨lists.1, ?_⟩
  intro secret
  rw [lists.2]
  constructor
  · intro kept
    obtain ⟨_, found⟩ := kept
    exact ((on_replace_eq_some_iff secrets time m _ _).mp found).1
  · intro last
    exact ⟨time, (on_replace_eq_some_iff secrets time m _ _).mpr ⟨last, rfl, rfl⟩⟩

end Replaced

theorem IsLast.listed {secrets : List Secret} {secret : Secret} (last : IsLast secrets secret) :
    secret.name ∈ secrets.map Secret.name := by
  obtain ⟨before, after, rfl, _⟩ := last
  simp

theorem IsLast.unique {secrets : List Secret} {secret other : Secret}
    (last : IsLast secrets secret) (last' : IsLast secrets other)
    (same : other.name = secret.name) : other = secret := by
  have found := (findRev_eq_some_iff secrets secret.name secret).mpr ⟨last, rfl⟩
  have found' := (findRev_eq_some_iff secrets secret.name other).mpr ⟨last', same⟩
  rw [found] at found'
  exact (Option.some.inj found').symm

theorem Store.Mirrors.kept {s : Store} {secrets : List Secret} {time : Nat}
    (mirrors : s.Mirrors secrets time) {secret : Secret} (last : IsLast secrets secret) :
    s.get? secret.name = some ⟨secret, time⟩ := by
  obtain ⟨other, last', own, kept⟩ := mirrors.listed secret.name last.listed
  rw [kept, last.unique last' own]

theorem brought_eq_some_iff {deadline : Nat} {reply : Reply α} {a : α} :
    reply.brought? deadline = some a ↔
      ∃ delay, reply = .after delay (.value a) ∧ delay < deadline := by
  rcases reply with _ | ⟨delay, answer⟩
  · simp [Reply.brought?]
  · by_cases inTime : delay < deadline <;> cases answer <;>
      simp [Reply.brought?, inTime]

namespace World

def Answered (w : World) (f : Finished) (secrets : List Secret) : Prop :=
  f.operation.request = .listing ∧ ∃ delay,
    w.Asked f.operation (some (.list (.after delay (.value secrets)))) ∧
      delay < f.operation.handle.timing.listDeadline ∧
      f.time = f.operation.started + delay

def Unanswered (w : World) (f : Finished) : Prop :=
  f.operation.request = .listing ∧ ∃ reply, w.Asked f.operation (some (.list reply)) ∧
    reply.brought? f.operation.handle.timing.listDeadline = none

theorem log_append (w : World) (first rest : List Finished) (i : Nat) :
    w.log (first ++ rest) i = w.log first i ++ w.log rest i := List.filterMap_append

section Moment
variable {backends : List (String × Backend)} {w : World} (moment : Moment backends w)
include moment

theorem resultOf_finished {f : Finished} (member : f ∈ w.finished) :
    w.resultOf f.operation.ticket = f.effect.result := by
  rw [resultOf, finished_result (moment_numbered moment) member]
  rfl

theorem asked_listing {f : Finished} (member : f ∈ w.finished)
    (request : f.operation.request = .listing) :
    ∃ reply, w.query? f.operation = some (.list reply) ∧
      w.Asked f.operation (some (.list reply)) := by
  obtain ⟨reply, asked⟩ := (ended_as_asked moment member).1.of_listing request
  exact ⟨reply, asked, asked ▸ query_asked w f.operation⟩

theorem query_of_asked {op : Operation} {q : Option Query} (asked : w.Asked op q) :
    w.query? op = q :=
  asked_unique (moment_accounted moment) (query_asked w op) asked

theorem listing_answered_or_not {f : Finished} (member : f ∈ w.finished)
    (request : f.operation.request = .listing) :
    (∃ secrets, w.Answered f secrets) ∨ w.Unanswered f := by
  obtain ⟨reply, query, asked⟩ := asked_listing moment member request
  cases brought : reply.brought? f.operation.handle.timing.listDeadline with
  | none => exact Or.inr ⟨request, reply, asked, brought⟩
  | some secrets =>
    left
    obtain ⟨delay, rfl, inTime⟩ := brought_eq_some_iff.mp brought
    refine ⟨secrets, request, delay, asked, inTime, ?_⟩
    have wait : (Reply.after delay (.value secrets)).wait
        f.operation.handle.timing.listDeadline = delay := by
      simp only [Reply.wait]
      omega
    rw [(ended_as_asked moment member).2, query, Operation.endTime, Query.wait, wait]

theorem effect_of_brought {f : Finished} (member : f ∈ w.finished)
    (request : f.operation.request = .listing) {reply : Reply (List Secret)}
    (asked : w.Asked f.operation (some (.list reply))) {secrets : List Secret}
    (brought : reply.brought? f.operation.handle.timing.listDeadline = some secrets) :
    f.effect.write = some (.replace secrets) ∧ f.effect.result = .secrets secrets := by
  have query := query_of_asked moment asked
  constructor
  · rw [written_as_asked moment member, query]
    simp only [Operation.write?, request, brought, Option.map_some]
  · obtain ⟨before, rest, split⟩ := List.append_of_mem member
    obtain ⟨_, _, reads⟩ := moment_told moment before f rest split
    rw [query] at reads
    simpa only [Operation.Reads, request, brought] using reads

theorem Answered.effect {f : Finished} {secrets : List Secret} (member : f ∈ w.finished)
    (answered : w.Answered f secrets) :
    f.effect.write = some (.replace secrets) ∧ f.effect.result = .secrets secrets := by
  obtain ⟨request, delay, asked, inTime, _⟩ := answered
  exact effect_of_brought moment member request asked
    (brought_eq_some_iff.mpr ⟨delay, rfl, inTime⟩)

theorem Unanswered.effect {f : Finished} (member : f ∈ w.finished)
    (unanswered : w.Unanswered f) : f.effect.write = none := by
  obtain ⟨request, reply, asked, brought⟩ := unanswered
  rw [written_as_asked moment member, query_of_asked moment asked]
  simp only [Operation.write?, request, brought, Option.map_none]

theorem store_after_write {v : World} {f : Finished} (moment' : Moment backends v)
    (ended : v.finished = w.finished ++ [f]) {write : Write} (written : f.effect.write = some write)
    (i : Nat) : v.store i =
      if f.operation.handle.store = i then write.apply f.time (w.store i) else w.store i := by
  rw [(moment_recorded moment').stores, ended, storeAfter_concat, written,
    (moment_recorded moment).stores]

theorem store_after_none {v : World} {f : Finished} (moment' : Moment backends v)
    (ended : v.finished = w.finished ++ [f]) (unwritten : f.effect.write = none)
    (i : Nat) : v.store i = w.store i := by
  rw [(moment_recorded moment').stores, ended, storeAfter_concat, unwritten,
    (moment_recorded moment).stores]
  exact ite_self _

theorem log_answered {f : Finished} {secrets : List Secret} (member : f ∈ w.finished)
    (answered : w.Answered f secrets) :
    w.log [f] f.operation.handle.store = [(f.time, .replace secrets)] := by
  rw [log_eq_writes moment (List.cons_subset.mpr ⟨member, List.nil_subset _⟩)]
  simp [writes, (answered.effect moment member).1]

theorem log_unanswered {f : Finished} (member : f ∈ w.finished) (unanswered : w.Unanswered f)
    (i : Nat) : w.log [f] i = [] := by
  rw [log_eq_writes moment (List.cons_subset.mpr ⟨member, List.nil_subset _⟩)]
  simp [writes, unanswered.effect moment member]

theorem replay_listed {before quiet : List Finished} {f : Finished} {secrets : List Secret}
    (member : f ∈ w.finished) (answered : w.Answered f secrets)
    (unwritten : w.log quiet f.operation.handle.store = []) :
    replay (w.log (before ++ f :: quiet) f.operation.handle.store) =
      (Write.replace secrets).on f.time (replay (w.log before f.operation.handle.store)) := by
  rw [log_append, ← List.singleton_append, log_append, log_answered moment member answered,
    unwritten, List.append_nil, replay_concat]

theorem mirrors_until_written {before rest : List Finished} {f : Finished} {secrets : List Secret}
    (split : w.finished = before ++ f :: rest) (answered : w.Answered f secrets)
    (unwritten : w.log rest f.operation.handle.store = []) :
    (w.store f.operation.handle.store).Mirrors secrets f.time := by
  have member : f ∈ w.finished := by simp [split]
  have kept := store_get? moment f.operation.handle.store
  rw [split, replay_listed moment member answered unwritten] at kept
  exact mirrors_of_replaced secrets f.time _ (store_sound moment _) kept

theorem listing_until_written {before between later : List Finished} {f g : Finished}
    {secrets : List Secret} (split : w.finished = before ++ f :: between ++ g :: later)
    (answered : w.Answered f secrets) (unanswered : w.Unanswered g)
    (same : g.operation.handle.store = f.operation.handle.store)
    (unwritten : w.log between f.operation.handle.store = []) :
    ∃ all, w.resultOf g.operation.ticket = .secrets all ∧
      all.Pairwise (fun a b => a.name < b.name) ∧
        ∀ secret, secret ∈ all ↔ IsLast secrets secret := by
  have member : f ∈ w.finished := by simp [split]
  have member' : g ∈ w.finished := by simp [split]
  have silent := log_unanswered moment member' unanswered f.operation.handle.store
  have unwritten' : w.log (between ++ [g]) f.operation.handle.store = [] := by
    rw [log_append, unwritten, silent, List.append_nil]
  obtain ⟨_, _, reads⟩ := moment_told moment (before ++ f :: between) g later split
  obtain ⟨request, reply, asked, brought⟩ := unanswered
  rw [query_of_asked moment asked] at reads
  simp only [Operation.Reads, request, brought] at reads
  obtain ⟨all, result, lists⟩ := reads
  rw [same, List.append_assoc, List.cons_append,
    replay_listed moment member answered unwritten'] at lists
  exact ⟨all, (resultOf_finished moment member').trans result,
    lists_of_replaced secrets f.time _ lists⟩

theorem run_of_ends {id : String} {h : Handle} {request : Request} {outcome : Outcome}
    (known : w.caches.lookup id = some h)
    (course : w.course (w.opening h request) = .ends outcome) :
    (w.step (.run id request)).2 =
      (h.effect (w.store h.store) w.clock w.clock outcome).result := by
  have begun : Moment backends (w.begin h request) := moment.tail (.begin w id h request known)
  let f : Finished := ⟨w.opening h request, w.clock, outcome,
    h.effect (w.store h.store) w.clock w.clock outcome⟩
  have member : f ∈ (w.begin h request).finished := by
    rw [begin_of_ends course]
    exact List.mem_append_right _ (List.mem_singleton.mpr rfl)
  simp only [step, known, await_of_ends moment course]
  exact resultOf_finished begun member

end Moment

/-- What a listing does that is answered: its result is the answer, and its store is replaced. -/
structure Replaced (w v : World) (f : Finished) (secrets : List Secret) : Prop where
  result : v.resultOf f.operation.ticket = .secrets secrets
  store : (v.store f.operation.handle.store).Mirrors secrets f.time
  others : ∀ i, i ≠ f.operation.handle.store → v.store i = w.store i

/-- What is seen of a store that holds the secrets of a listing: their number, and each of them
without asking the backend as long as it is fresh. -/
structure Mirrored (w : World) (i : Nat) (secrets : List Secret) (time : Nat) : Prop where
  store : (w.store i).Mirrors secrets time
  count : ∀ id h, w.caches.lookup id = some h → h.store = i →
    (w.step (.run id .size)).2 = .count (secrets.map Secret.name).toFinset.card
  served : ∀ s h secret, w.begins? s = some (h, .lookup secret.name) → h.store = i →
    IsLast secrets secret → w.clock < time + h.timing.freshThreshold →
      w.Served (w.step s).1 (w.opening h (.lookup secret.name)) secret ∧
        (w.report (w.step s).1 (w.step s).2).traffic = [] ∧
        ∀ id, s = .run id (.lookup secret.name) → (w.step s).2 = .secret (some secret)

section Moment
variable {backends : List (String × Backend)} {w : World} (moment : Moment backends w)
include moment

theorem listing_ends {v : World} {f : Finished} (move : Move w v)
    (ended : v.finished = w.finished ++ [f]) (request : f.operation.request = .listing) :
    (∃ secrets, v.Answered f secrets ∧ Replaced w v f secrets) ∨
      v.Unanswered f ∧ ∀ i, v.store i = w.store i := by
  have moment' : Moment backends v := moment.tail move
  have member : f ∈ v.finished := by simp [ended]
  rcases listing_answered_or_not moment' member request with ⟨secrets, answered⟩ | unanswered
  · left
    obtain ⟨written, result⟩ := answered.effect moment' member
    refine ⟨secrets, answered, ?_, ?_, ?_⟩
    · exact (resultOf_finished moment' member).trans result
    · exact mirrors_until_written moment' ended answered rfl
    · intro i other
      rw [store_after_write moment moment' ended written, if_neg other.symm]
  · right
    exact ⟨unanswered, store_after_none moment moment' ended (unanswered.effect moment' member)⟩

theorem mirrored_of_mirrors (settled : Settled w) {i : Nat} {secrets : List Secret} {time : Nat}
    (past : time ≤ w.clock) (mirrors : (w.store i).Mirrors secrets time) :
    w.Mirrored i secrets time := by
  refine ⟨mirrors, ?_, ?_⟩
  · intro id h known same
    have course : w.course (w.opening h .size) = .ends .sized := rfl
    rw [run_of_ends moment known course, same, ← mirrors.size]
    rfl
  · intro s h secret begins same last young
    have fresh : (w.store h.store).fresh? h.timing.freshThreshold w.clock secret.name =
        some secret := by
      rw [same, Store.fresh?, mirrors.kept last]
      refine if_pos (decide_eq_true ?_)
      simp only [Kept.age]
      omega
    have history := (fresh_iff moment h secret.name secret).mp fresh
    obtain ⟨served, shown⟩ := step_served moment begins history
    refine ⟨served, ?_, shown⟩
    have calls := step_calls w s
    rw [begins] at calls
    rw [step_traffic moment settled s, calls]
    exact (begin_asking moment h (.lookup secret.name)).1 ⟨secret, history⟩

theorem run_listing (settled : Settled w) {id : String} {h : Handle}
    (known : w.caches.lookup id = some h) :
    let reply := (backendOf backends h.backend).listReply (asked w.calls h.backend false)
    let v := (w.step (.run id .listing)).1
    v.clock = w.clock + reply.wait h.timing.listDeadline ∧
      ∃ f ∈ v.finished, f.operation = w.opening h .listing ∧
        v.Asked f.operation (some (.list reply)) ∧
        (w.step (.run id .listing)).2 = v.resultOf f.operation.ticket := by
  intro reply v
  let op := w.opening h .listing
  have begun : Moment backends (w.begin h .listing) := moment.tail (.begin w id h .listing known)
  have still := begin_settled settled h .listing
  have member : op ∈ (w.begin h .listing).operations :=
    (begin_operations w h .listing).mem_iff.mpr List.mem_cons_self
  have course : w.course op = .asks (.list reply) := by
    simp only [reply, ← moment_backends moment]
    rfl
  have asked : (w.begin h .listing).Asked op (some (.list reply)) := begin_asked_of_asks course
  obtain ⟨clock, f, ended, same, _, _⟩ := await_spec begun still member asked
  obtain ⟨later, _⟩ := await_later (moment_timely begun) still op.ticket
  have asked' := later_asked (moment_numbered begun) later member asked
  have stepped : w.step (.run id .listing) =
      ((w.begin h .listing).await op.ticket,
        ((w.begin h .listing).await op.ticket).resultOf op.ticket) := by
    simp only [step, known]
    rfl
  simp only [v, stepped]
  refine ⟨?_, f, ended, same, ?_, ?_⟩
  · rw [clock, (begin_frame w h .listing).1]
    exact Nat.max_eq_right (Nat.le_add_right _ _)
  · rw [same]
    exact asked'
  · rw [same]

end Moment

/-- In every run, whatever is kept and whatever is under way: a listing that is answered in time is
passed on, and its store then has the last secret of each name in it, and no other, observed at
that instant; one that is not answered changes nothing, and nothing changes before an end. Until
the store is written to, it shows as many secrets as there are names, in a listing that fails
exactly the last one of each name, in the order of the names, and to a lookup, while it is fresh,
the last one of its name without a call. -/
theorem listings_replace_stores (backends : List (String × Backend)) :
    (∀ w v, Moment backends w → Move w v → v.finished = w.finished → ∀ i, v.store i = w.store i) ∧
    (∀ w v f, Moment backends w → Move w v → v.finished = w.finished ++ [f] →
      f.operation.request = .listing →
        (∃ secrets, v.Answered f secrets ∧ Replaced w v f secrets) ∨
          v.Unanswered f ∧ ∀ i, v.store i = w.store i) ∧
    (∀ w before f between g later secrets, Moment backends w →
      w.finished = before ++ f :: between ++ g :: later → w.Answered f secrets → w.Unanswered g →
      g.operation.handle.store = f.operation.handle.store →
      w.log between f.operation.handle.store = [] →
        ∃ all, w.resultOf g.operation.ticket = .secrets all ∧
          all.Pairwise (fun a b => a.name < b.name) ∧
            ∀ secret, secret ∈ all ↔ IsLast secrets secret) ∧
    ∀ steps,
      let w := after backends steps
      (∀ before f rest secrets, w.finished = before ++ f :: rest → w.Answered f secrets →
        w.log rest f.operation.handle.store = [] →
          w.Mirrored f.operation.handle.store secrets f.time) ∧
      ∀ id h, w.caches.lookup id = some h →
        let reply := (backendOf backends h.backend).listReply (asked w.calls h.backend false)
        let v := (w.step (.run id .listing)).1
        v.clock = w.clock + reply.wait h.timing.listDeadline ∧
        (∀ secrets, reply.brought? h.timing.listDeadline = some secrets →
          (w.step (.run id .listing)).2 = .secrets secrets) ∧
        ∃ f ∈ v.finished, f.operation = w.opening h .listing ∧
          v.Asked f.operation (some (.list reply)) ∧
          (w.step (.run id .listing)).2 = v.resultOf f.operation.ticket := by
  refine ⟨?_, ?_, ?_, ?_⟩
  · intro w v moment move same i
    have moment' : Moment backends v := moment.tail move
    rw [(moment_recorded moment').stores, same, (moment_recorded moment).stores]
  · intro w v f moment move ended request
    exact listing_ends moment move ended request
  · intro w before f between g later secrets moment split answered unanswered same unwritten
    exact listing_until_written moment split answered unanswered same unwritten
  · intro steps w
    have moment : Moment backends w := after_moment backends steps
    have settled : Settled w := after_settled backends steps
    constructor
    · intro before f rest secrets split answered unwritten
      have past := (moment_recorded moment).past f (by simp [split])
      exact mirrored_of_mirrors moment settled past
        (mirrors_until_written moment split answered unwritten)
    · intro id h known reply v
      have later := (step_later (moment_timely moment) settled (.run id .listing)).1
      have moment' : Moment backends v := moment.trans later
      obtain ⟨clock, f, ended, same, asked, shown⟩ := run_listing moment settled known
      refine ⟨clock, ?_, f, ended, same, asked, shown⟩
      intro secrets brought
      have request : f.operation.request = .listing := by rw [same]; rfl
      have inTime : reply.brought? f.operation.handle.timing.listDeadline = some secrets := by
        rw [same]
        exact brought
      rw [shown, resultOf_finished moment' ended,
        (effect_of_brought moment' ended request asked inTime).2]

/-- A listing with two secrets of one name replaces what was added before it; the size, and a
listing on which the backend breaks down, then tell what it has left. -/
theorem listings_replace_stores_of_a_seeded_cache :
    let named := fun name content => Secret.create name (.ofText content) .epoch
    let secrets := [named "b" "", named "a" "first", named "a" "last"]
    let backends := [("b", { Backend.blank with
      listings := [.after (milliseconds 3) (.value secrets),
        .after (milliseconds 5) .breakdown] })]
    let h : Handle := ⟨0, "b", .ofMillis 100 10 20, .default⟩
    let steps := [.create "c" "b" h.timing .default, .run "c" (.add (named "x" "seed")),
      .run "c" .listing]
    let w := after backends steps
    let v := after backends (steps ++ [.run "c" .listing])
    w.Mirrored 0 secrets (milliseconds 3) ∧ (w.step (.run "c" .size)).2 = .count 2 ∧
      (w.step (.run "c" (.lookup "a"))).2 = .secret (some (named "a" "last")) ∧
      ∃ added f g, v.finished = [added] ++ f :: [] ++ g :: [] ∧ v.Answered f secrets ∧
        v.Unanswered g ∧ ∃ all, v.resultOf g.operation.ticket = .secrets all ∧
          all.Pairwise (fun a b => a.name < b.name) ∧
            ∀ secret, secret ∈ all ↔ IsLast secrets secret := by
  intro named secrets backends h steps w v
  let adding : Operation := ⟨0, h, .add (named "x" "seed"), 0⟩
  let listing : Operation := ⟨1, h, .listing, 0⟩
  let failing : Operation := ⟨2, h, .listing, milliseconds 3⟩
  obtain ⟨_, _, relisted, stepped⟩ := listings_replace_stores backends
  have mirrored : w.Mirrored 0 secrets (milliseconds 3) := by
    have ended : w.finished.map (fun f => (f.operation, f.time)) =
        [(adding, 0), (listing, milliseconds 3)] := by
      decide +kernel
    obtain ⟨added, _, split, _, behind⟩ := List.map_eq_cons_iff.mp ended
    obtain ⟨f, _, rfl, same, none⟩ := List.map_eq_cons_iff.mp behind
    obtain rfl := List.map_eq_nil_iff.mp none
    obtain ⟨operation, time⟩ := Prod.mk.inj same
    have asked : ⟨listing, .list (.after (milliseconds 3) (.value secrets))⟩ ∈ w.calls := by
      decide +kernel
    have answered : w.Answered f secrets := by
      rw [Answered, operation, time]
      exact ⟨rfl, milliseconds 3, asked, by decide, (Nat.zero_add _).symm⟩
    have shown := (stepped steps).1 [added] f [] secrets split answered rfl
    rw [operation, time] at shown
    exact shown
  have known : w.caches.lookup "c" = some h := by decide +kernel
  have last : IsLast secrets (named "a" "last") := by
    refine ⟨[named "b" "", named "a" "first"], [], rfl, by simp⟩
  have begins : w.begins? (.run "c" (.lookup "a")) = some (h, .lookup "a") := by
    rw [begins?, known]
    rfl
  have young : w.clock < milliseconds 3 + h.timing.freshThreshold := by decide +kernel
  have ended : v.finished.map (fun f => (f.operation, f.time)) =
      [(adding, 0), (listing, milliseconds 3), (failing, milliseconds 8)] := by
    decide +kernel
  obtain ⟨added, _, split, _, behind⟩ := List.map_eq_cons_iff.mp ended
  obtain ⟨f, _, rfl, same, behind⟩ := List.map_eq_cons_iff.mp behind
  obtain ⟨g, _, rfl, same', none⟩ := List.map_eq_cons_iff.mp behind
  obtain rfl := List.map_eq_nil_iff.mp none
  have moment : Moment backends v := after_moment backends _
  obtain ⟨operation, time⟩ := Prod.mk.inj same
  obtain ⟨operation', _⟩ := Prod.mk.inj same'
  have asked : ⟨listing, .list (.after (milliseconds 3) (.value secrets))⟩ ∈ v.calls := by
    decide +kernel
  have asked' : ⟨failing, .list (.after (milliseconds 5) .breakdown)⟩ ∈ v.calls := by
    decide +kernel
  have answered : v.Answered f secrets := by
    rw [Answered, operation, time]
    exact ⟨rfl, milliseconds 3, asked, by decide, (Nat.zero_add _).symm⟩
  have unanswered : v.Unanswered g := by
    rw [Unanswered, operation']
    exact ⟨rfl, .after (milliseconds 5) .breakdown, asked', rfl⟩
  refine ⟨mirrored, ?_, (mirrored.served _ h _ begins rfl last young).2.2 "c" rfl, added, f, g,
    split, answered, unanswered, ?_⟩
  · rw [mirrored.count "c" h known rfl]
    rfl
  · exact relisted v [added] f [] g [] secrets moment split answered unanswered
      (by rw [operation, operation']) rfl

end World
end SecretKeeper.Cache

import SecretKeeper.Proofs.Cache.Happenings
import SecretKeeper.Proofs.Cache.WriteLog

/-!
When backends are asked. A lookup asks unless its secret is fresh, and whether it is can be told
from the log of writes alone: by the time of the last write of its name, unless the name is gone
since then. Reading a secret is not a write and never makes it younger.
-/
namespace SecretKeeper.Cache

def Write.leaves? (name : String) : Write → Option Secret
  | .add secret => if secret.name = name then some secret else none
  | .replace secrets => secrets.findRev? fun secret => secret.name = name
  | .clear => none

def Write.Spares (name : String) : Write → Prop
  | .add secret => secret.name ≠ name
  | _ => False

/-- A secret is the one that the last write of its name left at a time; no listing without the
name and no clearing has come after it. -/
def LastWritten (log : List (Nat × Write)) (name : String) (k : Kept) : Prop :=
  ∃ before write after, log = before ++ (k.observedAt, write) :: after ∧
    write.leaves? name = some k.secret ∧ ∀ e ∈ after, e.2.Spares name

theorem on_of_spares {write : Write} {name : String} (spares : write.Spares name) (time : Nat)
    (m : Contents) : write.on time m name = m name := by
  cases write with
  | add secret => exact Function.update_of_ne (Ne.symm spares) _ _
  | replace | clear => exact spares.elim

theorem on_of_not_spares {write : Write} {name : String} (own : ¬ write.Spares name) (time : Nat)
    (m : Contents) :
    write.on time m name = (write.leaves? name).map fun secret => ⟨secret, time⟩ := by
  cases write with
  | add secret =>
    have same : secret.name = name := Decidable.of_not_not own
    simp [Write.on, Write.leaves?, same]
  | replace | clear => rfl

theorem lastWritten_of_spares {log : List (Nat × Write)} {name : String} {write : Write}
    (spares : write.Spares name) (time : Nat) (k : Kept) :
    LastWritten (log ++ [(time, write)]) name k ↔ LastWritten log name k := by
  constructor
  · rintro ⟨before, last, after, split, leaves, others⟩
    rcases split_concat split with ⟨_, _, same⟩ | ⟨rest, rfl, old⟩
    · -- What spares a name leaves nothing under it.
      cases same
      cases write with
      | add secret =>
        have other : secret.name ≠ name := spares
        simp [Write.leaves?, other] at leaves
      | replace | clear => exact spares.elim
    · exact ⟨before, last, rest, old, leaves, fun e member => others e (by simp [member])⟩
  · rintro ⟨before, last, after, rfl, leaves, others⟩
    refine ⟨before, last, after ++ [(time, write)], by simp, leaves, ?_⟩
    intro e member
    rcases List.mem_append.mp member with old | new
    · exact others e old
    · obtain rfl := List.mem_singleton.mp new
      exact spares

theorem lastWritten_of_not_spares {log : List (Nat × Write)} {name : String} {write : Write}
    (own : ¬ write.Spares name) (time : Nat) (k : Kept) :
    LastWritten (log ++ [(time, write)]) name k ↔
      write.leaves? name = some k.secret ∧ time = k.observedAt := by
  constructor
  · rintro ⟨before, last, after, split, leaves, others⟩
    rcases split_concat split with ⟨_, _, same⟩ | ⟨rest, rfl, _⟩
    · cases same
      exact ⟨leaves, rfl⟩
    · exact absurd (others (time, write) (by simp)) own
  · rintro ⟨leaves, rfl⟩
    exact ⟨log, write, [], rfl, leaves, by simp⟩

/-- What a log of writes comes to under a name is what the last write of the name left. -/
theorem replay_eq_some_iff (log : List (Nat × Write)) (name : String) (k : Kept) :
    replay log name = some k ↔ LastWritten log name k := by
  induction log using List.reverseRecOn with
  | nil =>
    constructor
    · intro found
      cases found
    · rintro ⟨before, write, after, split, _⟩
      simp at split
  | append_singleton log entry ih =>
    obtain ⟨time, write⟩ := entry
    rw [replay_concat]
    by_cases spares : write.Spares name
    · rw [on_of_spares spares, lastWritten_of_spares spares, ih]
    · rw [on_of_not_spares spares, lastWritten_of_not_spares spares]
      constructor
      · intro found
        obtain ⟨secret, leaves, rfl⟩ := Option.map_eq_some_iff.mp found
        exact ⟨leaves, rfl⟩
      · rintro ⟨leaves, rfl⟩
        rw [leaves]
        rfl

def Report.traffic (r : Report) : List Happening := r.happenings.filter Happening.isCall

namespace World

def FreshByHistory (w : World) (h : Handle) (name : String) (secret : Secret) : Prop :=
  ∃ time, LastWritten (w.log w.finished h.store) name ⟨secret, time⟩ ∧
    w.clock - time < h.timing.freshThreshold

/-- Whom an operation asks that begins now: a lookup of what is not fresh and a listing ask the
backend once and now, and all else asks nobody. -/
def Asking (w : World) (h : Handle) : Request → List Happening → Prop
  | .lookup name, traffic =>
    ((∃ secret, w.FreshByHistory h name secret) → traffic = []) ∧
      ((¬ ∃ secret, w.FreshByHistory h name secret) →
        traffic = [⟨h.backend, .call, w.clock, some name⟩])
  | .listing, traffic => traffic = [⟨h.backend, .call, w.clock, none⟩]
  | _, traffic => traffic = []

def Served (w v : World) (op : Operation) (secret : Secret) : Prop :=
  v.clock = w.clock ∧ v.stores = w.stores ∧ v.agenda = w.agenda ∧
    ∃ f, v.finished = w.finished ++ [f] ∧ f.operation = op ∧ f.time = w.clock ∧
      f.effect.result = .secret (some secret)

theorem noticed_calls {w v : World} (before : Noticed w) (after : Noticed v) (later : Later w v) :
    (v.happenings.drop w.happenings.length).filter Happening.isCall =
      (v.calls.drop w.calls.length).map Call.issued := by
  obtain ⟨new, grown⟩ := (later_grown later).happenings
  have issued := after.issued
  rw [← grown, List.filter_append, before.issued] at issued
  rw [← grown, List.drop_left, List.map_drop, ← issued]
  exact (List.drop_left' (List.length_map _)).symm

section Freshness
variable {backends : List (String × Backend)} {w : World} (moment : Moment backends w)
include moment

theorem fresh_iff (h : Handle) (name : String) (secret : Secret) :
    (w.store h.store).fresh? h.timing.freshThreshold w.clock name = some secret ↔
      w.FreshByHistory h name secret := by
  have held := congrFun (store_get? moment h.store) name
  simp only [Store.fresh?, held, FreshByHistory, ← replay_eq_some_iff]
  constructor
  · intro found
    split at found
    · rename_i k kept
      split at found
      · rename_i young
        cases found
        exact ⟨k.observedAt, kept, of_decide_eq_true young⟩
      · cases found
    · cases found
  · rintro ⟨time, kept, young⟩
    rw [kept]
    exact if_pos (decide_eq_true young)

theorem unfresh_iff (h : Handle) (name : String) :
    (w.store h.store).fresh? h.timing.freshThreshold w.clock name = none ↔
      ¬ ∃ secret, w.FreshByHistory h name secret := by
  rw [Option.eq_none_iff_forall_ne_some]
  constructor
  · rintro none ⟨secret, fresh⟩
    exact none secret ((fresh_iff moment h name secret).mpr fresh)
  · intro none secret found
    exact none ⟨secret, (fresh_iff moment h name secret).mp found⟩

theorem course_of_fresh {h : Handle} {name : String} {secret : Secret}
    (fresh : w.FreshByHistory h name secret) :
    w.course (w.opening h (.lookup name)) = .ends (.fresh name secret) := by
  simp only [World.course, opening, (fresh_iff moment h name secret).mpr fresh]

theorem course_of_unfresh {h : Handle} {name : String}
    (unfresh : ¬ ∃ secret, w.FreshByHistory h name secret) :
    ∃ reply, w.course (w.opening h (.lookup name)) = .asks (.fetch name reply) := by
  refine ⟨(backendOf w.backends h.backend).fetchReply (asked w.calls h.backend true) name, ?_⟩
  simp only [World.course, opening, (unfresh_iff moment h name).mpr unfresh]

theorem await_of_ends {h : Handle} {request : Request} {outcome : Outcome}
    (course : w.course (w.opening h request) = .ends outcome) :
    (w.begin h request).await w.nextTicket = w.begin h request := by
  have agenda : (w.begin h request).agenda = w.agenda := by
    rw [begin_of_ends course]
    rfl
  unfold await
  cases due : (w.begin h request).dueTime? w.nextTicket with
  | none => rfl
  | some t =>
    obtain ⟨d, scheduled, _, op, outcome, ending, ticket⟩ := dueTime_mem due
    rw [agenda] at scheduled
    have given := ticket_lt (moment_numbered moment)
      (mem_operations.mpr (Or.inr ⟨d, scheduled, outcome, ending⟩))
    omega

theorem begin_asking (h : Handle) (request : Request) :
    w.Asking h request (((w.begin h request).calls.drop w.calls.length).map Call.issued) := by
  have silent (outcome : Outcome) (course : w.course (w.opening h request) = .ends outcome) :
      ((w.begin h request).calls.drop w.calls.length).map Call.issued = [] := by
    rw [begin_calls_of_ends course, List.drop_length]
    rfl
  have single (q : Query) (course : w.course (w.opening h request) = .asks q) :
      ((w.begin h request).calls.drop w.calls.length).map Call.issued =
        [⟨h.backend, .call, w.clock, q.name?⟩] := by
    rw [begin_calls_of_asks course, List.drop_left]
    rfl
  cases request with
  | lookup name =>
    constructor
    · rintro ⟨secret, fresh⟩
      exact silent (.fresh name secret) (course_of_fresh moment fresh)
    · intro unfresh
      obtain ⟨reply, course⟩ := course_of_unfresh moment unfresh
      exact single (.fetch name reply) course
  | listing => exact single (.list _) rfl
  | add secret => exact silent (.added secret) rfl
  | clear => exact silent .cleared rfl
  | size => exact silent .sized rfl
  | isEmpty => exact silent .emptiness rfl
  | info => exact silent .info rfl

theorem begin_served {h : Handle} {name : String} {secret : Secret}
    (fresh : w.FreshByHistory h name secret) :
    w.Served (w.begin h (.lookup name)) (w.opening h (.lookup name)) secret ∧
      (w.begin h (.lookup name)).await w.nextTicket = w.begin h (.lookup name) := by
  have course := course_of_fresh moment fresh
  refine ⟨?_, await_of_ends moment course⟩
  rw [begin_of_ends course]
  exact ⟨rfl, rfl, rfl, _, rfl, rfl, rfl, rfl⟩

theorem log_past {i : Nat} {e : Nat × Write} (member : e ∈ w.log w.finished i) :
    e.1 ≤ w.clock := by
  rw [log_eq_writes moment (List.Subset.refl _)] at member
  obtain ⟨f, ended, written⟩ := List.mem_filterMap.mp member
  split at written
  · obtain ⟨write, _, rfl⟩ := Option.map_eq_some_iff.mp written
    exact (moment_recorded moment).past f ended
  · cases written

end Freshness
theorem step_traffic {backends : List (String × Backend)} {w : World}
    (moment : Moment backends w) (settled : Settled w) (s : Step) :
    (w.report (w.step s).1 (w.step s).2).traffic =
      ((w.step s).1.calls.drop w.calls.length).map Call.issued := by
  have later := (step_later (moment_timely moment) settled s).1
  exact noticed_calls (moment_noticed moment) (moment_noticed (moment.trans later)) later

theorem step_served {backends : List (String × Backend)} {w : World}
    (moment : Moment backends w) {s : Step} {h : Handle} {name : String} {secret : Secret}
    (begins : w.begins? s = some (h, .lookup name)) (fresh : w.FreshByHistory h name secret) :
    w.Served (w.step s).1 (w.opening h (.lookup name)) secret ∧
      ∀ id, s = .run id (.lookup name) → (w.step s).2 = .secret (some secret) := by
  obtain ⟨served, awaited⟩ := begin_served moment fresh
  cases s with
  | run id request =>
    obtain ⟨_, known, same⟩ := Option.map_eq_some_iff.mp begins
    cases same
    simp only [step, known, awaited]
    refine ⟨served, ?_⟩
    rintro _ _
    obtain ⟨_, _, _, f, finished, operation, _, result⟩ := served
    have begun := moment_numbered (moment.tail (.begin w id h (.lookup name) known))
    have member : f ∈ (w.begin h (.lookup name)).finished := by simp [finished]
    have shown := finished_result begun member
    rw [operation] at shown
    rw [resultOf, show w.nextTicket = (w.opening h (.lookup name)).ticket from rfl, shown]
    exact result
  | start other id request =>
    obtain ⟨_, known, same⟩ := Option.map_eq_some_iff.mp begins
    cases same
    simp only [step, known]
    refine ⟨served, ?_⟩
    rintro _ ⟨⟩
  | create | clone | join | sleep | jump | metrics => cases begins

/-- In every run a step asks a backend exactly if it begins a listing or a lookup of what is not
fresh, once and at its start. Whether a secret is fresh is told by the log of writes; a fresh one
is served at once, as it was last written. Without a span of freshness every lookup asks. -/
theorem freshness_decides_traffic (backends : List (String × Backend)) (steps : List Step)
    (s : Step) :
    let w := after backends steps
    let v := (w.step s).1
    let traffic := (w.report v (w.step s).2).traffic
    (∀ i, ∀ e ∈ w.log w.finished i, e.1 ≤ w.clock) ∧
    match w.begins? s with
    | none => traffic = []
    | some (h, request) =>
      w.Asking h request traffic ∧
        ∀ name, request = .lookup name →
          (h.timing.freshThreshold = 0 →
            traffic = [⟨h.backend, .call, w.clock, some name⟩]) ∧
          ∀ secret, w.FreshByHistory h name secret →
            w.Served v (w.opening h request) secret ∧
              ∀ id, s = .run id request → (w.step s).2 = .secret (some secret) := by
  intro w v traffic
  have moment := after_moment backends steps
  have settled := after_settled backends steps
  have traffic_eq : traffic = (v.calls.drop w.calls.length).map Call.issued :=
    step_traffic moment settled s
  have calls : v.calls = _ := step_calls w s
  constructor
  · exact fun i e => log_past moment
  · cases begins : w.begins? s with
    | none =>
      rw [begins] at calls
      rw [traffic_eq, calls, List.drop_length]
      rfl
    | some pair =>
      obtain ⟨h, request⟩ := pair
      rw [begins] at calls
      have asking : w.Asking h request traffic := by
        rw [traffic_eq, calls]
        exact begin_asking moment h request
      refine ⟨asking, ?_⟩
      rintro name rfl
      refine ⟨?_, fun secret fresh => step_served moment begins fresh⟩
      intro none
      apply asking.2
      rintro ⟨secret, time, _, young⟩
      rw [none] at young
      exact Nat.not_lt_zero _ young

/-- An age of exactly the span of freshness is on the asking side. -/
theorem freshness_ends_at_the_threshold :
    let timing : Timing := .ofMillis 10 20 30
    let aged := fun age => after [] [.create "c" "b" timing .default,
      .run "c" (.add (Secret.create "a" .empty .epoch)), .sleep (milliseconds age)]
    let traffic := fun w => (report w (w.step (.run "c" (.lookup "a"))).1
      (w.step (.run "c" (.lookup "a"))).2).traffic
    traffic (aged 9) = [] ∧
      traffic (aged 10) = [⟨"b", .call, milliseconds 10, some "a"⟩] := by
  intro timing aged traffic
  let steps : Nat → List Step := fun age => [.create "c" "b" timing .default,
    .run "c" (.add (Secret.create "a" .empty .epoch)), .sleep (milliseconds age)]
  have young := freshness_decides_traffic [] (steps 9) (.run "c" (.lookup "a"))
  have old := freshness_decides_traffic [] (steps 10) (.run "c" (.lookup "a"))
  refine ⟨young.2.1.1 ?_, (old.2.1.2 ?_).trans (by decide +kernel)⟩
  · refine ⟨Secret.create "a" .empty .epoch, 0, ?_, by decide +kernel⟩
    exact (replay_eq_some_iff _ _ _).mp (by decide +kernel)
  · rintro ⟨secret, time, written, fresh⟩
    have kept := (replay_eq_some_iff _ _ _).mpr written
    have last : replay ((after [] (steps 10)).log (after [] (steps 10)).finished 0) "a" =
        some ⟨Secret.create "a" .empty .epoch, 0⟩ := by decide +kernel
    cases kept.symm.trans last
    have aged : ¬(after [] (steps 10)).clock - 0 < timing.freshThreshold := by decide +kernel
    exact aged fresh

end World
end SecretKeeper.Cache

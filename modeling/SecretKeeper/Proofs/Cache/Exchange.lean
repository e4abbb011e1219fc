import SecretKeeper.Proofs.Cache.Contents
import SecretKeeper.Proofs.Cache.SideBySide

/-!
Exchanging contents. What is supplied to a cache, in scripts and in steps, may have other contents:
then all that the cache keeps and gives back has the other contents too, and nothing else changes,
because no operation looks into a content.
-/
namespace SecretKeeper

def Secret.exchange (f : Secret.Content → Secret.Content) (s : Secret) : Secret :=
  { s with content := f s.content }

@[simp] theorem Secret.exchange_name (f : Secret.Content → Secret.Content) (s : Secret) :
    (s.exchange f).name = s.name := rfl

namespace Cache

def Answer.map (g : α → β) : Answer α → Answer β
  | value a => value (g a)
  | nothing => nothing
  | breakdown => breakdown

def Reply.map (g : α → β) : Reply α → Reply β
  | never => never
  | after delay answer => after delay (answer.map g)

def Verdict.map (g : α → β) : Verdict α → Verdict β
  | answered a => answered (g a)
  | unusable => unusable
  | failed => failed
  | late => late

/-! Each kind of thing that holds secrets, with its contents exchanged. -/

section Exchange
variable (f : Secret.Content → Secret.Content)

def Backend.exchange (b : Backend) : Backend where
  fetches := b.fetches.map (Reply.map (Secret.exchange f))
  byName := b.byName.map fun e => (e.1, e.2.map (Secret.exchange f))
  otherFetches := b.otherFetches.map (Secret.exchange f)
  listings := b.listings.map (Reply.map (List.map (Secret.exchange f)))
  otherListings := b.otherListings.map (List.map (Secret.exchange f))

def Query.exchange : Query → Query
  | fetch name reply => fetch name (reply.map (Secret.exchange f))
  | list reply => list (reply.map (List.map (Secret.exchange f)))

def Request.exchange : Request → Request
  | add secret => add (secret.exchange f)
  | other => other

def Operation.exchange (op : Operation) : Operation := { op with request := op.request.exchange f }

def Outcome.exchange : Outcome → Outcome
  | fresh name secret => fresh name (secret.exchange f)
  | fetched name verdict => fetched name (verdict.map (Secret.exchange f))
  | listed verdict => listed (verdict.map (List.map (Secret.exchange f)))
  | added secret => added (secret.exchange f)
  | other => other

def Write.exchange : Write → Write
  | add secret => add (secret.exchange f)
  | replace secrets => replace (secrets.map (Secret.exchange f))
  | clear => clear

def Kept.exchange (k : Kept) : Kept := { k with secret := k.secret.exchange f }

def Store.exchange (s : Store) : Store := ⟨s.entries.map fun e => (e.1, e.2.exchange f)⟩

def Result.exchange : Result → Result
  | secret found => secret (found.map (Secret.exchange f))
  | secrets all => secrets (all.map (Secret.exchange f))
  | other => other

def Effect.exchange (e : Effect) : Effect :=
  { e with result := e.result.exchange f, write := e.write.map (Write.exchange f) }

def Course.exchange : Course → Course
  | ends outcome => ends (outcome.exchange f)
  | asks query => asks (query.exchange f)

def Due.exchange (d : Due) : Due :=
  { d with ending := d.ending.map fun e => (e.1.exchange f, e.2.exchange f) }

def Call.exchange (c : Call) : Call := ⟨c.operation.exchange f, c.query.exchange f⟩

def Finished.exchange (x : Finished) : Finished :=
  ⟨x.operation.exchange f, x.time, x.outcome.exchange f, x.effect.exchange f⟩

def World.exchange (w : World) : World :=
  { w with
    backends := w.backends.map fun e => (e.1, e.2.exchange f)
    stores := w.stores.map (Store.exchange f)
    agenda := w.agenda.map (Due.exchange f)
    calls := w.calls.map (Call.exchange f)
    finished := w.finished.map (Finished.exchange f) }

def Step.exchange : Step → Step
  | run id request => run id (request.exchange f)
  | start name id request => start name id (request.exchange f)
  | other => other

def Report.exchange (r : Report) : Report := { r with result := r.result.exchange f }

end Exchange

structure Scenario where
  backends : List (String × Backend)
  steps : List Step

namespace Scenario

def exchange (f : Secret.Content → Secret.Content) (s : Scenario) : Scenario :=
  ⟨s.backends.map fun e => (e.1, e.2.exchange f), s.steps.map (Step.exchange f)⟩

def last (s : Scenario) : World := World.after s.backends s.steps

def reports (s : Scenario) : List Report := ((World.start s.backends).run s.steps).2

end Scenario

theorem lookup_map (g : α → β) (key : String) (entries : List (String × α)) :
    (entries.map fun e => (e.1, g e.2)).lookup key = (entries.lookup key).map g := by
  induction entries with
  | nil => rfl
  | cons first rest ih =>
    obtain ⟨k, v⟩ := first
    rw [List.map_cons, lookup_first, lookup_first, ih]
    split <;> rfl

theorem assign_map (g : α → β) (key : String) (value : α) (entries : List (String × α)) :
    assign key (g value) (entries.map fun e => (e.1, g e.2)) =
      (assign key value entries).map fun e => (e.1, g e.2) := by
  induction entries with
  | nil => rfl
  | cons first rest ih =>
    simp only [List.map_cons, assign, ih]
    split <;> rfl

namespace Reply
variable (g : α → β)

@[simp] theorem inTime_map (deadline : Nat) (r : Reply α) :
    (r.map g).inTime deadline = r.inTime deadline := by
  cases r <;> rfl

@[simp] theorem completion?_map (r : Reply α) : (r.map g).completion? = r.completion? := by
  rcases r with _ | ⟨delay, answer⟩
  · rfl
  · cases answer <;> rfl

theorem verdict_map (deadline : Nat) (r : Reply α) :
    (r.map g).verdict deadline = (r.verdict deadline).map g := by
  rcases r with _ | ⟨delay, answer⟩
  · rfl
  · have same := inTime_map g deadline (after delay answer)
    simp only [map] at same
    simp only [map, verdict, same]
    cases (after delay answer).inTime deadline <;> cases answer <;> rfl

end Reply

section Exchange
variable (f : Secret.Content → Secret.Content)

namespace Query

@[simp] theorem exchange_name? (q : Query) : (q.exchange f).name? = q.name? := by
  cases q <;> rfl

@[simp] theorem exchange_isFetch (q : Query) : (q.exchange f).isFetch = q.isFetch := by
  cases q <;> rfl

@[simp] theorem exchange_deadline (q : Query) (t : Timing) :
    (q.exchange f).deadline t = q.deadline t := by
  cases q <;> rfl

@[simp] theorem exchange_inTime (q : Query) (t : Timing) :
    (q.exchange f).inTime t = q.inTime t := by
  cases q <;> exact Reply.inTime_map _ _ _

@[simp] theorem exchange_completion? (q : Query) :
    (q.exchange f).completion? = q.completion? := by
  cases q <;> exact Reply.completion?_map _ _

theorem exchange_outcome (q : Query) (t : Timing) :
    (q.exchange f).outcome t = (q.outcome t).exchange f := by
  cases q <;> simp only [exchange, outcome, Outcome.exchange, Reply.verdict_map]

end Query

theorem Operation.dues_exchange (op : Operation) (q : Query) :
    (op.exchange f).dues (q.exchange f) = (op.dues q).map (Due.exchange f) := by
  unfold dues
  simp only [exchange, Query.exchange_outcome, Query.exchange_deadline,
    Query.exchange_completion?, Query.exchange_inTime, Query.exchange_name?]
  cases q.completion? with
  | none => rfl
  | some completion =>
    simp only
    split <;> rfl

namespace Store

theorem get?_exchange (s : Store) (name : String) :
    (s.exchange f).get? name = (s.get? name).map (Kept.exchange f) :=
  lookup_map _ _ _

@[simp] theorem size_exchange (s : Store) : (s.exchange f).size = s.size :=
  List.length_map _

theorem add_exchange (s : Store) (now : Nat) (secret : Secret) :
    (s.exchange f).add now (secret.exchange f) = (s.add now secret).exchange f :=
  congrArg Store.mk (assign_map (Kept.exchange f) secret.name ⟨secret, now⟩ s.entries)

theorem fresh?_exchange (s : Store) (threshold now : Nat) (name : String) :
    (s.exchange f).fresh? threshold now name =
      (s.fresh? threshold now name).map (Secret.exchange f) := by
  unfold fresh?
  rw [get?_exchange]
  cases s.get? name with
  | none => rfl
  | some k =>
    have same : (k.exchange f).isFresh threshold now = k.isFresh threshold now := rfl
    simp only [Option.map_some, same]
    cases k.isFresh threshold now <;> rfl

theorem secrets_exchange (s : Store) :
    (s.exchange f).secrets = s.secrets.map (Secret.exchange f) := by
  have sorted := List.map_mergeSort (r := fun a b => a.1 ≤ b.1) (s := fun a b => a.1 ≤ b.1)
    (f := fun e : String × Kept => (e.1, e.2.exchange f)) (l := s.entries) fun _ _ _ _ => rfl
  simp only [secrets, exchange, ← sorted, List.map_map]
  rfl

theorem ofListing_exchange (now : Nat) (secrets : List Secret) :
    ofListing now (secrets.map (Secret.exchange f)) = (ofListing now secrets).exchange f := by
  have added : ∀ (all : List Secret) (s : Store),
      (all.map (Secret.exchange f)).foldl (fun s secret => s.add now secret) (s.exchange f) =
        (all.foldl (fun s secret => s.add now secret) s).exchange f := by
    intro all
    induction all with
    | nil => intro s; rfl
    | cons secret rest ih =>
      intro s
      rw [List.map_cons, List.foldl_cons, List.foldl_cons, add_exchange, ih]
  exact added secrets empty

end Store

theorem Write.apply_exchange (w : Write) (now : Nat) (s : Store) :
    (w.exchange f).apply now (s.exchange f) = (w.apply now s).exchange f := by
  cases w with
  | add secret => exact Store.add_exchange f s now secret
  | replace secrets => exact Store.ofListing_exchange f now secrets
  | clear => rfl

@[simp] theorem Handle.span?_exchange (h : Handle) (outcome : Outcome) :
    h.span? (outcome.exchange f) = h.span? outcome := by
  cases outcome <;> rfl

namespace Handle
variable (h : Handle) (s : Store)

@[simp] theorem entriesAfter_exchange (w : Write) (now : Nat) :
    h.entriesAfter (w.exchange f) now (s.exchange f) = h.entriesAfter w now s := by
  simp only [entriesAfter, Write.apply_exchange, Store.size_exchange]

theorem fallback_exchange (now : Nat) (name : String) (notes : List Note)
    (measurements : List Metrics.Measurement) :
    h.fallback (s.exchange f) now name notes measurements =
      (h.fallback s now name notes measurements).exchange f := by
  unfold fallback
  rw [Store.get?_exchange]
  cases s.get? name <;> rfl

theorem lookupEffect_exchange (started now : Nat) (name : String) (verdict : Verdict Secret) :
    h.lookupEffect (s.exchange f) started now name (verdict.map (Secret.exchange f)) =
      (h.lookupEffect s started now name verdict).exchange f := by
  cases verdict with
  | answered secret =>
    have added := entriesAfter_exchange f h s (.add secret) now
    simp only [Write.exchange] at added
    simp only [Verdict.map, lookupEffect, Secret.exchange_name, fallback_exchange, added]
    split <;> rfl
  | unusable | failed | late => exact fallback_exchange f h s now name _ _

theorem listingEffect_exchange (started now : Nat) (verdict : Verdict (List Secret)) :
    h.listingEffect (s.exchange f) started now (verdict.map (List.map (Secret.exchange f))) =
      (h.listingEffect s started now verdict).exchange f := by
  cases verdict with
  | answered secrets =>
    have replaced := Write.apply_exchange f (.replace secrets) now s
    have entries := entriesAfter_exchange f h s (.replace secrets) now
    simp only [Write.exchange] at replaced entries
    simp only [Verdict.map, listingEffect, entries, replaced, Store.size_exchange]
    rfl
  | unusable | failed | late =>
    simp only [Verdict.map, listingEffect, Store.secrets_exchange, Store.size_exchange]
    rfl

theorem effect_exchange (started now : Nat) (outcome : Outcome) :
    h.effect (s.exchange f) started now (outcome.exchange f) =
      (h.effect s started now outcome).exchange f := by
  cases outcome with
  | fetched name verdict => exact lookupEffect_exchange f h s started now name verdict
  | listed verdict => exact listingEffect_exchange f h s started now verdict
  | added secret =>
    have added := entriesAfter_exchange f h s (.add secret) now
    simp only [Write.exchange] at added
    simp only [Outcome.exchange, effect, added]
    rfl
  | cleared =>
    have cleared := entriesAfter_exchange f h s .clear now
    simp only [Write.exchange] at cleared
    simp only [Outcome.exchange, effect, cleared, Store.size_exchange]
    rfl
  | sized | emptiness =>
    simp only [Outcome.exchange, effect, Store.size_exchange]
    rfl
  | fresh | info => rfl

end Handle

theorem Backend.fetchReply_exchange (b : Backend) (before : Nat) (name : String) :
    (b.exchange f).fetchReply before name =
      (b.fetchReply before name).map (Secret.exchange f) := by
  simp only [fetchReply, exchange, List.getElem?_map, lookup_map]
  cases b.fetches[before]? with
  | some reply => rfl
  | none => cases b.byName.lookup name <;> rfl

theorem Backend.listReply_exchange (b : Backend) (before : Nat) :
    (b.exchange f).listReply before =
      (b.listReply before).map (List.map (Secret.exchange f)) := by
  simp only [listReply, exchange, List.getElem?_map]
  cases b.listings[before]? <;> rfl

theorem backendOf_exchange (backends : List (String × Backend)) (id : String) :
    backendOf (backends.map fun e => (e.1, e.2.exchange f)) id =
      (backendOf backends id).exchange f := by
  unfold backendOf
  rw [lookup_map]
  cases backends.lookup id <;> rfl

theorem asked_exchange (calls : List Call) (id : String) (isFetch : Bool) :
    asked (calls.map (Call.exchange f)) id isFetch = asked calls id isFetch := by
  rw [asked, List.countP_map]
  apply List.countP_congr
  intro c _
  simp only [Function.comp_apply, Call.exchange, Operation.exchange, Query.exchange_isFetch]
  exact Iff.rfl

namespace World
variable (w : World)

@[simp] theorem store_exchange (i : Nat) : (w.exchange f).store i = (w.store i).exchange f := by
  simp only [store, exchange, List.getD_eq_getElem?_getD, List.getElem?_map]
  cases w.stores[i]? <;> rfl

theorem finish_exchange (op : Operation) (outcome : Outcome) :
    (w.exchange f).finish (op.exchange f) (outcome.exchange f) =
      (w.finish op outcome).exchange f := by
  have effect := Handle.effect_exchange f op.handle (w.store op.handle.store) op.started w.clock
    outcome
  have same : ((op.exchange f).handle, (op.exchange f).started, (w.exchange f).clock) =
      (op.handle, op.started, w.clock) := rfl
  simp only [Prod.mk.injEq] at same
  simp only [finish, store_exchange, same, effect, Handle.span?_exchange]
  generalize op.handle.effect (w.store op.handle.store) op.started w.clock outcome = e
  obtain ⟨result, write, notes, measurements⟩ := e
  cases write with
  | none => simp [exchange, Effect.exchange, Finished.exchange]
  | some write =>
    simp [exchange, Effect.exchange, Finished.exchange, Write.apply_exchange, List.map_set]

theorem fire_exchange (d : Due) : (w.exchange f).fire (d.exchange f) = (w.fire d).exchange f := by
  obtain ⟨time, happening, ending⟩ := d
  cases ending with
  | none => rfl
  | some e =>
    exact finish_exchange f { w with clock := time, happenings := w.happenings ++ happening.toList }
      e.1 e.2

theorem course_exchange (op : Operation) :
    (w.exchange f).course (op.exchange f) = (w.course op).exchange f := by
  obtain ⟨ticket, h, request, started⟩ := op
  have scripts := backendOf_exchange f w.backends h.backend
  have counts := asked_exchange f w.calls h.backend
  have same : ((w.exchange f).clock, (w.exchange f).backends, (w.exchange f).calls) =
      (w.clock, w.backends.map fun e => (e.1, e.2.exchange f), w.calls.map (Call.exchange f)) := rfl
  simp only [Prod.mk.injEq] at same
  cases request with
  | lookup name =>
    simp only [World.course, Operation.exchange, Request.exchange, store_exchange,
      Store.fresh?_exchange, same, scripts, counts, Backend.fetchReply_exchange]
    cases (w.store h.store).fresh? h.timing.freshThreshold w.clock name <;> rfl
  | listing =>
    simp only [World.course, Operation.exchange, Request.exchange, same, scripts, counts,
      Backend.listReply_exchange]
    rfl
  | add | clear | size | isEmpty | info => rfl

theorem exchange_keptByTime :
    KeptByTime (fun w v => w.exchange f = v) (fun d e => d.exchange f = e) where
  time := by
    rintro d e rfl
    rfl
  ticket := by
    rintro ⟨time, happening, ending⟩ e rfl
    cases ending <;> rfl
  clock := by
    rintro w v rfl
    rfl
  agenda := by
    rintro w v rfl
    exact forall₂_eq_iff.mpr (List.map_id _).symm
  passed := by
    rintro w v t rfl
    rfl
  rearranged := by
    rintro w v ds es rfl due
    have same := forall₂_eq_iff.mp due
    rw [List.map_id'] at same
    rw [← same]
    rfl
  fired := by
    rintro w v d e rfl rfl
    exact (fire_exchange f w d).symm

theorem begin_exchange (h : Handle) (request : Request) :
    (w.exchange f).begin h (request.exchange f) = (w.begin h request).exchange f := by
  have course := course_exchange f w (w.opening h request)
  have opening : (w.exchange f).opening h (request.exchange f) =
      (w.opening h request).exchange f := rfl
  rcases w.begin_cases h request with ⟨outcome, ends, same⟩ | ⟨q, asks, same⟩ <;> rw [same]
  · rw [ends, ← opening] at course
    rw [begin_of_ends course, opening]
    exact finish_exchange f w.opened _ outcome
  · rw [asks, ← opening] at course
    rw [begin_of_asks course, opening, Operation.dues_exchange]
    have called : (w.opened.call (w.opening h request) q).exchange f =
        (w.exchange f).opened.call ((w.opening h request).exchange f) (q.exchange f) := by
      simp [exchange, opened, call, Call.exchange, Operation.exchange]
    exact (arranged_beside (exchange_keptByTime f) called
      (forall₂_eq_iff.mpr (List.map_id _).symm)).symm

theorem resultOf_exchange (ticket : Nat) :
    (w.exchange f).resultOf ticket = (w.resultOf ticket).exchange f := by
  have same : ((fun x : Finished => x.operation.ticket == ticket) ∘ Finished.exchange f) =
      fun x => x.operation.ticket == ticket := rfl
  simp only [resultOf, result?, exchange, List.find?_map, same]
  cases w.finished.find? fun x => x.operation.ticket == ticket <;> rfl

theorem exchange_keptBySteps :
    KeptBySteps (fun w v => w.exchange f = v) Eq Eq (fun r r' => r.exchange f = r')
      (fun r r' => r.exchange f = r') fun _ _ => True where
  ticket := by
    rintro w v rfl
    rfl
  background := by
    rintro w v rfl
    rfl
  caches := by
    rintro w v id rfl
    cases same : w.caches.lookup id <;> simp [exchange, same]
  created := by
    rintro w v log log' id backend timing rfl rfl
    simp [exchange, create, Store.exchange, Store.empty]
  cloned := by
    rintro w v h h' id rfl rfl
    rfl
  tracked := by
    rintro w v name ticket rfl
    rfl
  begun := by
    rintro w v h h' request request' rfl rfl rfl _
    exact (begin_exchange f w h request).symm
  nothing := rfl
  result := by
    rintro w v ticket rfl
    exact (resultOf_exchange f w ticket).symm
  samples := by
    rintro w v rfl
    rfl

theorem report_exchange (v : World) (result : Result) :
    (w.exchange f).report (v.exchange f) (result.exchange f) =
      (w.report v result).exchange f := by
  have sizes : (v.exchange f).sizes = v.sizes := by
    unfold World.sizes
    simp only [store_exchange, Store.size_exchange]
    rfl
  simp only [report, sizes]
  rfl

end World

theorem Step.exchange_beside (s : Step) :
    s.Beside Eq (fun r r' => r.exchange f = r') (s.exchange f) := by
  cases s with
  | create id backend timing log => exact .create id backend timing rfl
  | clone id source => exact .clone id source
  | run id request => exact .run id rfl
  | start name id request => exact .start name id rfl
  | join name => exact .join name
  | sleep nanos => exact .sleep nanos
  | jump nanos => exact .jump nanos
  | metrics => exact .metrics

/-- With other contents a run is the same run, with the other contents in what is given back. -/
theorem Scenario.run_exchange (s : Scenario) :
    (s.exchange f).last = s.last.exchange f ∧
      (s.exchange f).reports = s.reports.map (Report.exchange f) := by
  have beside : List.Forall₂ (Step.Beside Eq fun r r' => r.exchange f = r') s.steps
      (s.exchange f).steps :=
    List.forall₂_map_right_iff.mpr (List.forall₂_same.mpr fun step _ => step.exchange_beside f)
  have reported {w w' v v' : World} {r r' : Result} (before : w.exchange f = v)
      (after : w'.exchange f = v') (result : r.exchange f = r') :
      (w.report w' r).exchange f = v.report v' r' := by
    subst before after result
    exact (World.report_exchange f w w' r).symm
  obtain ⟨last, reports⟩ := World.run_beside (World.exchange_keptByTime f)
    (World.exchange_keptBySteps f) (fun r r' => r.exchange f = r')
    (fun before after _ _ result => reported before after result)
    (show (World.start s.backends).exchange f = World.start (s.exchange f).backends from rfl)
    .refl .refl (World.start_settled _) (World.start_settled _) beside
    (fun _ _ _ _ => trivial)
  refine ⟨last.symm, ?_⟩
  have same := forall₂_eq_iff.mp reports
  rw [List.map_id'] at same
  exact same.symm

end Exchange
end Cache
end SecretKeeper

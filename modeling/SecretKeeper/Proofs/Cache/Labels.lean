import SecretKeeper.Proofs.Cache.Exchange

/-!
Labels change nothing. What a cache is called in the log and in measurements, and whether and how
the log is written, has no say in what it keeps and gives back: runs that differ in log settings
only have the same results at the same times, ask the backends the same, and keep as much.
-/
namespace SecretKeeper.Cache

/-! What is left of things without log settings and all that is made with them. -/

def Handle.unlabelled (h : Handle) : Handle := { h with log := .default }

def Operation.unlabelled (op : Operation) : Operation := { op with handle := op.handle.unlabelled }

def Result.unlabelled : Result → Result
  | .info timing _ => .info timing .default
  | .samples _ => .samples []
  | result => result

def Effect.unlabelled (e : Effect) : Effect :=
  { e with result := e.result.unlabelled, measurements := [] }

def Due.unlabelled (d : Due) : Due :=
  { d with ending := d.ending.map fun e => (e.1.unlabelled, e.2) }

def Call.unlabelled (c : Call) : Call := ⟨c.operation.unlabelled, c.query⟩

def Finished.unlabelled (f : Finished) : Finished :=
  { f with operation := f.operation.unlabelled, effect := f.effect.unlabelled }

def Step.unlabelled : Step → Step
  | .create id backend timing _ => .create id backend timing .default
  | s => s

def Report.unlabelled (r : Report) : Report :=
  { r with result := r.result.unlabelled, events := [] }

theorem Step.beside_of_unlabelled {s s' : Step} (same : s'.unlabelled = s.unlabelled) :
    s.Beside (fun _ _ => True) Eq s' := by
  cases s <;> cases s' <;> cases same <;> constructor <;> trivial

namespace Handle
variable (h : Handle) (s : Store)

theorem fallback_unlabelled (now : Nat) (name : String) (notes : List Note)
    (measurements measurements' : List Metrics.Measurement) :
    (h.unlabelled.fallback s now name notes measurements').unlabelled =
      (h.fallback s now name notes measurements).unlabelled := by
  unfold fallback
  cases s.get? name <;> rfl

theorem effect_unlabelled (started now : Nat) (outcome : Outcome) :
    (h.unlabelled.effect s started now outcome).unlabelled =
      (h.effect s started now outcome).unlabelled := by
  cases outcome with
  | fetched name verdict =>
    cases verdict with
    | answered secret =>
      by_cases own : secret.name = name
      · simp only [effect, lookupEffect, own, ↓reduceIte]
        rfl
      · simp only [effect, lookupEffect, own, ↓reduceIte]
        exact fallback_unlabelled h s now name _ _ _
    | unusable | failed | late => exact fallback_unlabelled h s now name _ _ _
  | listed verdict => cases verdict <;> rfl
  | fresh | added | cleared | sized | emptiness | info => rfl

end Handle

theorem Operation.dues_unlabelled (op : Operation) (q : Query) :
    (op.dues q).map Due.unlabelled = op.unlabelled.dues q := by
  unfold dues
  cases q.completion? with
  | none => rfl
  | some completion =>
    have inTime : q.inTime op.unlabelled.handle.timing = q.inTime op.handle.timing := rfl
    simp only [inTime]
    split <;> rfl

theorem asked_unlabelled (calls : List Call) (id : String) (isFetch : Bool) :
    asked (calls.map Call.unlabelled) id isFetch = asked calls id isFetch := by
  rw [asked, List.countP_map]
  rfl

namespace World

/-- What is the same in two worlds that differ in labels: all but the log and the measurements. -/
structure SameBesideLabels (w v : World) : Prop where
  clock : v.clock = w.clock
  backends : v.backends = w.backends
  caches : (v.caches.map fun e => (e.1, e.2.unlabelled)) =
    w.caches.map fun e => (e.1, e.2.unlabelled)
  stores : v.stores = w.stores
  agenda : v.agenda.map Due.unlabelled = w.agenda.map Due.unlabelled
  nextTicket : v.nextTicket = w.nextTicket
  background : v.background = w.background
  calls : v.calls.map Call.unlabelled = w.calls.map Call.unlabelled
  finished : v.finished.map Finished.unlabelled = w.finished.map Finished.unlabelled
  happenings : v.happenings = w.happenings

section Same
variable {w v : World} (same : SameBesideLabels w v)
include same

theorem finish_unlabelled {op op' : Operation} (alike : op'.unlabelled = op.unlabelled)
    (outcome : Outcome) : SameBesideLabels (w.finish op outcome) (v.finish op' outcome) := by
  obtain ⟨ticket, handle, request, started⟩ := Operation.mk.inj alike
  have index : op'.handle.store = op.handle.store := (congrArg Handle.store handle :)
  have store : v.store op.handle.store = w.store op.handle.store := by
    rw [World.store, World.store, same.stores]
  have effect := op'.handle.effect_unlabelled (w.store op.handle.store) op.started w.clock outcome
  rw [handle, op.handle.effect_unlabelled] at effect
  have write := (congrArg Effect.write effect :)
  simp only [Effect.unlabelled] at write
  have finished : Finished.unlabelled ⟨op', w.clock, outcome,
        op'.handle.effect (w.store op.handle.store) op.started w.clock outcome⟩ =
      Finished.unlabelled ⟨op, w.clock, outcome,
        op.handle.effect (w.store op.handle.store) op.started w.clock outcome⟩ := by
    simp only [Finished.unlabelled, alike, effect]
  unfold finish
  simp only [index, store, started, same.clock]
  refine { same with clock := rfl, stores := ?_, finished := ?_ }
  · simp only [write, same.stores]
  · simp only [List.map_append, same.finished, List.map_cons, List.map_nil, finished]

theorem fire_unlabelled {d e : Due} (due : e.unlabelled = d.unlabelled) :
    SameBesideLabels (w.fire d) (v.fire e) := by
  obtain ⟨time, happening, ending⟩ := Due.mk.inj due
  have ticked : SameBesideLabels
      { w with clock := d.time, happenings := w.happenings ++ d.happening.toList }
      { v with clock := e.time, happenings := v.happenings ++ e.happening.toList } :=
    { same with clock := time, happenings := by simp only [same.happenings, happening] }
  unfold fire
  cases here : d.ending with
  | none =>
    rw [here] at ending
    rw [Option.map_eq_none_iff.mp ending]
    exact ticked
  | some x =>
    rw [here] at ending
    obtain ⟨y, there, parts⟩ := Option.map_eq_some_iff.mp ending
    obtain ⟨operation, outcome⟩ := Prod.mk.inj parts
    rw [there]
    simp only [outcome]
    exact finish_unlabelled ticked operation x.2

end Same

theorem unlabelled_keptByTime :
    KeptByTime SameBesideLabels (fun d e => e.unlabelled = d.unlabelled) where
  time due := (congrArg Due.time due :)
  ticket {d e} due := by
    have tickets (x : Due) : x.ending.map (fun y => y.1.ticket) =
        x.unlabelled.ending.map fun y => y.1.ticket := by
      cases end_ : x.ending <;> simp [Due.unlabelled, end_, Operation.unlabelled]
    rw [tickets, due, ← tickets]
  clock same := same.clock
  agenda same := (forall₂_eq_iff.mpr same.agenda).flip
  passed t same := { same with clock := rfl }
  rearranged same due := { same with agenda := forall₂_eq_iff.mp due.flip }
  fired same due := fire_unlabelled same due

theorem begin_unlabelled {w v : World} (same : SameBesideLabels w v) {h h' : Handle}
    (alike : h'.unlabelled = h.unlabelled) (request : Request) :
    SameBesideLabels (w.begin h request) (v.begin h' request) := by
  have opening : (v.opening h' request).unlabelled = (w.opening h request).unlabelled := by
    simp only [World.opening, Operation.unlabelled, alike, same.nextTicket, same.clock]
  have opened : SameBesideLabels w.opened v.opened :=
    { same with nextTicket := congrArg (· + 1) same.nextTicket }
  have counts (id : String) (isFetch : Bool) :
      asked v.calls id isFetch = asked w.calls id isFetch := by
    rw [← asked_unlabelled v.calls, same.calls, asked_unlabelled]
  -- No course depends on a label, so both operations take that of the one without.
  have course (u : World) (op : Operation) : u.course op = u.course op.unlabelled := rfl
  rcases course_beside same.clock same.stores counts (w.opening h request) with
    ⟨outcome, ends, ends'⟩ | ⟨q, asks, asks'⟩
  · rw [course, ← opening, ← course] at ends'
    rw [begin_of_ends ends, begin_of_ends ends']
    exact finish_unlabelled opened opening outcome
  · rw [same.backends, ← course_scripted asks, course, ← opening, ← course] at asks'
    rw [begin_of_asks asks, begin_of_asks asks']
    have backend : (v.opening h' request).handle.backend = (w.opening h request).handle.backend :=
      congrArg (fun op => op.handle.backend) opening
    have called : SameBesideLabels (w.opened.call (w.opening h request) q)
        (v.opened.call (v.opening h' request) q) := by
      refine { opened with calls := ?_, happenings := ?_ }
      · simp only [call, List.map_append, opened.calls, List.map_cons, List.map_nil,
          Call.unlabelled, opening]
      · simp only [call, opened.happenings, opened.clock, backend]
    apply arranged_beside unlabelled_keptByTime called
    refine (forall₂_eq_iff.mpr ?_).flip
    rw [Operation.dues_unlabelled, opening, ← Operation.dues_unlabelled]

theorem result_unlabelled {w v : World} (same : SameBesideLabels w v) (ticket : Nat) :
    (v.resultOf ticket).unlabelled = (w.resultOf ticket).unlabelled := by
  have unlabelled (u : World) : (u.resultOf ticket).unlabelled =
      (((u.finished.map Finished.unlabelled).find? fun f => f.operation.ticket == ticket).map
        fun f => f.effect.result).getD .nothing := by
    have ticketed : ((fun f : Finished => f.operation.ticket == ticket) ∘ Finished.unlabelled) =
        fun f => f.operation.ticket == ticket := rfl
    rw [resultOf, result?, List.find?_map, ticketed]
    cases u.finished.find? fun f => f.operation.ticket == ticket <;> rfl
  rw [unlabelled, same.finished, ← unlabelled]

theorem unlabelled_keptBySteps :
    KeptBySteps SameBesideLabels (fun h h' => h'.unlabelled = h.unlabelled) (fun _ _ => True) Eq
      (fun r r' => r'.unlabelled = r.unlabelled) fun _ _ => True where
  ticket same := same.nextTicket
  background same := same.background
  caches {w v} id same := by
    have found : (v.caches.lookup id).map Handle.unlabelled =
        (w.caches.lookup id).map Handle.unlabelled := by
      rw [← lookup_map, same.caches, lookup_map]
    cases here : w.caches.lookup id with
    | none =>
      rw [here] at found
      rw [Option.map_eq_none_iff.mp found]
      exact .none
    | some h =>
      rw [here] at found
      obtain ⟨h', there, alike⟩ := Option.map_eq_some_iff.mp found
      rw [there]
      exact .some alike
  created id backend timing same _ := by
    refine { same with caches := ?_, stores := ?_ }
    · simp only [create, ← assign_map, same.caches, same.stores]
      rfl
    · simp only [create, same.stores]
  cloned id same alike := by
    refine { same with caches := ?_ }
    simp only [← assign_map, same.caches, alike]
  tracked name ticket same :=
    { same with background := congrArg (assign name ticket) same.background }
  begun := by
    rintro w v h h' request _ same alike rfl _
    exact begin_unlabelled same alike request
  nothing := rfl
  result ticket same := result_unlabelled same ticket
  samples _ := rfl

theorem report_unlabelled {w w' v v' : World} {r r' : Result} (before : SameBesideLabels w v)
    (after : SameBesideLabels w' v') (result : r'.unlabelled = r.unlabelled) :
    (v.report v' r').unlabelled = (w.report w' r).unlabelled := by
  have sizes (u : World) :
      u.sizes = (u.caches.map fun e => (e.1, e.2.unlabelled)).map fun e =>
        (e.1, (u.store e.2.store).size) := by
    rw [List.map_map]
    rfl
  have stores : v'.store = w'.store := by
    funext i
    rw [World.store, World.store, after.stores]
  have same : v'.sizes = w'.sizes := by
    rw [sizes, after.caches, stores, ← sizes]
  simp only [Report.unlabelled, report, result, after.clock, before.happenings, after.happenings,
    same]

/-- Runs that differ in the log settings of their caches only, so that caches may be told apart by
their labels in one of them and not in the other, show the same after every step: the result, the
time, what backends went through, and how much is kept. In the end the same is kept, since the same
times, and the same was asked and answered. -/
theorem labels_never_change_caching {backends : List (String × Backend)} {steps steps' : List Step}
    (alike : steps'.map Step.unlabelled = steps.map Step.unlabelled) :
    let w := after backends steps
    let w' := after backends steps'
    let shown := fun steps => ((start backends).run steps).2.map Report.unlabelled
    shown steps' = shown steps ∧ w'.stores = w.stores ∧
      w'.calls.map Call.unlabelled = w.calls.map Call.unlabelled ∧
      w'.finished.map Finished.unlabelled = w.finished.map Finished.unlabelled := by
  intro w w' shown
  have started : SameBesideLabels (start backends) (start backends) := by
    constructor <;> rfl
  have beside : List.Forall₂ (Step.Beside (fun _ _ => True) Eq) steps steps' :=
    (forall₂_eq_iff.mpr alike).flip.imp fun _ _ same => Step.beside_of_unlabelled same
  obtain ⟨last, reports⟩ := run_beside unlabelled_keptByTime unlabelled_keptBySteps
    (fun r r' => r'.unlabelled = r.unlabelled)
    (fun before after _ _ result => report_unlabelled before after result)
    started .refl .refl (start_settled backends) (start_settled backends) beside
    (fun _ _ _ _ => trivial)
  exact ⟨forall₂_eq_iff.mp reports.flip, last.stores, last.calls, last.finished⟩

/-- Two caches with one label in the first run and with two in the second, where a lookup is still
under way while a listing ends. -/
theorem labels_never_change_caching_of_one_mountpoint_or_two :
    let secret := fun name => Secret.create name .empty .epoch
    let backends := [("b", { Backend.blank with
      fetches := [.after (milliseconds 5) .nothing]
      listings := [.after (milliseconds 2) (.value [secret "x", secret "y"])] })]
    let steps := fun (log log' : LogSettings) => [
      Step.create "c" "b" (.ofMillis 0 10 20) log, .create "d" "b" (.ofMillis 9 10 20) log',
      .run "d" (.add (secret "x")), .start "slow" "c" (.lookup "x"), .run "c" .listing,
      .run "d" (.lookup "x"), .run "d" .info, .join "slow", .metrics]
    let one := steps ⟨false, "/mnt", false⟩ ⟨true, "/mnt", true⟩
    let two := steps ⟨true, "/mnt", false⟩ ⟨false, "/other", false⟩
    let shown := fun steps => ((start backends).run steps).2.map Report.unlabelled
    two.map Step.unlabelled = one.map Step.unlabelled ∧ shown two = shown one ∧
      (after backends two).stores = (after backends one).stores ∧
      (after backends two).recorder ≠ (after backends one).recorder := by
  intro secret backends steps one two shown
  have alike : two.map Step.unlabelled = one.map Step.unlabelled := rfl
  obtain ⟨reports, stores, _, _⟩ := @labels_never_change_caching backends _ _ alike
  exact ⟨alike, reports, stores, by decide +kernel⟩

end World
end SecretKeeper.Cache

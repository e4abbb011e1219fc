import SecretKeeper.Cache.Outcome

/-!
Everything that lives: caches, stores, backends, and the calls that are still under way. Time only
passes while something waits. What is going to happen stands on an agenda in the order of time, and
nothing that happens puts anything new on it.
-/
namespace SecretKeeper.Cache

open Log Metrics

inductive Request where
  | lookup (name : String)
  | listing
  | add (secret : Secret)
  | clear
  | size
  | isEmpty
  | info
  deriving DecidableEq

structure Operation where
  ticket : Nat
  handle : Handle
  request : Request
  started : Nat
  deriving DecidableEq

/-- A backend gets ready, an operation ends, or both. -/
structure Due where
  time : Nat
  happening : Option Happening
  ending : Option (Operation × Outcome)

structure Call where
  operation : Operation
  query : Query
  deriving DecidableEq

structure Finished where
  operation : Operation
  time : Nat
  outcome : Outcome
  effect : Effect

structure World where
  clock : Nat
  backends : List (String × Backend)
  caches : List (String × Handle)
  stores : List Store
  agenda : List Due
  nextTicket : Nat
  background : List (String × Nat)
  calls : List Call
  finished : List Finished
  recorder : Recorder
  events : List Event
  happenings : List Happening

inductive Course where
  | ends (outcome : Outcome)
  | asks (query : Query)

/-- What a query leads to. The wait ends with the reply or at the deadline, whichever is first; a
reply that comes too late still happens, and nobody listens. -/
def Operation.dues (op : Operation) (q : Query) : List Due :=
  let ending := some (op, q.outcome op.handle.timing)
  let deadline := op.started + q.deadline op.handle.timing
  match q.completion? with
  | none => [⟨deadline, none, ending⟩]
  | some (delay, phase) =>
    let completed := op.started + delay
    let happening := some ⟨op.handle.backend, phase, completed, q.name?⟩
    if q.inTime op.handle.timing then [⟨completed, happening, ending⟩]
    else [⟨deadline, none, ending⟩, ⟨completed, happening, none⟩]

def schedule (d : Due) : List Due → List Due
  | [] => [d]
  | e :: rest => if e.time ≤ d.time then e :: schedule d rest else d :: e :: rest

def asked (calls : List Call) (id : String) (isFetch : Bool) : Nat :=
  calls.countP fun c => c.operation.handle.backend = id && c.query.isFetch = isFetch

def backendOf (backends : List (String × Backend)) (id : String) : Backend :=
  (backends.lookup id).getD .blank

namespace World

def start (backends : List (String × Backend)) : World :=
  ⟨0, backends, [], [], [], 0, [], [], [], .empty, [], []⟩

def store (w : World) (i : Nat) : Store := w.stores.getD i .empty

def finish (w : World) (op : Operation) (outcome : Outcome) : World :=
  let store := w.store op.handle.store
  let effect := op.handle.effect store op.started w.clock outcome
  let span := op.handle.span? outcome
  { w with
    stores := match effect.write with
      | some write => w.stores.set op.handle.store (write.apply w.clock store)
      | none => w.stores
    finished := w.finished ++ [⟨op, w.clock, outcome, effect⟩]
    recorder := effect.measurements.foldl Recorder.measure w.recorder
    events := w.events ++ effect.notes.map fun n => n.event w.clock span }

def fire (w : World) (d : Due) : World :=
  let w := { w with
    clock := d.time
    happenings := w.happenings ++ d.happening.toList }
  match d.ending with
  | some (op, outcome) => w.finish op outcome
  | none => w

/-- Lets all happen on an agenda that is due by an instant; the rest stays on the agenda. -/
def fireUntil (t : Nat) : List Due → World → World
  | [], w => { w with agenda := [] }
  | d :: rest, w =>
    if d.time ≤ t then fireUntil t rest ({ w with agenda := rest }.fire d)
    else { w with agenda := d :: rest }

def advanceTo (w : World) (t : Nat) : World :=
  { fireUntil t w.agenda w with clock := max w.clock t }

/-- What is due at once happens at once; all else goes on the agenda. -/
def arrange (w : World) (d : Due) : World :=
  if d.time = w.clock then w.fire d else { w with agenda := schedule d w.agenda }

def call (w : World) (op : Operation) (q : Query) : World :=
  { w with
    calls := w.calls ++ [⟨op, q⟩]
    happenings := w.happenings ++ [⟨op.handle.backend, .call, w.clock, q.name?⟩] }

def course (w : World) (op : Operation) : Course :=
  let id := op.handle.backend
  let backend := backendOf w.backends id
  match op.request with
  | .lookup name =>
    match (w.store op.handle.store).fresh? op.handle.timing.freshThreshold w.clock name with
    | some secret => .ends (.fresh name secret)
    | none => .asks (.fetch name (backend.fetchReply (asked w.calls id true) name))
  | .listing => .asks (.list (backend.listReply (asked w.calls id false)))
  | .add secret => .ends (.added secret)
  | .clear => .ends .cleared
  | .size => .ends .sized
  | .isEmpty => .ends .emptiness
  | .info => .ends .info

def begin (w : World) (h : Handle) (request : Request) : World :=
  let op : Operation := ⟨w.nextTicket, h, request, w.clock⟩
  let opened := { w with nextTicket := w.nextTicket + 1 }
  match w.course op with
  | .ends outcome => opened.finish op outcome
  | .asks query => (op.dues query).foldl arrange (opened.call op query)

def result? (w : World) (ticket : Nat) : Option Result :=
  (w.finished.find? fun f => f.operation.ticket == ticket).map fun f => f.effect.result

def dueTime? (w : World) (ticket : Nat) : Option Nat :=
  (w.agenda.find? fun d => d.ending.any fun e => e.1.ticket == ticket).map Due.time

def await (w : World) (ticket : Nat) : World :=
  match w.dueTime? ticket with
  | some t => w.advanceTo t
  | none => w

def create (w : World) (id backend : String) (timing : Timing) (log : LogSettings) : World :=
  let h : Handle := ⟨w.stores.length, backend, timing, log⟩
  { w with
    caches := assign id h w.caches
    stores := w.stores ++ [.empty]
    recorder := (w.recorder.measure .described).measure (.entries log.mountpoint 0)
    events := w.events ++ [(Note.created h).event w.clock none] }

end World
end SecretKeeper.Cache

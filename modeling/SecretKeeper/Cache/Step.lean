import SecretKeeper.Cache.World

/-!
Scripts of steps, and what can be seen after each of them. A step for a cache or a background
operation that does not exist does nothing. Whatever is due happens while the clock moves, be it by
sleeping or by a jump.
-/
namespace SecretKeeper.Cache

inductive Step where
  | create (id backend : String) (timing : Timing) (log : LogSettings)
  | clone (id source : String)
  | run (id : String) (request : Request)
  | start (name id : String) (request : Request)
  | join (name : String)
  | sleep (nanos : Nat)
  | jump (nanos : Nat)
  | metrics

/-- What a step shows: its result, the time after it, what backends went through and what was
logged during it, and the number of kept secrets of every cache. -/
structure Report where
  result : Result
  time : Nat
  happenings : List Happening
  sizes : List (String × Nat)
  events : List Log.Event

namespace World

def resultOf (w : World) (ticket : Nat) : Result := (w.result? ticket).getD .nothing

def step (w : World) : Step → World × Result
  | .create id backend timing log => (w.create id backend timing log, .nothing)
  | .clone id source =>
    match w.caches.lookup source with
    | some h => ({ w with caches := assign id h w.caches }, .nothing)
    | none => (w, .nothing)
  | .run id request =>
    match w.caches.lookup id with
    | some h =>
      let w' := (w.begin h request).await w.nextTicket
      (w', w'.resultOf w.nextTicket)
    | none => (w, .nothing)
  | .start name id request =>
    match w.caches.lookup id with
    | some h =>
      let w' := w.begin h request
      ({ w' with background := assign name w.nextTicket w'.background }, .nothing)
    | none => (w, .nothing)
  | .join name =>
    match w.background.lookup name with
    | some ticket =>
      let w' := w.await ticket
      (w', w'.resultOf ticket)
    | none => (w, .nothing)
  | .sleep nanos => (w.advanceTo (w.clock + nanos), .nothing)
  | .jump nanos => (w.advanceTo (w.clock + nanos), .nothing)
  | .metrics => (w, .samples w.recorder.snapshot)

def sizes (w : World) : List (String × Nat) :=
  w.caches.map fun (id, h) => (id, (w.store h.store).size)

def report (before after : World) (result : Result) : Report where
  result := result
  time := after.clock
  happenings := after.happenings.drop before.happenings.length
  sizes := after.sizes
  events := after.events.drop before.events.length

def run (w : World) : List Step → World × List Report
  | [] => (w, [])
  | s :: rest =>
    let (w', result) := w.step s
    let (last, reports) := w'.run rest
    (last, w.report w' result :: reports)

end World
end SecretKeeper.Cache

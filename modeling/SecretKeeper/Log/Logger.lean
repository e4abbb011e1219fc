import SecretKeeper.Log.Filter
import SecretKeeper.Log.Line
import SecretKeeper.Text.Lines

/-!
Loggers write the events that pass their filter. There is at most one logger: the first settings
that ask for one decide, and its first event tells so. Without a filter there is no logger.
-/
namespace SecretKeeper.Log

structure Logger where
  filter : Filter
  json : Bool
  deriving DecidableEq, Repr

namespace Logger

def ofSettings? (wanted : Option String) (settings : LogSettings) : Option Logger :=
  (Filter.choose? wanted settings).map fun filter => ⟨filter, settings.json⟩

def opening (settings : LogSettings) : Event where
  time := 0
  level := .info
  target := "secretfs::observability::logging"
  message := "Logging initialized"
  fields := [("mountpoint", .label settings.mountpoint), ("debug", .flag settings.debug),
    ("json", .flag settings.json)]
  withheld := []
  span := none

def record (l : Logger) (origin : Moment) (e : Event) : String :=
  if l.json then (e.toValue origin (l.filter.spanOf? e)).render
  else e.plain origin (l.filter.spanOf? e)

def passing (l : Logger) (events : List Event) : List Event := events.filter l.filter.admits

def lines (l : Logger) (origin : Moment) (events : List Event) : List String :=
  (l.passing events).flatMap fun e => Text.lines (l.record origin e)

end Logger

/-- The lines of a run, of which all settings in turn ask for a logger. Without a logger, nothing is
written. -/
def written (origin : Moment) (wanted : Option String) (settings : List LogSettings)
    (events : List Event) : List String :=
  match settings with
  | first :: _ =>
    match Logger.ofSettings? wanted first with
    | some l => l.lines origin (Logger.opening first :: events)
    | none => []
  | [] => []

end SecretKeeper.Log

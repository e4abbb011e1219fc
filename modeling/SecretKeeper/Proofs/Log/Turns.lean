import SecretKeeper.Log.Logger

/-!
Logging turn by turn: settings ask for a logger, or an event is to be logged. Once there is a
logger it stays, and who asks later gets nothing and changes nothing, wherever it asks.
-/
namespace SecretKeeper.Log

inductive Turn where
  | ask (settings : LogSettings)
  | emit (e : Event)

def Turn.event? : Turn → Option Event
  | ask _ => none
  | emit e => some e

structure Output where
  logger : Option Logger
  lines : List String

namespace Output

def start : Output := ⟨none, []⟩

section Turns
variable (origin : Moment) (wanted : Option String)

def take (o : Output) : Turn → Output
  | .ask settings =>
    match o.logger, Logger.ofSettings? wanted settings with
    | none, some l => ⟨some l, o.lines ++ l.lines origin [Logger.opening settings]⟩
    | _, _ => o
  | .emit e => { o with lines := o.lines ++ o.logger.elim [] fun l => l.lines origin [e] }

def takeAll (o : Output) (turns : List Turn) : Output := turns.foldl (take origin wanted) o

end Turns
end Output

namespace Logger
variable (l : Logger) (origin : Moment)

theorem lines_nil : l.lines origin [] = [] := rfl

theorem lines_append (events more : List Event) :
    l.lines origin (events ++ more) = l.lines origin events ++ l.lines origin more := by
  rw [lines, passing, List.filter_append, List.flatMap_append]
  rfl

end Logger

namespace Output
variable {origin : Moment} {wanted : Option String} {l : Logger}

theorem take_logger (lines : List String) (t : Turn) :
    take origin wanted ⟨some l, lines⟩ t =
      ⟨some l, lines ++ l.lines origin t.event?.toList⟩ := by
  cases t with
  | ask settings =>
    rw [take, Turn.event?, Option.toList_none, l.lines_nil, List.append_nil]
  | emit e => rfl

theorem takeAll_logger (lines : List String) (turns : List Turn) :
    takeAll origin wanted ⟨some l, lines⟩ turns =
      ⟨some l, lines ++ l.lines origin (turns.filterMap Turn.event?)⟩ := by
  induction turns generalizing lines with
  | nil =>
    rw [List.filterMap_nil, l.lines_nil, List.append_nil]
    rfl
  | cons t rest ih =>
    have events : (t :: rest).filterMap Turn.event? =
        t.event?.toList ++ rest.filterMap Turn.event? := by
      cases t <;> rfl
    rw [takeAll, List.foldl_cons, take_logger, events, l.lines_append, ← List.append_assoc]
    exact ih _

/-- Who asks first decides what is written, wherever others ask. -/
theorem takeAll_lines {settings : LogSettings} (made : Logger.ofSettings? wanted settings = some l)
    (turns : List Turn) : (takeAll origin wanted start (.ask settings :: turns)).lines =
      written origin wanted [settings] (turns.filterMap Turn.event?) := by
  have first : takeAll origin wanted start (.ask settings :: turns) =
      takeAll origin wanted ⟨some l, l.lines origin [Logger.opening settings]⟩ turns := by
    rw [takeAll, List.foldl_cons, take, made]
    rfl
  rw [first, takeAll_logger, ← l.lines_append, written, made]
  rfl

end Output
end SecretKeeper.Log

import SecretKeeper.Json.Value
import SecretKeeper.Log.Event
import SecretKeeper.Moment.Printer
import SecretKeeper.Text.Shown

/-!
What is written for an event: a plain line for people, or one JSON object.
-/
namespace SecretKeeper.Log

open Calendar

def stamp (origin : Moment) (time : Nat) : String :=
  let nanos := origin.nanos + time
  let seconds := origin.seconds + nanos / nanosPerSecond
  String.ofList (Moment.dateDigits (Date.ofDays (seconds / secondsPerDay)) ++ 'T' ::
    Moment.clockDigits (seconds % secondsPerDay).toNat false ++
    '.' :: paddedDigits 6 (nanos % nanosPerSecond / 1000) ++ ['Z'])

namespace Field

def plain : Field → String
  | whole n => toString n
  | flag b => toString b
  | text s => Text.shown s
  | label s => s

def toValue : Field → Json.Value
  | whole n => .whole n
  | flag b => .flag b
  | text s => .text s
  | label s => .text s

end Field

namespace Level

def column (l : Level) : String :=
  String.ofList (List.replicate (5 - l.name.length) ' ') ++ l.name

end Level

namespace Span

def plain (s : Span) : String :=
  name ++ "\x7b" ++ " ".intercalate (s.fields.map fun (key, value) => key ++ "=" ++ value) ++ "\x7d"

def toValue (s : Span) : Json.Value :=
  .object ([("mountpoint", .text s.mountpoint), ("operation", .text s.operation)] ++
    (s.secret.toList.map fun secret => ("secret", .text secret)) ++ [("name", .text name)])

end Span

namespace Event

def plain (origin : Moment) (span : Option Span) (e : Event) : String :=
  let context := match span with
    | some s => s.plain ++ ": "
    | none => ""
  let fields := e.fields.map fun (key, value) => " " ++ key ++ "=" ++ value.plain
  stamp origin e.time ++ " " ++ e.level.column ++ " " ++ context ++ e.target ++ ": " ++ e.message ++
    String.join fields

def toValue (origin : Moment) (span : Option Span) (e : Event) : Json.Value :=
  let context := match span with
    | some s => [("span", s.toValue), ("spans", .list [s.toValue])]
    | none => []
  .object ([
    ("timestamp", .text (stamp origin e.time)),
    ("level", .text e.level.name),
    ("fields", .object (("message", .text e.message) ::
      e.fields.map fun (key, value) => (key, value.toValue))),
    ("target", .text e.target)] ++ context)

end Event
end SecretKeeper.Log

/-!
Log events: what happened when, how important it is, and the operation in which it happened.
-/
namespace SecretKeeper.Log

inductive Level where
  | error
  | warn
  | info
  | debug
  | trace
  deriving DecidableEq, Repr

namespace Level

def rank : Level → Nat
  | error => 1
  | warn => 2
  | info => 3
  | debug => 4
  | trace => 5

def name : Level → String
  | error => "ERROR"
  | warn => "WARN"
  | info => "INFO"
  | debug => "DEBUG"
  | trace => "TRACE"

end Level

/-- A label is a text that plain lines show without quotes. -/
inductive Field where
  | whole (value : Nat)
  | flag (value : Bool)
  | text (value : String)
  | label (value : String)
  deriving DecidableEq, Repr

structure Span where
  operation : String
  mountpoint : String
  secret : Option String
  deriving DecidableEq, Repr

namespace Span

def name : String := "secret_cache"

def level : Level := .info

def fields (s : Span) : List (String × String) :=
  [("operation", s.operation), ("mountpoint", s.mountpoint)] ++
    s.secret.toList.map fun secret => ("secret", secret)

end Span

/-- `time` counts nanoseconds from the start; the span has the target of its events. Of withheld
fields only the names are known. -/
structure Event where
  time : Nat
  level : Level
  target : String
  message : String
  fields : List (String × Field)
  withheld : List String
  span : Option Span
  deriving DecidableEq, Repr

def Event.hasField (e : Event) (name : String) : Bool :=
  name == "message" || e.withheld.contains name || e.fields.any fun f => f.1 == name

end SecretKeeper.Log

import SecretKeeper.Log.Directive
import SecretKeeper.Settings.Basic

/-!
Filters: which events are logged, and which of them together with their spans. Directives about
targets decide, the most specific one that concerns an event; inside of a span that directives are
about, these can let more through.
-/
namespace SecretKeeper.Log

open Text

structure Filter where
  directives : List Directive
  deriving DecidableEq, Repr

namespace Filter

def upTo (level : Level) : Filter := ⟨[{ Directive.all with limit := .upTo level }]⟩

def pieces (s : String) : List (List Char) := (s.toList.splitOn ',').filter fun p => !p.isEmpty

/-- A filter from directives between commas; if there are none, only errors pass. The first
directive that cannot be read decides the fault. -/
def ofText (s : String) : Except Directive.Fault Filter :=
  match (pieces s).mapM Directive.ofChars with
  | .ok [] => .ok (upTo .error)
  | .ok directives => .ok ⟨directives⟩
  | .error f => .error f

def ofSettings (settings : LogSettings) : Filter :=
  match ofText settings.directive with
  | .ok f => f
  | .error _ => upTo .error

/-- The filter that is asked for, or that of the settings if nothing or something malformed is. A
text that would have to be cut inside of a character leaves no filter at all. -/
def choose? (wanted : Option String) (settings : LogSettings) : Option Filter :=
  match wanted.map ofText with
  | none => some (ofSettings settings)
  | some (.ok f) => some f
  | some (.error .malformed) => some (ofSettings settings)
  | some (.error .splitCharacter) => none

/-- The most specific directive; of those that select the same, the last one. -/
def mostSpecific? (ds : List Directive) : Option Directive :=
  ds.foldl (fun best d =>
    match best with
    | some b => if d.isLessSpecific b then some b else some d
    | none => some d) none

def plain (f : Filter) : List Directive := f.directives.filter Directive.isPlain

def latest : List Directive → List Directive
  | [] => []
  | d :: ds => if ds.any d.sameSelection then latest ds else d :: latest ds

def aboutSpans (f : Filter) : List Directive := latest (f.directives.filter Directive.isAboutSpans)

/-- No level beyond this one can pass. -/
def ceiling (f : Filter) : Limit :=
  if f.directives.any Directive.looksAtValue then .upTo .trace
  else .greatest (f.directives.map Directive.limit)

def admitsPlainly (f : Filter) (e : Event) : Bool :=
  (mostSpecific? (f.plain.filter fun d => d.concernsEvent e)).any fun d => d.limit.admits e.level

def admitsSpansPlainly (f : Filter) (target : String) : Bool :=
  (mostSpecific? (f.plain.filter fun d => d.concernsTarget target)).any fun d =>
    d.limit.admits Span.level

def admitsSpan (f : Filter) (target : String) (s : Span) : Bool :=
  f.ceiling.admits Span.level &&
    (f.aboutSpans.any (fun d => d.concernsSpan target s) || f.admitsSpansPlainly target)

/-- What passes inside of a span because of directives about it. -/
def limitInside (f : Filter) (target : String) (s : Span) : Limit :=
  .greatest ((f.aboutSpans.filter fun d => d.concernsSpan target s && d.acceptsValue s).map
    Directive.limit)

def spanOf? (f : Filter) (e : Event) : Option Span := e.span.filter (f.admitsSpan e.target)

def admits (f : Filter) (e : Event) : Bool :=
  f.admitsPlainly e || (f.spanOf? e).any fun s => (f.limitInside e.target s).admits e.level

end Filter
end SecretKeeper.Log

import SecretKeeper.Proofs.Cache.Notes
import SecretKeeper.Proofs.Log.Record
import SecretKeeper.Proofs.Log.Turns

/-!
Two levels of one log. With nothing but settings to go by, a logger for debugging writes all that a
run emits, and one without debugging writes the same lines but those of level DEBUG. Nothing else
depends on the setting but the word for it with which the log opens.
-/
namespace SecretKeeper.Log

open Json

def Event.record (json : Bool) (origin : Moment) (e : Event) : String :=
  if json then (e.toValue origin e.span).render else e.plain origin e.span

def debugMark (json : Bool) : String := if json then "\"debug\":" else " debug="

namespace Logger

theorem opening_chars (mountpoint : String) (origin : Moment) :
    ∃ front back : List Char, ∀ debug,
      ((opening ⟨debug, mountpoint, true⟩).toValue origin none).chars =
        front ++ Value.memberChars ("debug", .flag debug) ++ back := by
  obtain ⟨inner, around⟩ := membersChars_around
    [("message", .text "Logging initialized"), ("mountpoint", .text mountpoint)]
  obtain ⟨innerBack, fields⟩ := around [("json", .flag true)]
  obtain ⟨outer, around⟩ := membersChars_around
    [("timestamp", .text (stamp origin 0)), ("level", .text "INFO")]
  obtain ⟨outerBack, members⟩ := around [("target", .text "secretfs::observability::logging")]
  refine ⟨'\x7b' :: outer ++ quoted "fields" ++ ':' :: '\x7b' :: inner,
    innerBack ++ '\x7d' :: outerBack ++ ['\x7d'], fun debug => ?_⟩
  let told : Value := .object ([("message", .text "Logging initialized"),
    ("mountpoint", .text mountpoint)] ++ ("debug", .flag debug) :: [("json", .flag true)])
  have object : told.chars =
      '\x7b' :: (inner ++ Value.memberChars ("debug", .flag debug) ++ innerBack) ++ ['\x7d'] := by
    rw [fields, Value.chars]
  have line : ((opening ⟨debug, mountpoint, true⟩).toValue origin none).chars =
      '\x7b' :: (outer ++ Value.memberChars ("fields", told) ++ outerBack) ++ ['\x7d'] := by
    rw [members, Event.toValue, Value.chars]
    rfl
  rw [line, Value.memberChars, object]
  simp only [List.append_assoc, List.cons_append, List.nil_append]

theorem opening_record (mountpoint : String) (json : Bool) (origin : Moment) :
    ∃ front back : String, ∀ debug, (opening ⟨debug, mountpoint, json⟩).record json origin =
      front ++ debugMark json ++ toString debug ++ back := by
  cases json with
  | true =>
    obtain ⟨front, back, chars⟩ := opening_chars mountpoint origin
    refine ⟨String.ofList front, String.ofList back, fun debug => ?_⟩
    have member : Value.memberChars ("debug", .flag debug) =
        (debugMark true).toList ++ (toString debug).toList := by
      cases debug <;> decide
    apply String.toList_inj.mp
    rw [Event.record, if_pos rfl, Value.render, String.toList_ofList]
    refine (chars debug).trans ?_
    rw [member]
    simp only [String.toList_append, String.toList_ofList, List.append_assoc]
  | false =>
    refine ⟨stamp origin 0 ++ " " ++ Level.info.column ++
      " secretfs::observability::logging: Logging initialized mountpoint=" ++ mountpoint,
      " json=false", fun debug => ?_⟩
    have word : toString false = "false" := rfl
    apply String.toList_inj.mp
    simp [Event.record, Event.plain, opening, debugMark, Field.plain, word]

theorem written_unasked (settings : LogSettings) (more : List LogSettings) (origin : Moment)
    (events : List Event) :
    written origin none (settings :: more) events =
      Text.lines ((opening settings).record settings.json origin) ++
      (events.filter fun e =>
        (Limit.upTo (if settings.debug then .debug else .info)).admits e.level).flatMap
          fun e => Text.lines (e.record settings.json origin) := by
  let l : Logger := ⟨.ofSettings settings, settings.json⟩
  have made : Logger.ofSettings? none settings = some l := rfl
  have admits : l.filter.admits = fun e =>
      (Limit.upTo (if settings.debug then .debug else .info)).admits e.level := by
    funext e
    exact (congrArg (fun f => f.admits e) (Filter.ofSettings_eq settings)).trans
      (Filter.upTo_admits _ e)
  have records : l.record origin = Event.record settings.json origin := by
    funext e
    rw [record, Event.record, Filter.ofSettings_spanOf]
  have first : (Limit.upTo (if settings.debug then .debug else .info)).admits
      (opening settings).level = true := by
    cases settings.debug <;> rfl
  rw [written, made]
  simp only [lines, passing, admits, records, List.filter_cons, first, ↓reduceIte,
    List.flatMap_cons]

end Logger

theorem Event.Orderly.debug_admits {e : Event} (orderly : e.Orderly) :
    (Limit.upTo .debug).admits e.level = true := by
  cases level : e.level with
  | error | warn | info | debug => rfl
  | trace => exact absurd level orderly.coarse

theorem Event.Orderly.info_admits {e : Event} (orderly : e.Orderly) :
    (Limit.upTo .info).admits e.level = decide (e.level ≠ .debug) := by
  cases level : e.level with
  | error | warn | info | debug => rfl
  | trace => exact absurd level orderly.coarse

end SecretKeeper.Log

namespace SecretKeeper.Cache.World

open Log

section Moment
variable {backends : List (String × Backend)} {w : World} (moment : Moment backends w)
  {events : List Event} (emitted : w.Emits events)
include moment emitted

/-- Whatever a run emits, on whatever mount and in whatever form of lines: the log with debugging
has the lines of all events, the log without it has the same lines of the events that are not of
level DEBUG, and the records that open the two logs differ in one word. Who asks for a logger later
gets nothing and changes nothing. -/
theorem info_log_is_debug_log_without_debug_lines (origin : SecretKeeper.Moment)
    (mountpoint : String) (json : Bool) (more : List LogSettings) :
    let lines (e : Event) := Text.lines (e.record json origin)
    ∃ front back : String,
      let opening (debug : Bool) :=
        Text.lines (front ++ debugMark json ++ toString debug ++ back)
      written origin none (⟨true, mountpoint, json⟩ :: more) events =
        opening true ++ events.flatMap lines ∧
      written origin none (⟨false, mountpoint, json⟩ :: more) events =
        opening false ++ (events.filter fun e => e.level ≠ .debug).flatMap lines ∧
      ∀ debug turns, turns.filterMap Turn.event? = events →
        (Output.start.takeAll origin none (.ask ⟨debug, mountpoint, json⟩ :: turns)).lines =
          written origin none (⟨debug, mountpoint, json⟩ :: more) events := by
  intro lines
  have orderly := emitted_orderly moment emitted
  obtain ⟨front, back, record⟩ := Logger.opening_record mountpoint json origin
  refine ⟨front, back, ?_, ?_, ?_⟩
  -- No event is finer than DEBUG, so debugging drops none, and its absence exactly those of DEBUG.
  · have all : (events.filter fun e => (Limit.upTo .debug).admits e.level) = events :=
      List.filter_eq_self.mpr fun e member => (orderly e member).debug_admits
    rw [Logger.written_unasked, record]
    exact congrArg (fun passing => _ ++ List.flatMap lines passing) all
  · have coarse : (events.filter fun e => (Limit.upTo .info).admits e.level) =
        events.filter fun e => e.level ≠ .debug :=
      List.filter_congr fun e member => (orderly e member).info_admits
    rw [Logger.written_unasked, record]
    exact congrArg (fun passing => _ ++ List.flatMap lines passing) coarse
  · intro debug turns same
    rw [← same]
    exact Output.takeAll_lines rfl turns

end Moment

/-- A call breaks down, and the log tells of what; meanwhile another logger is asked for. -/
theorem info_log_is_debug_log_without_debug_lines_of_a_breakdown :
    let backends := [("b", { Backend.blank with fetches := [.after 0 .breakdown] })]
    let handle : Handle := ⟨0, "b", .ofMillis 0 1 1, ⟨true, "/mnt/a", false⟩⟩
    let w := after backends [.create "c" "b" handle.timing handle.log, .run "c" (.lookup "x")]
    let span : Span := ⟨"secret", "/mnt/a", some "x"⟩
    let created := (Note.created handle).event 0 none
    let failed := ((Note.failed "secret").event 0 (some span)).completed [.label "task 1"]
    let unavailable := Note.unavailable.event 0 (some span)
    let events := [created, failed, unavailable]
    let lines (e : Event) := Text.lines (e.record false .epoch)
    let log (debug : Bool) := written .epoch none [⟨debug, "/m", false⟩, .default] events
    Moment backends w ∧ w.Emits events ∧
      (∃ front back : String,
        log true = Text.lines (front ++ " debug=true" ++ back) ++
          (lines created ++ lines failed ++ lines unavailable) ∧
        log false = Text.lines (front ++ " debug=false" ++ back) ++ lines failed) ∧
      (Output.start.takeAll .epoch none [.ask ⟨false, "/m", false⟩, .emit created, .emit failed,
        .ask ⟨true, "/n", true⟩, .emit unavailable]).lines = log false ∧
      lines failed = ["1970-01-01T00:00:00.000000Z  WARN secret_cache\x7boperation=secret " ++
        "mountpoint=/mnt/a secret=x\x7d: secretfs::secrets::cache: Backend call failed " ++
        "operation=\"secret\" error=task 1"] := by
  intro backends handle w span created failed unavailable events lines log
  have moment : Moment backends w := after_moment _ _
  have logged : w.events = [created, (Note.failed "secret").event 0 (some span), unavailable] := by
    decide +kernel
  have emitted : w.Emits events := by
    rw [Emits, logged]
    exact .cons ⟨[], rfl, rfl⟩ (.cons ⟨[_], rfl, rfl⟩ (.cons ⟨[], rfl, rfl⟩ .nil))
  obtain ⟨front, back, loud, quiet, later⟩ :=
    info_log_is_debug_log_without_debug_lines moment emitted .epoch "/m" false [.default]
  have word (debug : Bool) (text : String) (same : debugMark false ++ toString debug = text) :
      Text.lines (front ++ debugMark false ++ toString debug ++ back) =
        Text.lines (front ++ text ++ back) := by
    have inner : front ++ debugMark false ++ toString debug = front ++ text := by
      rw [String.append_assoc, same]
    rw [inner]
  refine ⟨moment, emitted, ⟨front, back, ?_, ?_⟩, later false _ rfl, by decide +kernel⟩
  · exact loud.trans (congrArg₂ (· ++ ·) (word true _ rfl) (by simp [events, lines]))
  · exact quiet.trans (congrArg₂ (· ++ ·) (word false _ rfl) (List.flatMap_singleton _ failed))

end SecretKeeper.Cache.World

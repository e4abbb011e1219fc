import Mathlib.Data.List.Forall2
import SecretKeeper.Log.Logger
import SecretKeeper.Proofs.Json.Compact
import SecretKeeper.Proofs.Moment

/-!
JSON lines read back. The record of an event is one line, from which its data is read member by
member: the time to the microsecond, the fields by their names, and the span both times that it is
written. No object of it has two members of one name, so that it does not matter which one a reader
would take.
-/
namespace SecretKeeper.Json.Value

def text? : Value → Option String
  | text s => some s
  | _ => none

def items? : Value → Option (List Value)
  | list vs => some vs
  | _ => none

def members? : Value → Option (List (String × Value))
  | object ms => if (ms.map Prod.fst).Nodup then some ms else none
  | _ => none

end SecretKeeper.Json.Value

namespace SecretKeeper.Log

open Json

def textAt? (ms : List (String × Value)) (name : String) : Option String :=
  (ms.lookup name).bind Value.text?

def Level.ofName? (name : String) : Option Level :=
  [error, warn, info, debug, trace].find? fun level => level.name = name

def Span.ofValue? (v : Value) : Option Span := do
  let ms ← v.members?
  let operation ← textAt? ms "operation"
  let mountpoint ← textAt? ms "mountpoint"
  return ⟨operation, mountpoint, textAt? ms "secret"⟩

structure Line where
  time : String
  level : Level
  target : String
  message : String
  fields : List (String × Value)
  span : Option Span
  spans : List Span

namespace Line

def spanOf? (ms : List (String × Value)) : Option (Option Span) :=
  (ms.lookup "span").elim (some none) fun v => (Span.ofValue? v).map some

def spansOf? (ms : List (String × Value)) : Option (List Span) :=
  (ms.lookup "spans").elim (some []) fun v => v.items?.bind fun vs => vs.mapM Span.ofValue?

def ofValue? (v : Value) : Option Line := do
  let ms ← v.members?
  let inner ← (ms.lookup "fields").bind Value.members?
  let time ← textAt? ms "timestamp"
  let level ← (textAt? ms "level").bind Level.ofName?
  let target ← textAt? ms "target"
  let message ← textAt? inner "message"
  let span ← spanOf? ms
  let spans ← spansOf? ms
  return ⟨time, level, target, message, inner.filter fun f => f.1 ≠ "message", span, spans⟩

end Line

theorem Level.ofName_name (level : Level) : ofName? level.name = some level := by
  cases level <;> decide

theorem Span.ofValue_toValue (s : Span) : Span.ofValue? s.toValue = some s := by
  obtain ⟨operation, mountpoint, secret⟩ := s
  cases secret <;> rfl

def Event.line (origin : Moment) (span : Option Span) (e : Event) : Line where
  time := stamp origin e.time
  level := e.level
  target := e.target
  message := e.message
  fields := e.fields.map fun f => (f.1, f.2.toValue)
  span := span
  spans := span.toList

theorem members_of_distinct {ms : List (String × Value)} (distinct : (ms.map Prod.fst).Nodup) :
    (Value.object ms).members? = some ms := if_pos distinct

def Event.members (origin : Moment) (span : Option Span) (told : List (String × Value))
    (e : Event) : List (String × Value) :=
  [("timestamp", .text (stamp origin e.time)), ("level", .text e.level.name),
    ("fields", .object told), ("target", .text e.target)] ++
  span.elim [] fun s => [("span", s.toValue), ("spans", .list [s.toValue])]

theorem Event.members_toValue (origin : Moment) (span : Option Span) (e : Event) :
    (e.toValue origin span).members? = some (e.members origin span
      (("message", .text e.message) :: e.fields.map fun f => (f.1, f.2.toValue))) := by
  cases span with
  | none =>
    exact members_of_distinct (show ["timestamp", "level", "fields", "target"].Nodup by decide)
  | some s =>
    exact members_of_distinct
      (show ["timestamp", "level", "fields", "target", "span", "spans"].Nodup by decide)

theorem without_message {fields : List (String × Value)} (message : Value)
    (distinct : ("message" :: fields.map Prod.fst).Nodup) :
    ((("message", message) :: fields).filter fun f => f.1 ≠ "message") = fields := by
  have others : ∀ f ∈ fields, f.1 ≠ "message" := by
    intro f member same
    have named := List.mem_map_of_mem (f := Prod.fst) member
    rw [same] at named
    exact (List.nodup_cons.mp distinct).1 named
  rw [List.filter_cons_of_neg (by simp)]
  exact List.filter_eq_self.mpr fun f member => decide_eq_true (others f member)

namespace Line

section Members
variable (origin : Moment) (span : Option Span) (told : List (String × Value)) (e : Event)

theorem spanOf_members : spanOf? (e.members origin span told) = some span := by
  cases span with
  | none => rfl
  | some s => exact congrArg (Option.map some) s.ofValue_toValue

theorem spansOf_members : spansOf? (e.members origin span told) = some span.toList := by
  cases span with
  | none => rfl
  | some s =>
    have read : [s.toValue].mapM Span.ofValue? = some [s] := by
      simp [List.mapM_cons, s.ofValue_toValue]
    exact read

end Members

theorem ofValue_toValue {e : Event} (distinct : ("message" :: e.fields.map Prod.fst).Nodup)
    (origin : Moment) (span : Option Span) :
    ofValue? (e.toValue origin span) = some (e.line origin span) := by
  let further : List (String × Value) := e.fields.map fun f => (f.1, f.2.toValue)
  let told : List (String × Value) := ("message", .text e.message) :: further
  have names : further.map Prod.fst = e.fields.map Prod.fst := List.map_map
  rw [← names] at distinct
  have ms : (e.toValue origin span).members? = some (e.members origin span told) :=
    e.members_toValue origin span
  have inner : ((e.members origin span told).lookup "fields").bind Value.members? = some told :=
    members_of_distinct distinct
  have time : textAt? (e.members origin span told) "timestamp" = some (stamp origin e.time) := rfl
  have level : (textAt? (e.members origin span told) "level").bind Level.ofName? = some e.level :=
    e.level.ofName_name
  have target : textAt? (e.members origin span told) "target" = some e.target := rfl
  have message : textAt? told "message" = some e.message := rfl
  have fields : (told.filter fun f => f.1 ≠ "message") = further := without_message _ distinct
  simp only [ofValue?, Option.bind_eq_bind, ms, Option.bind_some, inner, time, level,
    target, message, spanOf_members, spansOf_members, fields]
  rfl

end Line

/-- A moment some nanoseconds after an origin, rounded down to the microsecond. -/
structure IsStamped (origin : Moment) (time : Nat) (m : Moment) : Prop where
  part : m.nanos < nanosPerSecond
  rounded : m.seconds * nanosPerSecond + m.nanos =
    (origin.seconds * nanosPerSecond + (origin.nanos + time)) / 1000 * 1000

theorem stamp_reads_back {origin m : Moment} {time : Nat} (stamped : IsStamped origin time m) :
    Moment.ofChars (stamp origin time).toList = .ok m := by
  obtain ⟨part, rounded⟩ := stamped
  have billion : nanosPerSecond = 1000000000 := rfl
  rw [billion] at part rounded
  -- Both moments are one count of microseconds, of which the seconds and the rest are quotients.
  obtain ⟨nanos, sum⟩ : ∃ nanos, nanos = origin.nanos + time := ⟨_, rfl⟩
  have seconds : origin.seconds + (nanos : Int) / ((1000000000 : Nat) : Int) = m.seconds := by
    omega
  have micros : nanos % 1000000000 / 1000 * 1000 = m.nanos := by omega
  have plain : ¬1000000000 ≤ m.nanos := by omega
  have width : Nat.pow 10 6 = 1000000 := rfl
  have scale : Nat.pow 10 (9 - 6) = 1000 := rfl
  have fits : nanos % 1000000000 / 1000 < Nat.pow 10 6 := by omega
  have read := Moment.readFraction_padded (by decide) (by decide) fits []
  rw [scale, micros, ← Nat.mod_eq_of_lt part] at read
  have text := Moment.ofChars_fraction m read
  rw [billion, decide_eq_false plain] at text
  rw [stamp, String.toList_ofList, ← text, billion, ← sum, seconds]
  simp only [List.append_assoc, List.cons_append]

/-! Lines of JSON. -/

theorem lines_of_visible {s : String} (visible : Visible s.toList) : Text.lines s = [s] := by
  have noFeed : '\n' ∉ s.toList := fun member => absurd (visible _ member) (by decide)
  have noReturn : s.toList.getLast? ≠ some '\r' := fun last =>
    absurd (visible _ (List.mem_of_getLast? last)) (by decide)
  rw [Text.lines, List.splitOn_eq_singleton noFeed, List.map_singleton, Text.withoutReturn,
    if_neg noReturn, String.ofList_toList]

namespace Logger

/-- A line that is JSON and tells all of an event, with the span that its logger sees. -/
structure Decodes (l : Logger) (origin : Moment) (e : Event) (line : String) : Prop where
  visible : Visible line.toList
  encodes : Encodes line (e.toValue origin (l.filter.spanOf? e))
  told : Line.ofValue? (e.toValue origin (l.filter.spanOf? e)) =
    some (e.line origin (l.filter.spanOf? e))
  time : ∀ m, IsStamped origin e.time m →
    Moment.ofChars (e.line origin (l.filter.spanOf? e)).time.toList = .ok m

variable {l : Logger} (json : l.json = true) (origin : Moment)
include json

theorem record_decodes {e : Event} (distinct : ("message" :: e.fields.map Prod.fst).Nodup) :
    l.Decodes origin e (l.record origin e) := by
  have record : l.record origin e = (e.toValue origin (l.filter.spanOf? e)).render := if_pos json
  rw [record]
  refine ⟨?_, Value.render_encodes _, Line.ofValue_toValue distinct origin _, ?_⟩
  · rw [Value.render, String.toList_ofList]
    exact Value.chars_visible _
  · exact fun m stamped => stamp_reads_back stamped

theorem lines_decode {events : List Event}
    (distinct : ∀ e ∈ events, ("message" :: e.fields.map Prod.fst).Nodup) :
    List.Forall₂ (l.Decodes origin) (l.passing events) (l.lines origin events) := by
  have decodes : ∀ e ∈ l.passing events, l.Decodes origin e (l.record origin e) :=
    fun e member => record_decodes json origin (distinct e (List.mem_filter.mp member).1)
  have single : l.lines origin events = (l.passing events).map (l.record origin) := by
    rw [lines, List.map_eq_flatMap]
    exact List.flatMap_congr fun e member => lines_of_visible (decodes e member).visible
  rw [single, List.forall₂_map_right_iff, List.forall₂_same]
  exact decodes

end Logger
end SecretKeeper.Log

import SecretKeeper.Log.Logger
import SecretKeeper.Proofs.Json.Record
import SecretKeeper.Proofs.Log.Filter

/-!
What records tell of mount points. The record of an event in a span names the mount point if the
span is seen, and then no other mount point has the same record. If the span is not seen, the
record is the same for all mount points.
-/
namespace SecretKeeper.Json

theorem quoted_append_inj {s t : String} {cs ds : List Char}
    (same : quoted s ++ cs = quoted t ++ ds) : s = t := by
  have bytes := congrArg Text.utf8 same
  rw [Text.utf8_append, Text.utf8_append, utf8_quoted, utf8_quoted] at bytes
  have read := congrArg readText (List.tail_eq_of_cons_eq bytes)
  rw [readText_quoted, readText_quoted] at read
  exact (Prod.mk.inj (Except.ok.inj read)).1

theorem membersChars_around (ms : List (String × Value)) : ∃ front, ∀ ns, ∃ back, ∀ n,
    front ++ Value.memberChars n ++ back = Value.membersChars (ms ++ n :: ns) := by
  cases ms with
  | nil =>
    refine ⟨[], fun ns => ⟨ns.flatMap fun n => ',' :: Value.memberChars n, fun n => ?_⟩⟩
    rw [List.nil_append, List.nil_append, membersChars_cons]
  | cons m more =>
    refine ⟨Value.memberChars m ++ (more.flatMap fun n => ',' :: Value.memberChars n) ++ [','],
      fun ns => ⟨ns.flatMap fun n => ',' :: Value.memberChars n, fun n => ?_⟩⟩
    rw [List.cons_append, membersChars_cons, List.flatMap_append, List.flatMap_cons]
    simp only [List.append_assoc, List.cons_append, List.nil_append]

end SecretKeeper.Json

namespace SecretKeeper.Log

open Json

def Event.movedTo (e : Event) (mountpoint : String) : Event :=
  { e with span := e.span.map fun s => s.movedTo mountpoint }

namespace Span

theorem chars_front (s : Span) (m : String) :
    '\x7b' :: Value.memberChars ("mountpoint", .text m) <+: (s.movedTo m).toValue.chars := by
  rw [toValue, Value.chars, List.cons_append, List.cons_append, List.cons_append, membersChars_cons,
    List.cons_append, List.append_assoc]
  exact List.cons_prefix_cons.mpr ⟨rfl, List.prefix_append _ _⟩

theorem plain_named (s : Span) : ∃ front back : List Char, ∀ m,
    (s.movedTo m).plain.toList = front ++ ("mountpoint=".toList ++ (m.toList ++ back)) := by
  refine ⟨name.toList ++ '\x7b' :: "operation=".toList ++ s.operation.toList ++ [' '],
    (s.secret.toList.flatMap fun secret => ' ' :: "secret=".toList ++ secret.toList) ++ ['\x7d'],
    fun m => ?_⟩
  cases secret : s.secret <;> simp [plain, fields, movedTo, secret]

end Span

namespace Event
variable (e : Event) (s : Span) (origin : Moment)

theorem chars_front : ∃ front, ∀ m, front ++ Value.memberChars ("mountpoint", .text m) <+:
    ((e.movedTo m).toValue origin (some (s.movedTo m))).chars := by
  obtain ⟨front, outer⟩ := membersChars_around [
    ("timestamp", .text (stamp origin e.time)), ("level", .text e.level.name),
    ("fields", .object (("message", .text e.message) ::
      e.fields.map fun f => (f.1, f.2.toValue))), ("target", .text e.target)]
  refine ⟨'\x7b' :: front ++ quoted "span" ++ [':', '\x7b'], fun m => ?_⟩
  obtain ⟨inside, span⟩ := s.chars_front m
  obtain ⟨behind, around⟩ := outer [("spans", .list [(s.movedTo m).toValue])]
  have members := around ("span", (s.movedTo m).toValue)
  refine ⟨inside ++ behind ++ ['\x7d'], ?_⟩
  rw [Value.memberChars, ← span] at members
  rw [toValue, Value.chars]
  refine Eq.trans ?_ (congrArg (fun cs => '\x7b' :: cs ++ ['\x7d']) members)
  simp only [List.append_assoc, List.cons_append, List.nil_append]

theorem plain_named : ∃ front back : List Char, ∀ m,
    ((e.movedTo m).plain origin (some (s.movedTo m))).toList =
      front ++ ("mountpoint=".toList ++ (m.toList ++ back)) := by
  obtain ⟨front, back, split⟩ := s.plain_named
  refine ⟨(stamp origin e.time ++ " " ++ e.level.column ++ " ").toList ++ front,
    back ++ (": " ++ e.target ++ ": " ++ e.message ++
      String.join (e.fields.map fun f => " " ++ f.1 ++ "=" ++ f.2.plain)).toList,
    fun m => ?_⟩
  simp only [plain, movedTo, String.toList_append, split, List.append_assoc]

end Event

namespace Logger

def naming (l : Logger) (mountpoint : String) : List Char :=
  if l.json then Value.memberChars ("mountpoint", .text mountpoint)
  else "mountpoint=".toList ++ mountpoint.toList

/-- The record of an event names a mount point, which is the only one with this record. -/
structure Tells (l : Logger) (origin : Moment) (e : Event) (mountpoint : String) : Prop where
  named : l.naming mountpoint <:+: (l.record origin e).toList
  own : ∀ m, l.record origin (e.movedTo m) = l.record origin e → m = mountpoint

/-- The record of an event is the same for all mount points. -/
def Conceals (l : Logger) (origin : Moment) (e : Event) : Prop :=
  ∀ m, l.record origin (e.movedTo m) = l.record origin e

section Record
variable {l : Logger} {e : Event} {s : Span} (inside : e.span = some s) (origin : Moment)
include inside

theorem spanOf_movedTo (m : String) : l.filter.spanOf? (e.movedTo m) =
    if l.filter.admitsSpan e.target s then some (s.movedTo m) else none := by
  have span : (e.movedTo m).span = some (s.movedTo m) := by
    rw [Event.movedTo, inside]
    rfl
  have seen : l.filter.admitsSpan (e.movedTo m).target (s.movedTo m) =
      l.filter.admitsSpan e.target s := l.filter.admitsSpan_movedTo e.target s m
  rw [Filter.spanOf?, span, Option.filter_some, seen]

theorem movedTo_own : e.movedTo s.mountpoint = e := by
  rw [Event.movedTo, inside]
  exact (congrArg (fun span => { e with span }) inside.symm :)

section Seen
variable (seen : l.filter.admitsSpan e.target s = true)
include seen

theorem record_tells_json (json : l.json = true) : l.Tells origin e s.mountpoint := by
  obtain ⟨front, chars⟩ := e.chars_front s origin
  have record (m : String) : front ++ Value.memberChars ("mountpoint", .text m) <+:
      (l.record origin (e.movedTo m)).toList := by
    rw [record, spanOf_movedTo inside, if_pos seen, if_pos json, Value.render, String.toList_ofList]
    exact chars m
  constructor
  · have own := record s.mountpoint
    rw [movedTo_own inside] at own
    rw [naming, if_pos json]
    exact (List.suffix_append front _).isInfix.trans own.isInfix
  · intro m same
    obtain ⟨back, here⟩ := record m
    obtain ⟨back', there⟩ := record s.mountpoint
    rw [movedTo_own inside, ← same, ← here, List.append_assoc, List.append_assoc] at there
    have members := (List.append_cancel_left there).symm
    simp only [Value.memberChars, Value.chars, List.append_assoc, List.cons_append] at members
    exact quoted_append_inj (List.tail_eq_of_cons_eq (List.append_cancel_left members))

theorem record_tells_plain (plain : l.json = false) : l.Tells origin e s.mountpoint := by
  have notJson : ¬l.json = true := by simp [plain]
  obtain ⟨front, back, chars⟩ := e.plain_named s origin
  have record (m : String) : (l.record origin (e.movedTo m)).toList =
      front ++ ("mountpoint=".toList ++ (m.toList ++ back)) := by
    rw [record, spanOf_movedTo inside, if_pos seen, if_neg notJson]
    exact chars m
  constructor
  · have own := record s.mountpoint
    rw [movedTo_own inside] at own
    rw [naming, if_neg notJson, own]
    exact ⟨front, back, by simp only [List.append_assoc]⟩
  · intro m same
    have texts := record m
    rw [same, ← movedTo_own inside, record s.mountpoint] at texts
    have names := List.append_cancel_left (List.append_cancel_left texts)
    exact String.toList_inj.mp (List.append_cancel_right names).symm

theorem record_tells : l.Tells origin e s.mountpoint := by
  cases json : l.json with
  | true => exact record_tells_json inside origin seen json
  | false => exact record_tells_plain inside origin seen json

end Seen

theorem record_conceals (unseen : l.filter.admitsSpan e.target s = false) :
    l.Conceals origin e := by
  intro m
  have hidden (m : String) : l.filter.spanOf? (e.movedTo m) = none := by
    rw [spanOf_movedTo inside, unseen]
    rfl
  have own := hidden s.mountpoint
  rw [movedTo_own inside] at own
  rw [record, record, hidden, own]
  rfl

end Record
end Logger
end SecretKeeper.Log

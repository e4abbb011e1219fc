import Mathlib.Data.List.Nodup
import SecretKeeper.Proofs.Json.Members

/-!
Members in any order. What an object makes of a draft depends on the values of each known key only,
and on whether all keys mean something; a list makes the same of it as the object that names its
items.
-/
namespace SecretKeeper.Json

def valuesOf (key : String) (members : List (Entry Tree)) : List Tree :=
  (members.filter fun m => Piece.text? m.key = some key).map fun m => m.value.value

def Legible (members : List (Entry Tree)) : Prop := ∀ m ∈ members, Piece.text? m.key ≠ none

def Holds (meaning : Tree → Option α) (values : List Tree) (held : Option α) : Prop :=
  values = [] ∧ held = none ∨ ∃ t a, values = [t] ∧ meaning t = some a ∧ held = some a

def Given (meaning : Tree → Option α) (values : List Tree) (a : α) : Prop :=
  ∃ t, values = [t] ∧ meaning t = some a

/-- A member that may be missing: once with this meaning, or not at all. -/
def GivenOr (missing : α) (meaning : Tree → Option α) (values : List Tree) (a : α) : Prop :=
  values = [] ∧ a = missing ∨ Given meaning values a

theorem given_iff (meaning : Tree → Option α) (values : List Tree) (a : α) :
    Given meaning values a ↔ Holds meaning values (some a) := by
  simp [Given, Holds]

theorem givenOr_iff (missing : α) (meaning : Tree → Option α) (values : List Tree) (a : α) :
    GivenOr missing meaning values a ↔
      ∃ held, Holds meaning values held ∧ held.getD missing = a := by
  constructor
  · rintro (⟨nothing, rfl⟩ | given)
    · exact ⟨none, Or.inl ⟨nothing, rfl⟩, rfl⟩
    · exact ⟨some a, (given_iff meaning values a).mp given, rfl⟩
  · rintro ⟨held, ⟨nothing, rfl⟩ | ⟨t, b, single, meant, rfl⟩, rfl⟩
    · exact Or.inl ⟨nothing, rfl⟩
    · exact Or.inr ⟨t, single, meant⟩

theorem valuesOf_own {m : Entry Tree} {key : String} (own : Piece.text? m.key = some key)
    (more : List (Entry Tree)) : valuesOf key (m :: more) = m.value.value :: valuesOf key more := by
  have kept : decide (Piece.text? m.key = some key) = true := decide_eq_true own
  simp only [valuesOf, List.filter_cons, kept, ↓reduceIte, List.map_cons]

theorem valuesOf_other {m : Entry Tree} {key : String} (other : Piece.text? m.key ≠ some key)
    (more : List (Entry Tree)) : valuesOf key (m :: more) = valuesOf key more := by
  have dropped : decide (Piece.text? m.key = some key) = false := decide_eq_false other
  simp only [valuesOf, List.filter_cons, dropped, Bool.false_eq_true, ↓reduceIte]

theorem valuesOf_perm {members others : List (Entry Tree)} (same : members.Perm others)
    (key : String) : (valuesOf key members).Perm (valuesOf key others) :=
  (same.filter _).map _

theorem valuesOf_append (key : String) (front back : List (Entry Tree)) :
    valuesOf key (front ++ back) = valuesOf key front ++ valuesOf key back := by
  rw [valuesOf, List.filter_append, List.map_append]
  rfl

theorem legible_perm {members others : List (Entry Tree)} (same : members.Perm others) :
    Legible members ↔ Legible others :=
  forall_congr' fun _ => imp_congr_left same.mem_iff

theorem legible_append {front back : List (Entry Tree)} :
    Legible (front ++ back) ↔ Legible front ∧ Legible back := List.forall_mem_append

theorem legible_cons {m : Entry Tree} {more : List (Entry Tree)} :
    Legible (m :: more) ↔ Piece.text? m.key ≠ none ∧ Legible more := List.forall_mem_cons

namespace Slot
variable {σ : Type}

/-- From one draft to another, a slot takes the values of its key: none, or one if it has room. -/
def Takes (s : Slot σ) (draft : σ) (values : List Tree) (final : σ) : Prop :=
  values = [] ∧ s.get final = s.get draft ∨
    s.get draft = none ∧ ∃ t a, values = [t] ∧ s.meaning t = some a ∧ s.get final = some a

/-- The slots side by side are the whole draft. -/
structure Independent (slots : List (Slot σ)) : Prop where
  distinct : (slots.map Slot.key).Nodup
  own : ∀ s ∈ slots, ∀ a draft, s.get (s.put a draft) = some a
  apart : ∀ s ∈ slots, ∀ other ∈ slots, other.key ≠ s.key →
    ∀ a draft, other.get (s.put a draft) = other.get draft
  whole : ∀ draft final, (∀ s ∈ slots, s.get final = s.get draft) → draft = final

theorem takes_nil {s : Slot σ} {draft final : σ} :
    s.Takes draft [] final ↔ s.get final = s.get draft := by
  simp [Takes]

theorem takes_congr {s : Slot σ} {draft other : σ} (same : s.get other = s.get draft)
    (values : List Tree) (final : σ) :
    s.Takes other values final ↔ s.Takes draft values final := by
  rw [Takes, Takes, same]

theorem takes_cons {s : Slot σ} (own : ∀ a draft, s.get (s.put a draft) = some a) {draft : σ}
    {t : Tree} {values : List Tree} {final : σ} : s.Takes draft (t :: values) final ↔
      s.get draft = none ∧ ∃ a, s.meaning t = some a ∧ s.Takes (s.put a draft) values final := by
  constructor
  · rintro (⟨none, _⟩ | ⟨room, t', a, single, meant, held⟩)
    · cases none
    · cases single
      exact ⟨room, a, meant, Or.inl ⟨rfl, held.trans (own a draft).symm⟩⟩
  · rintro ⟨room, a, meant, ⟨rfl, kept⟩ | ⟨taken, _⟩⟩
    · exact Or.inr ⟨room, t, a, rfl, meant, kept.trans (own a draft)⟩
    · rw [own] at taken
      cases taken

theorem takes_perm {s : Slot σ} {draft final : σ} {values others : List Tree}
    (same : values.Perm others) (takes : s.Takes draft values final) :
    s.Takes draft others final := by
  rcases takes with ⟨rfl, kept⟩ | ⟨room, t, a, rfl, meant, held⟩
  · exact Or.inl ⟨same.nil_eq.symm, kept⟩
  · exact Or.inr ⟨room, t, a, List.singleton_perm.mp same ▸ rfl, meant, held⟩

theorem takes_of_blank {s : Slot σ} {draft : σ} (room : s.get draft = none) (values : List Tree)
    (final : σ) : s.Takes draft values final ↔ Holds s.meaning values (s.get final) := by
  simp [Takes, Holds, room]

section Independent
variable {slots : List (Slot σ)} (independent : Independent slots)
include independent

theorem eq_of_key {s other : Slot σ} (member : s ∈ slots) (member' : other ∈ slots)
    (same : other.key = s.key) : other = s :=
  List.inj_on_of_nodup_map independent.distinct member' member same

theorem find_of_mem {s : Slot σ} (member : s ∈ slots) :
    (slots.find? fun other => other.key == s.key) = some s := by
  cases found : slots.find? fun other => other.key == s.key with
  | none => simpa using List.find?_eq_none.mp found s member
  | some other =>
    have same : other.key = s.key := by simpa using List.find?_some found
    rw [eq_of_key independent member (List.mem_of_find?_eq_some found) same]

/-- A member of a slot is taken if there is room for it and it means something; the other slots are
left alone. -/
theorem takes_member {s : Slot σ} (known : s ∈ slots) {m : Entry Tree}
    (text : Piece.text? m.key = some s.key) (more : List (Entry Tree)) (draft final : σ) :
    (∀ other ∈ slots, other.Takes draft (valuesOf other.key (m :: more)) final) ↔
      s.get draft = none ∧ ∃ a, s.meaning m.value.value = some a ∧
        ∀ other ∈ slots, other.Takes (s.put a draft) (valuesOf other.key more) final := by
  have own := independent.own s known
  have others {other : Slot σ} (member : other ∈ slots) (different : other.key ≠ s.key)
      (a : s.Kind) :
      other.Takes (s.put a draft) (valuesOf other.key more) final ↔
        other.Takes draft (valuesOf other.key (m :: more)) final := by
    rw [takes_congr (independent.apart s known other member different a draft),
      valuesOf_other (by rw [text]; exact fun same => different (Option.some.inj same).symm)]
  constructor
  · intro takes
    have taken := takes s known
    rw [valuesOf_own text, takes_cons own] at taken
    obtain ⟨room, a, meant, rest⟩ := taken
    refine ⟨room, a, meant, fun other member => ?_⟩
    by_cases same : other.key = s.key
    · rw [eq_of_key independent known member same]
      exact rest
    · exact (others member same a).mpr (takes other member)
  · rintro ⟨room, a, meant, takes⟩ other member
    by_cases same : other.key = s.key
    · rw [eq_of_key independent known member same, valuesOf_own text, takes_cons own]
      exact ⟨room, a, meant, takes s known⟩
    · exact (others member same a).mp (takes other member)

/-- A draft is filled if every key means something and every slot takes the values of its key. -/
theorem gather_iff (draft final : σ) (members : List (Entry Tree)) :
    gather? slots draft members = some final ↔
      Legible members ∧ ∀ s ∈ slots, s.Takes draft (valuesOf s.key members) final := by
  -- On the members: the head goes into the one slot of its key, or into none.
  induction members generalizing draft with
  | nil =>
    have legible : Legible [] := fun m member => by cases member
    simp only [gather?, valuesOf, List.filter_nil, List.map_nil, takes_nil, legible, true_and,
      Option.some.injEq]
    exact ⟨fun same s _ => same ▸ rfl, independent.whole draft final⟩
  | cons m more ih =>
    rw [gather?, legible_cons]
    cases text : Piece.text? m.key with
    | none => simp
    | some key =>
      simp only [Option.bind_some, ne_eq, reduceCtorEq, not_false_eq_true, true_and]
      cases found : slots.find? fun s => s.key == key with
      | none =>
        have others (s : Slot σ) (member : s ∈ slots) :
            valuesOf s.key (m :: more) = valuesOf s.key more := by
          apply valuesOf_other
          rw [text]
          rintro ⟨⟩
          simpa using List.find?_eq_none.mp found s member
        simp only [fill?, found, Option.bind_some, ih]
        exact and_congr_right fun _ => forall₂_congr fun s member => by rw [others s member]
      | some s =>
        have known := List.mem_of_find?_eq_some found
        obtain rfl : s.key = key := by simpa using List.find?_some found
        rw [takes_member independent known text]
        simp only [fill?, found]
        cases s.get draft with
        | some a => simp
        | none => cases s.meaning m.value.value <;> simp [ih]

theorem gather_congr (draft : σ) {members others : List (Entry Tree)}
    (legible : Legible members ↔ Legible others)
    (same : ∀ s ∈ slots, (valuesOf s.key members).Perm (valuesOf s.key others)) :
    gather? slots draft members = gather? slots draft others := by
  ext final
  rw [gather_iff independent, gather_iff independent, legible]
  refine and_congr_right fun _ => forall₂_congr fun s member => ⟨?_, ?_⟩
  · exact takes_perm (same s member)
  · exact takes_perm (same s member).symm

/-- A row is what an object makes that names the items by the slots in their order. -/
theorem row_eq_gather {row : List (Slot σ)} (part : row.Sublist slots) {draft : σ}
    (blank : ∀ s ∈ row, s.get draft = none) {items : List (Padded Tree)}
    {members : List (Entry Tree)}
    (keys : members.map (fun m => Piece.text? m.key) =
      (row.take items.length).map fun s => some s.key)
    (values : members.map (fun m => m.value.value) = items.map fun item => item.value) :
    row? row draft items = gather? slots draft members := by
  -- The row gets shorter while the object is asked for all slots: what is left of the row stays
  -- empty, since a slot that is put in leaves the others alone.
  induction items generalizing row draft members with
  | nil =>
    obtain rfl := List.map_eq_nil_iff.mp values
    rw [row?, gather?]
  | cons item items ih =>
    cases members with
    | nil => cases values
    | cons m members =>
      simp only [List.map_cons, List.cons.injEq] at values
      obtain ⟨value, values⟩ := values
      cases row with
      | nil => cases keys
      | cons s row =>
        simp only [List.map_cons, List.length_cons, List.take_succ_cons, List.cons.injEq] at keys
        obtain ⟨key, keys⟩ := keys
        have known := part.subset List.mem_cons_self
        have distinct := List.nodup_cons.mp ((part.map Slot.key).nodup independent.distinct)
        have room := blank s List.mem_cons_self
        rw [row?, gather?, key, Option.bind_some, fill?, find_of_mem independent known]
        simp only [room, Option.isSome_none, Bool.false_eq_true, ↓reduceIte, value]
        cases s.meaning item.value with
        | none => rfl
        | some a =>
          refine ih ((List.sublist_cons_self s row).trans part) (fun other member => ?_) keys values
          have different : other.key ≠ s.key := fun same =>
            distinct.1 (same ▸ List.mem_map_of_mem member)
          have apart := independent.apart s known other
            (part.subset (List.mem_cons_of_mem s member)) different a draft
          rw [apart]
          exact blank other (List.mem_cons_of_mem s member)

end Independent

theorem row_of_long {slots : List (Slot σ)} {items : List (Padded Tree)}
    (long : slots.length < items.length) (draft : σ) : row? slots draft items = none := by
  induction slots generalizing draft items with
  | nil =>
    cases items with
    | nil => cases long
    | cons item items => rfl
  | cons s slots ih =>
    cases items with
    | nil => cases long
    | cons item items =>
      rw [row?]
      cases s.meaning item.value with
      | none => rfl
      | some a => exact ih (Nat.lt_of_succ_lt_succ long) (s.put a draft)

end Slot

namespace Layout
variable {σ α : Type} {l : Layout σ α} {slots : List (Slot σ)}

section Independent
variable (independent : Slot.Independent slots) (blank : ∀ s ∈ slots, s.get l.blank = none)
include independent blank

theorem meaning_object (inside : List Blank) (members : List (Entry Tree)) (a : α) :
    l.meaning? slots (.object inside members) = some a ↔ Legible members ∧
      ∃ final, l.finish final = .ok a ∧
        ∀ s ∈ slots, Holds s.meaning (valuesOf s.key members) (s.get final) := by
  have held (final : σ) :
      (∀ s ∈ slots, s.Takes l.blank (valuesOf s.key members) final) ↔
        ∀ s ∈ slots, Holds s.meaning (valuesOf s.key members) (s.get final) :=
    forall₂_congr fun s member => Slot.takes_of_blank (blank s member) _ final
  simp only [meaning?, Option.bind_eq_some_iff, toOption_eq_some,
    Slot.gather_iff independent, held]
  constructor
  · rintro ⟨final, ⟨legible, holds⟩, made⟩
    exact ⟨legible, final, made, holds⟩
  · rintro ⟨legible, final, made, holds⟩
    exact ⟨final, ⟨legible, holds⟩, made⟩

theorem meaning_list (inside inside' : List Blank) {items : List (Padded Tree)}
    {members : List (Entry Tree)}
    (keys : members.map (fun m => Piece.text? m.key) =
      (slots.take items.length).map fun s => some s.key)
    (values : members.map (fun m => m.value.value) = items.map fun item => item.value) :
    l.meaning? slots (.list inside items) = l.meaning? slots (.object inside' members) := by
  simp only [meaning?,
    Slot.row_eq_gather independent (List.Sublist.refl slots) blank keys values]

end Independent

theorem meaning_congr (independent : Slot.Independent slots) (inside inside' : List Blank)
    {members others : List (Entry Tree)} (legible : Legible members ↔ Legible others)
    (same : ∀ s ∈ slots, (valuesOf s.key members).Perm (valuesOf s.key others)) :
    l.meaning? slots (.object inside members) = l.meaning? slots (.object inside' others) := by
  simp only [meaning?, Slot.gather_congr independent l.blank legible same]

theorem meaning_of_long_list {items : List (Padded Tree)} (long : slots.length < items.length)
    (inside : List Blank) : l.meaning? slots (.list inside items) = none := by
  simp only [meaning?, Slot.row_of_long long, Option.bind_none]

end Layout
end SecretKeeper.Json

import SecretKeeper.Proofs.Json.Slots
import SecretKeeper.Proofs.Secret.Document

/-!
Which documents are secrets, and of which secret: objects by their members in any order, lists by
their items in the order of the columns.
-/
namespace SecretKeeper

open Json

def Moment.ofTree? (t : Tree) : Option Moment :=
  t.text?.bind fun s => (Moment.ofChars s.toList).toOption

theorem Moment.reader_means : Moment.reader.Means Moment.ofTree? := by
  have means := Reader.check_means
    (Reader.textFor_means "an RFC 3339 formatted date and time string") true
    fun s => (Moment.ofChars s.toList).mapError Moment.Fault.message
  simp only [toOption_mapError] at means
  exact means

namespace Secret

namespace Content

def ofTree? (t : Tree) : Option Content := t.text?.bind fun s => (ofEncoded s).toOption

theorem reader_means : reader.Means ofTree? := by
  have means := Reader.check_means Reader.text_means false fun s => (ofEncoded s).mapError refusal
  simp only [toOption_mapError] at means
  exact means

theorem ofTree_iff (t : Tree) (c : Content) : ofTree? t = some c ↔ t.text? = some c.encoded := by
  simp only [ofTree?, Option.bind_eq_some_iff, toOption_eq_some, ofEncoded_iff, exists_eq_right]

end Content

/-- The members of a secret as an object has them. -/
structure Schema (members : List (Entry Tree)) (s : Secret) : Prop where
  name : Given Tree.text? (valuesOf "name" members) s.name
  content : Given Tree.text? (valuesOf "secret" members) s.content.encoded
  length : GivenOr 0 Tree.word? (valuesOf "secretLength" members) s.length
  createdAt : GivenOr Moment.epoch Moment.ofTree? (valuesOf "creationDate" members) s.createdAt
  isVersioned : GivenOr false Tree.flag? (valuesOf "isVersioned" members) s.isVersioned
  mode : GivenOr "" Tree.text? (valuesOf "mode" members) s.mode
  owner : GivenOr "" Tree.text? (valuesOf "owner" members) s.owner
  group : GivenOr "" Tree.text? (valuesOf "group" members) s.group

def slots : List (Slot Draft) := [
  ⟨"name", String, (·.name), fun v d => { d with name := some v }, Tree.text?⟩,
  ⟨"secret", Content, (·.content), fun v d => { d with content := some v }, Content.ofTree?⟩,
  ⟨"secretLength", UInt64, (·.length), fun v d => { d with length := some v }, Tree.word?⟩,
  ⟨"creationDate", Moment, (·.createdAt), fun v d => { d with createdAt := some v },
    Moment.ofTree?⟩,
  ⟨"isVersioned", Bool, (·.isVersioned), fun v d => { d with isVersioned := some v }, Tree.flag?⟩,
  ⟨"mode", String, (·.mode), fun v d => { d with mode := some v }, Tree.text?⟩,
  ⟨"owner", String, (·.owner), fun v d => { d with owner := some v }, Tree.text?⟩,
  ⟨"group", String, (·.group), fun v d => { d with group := some v }, Tree.text?⟩]

theorem slots_read : List.Forall₂ Slot.IsReadBy slots layout.columns := by
  apply List.Forall₂.cons (Slot.isReadBy_map Reader.text_means ..)
  apply List.Forall₂.cons (Slot.isReadBy_map Content.reader_means ..)
  apply List.Forall₂.cons (Slot.isReadBy_map Reader.word64_means ..)
  apply List.Forall₂.cons (Slot.isReadBy_map Moment.reader_means ..)
  apply List.Forall₂.cons (Slot.isReadBy_map Reader.flag_means ..)
  apply List.Forall₂.cons (Slot.isReadBy_map Reader.text_means ..)
  apply List.Forall₂.cons (Slot.isReadBy_map Reader.text_means ..)
  apply List.Forall₂.cons (Slot.isReadBy_map Reader.text_means ..)
  exact List.Forall₂.nil

theorem slots_independent : Slot.Independent slots where
  distinct := by decide
  own := by simp [slots]
  apart := by simp [slots]
  whole := by
    rintro ⟨⟩ ⟨⟩ same
    simpa [slots, eq_comm] using same

theorem slots_blank : ∀ s ∈ slots, s.get layout.blank = none := by
  simp [slots, layout, Draft.blank]

theorem finish_iff (d : Draft) (s : Secret) : d.finish = .ok s ↔
    d.name = some s.name ∧ d.content = some s.content ∧ d.length.getD 0 = s.length ∧
      d.createdAt.getD Moment.epoch = s.createdAt ∧ d.isVersioned.getD false = s.isVersioned ∧
      d.mode.getD "" = s.mode ∧ d.owner.getD "" = s.owner ∧ d.group.getD "" = s.group := by
  rw [Draft.finish]
  cases d.name with
  | none => simp
  | some name =>
    cases d.content with
    | none => simp
    | some content =>
      cases s
      simp

theorem holds_slots (members : List (Entry Tree)) (d : Draft) :
    (∀ slot ∈ slots, Holds slot.meaning (valuesOf slot.key members) (slot.get d)) ↔
      Holds Tree.text? (valuesOf "name" members) d.name ∧
      Holds Content.ofTree? (valuesOf "secret" members) d.content ∧
      Holds Tree.word? (valuesOf "secretLength" members) d.length ∧
      Holds Moment.ofTree? (valuesOf "creationDate" members) d.createdAt ∧
      Holds Tree.flag? (valuesOf "isVersioned" members) d.isVersioned ∧
      Holds Tree.text? (valuesOf "mode" members) d.mode ∧
      Holds Tree.text? (valuesOf "owner" members) d.owner ∧
      Holds Tree.text? (valuesOf "group" members) d.group := by
  simp [slots]

theorem given_content (values : List Tree) (c : Content) :
    Given Tree.text? values c.encoded ↔ Holds Content.ofTree? values (some c) := by
  rw [← given_iff]
  simp only [Given, Content.ofTree_iff]

/-- A secret obeys the schema if it is made of a draft that holds the values of all keys. -/
theorem schema_iff (members : List (Entry Tree)) (s : Secret) : Schema members s ↔
    ∃ final : Draft, final.finish = .ok s ∧
      ∀ slot ∈ slots, Holds slot.meaning (valuesOf slot.key members) (slot.get final) := by
  simp only [holds_slots]
  constructor
  · intro schema
    obtain ⟨length, holds_length, made_length⟩ := (givenOr_iff ..).mp schema.length
    obtain ⟨createdAt, holds_createdAt, made_createdAt⟩ := (givenOr_iff ..).mp schema.createdAt
    obtain ⟨isVersioned, holds_flag, made_flag⟩ := (givenOr_iff ..).mp schema.isVersioned
    obtain ⟨mode, holds_mode, made_mode⟩ := (givenOr_iff ..).mp schema.mode
    obtain ⟨owner, holds_owner, made_owner⟩ := (givenOr_iff ..).mp schema.owner
    obtain ⟨group, holds_group, made_group⟩ := (givenOr_iff ..).mp schema.group
    refine ⟨⟨some s.name, some s.content, length, createdAt, isVersioned, mode, owner, group⟩,
      ?_, ?_⟩
    · exact (finish_iff _ s).mpr ⟨rfl, rfl, made_length, made_createdAt, made_flag, made_mode,
        made_owner, made_group⟩
    · exact ⟨(given_iff ..).mp schema.name, (given_content ..).mp schema.content, holds_length,
        holds_createdAt, holds_flag, holds_mode, holds_owner, holds_group⟩
  · rintro ⟨final, made, name, content, length, createdAt, isVersioned, mode, owner, group⟩
    obtain ⟨made_name, made_content, made⟩ := (finish_iff final s).mp made
    obtain ⟨made_length, made_createdAt, made_flag, made_mode, made_owner, made_group⟩ := made
    rw [made_name] at name
    rw [made_content] at content
    exact {
      name := (given_iff ..).mpr name
      content := (given_content ..).mpr content
      length := (givenOr_iff ..).mpr ⟨final.length, length, made_length⟩
      createdAt := (givenOr_iff ..).mpr ⟨final.createdAt, createdAt, made_createdAt⟩
      isVersioned := (givenOr_iff ..).mpr ⟨final.isVersioned, isVersioned, made_flag⟩
      mode := (givenOr_iff ..).mpr ⟨final.mode, mode, made_mode⟩
      owner := (givenOr_iff ..).mpr ⟨final.owner, owner, made_owner⟩
      group := (givenOr_iff ..).mpr ⟨final.group, group, made_group⟩ }

theorem ofDocument_means (d : Document) :
    (ofDocument d.bytes).toOption = layout.meaning? slots d.value := by
  rw [ofDocument, toOption_mapError]
  exact Reader.document_means (Layout.reader_means slots_read) d

theorem ofDocument_object (before inside after : List Blank) (members : List (Entry Tree))
    (s : Secret) : ofDocument (Document.bytes ⟨before, .object inside members, after⟩) = .ok s ↔
      Legible members ∧ Schema members s := by
  rw [← toOption_eq_some, ofDocument_means, schema_iff]
  exact Layout.meaning_object slots_independent slots_blank inside members s

theorem same_secret {d e : Document}
    (same : layout.meaning? slots d.value = layout.meaning? slots e.value) :
    (ofDocument d.bytes).toOption = (ofDocument e.bytes).toOption := by
  rw [ofDocument_means, ofDocument_means, same]

theorem members_in_any_order (inside inside' : List Blank) {members others : List (Entry Tree)}
    (same : members.Perm others) : layout.meaning? slots (.object inside members) =
      layout.meaning? slots (.object inside' others) :=
  Layout.meaning_congr slots_independent inside inside' (legible_perm same)
    fun slot _ => valuesOf_perm same slot.key

def keys : List String :=
  ["name", "secret", "secretLength", "creationDate", "isVersioned", "mode", "owner", "group"]

theorem keys_of_slots : slots.map Slot.key = keys := rfl

theorem unknown_member_ignored (inside inside' : List Blank) (front back : List (Entry Tree))
    {m : Entry Tree} {key : String} (text : Piece.text? m.key = some key) (unknown : key ∉ keys) :
    layout.meaning? slots (.object inside (front ++ m :: back)) =
      layout.meaning? slots (.object inside' (front ++ back)) := by
  apply Layout.meaning_congr slots_independent
  · simp [legible_append, legible_cons, text]
  · intro slot member
    have other : Piece.text? m.key ≠ some slot.key := by
      rw [text]
      rintro ⟨⟩
      exact unknown (keys_of_slots ▸ List.mem_map_of_mem member)
    rw [valuesOf_append, valuesOf_append, valuesOf_other other]

theorem items_named (inside inside' : List Blank) {items : List (Padded Tree)}
    {members : List (Entry Tree)}
    (named : members.map (fun m => Piece.text? m.key) = (keys.take items.length).map some)
    (values : members.map (fun m => m.value.value) = items.map fun item => item.value) :
    layout.meaning? slots (.list inside items) =
      layout.meaning? slots (.object inside' members) := by
  apply Layout.meaning_list slots_independent slots_blank inside inside' _ values
  rw [named, ← keys_of_slots, ← List.map_take, List.map_map]
  rfl

/-! A secret of two members. -/

def plainly (cs : List Char) (visible : ∀ c ∈ cs, 32 ≤ c.toNat ∧ c ≠ '"' ∧ c ≠ '\\') :
    List Piece := cs.pmap Piece.plain visible

def sampleName : Padded Tree := ⟨[], .text (plainly ['x'] (by simp)), []⟩

def sampleContent : Padded Tree := ⟨[], .text (plainly ['Y', 'Q', '=', '='] (by simp)), []⟩

def sampleMembers : List (Entry Tree) := [
  ⟨[], plainly ['n', 'a', 'm', 'e'] (by simp), [], sampleName⟩,
  ⟨[], plainly ['s', 'e', 'c', 'r', 'e', 't'] (by simp), [], sampleContent⟩]

def sample : Secret := ⟨"x", ⟨[97]⟩, 0, Moment.epoch, false, "", "", ""⟩

theorem sample_schema : Schema sampleMembers sample where
  name := ⟨_, rfl, rfl⟩
  content := ⟨_, rfl, by decide⟩
  length := Or.inl ⟨rfl, rfl⟩
  createdAt := Or.inl ⟨rfl, rfl⟩
  isVersioned := Or.inl ⟨rfl, rfl⟩
  mode := Or.inl ⟨rfl, rfl⟩
  owner := Or.inl ⟨rfl, rfl⟩
  group := Or.inl ⟨rfl, rfl⟩

theorem sample_legible : Legible sampleMembers := by
  rw [Legible]
  decide

/-- Which documents are secrets. An object is one if each of its keys means a text and the known
members obey the schema, in whatever order and beside whatever other members; a list is one if the
object is that gives its items to the first keys. -/
theorem documents_obey_schema :
    (∀ (before inside after : List Blank) (members : List (Entry Tree)) (s : Secret),
      ofDocument (Document.bytes ⟨before, .object inside members, after⟩) = .ok s ↔
        Legible members ∧ Schema members s) ∧
    (∀ (d e : Document) (inside inside' : List Blank) (members others : List (Entry Tree)),
      d.value = .object inside members → e.value = .object inside' others →
      members.Perm others → (ofDocument d.bytes).toOption = (ofDocument e.bytes).toOption) ∧
    (∀ (d e : Document) (inside inside' : List Blank) (front back : List (Entry Tree))
      (m : Entry Tree) (key : String), d.value = .object inside (front ++ m :: back) →
      e.value = .object inside' (front ++ back) → Piece.text? m.key = some key → key ∉ keys →
      (ofDocument d.bytes).toOption = (ofDocument e.bytes).toOption) ∧
    (∀ (d e : Document) (inside inside' : List Blank) (items : List (Padded Tree))
      (members : List (Entry Tree)), d.value = .list inside items →
      e.value = .object inside' members → items.length ≤ 8 →
      members.map (fun m => Piece.text? m.key) = (keys.take items.length).map some →
      members.map (fun m => m.value.value) = items.map (fun item => item.value) →
      (ofDocument d.bytes).toOption = (ofDocument e.bytes).toOption) ∧
    ∀ (d : Document) (inside : List Blank) (items : List (Padded Tree)),
      d.value = .list inside items → 8 < items.length → (ofDocument d.bytes).toOption = none := by
  refine ⟨ofDocument_object, ?_, ?_, ?_, ?_⟩
  · intro d e inside inside' members others left right same
    apply same_secret
    rw [left, right]
    exact members_in_any_order inside inside' same
  · intro d e inside inside' front back m key left right text unknown
    apply same_secret
    rw [left, right]
    exact unknown_member_ignored inside inside' front back text unknown
  · intro d e inside inside' items members left right _ named values
    apply same_secret
    rw [left, right]
    exact items_named inside inside' named values
  · intro d inside items list long
    have long : slots.length < items.length := long
    rw [ofDocument_means, list]
    exact Layout.meaning_of_long_list long inside

theorem documents_obey_schema_of_a_list :
    ofDocument (Document.bytes ⟨[], .list [] [sampleName, sampleContent], []⟩) = .ok sample := by
  obtain ⟨object, _, _, list, _⟩ := documents_obey_schema
  have named := (object [] [] [] sampleMembers sample).mpr ⟨sample_legible, sample_schema⟩
  have same := list ⟨[], .list [] [sampleName, sampleContent], []⟩
    ⟨[], .object [] sampleMembers, []⟩ [] [] [sampleName, sampleContent] sampleMembers rfl rfl
    (by decide) (by decide) rfl
  rw [named] at same
  exact toOption_eq_some.mp same

def strayMember : Entry Tree :=
  ⟨[], [.unit ⟨⟨13, false⟩, ⟨8, false⟩, ⟨0, false⟩, ⟨0, false⟩⟩], [], ⟨[], .null, []⟩⟩

/-- A member that is not known and yet not ignored: with it an object that obeys the schema is no
secret. -/
theorem lone_surrogate_key_is_refused :
    Schema (sampleMembers ++ [strayMember]) sample ∧
      (∀ s, ofDocument (Document.bytes ⟨[], .object [] (sampleMembers ++ [strayMember]), []⟩) ≠
        .ok s) ∧
      ofDocument (Document.bytes ⟨[], .object [] sampleMembers, []⟩) = .ok sample := by
  have stray : Piece.text? strayMember.key = none := by decide
  refine ⟨?_, ?_, (ofDocument_object ..).mpr ⟨sample_legible, sample_schema⟩⟩
  · have same (key : String) :
        valuesOf key (sampleMembers ++ [strayMember]) = valuesOf key sampleMembers := by
      rw [valuesOf_append, valuesOf_other (by simp [stray])]
      exact List.append_nil _
    have schema := sample_schema
    constructor <;> rw [same]
    exacts [schema.name, schema.content, schema.length, schema.createdAt, schema.isVersioned,
      schema.mode, schema.owner, schema.group]
  · intro s read
    have legible := ((ofDocument_object ..).mp read).1
    exact legible strayMember (List.mem_append_right sampleMembers List.mem_cons_self) stray

end Secret
end SecretKeeper

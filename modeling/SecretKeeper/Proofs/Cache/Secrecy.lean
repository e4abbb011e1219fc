import SecretKeeper.Proofs.Cache.Exchange
import SecretKeeper.Proofs.Cache.Notes

/-!
Contents stay secret. Two scenarios that are the same but for the contents of their secrets cannot
be told apart, except by the contents that are given back; and each of these is the one that was
supplied at the same place.
-/
namespace SecretKeeper.Secret.Content

def concealed (_ : Content) : Content := .empty

/-! Any two contents can be put together into one, from which both are read again. -/

/-- The bytes that follow a tag, in a list in which every other byte is a tag. -/
def tagged (tag : UInt8) : Bytes → Bytes
  | t :: b :: rest => if t = tag then b :: tagged tag rest else tagged tag rest
  | _ => []

theorem tagged_own (tag : UInt8) (bytes rest : Bytes) :
    tagged tag (bytes.flatMap (fun b => [tag, b]) ++ rest) = bytes ++ tagged tag rest := by
  induction bytes with
  | nil => rfl
  | cons b more ih => simp [tagged, ih]

theorem tagged_other (tag other : UInt8) (apart : other ≠ tag) (bytes rest : Bytes) :
    tagged tag (bytes.flatMap (fun b => [other, b]) ++ rest) = tagged tag rest := by
  induction bytes with
  | nil => rfl
  | cons b more ih => simp [tagged, apart, ih]

def paired (c c' : Content) : Content :=
  ⟨c.bytes.flatMap (fun b => [0, b]) ++ c'.bytes.flatMap fun b => [1, b]⟩

def first (c : Content) : Content := ⟨tagged 0 c.bytes⟩

def second (c : Content) : Content := ⟨tagged 1 c.bytes⟩

theorem first_paired (c c' : Content) : (paired c c').first = c := by
  have own := tagged_own 0 c.bytes (c'.bytes.flatMap fun b => [1, b])
  have other := tagged_other 0 1 (by decide) c'.bytes []
  rw [List.append_nil] at other
  rw [first, paired, own, other]
  simp [tagged]

theorem second_paired (c c' : Content) : (paired c c').second = c' := by
  have other := tagged_other 1 0 (by decide) c.bytes
    (c'.bytes.flatMap fun b => [1, b])
  have own := tagged_own 1 c'.bytes []
  rw [List.append_nil] at own
  rw [second, paired, other, own]
  simp [tagged]

end SecretKeeper.Secret.Content

namespace SecretKeeper.Cache

open Secret (Content)

/-! The contents in what is supplied and in what is given back, place by place. -/

def contentOf (s : Secret) : List Content := [s.content]

def Reply.contents (places : α → List Content) : Reply α → List Content
  | after _ (.value a) => places a
  | _ => []

def Backend.contents (b : Backend) : List Content :=
  b.fetches.flatMap (Reply.contents contentOf) ++
    b.byName.flatMap (fun e => e.2.contents contentOf) ++
    b.otherFetches.contents contentOf ++
    b.listings.flatMap (Reply.contents (List.flatMap contentOf)) ++
    b.otherListings.contents (List.flatMap contentOf)

def Request.contents : Request → List Content
  | add secret => contentOf secret
  | _ => []

def Step.contents : Step → List Content
  | run _ request => request.contents
  | start _ _ request => request.contents
  | _ => []

def Result.contents : Result → List Content
  | secret found => found.toList.flatMap contentOf
  | secrets all => all.flatMap contentOf
  | _ => []

def Scenario.contents (s : Scenario) : List Content :=
  s.backends.flatMap (fun e => e.2.contents) ++ s.steps.flatMap Step.contents

/-- Two contents are supplied at the same place of two scenarios. -/
def SuppliedTogether (s s' : Scenario) (c c' : Content) : Prop :=
  (c, c') ∈ s.contents.zip s'.contents

/-- How contents are exchanged in things of one kind, and at which places they are. Things that
are the same but for their contents are joined in one, from which both come by exchanges. -/
structure Carries (exchange : (Content → Content) → α → α) (places : α → List Content) :
    Prop where
  image : ∀ f a, places (exchange f a) = (places a).map f
  unchanged : ∀ f a, (∀ c ∈ places a, f c = c) → exchange f a = a
  joined : ∀ a a', exchange Content.concealed a = exchange Content.concealed a' →
    ∃ j, exchange Content.first j = a ∧ exchange Content.second j = a'

namespace Carries

theorem secret : Carries Secret.exchange contentOf where
  image _ _ := rfl
  unchanged f s same := by
    have own := same s.content (List.mem_singleton_self _)
    rw [Secret.exchange, own]
  joined s s' same := by
    refine ⟨{ s with content := .paired s.content s'.content }, ?_, ?_⟩
    · rw [Secret.exchange, Content.first_paired]
    · rw [Secret.exchange, Content.second_paired]
      obtain ⟨name, content, _⟩ := s
      obtain ⟨name', content', _⟩ := s'
      cases same
      rfl

section Containers
variable {exchange : (Content → Content) → α → α} {places : α → List Content}
  (carries : Carries exchange places)
include carries

theorem list : Carries (fun f => List.map (exchange f)) (List.flatMap places) where
  image f l := by
    simp only [List.flatMap_map, List.map_flatMap, carries.image]
  unchanged f l same := by
    refine (List.map_congr_left fun a member => ?_).trans (List.map_id l)
    exact carries.unchanged f a fun c here => same c (List.mem_flatMap.mpr ⟨a, member, here⟩)
  joined l l' same := by
    induction l generalizing l' with
    | nil =>
      cases l' with
      | nil => exact ⟨[], rfl, rfl⟩
      | cons a' rest' => cases same
    | cons a rest ih =>
      cases l' with
      | nil => cases same
      | cons a' rest' =>
        obtain ⟨first, others⟩ := List.cons.inj same
        obtain ⟨j, rfl, rfl⟩ := carries.joined a a' first
        obtain ⟨js, rfl, rfl⟩ := ih rest' others
        exact ⟨j :: js, rfl, rfl⟩

theorem named : Carries (fun f (e : String × α) => (e.1, exchange f e.2)) fun e => places e.2 where
  image f e := carries.image f e.2
  unchanged f e same := Prod.ext rfl (carries.unchanged f e.2 same)
  joined e e' same := by
    obtain ⟨name, content⟩ := Prod.mk.inj same
    obtain ⟨j, first, second⟩ := carries.joined e.2 e'.2 content
    exact ⟨(e.1, j), Prod.ext rfl first, Prod.ext name second⟩

theorem reply : Carries (fun f => Reply.map (exchange f)) (Reply.contents places) where
  image f r := by
    rcases r with _ | ⟨delay, _ | _ | _⟩
    · rfl
    · exact carries.image f _
    · rfl
    · rfl
  unchanged f r same := by
    rcases r with _ | ⟨delay, a | _ | _⟩
    · rfl
    · simp only [Reply.map, Answer.map, carries.unchanged f a same]
    · rfl
    · rfl
  joined r r' same := by
    rcases r with _ | ⟨delay, a | _ | _⟩ <;> rcases r' with _ | ⟨delay', a' | _ | _⟩ <;>
      simp only [Reply.map, Answer.map, reduceCtorEq, and_false, and_true, Reply.after.injEq,
        Answer.value.injEq] at same
    · exact ⟨.never, rfl, rfl⟩
    · obtain ⟨rfl, same⟩ := same
      obtain ⟨j, rfl, rfl⟩ := carries.joined a a' same
      exact ⟨.after delay (.value j), rfl, rfl⟩
    · subst same
      exact ⟨.after delay .nothing, rfl, rfl⟩
    · subst same
      exact ⟨.after delay .breakdown, rfl, rfl⟩

end Containers

theorem backend : Carries Backend.exchange Backend.contents := by
  have fetched := secret.reply
  have listed := secret.list.reply
  constructor
  · intro f b
    have fetches := fetched.list.image f b.fetches
    have byName := fetched.named.list.image f b.byName
    have listings := listed.list.image f b.listings
    simp only [Backend.contents, Backend.exchange, List.map_append] at *
    rw [fetches, byName, listings, fetched.image, listed.image]
  · intro f b same
    simp only [Backend.contents, List.forall_mem_append] at same
    obtain ⟨⟨⟨⟨fetches, byName⟩, otherFetches⟩, listings⟩, otherListings⟩ := same
    have fetches := fetched.list.unchanged f _ fetches
    have byName := fetched.named.list.unchanged f _ byName
    have otherFetches := fetched.unchanged f _ otherFetches
    have listings := listed.list.unchanged f _ listings
    have otherListings := listed.unchanged f _ otherListings
    simp only [Backend.exchange, fetches, byName, otherFetches, listings, otherListings]
  · intro b b' same
    obtain ⟨fetches, byName, otherFetches, listings, otherListings⟩ := b
    obtain ⟨fetches', byName', otherFetches', listings', otherListings'⟩ := b'
    simp only [Backend.exchange, Backend.mk.injEq] at same
    obtain ⟨same₁, same₂, same₃, same₄, same₅⟩ := same
    obtain ⟨fetches, rfl, rfl⟩ := fetched.list.joined _ _ same₁
    obtain ⟨byName, rfl, rfl⟩ := fetched.named.list.joined _ _ same₂
    obtain ⟨otherFetches, rfl, rfl⟩ := fetched.joined _ _ same₃
    obtain ⟨listings, rfl, rfl⟩ := listed.list.joined _ _ same₄
    obtain ⟨otherListings, rfl, rfl⟩ := listed.joined _ _ same₅
    exact ⟨⟨fetches, byName, otherFetches, listings, otherListings⟩, rfl, rfl⟩

theorem joined_without_contents {exchange : (Content → Content) → α → α}
    {places : α → List Content} (image : ∀ f a, places (exchange f a) = (places a).map f)
    (unchanged : ∀ f a, (∀ c ∈ places a, f c = c) → exchange f a = a) {a a' : α}
    (none : places a = []) (same : exchange Content.concealed a = exchange Content.concealed a') :
    ∃ j, exchange Content.first j = a ∧ exchange Content.second j = a' := by
  have none' : places a' = [] := by
    have mapped := image Content.concealed a'
    rw [← same, image, none] at mapped
    exact List.map_eq_nil_iff.mp mapped.symm
  have stays (f : Content → Content) : exchange f a = a := unchanged f a (by simp [none])
  have stays' : exchange Content.concealed a' = a' :=
    unchanged Content.concealed a' (by simp [none'])
  refine ⟨a, stays Content.first, ?_⟩
  rw [stays Content.second, ← stays', ← same, stays Content.concealed]

theorem request : Carries Request.exchange Request.contents := by
  have image (f : Content → Content) (r : Request) :
      (r.exchange f).contents = r.contents.map f := by
    cases r <;> rfl
  have unchanged (f : Content → Content) (r : Request) (same : ∀ c ∈ r.contents, f c = c) :
      r.exchange f = r := by
    cases r with
    | add s => exact congrArg Request.add (secret.unchanged f s same)
    | _ => rfl
  refine ⟨image, unchanged, ?_⟩
  intro r r' same
  cases r with
  | add s =>
    cases r' with
    | add s' =>
      obtain ⟨j, rfl, rfl⟩ := secret.joined s s' (Request.add.inj same)
      exact ⟨.add j, rfl, rfl⟩
    | _ => cases same
  | _ => exact joined_without_contents image unchanged rfl same

theorem step : Carries Step.exchange Step.contents := by
  have image (f : Content → Content) (s : Step) :
      (s.exchange f).contents = s.contents.map f := by
    cases s with
    | run id r | start name id r => exact request.image f r
    | _ => rfl
  have unchanged (f : Content → Content) (s : Step) (same : ∀ c ∈ s.contents, f c = c) :
      s.exchange f = s := by
    cases s with
    | run id r => exact congrArg (Step.run id) (request.unchanged f r same)
    | start name id r => exact congrArg (Step.start name id) (request.unchanged f r same)
    | _ => rfl
  refine ⟨image, unchanged, ?_⟩
  intro s s' same
  cases s with
  | run id r =>
    cases s' with
    | run id' r' =>
      obtain ⟨rfl, asked⟩ := Step.run.inj same
      obtain ⟨j, rfl, rfl⟩ := request.joined r r' asked
      exact ⟨.run id j, rfl, rfl⟩
    | _ => cases same
  | start name id r =>
    cases s' with
    | start name' id' r' =>
      obtain ⟨rfl, rfl, asked⟩ := Step.start.inj same
      obtain ⟨j, rfl, rfl⟩ := request.joined r r' asked
      exact ⟨.start name id j, rfl, rfl⟩
    | _ => cases same
  | _ => exact joined_without_contents image unchanged rfl same

theorem scenario : Carries Scenario.exchange Scenario.contents where
  image f s := by
    have backends := backend.named.list.image f s.backends
    have steps := step.list.image f s.steps
    simp only [Scenario.contents, Scenario.exchange, List.map_append] at *
    rw [backends, steps]
  unchanged f s same := by
    obtain ⟨backends, steps⟩ := List.forall_mem_append.mp same
    have backends := backend.named.list.unchanged f _ backends
    have steps := step.list.unchanged f _ steps
    simp only [Scenario.exchange, backends, steps]
  joined s s' same := by
    obtain ⟨backends, steps⟩ := s
    obtain ⟨backends', steps'⟩ := s'
    obtain ⟨scripts, given⟩ := Scenario.mk.inj same
    obtain ⟨backends, rfl, rfl⟩ := backend.named.list.joined _ _ scripts
    obtain ⟨steps, rfl, rfl⟩ := step.list.joined _ _ given
    exact ⟨⟨backends, steps⟩, rfl, rfl⟩

end Carries

theorem Result.contents_exchange (f : Content → Content) (r : Result) :
    (r.exchange f).contents = r.contents.map f := by
  cases r with
  | secret found => cases found <;> rfl
  | secrets all => exact Carries.secret.list.image f all
  | _ => rfl

/-- What is given back has been supplied: a content that is supplied nowhere can be exchanged for
another one without any change in what is given back. -/
theorem returned_was_supplied (s : Scenario) {r : Report} (shown : r ∈ s.reports) {c : Content}
    (returned : c ∈ r.result.contents) : c ∈ s.contents := by
  by_contra unsupplied
  let other : Content → Content := fun d => if d ∈ s.contents then d else ⟨0 :: d.bytes⟩
  have same : s.exchange other = s :=
    Carries.scenario.unchanged other s fun d supplied => if_pos supplied
  have reports := (s.run_exchange other).2
  rw [same] at reports
  have stays : r.exchange other = r :=
    List.map_inj_left.mp (reports.symm.trans (List.map_id _).symm) r shown
  have contents := r.result.contents_exchange other
  rw [show r.result.exchange other = r.result from congrArg Report.result stays] at contents
  have kept : other c = c :=
    List.map_inj_left.mp (contents.symm.trans (List.map_id _).symm) c returned
  simp only [other, if_neg unsupplied] at kept
  have longer := congrArg (fun d : Content => d.bytes.length) kept
  simp at longer

/-- Runs that are supplied with the same but for the contents of secrets are the same but for the
contents that they give back: steps end at the same time, with the same results otherwise, backends
go through the same, as much is kept, the same is measured, and what may be logged and written is
the same. Each content that is given back is the one supplied at the same place. -/
theorem contents_are_only_given_back {s s' : Scenario}
    (alike : s.exchange Content.concealed = s'.exchange Content.concealed) :
    s.last.exchange Content.concealed = s'.last.exchange Content.concealed ∧
      s.reports.map (Report.exchange Content.concealed) =
        s'.reports.map (Report.exchange Content.concealed) ∧
      (∀ events, s.last.Emits events ↔ s'.last.Emits events) ∧
      (∀ origin wanted settings lines, s.last.Writes origin wanted settings lines ↔
        s'.last.Writes origin wanted settings lines) ∧
      List.Forall₂ (fun r r' => List.Forall₂ (SuppliedTogether s s') r.result.contents
        r'.result.contents) s.reports s'.reports := by
  obtain ⟨last, reports⟩ := s.run_exchange Content.concealed
  obtain ⟨last', reports'⟩ := s'.run_exchange Content.concealed
  rw [← alike] at last' reports'
  have worlds := last.symm.trans last'
  have logged : s.last.events = s'.last.events := (congrArg World.events worlds :)
  have emitted : ∀ events, s.last.Emits events ↔ s'.last.Emits events := by
    intro events
    rw [World.Emits, logged, World.Emits]
  refine ⟨worlds, reports.symm.trans reports', emitted, ?_, ?_⟩
  · intro origin wanted settings lines
    simp only [World.Writes, emitted]
  · obtain ⟨j, rfl, rfl⟩ := Carries.scenario.joined s s' alike
    rw [(j.run_exchange Content.first).2, (j.run_exchange Content.second).2,
      List.forall₂_map_left_iff, List.forall₂_map_right_iff, List.forall₂_same]
    intro r shown
    simp only [Report.exchange, Result.contents_exchange]
    rw [List.forall₂_map_left_iff, List.forall₂_map_right_iff, List.forall₂_same]
    intro c returned
    have supplied := returned_was_supplied j shown returned
    simp only [SuppliedTogether, Carries.scenario.image, List.zip_map']
    exact List.mem_map_of_mem supplied

/-- A lookup in vain gives back what was added before, the next one what the backend brings. -/
theorem contents_are_only_given_back_from_two_places :
    let secret : Bytes → Secret := fun bytes => { Secret.create "a" .empty .epoch with
      content := ⟨bytes⟩ }
    let scenario : Bytes → Bytes → Scenario := fun old new =>
      ⟨[("b", { Backend.blank with fetches :=
          [.after (milliseconds 5) .breakdown, .after (milliseconds 5) (.value (secret new))] })],
        [.create "c" "b" (.ofMillis 0 10 20) .default, .run "c" (.add (secret old)),
          .start "first" "c" (.lookup "a"), .run "c" (.lookup "a"), .join "first"]⟩
    let s := scenario [1] [2, 3]
    let s' := scenario [] [4]
    s.exchange Content.concealed = s'.exchange Content.concealed ∧
      s.reports.map (Report.exchange Content.concealed) =
        s'.reports.map (Report.exchange Content.concealed) ∧
      s.reports.map (fun r => r.result.contents) = [[], [], [], [⟨[2, 3]⟩], [⟨[1]⟩]] ∧
      s'.reports.map (fun r => r.result.contents) = [[], [], [], [⟨[4]⟩], [⟨[]⟩]] := by
  intro secret scenario s s'
  have alike : s.exchange Content.concealed = s'.exchange Content.concealed := rfl
  exact ⟨alike, (contents_are_only_given_back alike).2.1, by decide, by decide⟩

end SecretKeeper.Cache

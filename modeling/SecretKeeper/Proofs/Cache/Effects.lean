import SecretKeeper.Proofs.Cache.Contents
import SecretKeeper.Proofs.Cache.Operations

/-!
What an operation does when it ends, told from its request and from the reply to what it asked: the
write that it makes and the result that it reads from what is kept at that instant.
-/
namespace SecretKeeper.Cache

def Reply.brought? (deadline : Nat) : Reply α → Option α
  | .after delay (.value a) => if delay < deadline then some a else none
  | _ => none

namespace Operation

/-- The write that an operation makes, told from its request and from the reply to it. -/
def write? (op : Operation) (q : Option Query) : Option Write :=
  match op.request, q with
  | .add secret, _ => some (.add secret)
  | .clear, _ => some .clear
  | .lookup name, some (.fetch _ reply) =>
    match reply.brought? op.handle.timing.secretDeadline with
    | some secret => if secret.name = name then some (.add secret) else none
    | none => none
  | .listing, some (.list reply) =>
    (reply.brought? op.handle.timing.listDeadline).map .replace
  | _, _ => none

/-- The result of an operation, read from what is kept at the instant at which it ends. A listing
that the backend answers is passed on as it is. -/
def Reads (op : Operation) (q : Option Query) (m : Contents) (result : Result) : Prop :=
  match op.request, q with
  | .lookup name, _ => result = .secret ((m name).map Kept.secret)
  | .listing, some (.list reply) =>
    match reply.brought? op.handle.timing.listDeadline with
    | some secrets => result = .secrets secrets
    | none => ∃ all, result = .secrets all ∧ m.Lists all
  | .listing, _ => False
  | .add _, _ => result = .nothing
  | .clear, _ => result = .nothing
  | .size, _ => result = .count m.size
  | .isEmpty, _ => ∃ isEmpty, result = .flag isEmpty ∧ (isEmpty = true ↔ m = .empty)
  | .info, _ => result = .info op.handle.timing op.handle.log

end Operation

theorem verdict_answered_iff {deadline : Nat} {reply : Reply α} {a : α} :
    reply.verdict deadline = .answered a ↔ reply.brought? deadline = some a := by
  cases reply with
  | never => simp [Reply.verdict, Reply.brought?]
  | after delay answer =>
    by_cases inTime : delay < deadline <;>
      cases answer <;>
        simp [Reply.verdict, Reply.brought?, Reply.inTime, Answer.verdict, inTime]

theorem brought_nothing {deadline : Nat} {reply : Reply α}
    (unanswered : ∀ a, reply.verdict deadline ≠ .answered a) : reply.brought? deadline = none :=
  Option.eq_none_iff_forall_ne_some.mpr fun a found =>
    unanswered a (verdict_answered_iff.mpr found)

/-! What an operation does when it ends, by its request and the reply to it. -/

namespace Handle

theorem fallback_reads (h : Handle) (s : Store) (now : Nat) (name : String) (notes : List Note)
    (measurements : List Metrics.Measurement) :
    (h.fallback s now name notes measurements).result = .secret ((s.get? name).map Kept.secret) ∧
      (h.fallback s now name notes measurements).write = none := by
  unfold fallback
  cases s.get? name <;> exact ⟨rfl, rfl⟩

theorem lookupEffect_cases (h : Handle) (s : Store) (started now : Nat) (name : String)
    (reply : Reply Secret) :
    let effect := h.lookupEffect s started now name (reply.verdict h.timing.secretDeadline)
    (∃ secret, reply.brought? h.timing.secretDeadline = some secret ∧ secret.name = name ∧
      effect.result = .secret (some secret) ∧ effect.write = some (.add secret)) ∨
    ((∀ secret, reply.brought? h.timing.secretDeadline = some secret → secret.name ≠ name) ∧
      effect.result = .secret ((s.get? name).map Kept.secret) ∧ effect.write = none) := by
  intro effect
  cases verdict : reply.verdict h.timing.secretDeadline with
  | answered secret =>
    have brought := verdict_answered_iff.mp verdict
    by_cases own : secret.name = name
    · refine Or.inl ⟨secret, brought, own, ?_⟩
      simp only [effect, lookupEffect, verdict, own, ↓reduceIte, and_self]
    · refine Or.inr ⟨?_, ?_⟩
      · intro other found
        rw [brought] at found
        obtain rfl := Option.some.inj found
        exact own
      · simp only [effect, lookupEffect, verdict, own, ↓reduceIte]
        exact fallback_reads h s now name _ _
  | unusable | failed | late =>
    have nothing : reply.brought? h.timing.secretDeadline = none :=
      brought_nothing (by simp [verdict])
    refine Or.inr ⟨by simp [nothing], ?_⟩
    simp only [effect, lookupEffect, verdict]
    exact fallback_reads h s now name _ _

theorem listingEffect_cases (h : Handle) (s : Store) (started now : Nat)
    (reply : Reply (List Secret)) :
    let effect := h.listingEffect s started now (reply.verdict h.timing.listDeadline)
    (∃ secrets, reply.brought? h.timing.listDeadline = some secrets ∧
      effect.result = .secrets secrets ∧ effect.write = some (.replace secrets)) ∨
    (reply.brought? h.timing.listDeadline = none ∧
      effect.result = .secrets s.secrets ∧ effect.write = none) := by
  intro effect
  cases verdict : reply.verdict h.timing.listDeadline with
  | answered secrets =>
    refine Or.inl ⟨secrets, verdict_answered_iff.mp verdict, ?_⟩
    simp only [effect, listingEffect, verdict, and_self]
  | unusable | failed | late =>
    refine Or.inr ⟨brought_nothing (by simp [verdict]), ?_⟩
    simp only [effect, listingEffect, verdict, and_self]

theorem effect_write {op : Operation} {q : Option Query} {outcome : Outcome}
    (ends : op.Ends q outcome) (s : Store) (now : Nat) :
    (op.handle.effect s op.started now outcome).write = op.write? q := by
  cases ends with
  | fetched name reply request =>
    simp only [effect, Operation.write?, request]
    rcases lookupEffect_cases op.handle s op.started now name reply with
      ⟨secret, brought, own, _, write⟩ | ⟨foreign, _, write⟩
    · rw [write, brought]
      simp only [own, ↓reduceIte]
    · rw [write]
      cases brought : reply.brought? op.handle.timing.secretDeadline with
      | none => rfl
      | some secret => simp only [foreign secret brought, ↓reduceIte]
  | listed reply request =>
    simp only [effect, Operation.write?, request]
    rcases listingEffect_cases op.handle s op.started now reply with
      ⟨secrets, brought, _, write⟩ | ⟨brought, _, write⟩ <;> rw [write, brought] <;> rfl
  | fresh name secret request | added secret request | cleared request | sized request
  | emptiness request | info request => simp only [effect, Operation.write?, request]

def leaves (h : Handle) (s : Store) (started now : Nat) (outcome : Outcome) : Store :=
  match (h.effect s started now outcome).write with
  | some write => write.apply now s
  | none => s

theorem effect_reads {op : Operation} {q : Option Query} {outcome : Outcome}
    (ends : op.Ends q outcome) {s : Store} (sound : s.Sound) (now : Nat)
    (current : ∀ name secret, outcome = .fresh name secret →
      s.fresh? op.handle.timing.freshThreshold now name = some secret) :
    op.Reads q (op.handle.leaves s op.started now outcome).get?
      (op.handle.effect s op.started now outcome).result := by
  cases ends with
  | fresh name secret request =>
    have fresh := current name secret rfl
    simp only [Operation.Reads, request, leaves, effect]
    simp only [Store.fresh?] at fresh
    split at fresh
    · rename_i k found
      split at fresh
      · rw [found]
        simpa using fresh.symm
      · cases fresh
    · cases fresh
  | fetched name reply request =>
    simp only [Operation.Reads, request, leaves, effect]
    rcases lookupEffect_cases op.handle s op.started now name reply with
      ⟨secret, brought, own, result, write⟩ | ⟨foreign, result, write⟩
    · simp only [result, write, Store.get?_apply, Write.on, own, Function.update_self,
        Option.map_some]
    · simp only [result, write]
  | listed reply request =>
    simp only [Operation.Reads, request, leaves, effect]
    rcases listingEffect_cases op.handle s op.started now reply with
      ⟨secrets, brought, result, write⟩ | ⟨brought, result, write⟩
    · simp only [brought, result]
    · simp only [brought, result, write]
      exact ⟨s.secrets, rfl, Store.secrets_listed sound⟩
  | added secret request | cleared request | info request =>
    simp only [Operation.Reads, request, effect]
  | sized request =>
    simp only [Operation.Reads, request, leaves, effect, Store.size_eq sound]
  | emptiness request =>
    simp only [Operation.Reads, request, leaves, effect]
    refine ⟨_, rfl, ?_⟩
    rw [decide_eq_true_eq, Store.size_eq_zero_iff]
    exact ⟨fun none => funext none, fun empty name => congrFun empty name⟩

end Handle
end SecretKeeper.Cache

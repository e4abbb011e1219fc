import SecretKeeper.Secret.Basic
import SecretKeeper.Timing

/-!
Backends as scripts. A call gets the reply that stands in its queue at the number of calls before
it; behind the end of the queue a fetch goes by the name and a listing gets the reply that always
holds.
-/
namespace SecretKeeper.Cache

inductive Answer (α : Type) where
  | value (a : α)
  | nothing
  | breakdown
  deriving DecidableEq

/-- A call never ends, or ends after a number of nanoseconds. -/
inductive Reply (α : Type) where
  | never
  | after (delay : Nat) (answer : Answer α)
  deriving DecidableEq

structure Backend where
  fetches : List (Reply Secret)
  byName : List (String × Reply Secret)
  otherFetches : Reply Secret
  listings : List (Reply (List Secret))
  otherListings : Reply (List Secret)
  deriving DecidableEq

namespace Backend

def blank : Backend := ⟨[], [], .after 0 .nothing, [], .after 0 .nothing⟩

def fetchReply (b : Backend) (before : Nat) (name : String) : Reply Secret :=
  match b.fetches[before]? with
  | some reply => reply
  | none => (b.byName.lookup name).getD b.otherFetches

def listReply (b : Backend) (before : Nat) : Reply (List Secret) :=
  b.listings[before]?.getD b.otherListings

end Backend

inductive Phase where
  | call
  | done
  | breakdown
  deriving DecidableEq, Repr

structure Happening where
  backend : String
  phase : Phase
  time : Nat
  name : Option String
  deriving DecidableEq, Repr

inductive Verdict (α : Type) where
  | answered (a : α)
  | unusable
  | failed
  | late
  deriving DecidableEq

namespace Answer

def phase : Answer α → Phase
  | value _ => .done
  | nothing => .done
  | breakdown => .breakdown

def verdict : Answer α → Verdict α
  | value a => .answered a
  | nothing => .unusable
  | breakdown => .failed

end Answer

namespace Reply

def inTime (deadline : Nat) : Reply α → Bool
  | never => false
  | after delay _ => delay < deadline

def verdict (deadline : Nat) (r : Reply α) : Verdict α :=
  match r with
  | never => .late
  | after _ answer => if r.inTime deadline then answer.verdict else .late

def completion? : Reply α → Option (Nat × Phase)
  | never => none
  | after delay answer => some (delay, answer.phase)

end Reply

inductive Query where
  | fetch (name : String) (reply : Reply Secret)
  | list (reply : Reply (List Secret))
  deriving DecidableEq

namespace Query

def isFetch : Query → Bool
  | fetch _ _ => true
  | list _ => false

def name? : Query → Option String
  | fetch name _ => some name
  | list _ => none

def deadline (t : Timing) : Query → Nat
  | fetch _ _ => t.secretDeadline
  | list _ => t.listDeadline

def inTime (t : Timing) : Query → Bool
  | fetch _ reply => reply.inTime t.secretDeadline
  | list reply => reply.inTime t.listDeadline

def completion? : Query → Option (Nat × Phase)
  | fetch _ reply => reply.completion?
  | list reply => reply.completion?

end Query
end SecretKeeper.Cache

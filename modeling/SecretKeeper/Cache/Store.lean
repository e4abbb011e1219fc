import SecretKeeper.Secret.Basic

/-!
Kept secrets by name, each with the instant at which it was last observed. Instants are nanoseconds
since the start.
-/
namespace SecretKeeper.Cache

structure Kept where
  secret : Secret
  observedAt : Nat
  deriving DecidableEq

namespace Kept

def age (k : Kept) (now : Nat) : Nat := now - k.observedAt

def isFresh (k : Kept) (threshold now : Nat) : Bool := k.age now < threshold

end Kept

def assign (key : String) (value : α) : List (String × α) → List (String × α)
  | [] => [(key, value)]
  | (k, v) :: rest => if k = key then (k, value) :: rest else (k, v) :: assign key value rest

structure Store where
  entries : List (String × Kept)
  deriving DecidableEq

namespace Store

def empty : Store := ⟨[]⟩

def get? (s : Store) (name : String) : Option Kept := s.entries.lookup name

def size (s : Store) : Nat := s.entries.length

def add (s : Store) (now : Nat) (secret : Secret) : Store :=
  ⟨assign secret.name ⟨secret, now⟩ s.entries⟩

/-- Nothing but the listed secrets, all observed now; of equal names the last one stays. -/
def ofListing (now : Nat) (secrets : List Secret) : Store :=
  secrets.foldl (fun s secret => s.add now secret) empty

def fresh? (s : Store) (threshold now : Nat) (name : String) : Option Secret :=
  match s.get? name with
  | some k => if k.isFresh threshold now then some k.secret else none
  | none => none

def secrets (s : Store) : List Secret :=
  (s.entries.mergeSort fun a b => a.1 ≤ b.1).map fun e => e.2.secret

end Store

inductive Write where
  | add (secret : Secret)
  | replace (secrets : List Secret)
  | clear
  deriving DecidableEq

def Write.apply (w : Write) (now : Nat) (s : Store) : Store :=
  match w with
  | add secret => s.add now secret
  | replace secrets => .ofListing now secrets
  | clear => .empty

end SecretKeeper.Cache

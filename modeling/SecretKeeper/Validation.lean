import SecretKeeper.Problem

/-!
Failures of a validation. They come as a tree that follows the record that was checked, and are
reported as a sorted list of paths and messages.
-/
namespace SecretKeeper

/-- What is wrong with a value: messages, some of them empty-handed, or the failures inside it. -/
inductive Violation where
  | messages (texts : List (Option String))
  | record (fields : List (String × Violation))
  | list (items : List (Nat × List (String × Violation)))

structure Failure where
  path : String
  message : String
  deriving DecidableEq, Repr

namespace Violation

/-- A message that says nothing stands for an invalid value. -/
def joined (texts : List (Option String)) : String :=
  ", ".intercalate (texts.map fun t => t.getD "Invalid value")

def fieldPath (path field : String) : String := if path = "" then field else path ++ "." ++ field

def itemPath (path : String) (index : Nat) : String := s!"{path}[{index}]"

mutual

def failures (path : String) : Violation → List Failure
  | messages texts => [⟨path, joined texts⟩]
  | record fields => fieldsFailures path fields
  | list items => itemsFailures path items

def fieldFailures (path : String) : String × Violation → List Failure
  | (field, v) => failures (fieldPath path field) v

def fieldsFailures (path : String) : List (String × Violation) → List Failure
  | [] => []
  | f :: fs => fieldFailures path f ++ fieldsFailures path fs

def itemFailures (path : String) : Nat × List (String × Violation) → List Failure
  | (index, fields) => fieldsFailures (itemPath path index) fields

def itemsFailures (path : String) : List (Nat × List (String × Violation)) → List Failure
  | [] => []
  | i :: is => itemFailures path i ++ itemsFailures path is

end

end Violation

namespace Failure

def before (a b : Failure) : Bool := a.path < b.path || a.path = b.path && a.message ≤ b.message

def describe (f : Failure) : String := f.path ++ ": " ++ f.message

end Failure

/-- The report of failures in whatever order. It names the field if there is exactly one. -/
def Problem.ofFailures (failures : List Failure) : Problem :=
  let sorted := failures.mergeSort Failure.before
  let field := match sorted with
    | [f] => some f.path
    | _ => none
  .validation ("Validation failed: " ++ "; ".intercalate (sorted.map Failure.describe)) field

def Problem.ofViolations (fields : List (String × Violation)) : Problem :=
  .ofFailures (Violation.fieldsFailures "" fields)

end SecretKeeper

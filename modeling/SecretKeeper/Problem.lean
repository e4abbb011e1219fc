import SecretKeeper.Json.Fault

/-!
What a caller is told when settings or secrets cannot be used.
-/
namespace SecretKeeper

inductive Problem where
  | configuration (message : String)
  | validation (message : String) (field : Option String)
  | serialization (fault : Json.DocumentFault)
  | invalidSecret (name reason : String)
  deriving DecidableEq, Repr

def Problem.message : Problem → String
  | configuration m => "Configuration error: " ++ m
  | validation m _ => "Validation error: " ++ m
  | serialization fault => "Serialization error: " ++ fault.message
  | invalidSecret name reason => s!"Invalid secret '{name}': {reason}"

end SecretKeeper

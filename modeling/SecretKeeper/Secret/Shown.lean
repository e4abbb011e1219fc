import SecretKeeper.Moment.Printer
import SecretKeeper.Secret.Basic
import SecretKeeper.Text.Shown

/-!
A secret as it is shown to a developer: every attribute, but not the content.
-/
namespace SecretKeeper.Secret

open Text

def shown (s : Secret) : String :=
  "Secret \x7b name: " ++ Text.shown s.name ++ ", content: " ++ s.content.shown ++
    ", length: " ++ toString s.length.toNat ++ ", created_at: " ++ s.createdAt.text ++
    ", is_versioned: " ++ toString s.isVersioned ++ ", mode: " ++ Text.shown s.mode ++
    ", owner: " ++ Text.shown s.owner ++ ", group: " ++ Text.shown s.group ++ " \x7d"

end SecretKeeper.Secret

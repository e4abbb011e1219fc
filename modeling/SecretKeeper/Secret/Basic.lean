import SecretKeeper.Base64
import SecretKeeper.Moment.Basic

/-!
A named secret with its content and its attributes as a file. The content is never shown.
-/
namespace SecretKeeper

namespace Secret

structure Content where
  bytes : Bytes
  deriving DecidableEq

namespace Content

def ofText (s : String) : Content := ⟨s.toUTF8.toList⟩

def empty : Content := ⟨[]⟩

def size (c : Content) : Nat := c.bytes.length

def isEmpty (c : Content) : Bool := c.bytes.isEmpty

def redacted (_ : Content) : String := "[REDACTED]"

def shown (c : Content) : String := "SecretContent(" ++ c.redacted ++ ")"

def encoded (c : Content) : String :=
  String.ofList ((Base64.encode c.bytes).map fun b => Char.ofNat b.toNat)

end Content
end Secret

/-- `length` is what the backend says about the content, `mode` an octal number or empty. -/
structure Secret where
  name : String
  content : Secret.Content
  length : UInt64
  createdAt : Moment
  isVersioned : Bool
  mode : String
  owner : String
  group : String
  deriving DecidableEq

namespace Secret

def create (name : String) (content : Content) (now : Moment) : Secret where
  name := name
  content := content
  length := UInt64.ofNat content.size
  createdAt := now
  isVersioned := false
  mode := ""
  owner := ""
  group := ""

def withMode (s : Secret) (mode : String) : Secret := { s with mode }

def withOwnership (s : Secret) (owner group : String) : Secret := { s with owner, group }

end Secret
end SecretKeeper

import SecretKeeper.Settings.Bounds
import SecretKeeper.Text.Blank
import SecretKeeper.Text.Numeral

/-!
Settings from environment variables. A variable that is missing, or whose bytes are no text, leaves
the default; a number that cannot be read is a problem, and so are settings out of bounds.
-/
namespace SecretKeeper

open Text

abbrev Environment := String → Option Bytes

namespace Environment

def text? (env : Environment) (key : String) : Option String :=
  (env key).bind fun bytes => String.fromUTF8? bytes.toByteArray

def isYes (s : String) : Bool :=
  ["1", "true", "yes", "on"].contains (String.ofList (s.toList.map Char.toLower))

def flag (env : Environment) (key : String) : Bool := (env.text? key).any isYes

/-- A number of milliseconds, with white space around it allowed. -/
def millis (env : Environment) (key : String) (default : UInt64) : Except Problem UInt64 :=
  match env.text? key with
  | none => .ok default
  | some s =>
    match readNumeral 10 (Nat.pow 2 64 - 1) (trim s.toList) with
    | .ok n => .ok (UInt64.ofNat n)
    | .error fault => .error (.configuration s!"Invalid {key}: {fault.message}")

def timing (env : Environment) : Except Problem TimingSettings := do
  let fresh ← env.millis "SECRETFS_FRESH_THRESHOLD_MS" TimingSettings.default.freshThreshold
  let secret ← env.millis "SECRETFS_SECRET_FETCH_TIMEOUT_MS" TimingSettings.default.secretDeadline
  let list ← env.millis "SECRETFS_SECRET_LIST_FETCH_TIMEOUT_MS" TimingSettings.default.listDeadline
  return ⟨fresh, secret, list⟩

def mountpoint (env : Environment) : String :=
  match env.text? "SECRETFS_MOUNTPOINT" with
  | none => ""
  | some s => String.ofList (trim s.toList)

def log (env : Environment) : LogSettings :=
  ⟨env.flag "SECRETFS_DEBUG", env.mountpoint, env.flag "SECRETFS_LOG_JSON"⟩

end Environment

namespace Settings

def ofEnvironment (env : Environment) : Except Problem Settings := do
  let timing ← env.timing
  checked ⟨timing, env.log⟩

end Settings
end SecretKeeper

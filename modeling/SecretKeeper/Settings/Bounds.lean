import SecretKeeper.Settings.Basic
import SecretKeeper.Validation

/-!
Bounds on settings: both deadlines lie between one millisecond and one minute, and the mount point
has at most 4096 characters.
-/
namespace SecretKeeper

def TimingSettings.greatestDeadline : UInt64 := 60000

def TimingSettings.isDeadline (ms : UInt64) : Bool := 1 ≤ ms && ms ≤ greatestDeadline

def LogSettings.longestMountpoint : Nat := 4096

def violationUnless (good : Bool) (field message : String) : List (String × Violation) :=
  if good then [] else [(field, .messages [some message])]

/-- The violations inside a field; a field without any is left out. -/
def violationsIn (field : String) (inside : List (String × Violation)) :
    List (String × Violation) :=
  if inside.isEmpty then [] else [(field, .record inside)]

def TimingSettings.violations (t : TimingSettings) : List (String × Violation) :=
  violationUnless (isDeadline t.secretDeadline) "secret_fetch_timeout_ms"
    "Secret fetch timeout must be between 1 and 60000 milliseconds" ++
  violationUnless (isDeadline t.listDeadline) "secret_list_fetch_timeout_ms"
    "Secret list fetch timeout must be between 1 and 60000 milliseconds"

def LogSettings.violations (l : LogSettings) : List (String × Violation) :=
  violationUnless (l.mountpoint.length ≤ longestMountpoint) "mountpoint" "Mount point is too long"

namespace Settings

def violations (s : Settings) : List (String × Violation) :=
  violationsIn "timeouts" s.timing.violations ++ violationsIn "logging" s.log.violations

def checked (s : Settings) : Except Problem Settings :=
  if s.violations.isEmpty then .ok s else .error (.ofViolations s.violations)

end Settings
end SecretKeeper

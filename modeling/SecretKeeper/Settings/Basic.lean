import SecretKeeper.Timing

/-!
Settings of a cache: the timing in milliseconds, and what log lines say and look like.
-/
namespace SecretKeeper

structure TimingSettings where
  freshThreshold : UInt64
  secretDeadline : UInt64
  listDeadline : UInt64
  deriving DecidableEq, Repr

namespace TimingSettings

def default : TimingSettings := ⟨1000, 500, 5000⟩

def toTiming (t : TimingSettings) : Timing where
  freshThreshold := t.freshThreshold.toNat * nanosPerMilli
  secretDeadline := t.secretDeadline.toNat * nanosPerMilli
  listDeadline := t.listDeadline.toNat * nanosPerMilli

end TimingSettings

structure LogSettings where
  debug : Bool
  mountpoint : String
  json : Bool
  deriving DecidableEq, Repr

namespace LogSettings

def default : LogSettings := ⟨false, "", false⟩

def plain (debug : Bool) (mountpoint : String) : LogSettings := ⟨debug, mountpoint, false⟩

def withJson (l : LogSettings) (json : Bool) : LogSettings := { l with json }

def directive (l : LogSettings) : String := if l.debug then "debug" else "info"

end LogSettings

structure Settings where
  timing : TimingSettings
  log : LogSettings
  deriving DecidableEq, Repr

namespace Settings

def default : Settings := ⟨.default, .default⟩

end Settings
end SecretKeeper

import SecretKeeper.Json.Record
import SecretKeeper.Json.Value
import SecretKeeper.Settings.Bounds

/-!
Settings as JSON documents. Only the choice of JSON lines has a default.
-/
namespace SecretKeeper

open Json

namespace TimingSettings

structure Draft where
  freshThreshold : Option UInt64
  secretDeadline : Option UInt64
  listDeadline : Option UInt64

def Draft.finish (d : Draft) : Except Nat TimingSettings :=
  match d.freshThreshold, d.secretDeadline, d.listDeadline with
  | none, _, _ => .error 0
  | some _, none, _ => .error 1
  | some _, some _, none => .error 2
  | some fresh, some secret, some list => .ok ⟨fresh, secret, list⟩

def columns : List (Column Draft) := [
  ⟨"fresh_threshold_ms", (·.freshThreshold.isSome),
    Reader.word64.map fun v d => { d with freshThreshold := some v }⟩,
  ⟨"secret_fetch_timeout_ms", (·.secretDeadline.isSome),
    Reader.word64.map fun v d => { d with secretDeadline := some v }⟩,
  ⟨"secret_list_fetch_timeout_ms", (·.listDeadline.isSome),
    Reader.word64.map fun v d => { d with listDeadline := some v }⟩]

def layout : Layout Draft TimingSettings :=
  ⟨"TimeoutsConfig", columns, ⟨none, none, none⟩, Draft.finish⟩

def toValue (t : TimingSettings) : Value :=
  .object [
    ("fresh_threshold_ms", .whole t.freshThreshold.toNat),
    ("secret_fetch_timeout_ms", .whole t.secretDeadline.toNat),
    ("secret_list_fetch_timeout_ms", .whole t.listDeadline.toNat)]

end TimingSettings

namespace LogSettings

structure Draft where
  debug : Option Bool
  mountpoint : Option String
  json : Option Bool

def Draft.finish (d : Draft) : Except Nat LogSettings :=
  match d.debug, d.mountpoint with
  | none, _ => .error 0
  | some _, none => .error 1
  | some debug, some mountpoint => .ok ⟨debug, mountpoint, d.json.getD false⟩

def columns : List (Column Draft) := [
  ⟨"debug", (·.debug.isSome), Reader.flag.map fun v d => { d with debug := some v }⟩,
  ⟨"mountpoint", (·.mountpoint.isSome), Reader.text.map fun v d => { d with mountpoint := some v }⟩,
  ⟨"json_logging", (·.json.isSome), Reader.flag.map fun v d => { d with json := some v }⟩]

def layout : Layout Draft LogSettings := ⟨"LogConfig", columns, ⟨none, none, none⟩, Draft.finish⟩

def toValue (l : LogSettings) : Value :=
  .object [
    ("debug", .flag l.debug),
    ("mountpoint", .text l.mountpoint),
    ("json_logging", .flag l.json)]

end LogSettings

namespace Settings

structure Draft where
  timing : Option TimingSettings
  log : Option LogSettings

def Draft.finish (d : Draft) : Except Nat Settings :=
  match d.timing, d.log with
  | none, _ => .error 0
  | some _, none => .error 1
  | some timing, some log => .ok ⟨timing, log⟩

def columns : List (Column Draft) := [
  ⟨"timeouts", (·.timing.isSome),
    TimingSettings.layout.reader.map fun v d => { d with timing := some v }⟩,
  ⟨"logging", (·.log.isSome), LogSettings.layout.reader.map fun v d => { d with log := some v }⟩]

def layout : Layout Draft Settings := ⟨"CacheConfig", columns, ⟨none, none⟩, Draft.finish⟩

def ofDocument (s : Bytes) : Except Problem Settings :=
  (layout.reader.document s).mapError .serialization

def load (s : Bytes) : Except Problem Settings :=
  match ofDocument s with
  | .ok settings => settings.checked
  | .error p => .error p

def toValue (s : Settings) : Value :=
  .object [("timeouts", s.timing.toValue), ("logging", s.log.toValue)]

def render (s : Settings) : String := s.toValue.render

end Settings
end SecretKeeper

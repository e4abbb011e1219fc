import SecretKeeper.Proofs.Settings.Bounds
import SecretKeeper.Proofs.Settings.Document
import SecretKeeper.Proofs.Text.Numeral
import SecretKeeper.Settings.Environment

/-!
Two ways to load settings. An environment that spells settings out comes to the same as their
document: to these settings, with the spans of time that they ask for in milliseconds, or to one
and the same refusal.
-/
namespace SecretKeeper

open Text

namespace Environment

def Holds (env : Environment) (key text : String) : Prop := env key = some text.toUTF8.toList

/-- Each variable says what the settings say, in decimal digits, by a word, or as it is. -/
structure Spells (env : Environment) (s : Settings) : Prop where
  freshThreshold :
    env.Holds "SECRETFS_FRESH_THRESHOLD_MS" (toString s.timing.freshThreshold.toNat)
  secretDeadline :
    env.Holds "SECRETFS_SECRET_FETCH_TIMEOUT_MS" (toString s.timing.secretDeadline.toNat)
  listDeadline :
    env.Holds "SECRETFS_SECRET_LIST_FETCH_TIMEOUT_MS" (toString s.timing.listDeadline.toNat)
  debug : env.Holds "SECRETFS_DEBUG" (toString s.log.debug)
  mountpoint : env.Holds "SECRETFS_MOUNTPOINT" s.log.mountpoint
  json : env.Holds "SECRETFS_LOG_JSON" (toString s.log.json)

def spelling (s : Settings) : Environment := fun key =>
  (List.lookup key [
    ("SECRETFS_FRESH_THRESHOLD_MS", toString s.timing.freshThreshold.toNat),
    ("SECRETFS_SECRET_FETCH_TIMEOUT_MS", toString s.timing.secretDeadline.toNat),
    ("SECRETFS_SECRET_LIST_FETCH_TIMEOUT_MS", toString s.timing.listDeadline.toNat),
    ("SECRETFS_DEBUG", toString s.log.debug), ("SECRETFS_MOUNTPOINT", s.log.mountpoint),
    ("SECRETFS_LOG_JSON", toString s.log.json)]).map fun text => text.toUTF8.toList

theorem spelling_spells (s : Settings) : (spelling s).Spells s := by
  constructor <;> rfl

section Holds
variable {env : Environment} {key : String}

theorem Holds.text {text : String} (holds : env.Holds key text) : env.text? key = some text := by
  rw [text?, holds, Option.bind_some, fromUTF8_bytes]

theorem Holds.flag {value : Bool} (holds : env.Holds key (toString value)) :
    env.flag key = value := by
  rw [Environment.flag, holds.text, Option.any_some]
  cases value <;> decide

theorem Holds.millis {ms : UInt64} (holds : env.Holds key (toString ms.toNat))
    (default : UInt64) : env.millis key default = .ok ms := by
  have digits : (toString ms.toNat).toList = Nat.toDigits 10 ms.toNat := Nat.toList_repr
  have word : Nat.pow 2 64 - 1 = 18446744073709551615 := by decide
  have bound := ms.toNat_lt
  have fits : ms.toNat ≤ Nat.pow 2 64 - 1 := by omega
  rw [Environment.millis, holds.text]
  simp only [digits, trim_trimmed (digits_trimmed ms.toNat), readNumeral_digits fits,
    UInt64.ofNat_toNat]

theorem Holds.mountpoint {text : String} (holds : env.Holds "SECRETFS_MOUNTPOINT" text)
    (trimmed : Trimmed text.toList) : env.mountpoint = text := by
  rw [Environment.mountpoint, holds.text]
  simp only [trim_trimmed trimmed, String.ofList_toList]

end Holds
end Environment

namespace Settings

theorem ofEnvironment_spelled {env : Environment} {s : Settings} (spells : env.Spells s)
    (trimmed : Trimmed s.log.mountpoint.toList) : ofEnvironment env = s.checked := by
  have timing : env.timing = .ok s.timing := by
    rw [Environment.timing, spells.freshThreshold.millis, spells.secretDeadline.millis,
      spells.listDeadline.millis]
    rfl
  have log : env.log = s.log := by
    rw [Environment.log, spells.debug.flag, spells.mountpoint.mountpoint trimmed,
      spells.json.flag]
  rw [ofEnvironment, timing, log]
  rfl

def Lasts (span : Nat) (ms : UInt64) : Prop :=
  (secondsAndNanos span).1 * 1000000000 + (secondsAndNanos span).2 = ms.toNat * 1000000 ∧
    (secondsAndNanos span).2 < 1000000000

/-- What loading settings comes to: to them, if they keep to all bounds, and otherwise to one
refusal that tells all bounds that they break. -/
inductive Loads (s : Settings) : Except Problem Settings → Prop where
  | settings (bounds : s.InBounds)
      (freshThreshold : Lasts s.timing.toTiming.freshThreshold s.timing.freshThreshold)
      (secretDeadline : Lasts s.timing.toTiming.secretDeadline s.timing.secretDeadline)
      (listDeadline : Lasts s.timing.toTiming.listDeadline s.timing.listDeadline) :
      Loads s (.ok s)
  | refusal (broken : ¬s.InBounds) :
      Loads s (.error (.validation
        ("Validation failed: " ++ "; ".intercalate (s.broken.map Failure.describe))
        (Failure.soleField s.broken)))

theorem lasts_millis (ms : UInt64) : Lasts (ms.toNat * nanosPerMilli) ms := by
  have milli : nanosPerMilli = 1000000 := rfl
  simp only [Lasts, secondsAndNanos, milli]
  omega

theorem loads_checked (s : Settings) : Loads s s.checked := by
  rw [checked_eq]
  by_cases bounds : s.InBounds
  · rw [if_pos (List.isEmpty_iff.mpr (s.broken_eq_nil_iff.mpr bounds))]
    exact .settings bounds (lasts_millis _) (lasts_millis _) (lasts_millis _)
  · rw [if_neg fun none => bounds (s.broken_eq_nil_iff.mp (List.isEmpty_iff.mp none))]
    exact .refusal bounds

/-- All settings read back from their document. If they are spelled out in an environment, with a
mount point that has no white space at its ends, then environment and document are loaded alike. -/
theorem loaders_agree (s : Settings) : ofDocument s.render.toUTF8.toList = .ok s ∧
    ∀ env : Environment, env.Spells s → Trimmed s.log.mountpoint.toList →
      ofEnvironment env = load s.render.toUTF8.toList ∧ Loads s (ofEnvironment env) := by
  refine ⟨ofDocument_render s, fun env spells trimmed => ?_⟩
  rw [load_render, ofEnvironment_spelled spells trimmed]
  exact ⟨rfl, loads_checked s⟩

theorem loaders_agree_at_the_bounds_and_beyond :
    let kept : Settings := ⟨⟨18446744073709551615, 1, 60000⟩, ⟨true, "/mnt/é 2", false⟩⟩
    let beyond : Settings := ⟨⟨0, 0, 60001⟩, ⟨false, "", true⟩⟩
    let env := Environment.spelling kept
    let env' := Environment.spelling beyond
    let message := "Validation failed: timeouts.secret_fetch_timeout_ms: " ++
      "Secret fetch timeout must be between 1 and 60000 milliseconds; " ++
      "timeouts.secret_list_fetch_timeout_ms: " ++
      "Secret list fetch timeout must be between 1 and 60000 milliseconds"
    env.Spells kept ∧ Trimmed kept.log.mountpoint.toList ∧ env'.Spells beyond ∧
      Trimmed beyond.log.mountpoint.toList ∧
      ofEnvironment env = load kept.render.toUTF8.toList ∧ ofEnvironment env = .ok kept ∧
      ofEnvironment env' = load beyond.render.toUTF8.toList ∧
      ofEnvironment env' = .error (.validation message none) := by
  intro kept beyond env env' message
  have spells : env.Spells kept := Environment.spelling_spells kept
  have spells' : env'.Spells beyond := Environment.spelling_spells beyond
  have trimmed : Trimmed kept.log.mountpoint.toList := by
    have chars : kept.log.mountpoint.toList = ['/', 'm', 'n', 't', '/', 'é', ' ', '2'] := by decide
    rw [chars]
    constructor <;> rintro c ⟨⟩ <;> decide
  have trimmed' : Trimmed beyond.log.mountpoint.toList := by
    have chars : beyond.log.mountpoint.toList = [] := by decide
    rw [chars]
    constructor <;> rintro c ⟨⟩
  obtain ⟨same, _⟩ := (loaders_agree kept).2 env spells trimmed
  obtain ⟨same', _⟩ := (loaders_agree beyond).2 env' spells' trimmed'
  have told : "Validation failed: " ++ "; ".intercalate (beyond.broken.map Failure.describe) =
      message := by decide +kernel
  refine ⟨spells, trimmed, spells', trimmed', same, ?_, same', ?_⟩
  · rw [same, load_render, checked_eq, if_pos (by decide +kernel)]
  · rw [same', load_render, checked_eq, told]
    rfl

end Settings
end SecretKeeper

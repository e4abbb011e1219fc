import SecretKeeper.Cache.Backend
import SecretKeeper.Cache.Store
import SecretKeeper.Log.Event
import SecretKeeper.Metrics.Recorder
import SecretKeeper.Settings.Basic

/-!
What an operation does at the instant at which it ends: its result, its write, what it logs and
what it measures. All of it follows from how it ended and from the store as it is at that instant.
-/
namespace SecretKeeper.Cache

open Log Metrics

/-- A cache: its store, whom it asks, how long it waits, and how it is labelled. Copies of a cache
have the same store. -/
structure Handle where
  store : Nat
  backend : String
  timing : Timing
  log : LogSettings
  deriving DecidableEq, Repr

inductive Result where
  | nothing
  | secret (found : Option Secret)
  | secrets (all : List Secret)
  | count (n : Nat)
  | flag (b : Bool)
  | info (timing : Timing) (log : LogSettings)
  | samples (all : List Sample)

inductive Outcome where
  | fresh (name : String) (secret : Secret)
  | fetched (name : String) (verdict : Verdict Secret)
  | listed (verdict : Verdict (List Secret))
  | added (secret : Secret)
  | cleared
  | sized
  | emptiness
  | info

def Query.outcome (t : Timing) : Query → Outcome
  | .fetch name reply => .fetched name (reply.verdict t.secretDeadline)
  | .list reply => .listed (reply.verdict t.listDeadline)

def Outcome.operation? : Outcome → Option String
  | fresh _ _ => some "secret"
  | fetched _ _ => some "secret"
  | listed _ => some "secret_list"
  | added _ => some "add"
  | cleared => some "clear"
  | sized => none
  | emptiness => none
  | info => none

def Outcome.subject? : Outcome → Option String
  | fresh name _ => some name
  | fetched name _ => some name
  | added secret => some secret.name
  | _ => none

/-- What is logged at an instant; of withheld fields no line tells more than that they are there. -/
structure Note where
  level : Level
  message : String
  fields : List (String × Field) := []
  withheld : List String := []
  deriving DecidableEq, Repr

structure Effect where
  result : Result
  write : Option Write
  notes : List Note
  measurements : List Measurement

namespace Note

def hit : Note where
  level := .debug
  message := "Cache hit for fresh secret"

def answered (operation : String) (elapsed : Nat) : Note where
  level := .debug
  message := "Backend answered"
  fields := [("operation", .text operation), ("elapsed_ms", .whole (wholeMillis elapsed).toNat)]

def unusable (operation : String) : Note where
  level := .debug
  message := "Backend had no usable answer"
  fields := [("operation", .text operation)]

def failed (operation : String) : Note where
  level := .warn
  message := "Backend call failed"
  fields := [("operation", .text operation)]
  withheld := ["error"]

def late (operation : String) (deadline : Nat) : Note where
  level := .warn
  message := "Backend call timed out, discarding any late answer"
  fields := [("operation", .text operation), ("timeout_ms", .whole (wholeMillis deadline).toNat)]

def stored : Note where
  level := .debug
  message := "Stored secret from backend"

def foreign (name : String) : Note where
  level := .warn
  message := "Backend answered with a different secret, ignoring"
  fields := [("returned", .label name)]

def serving (age : Nat) : Note where
  level := .warn
  message := "Serving cached secret after backend failure"
  fields := [("age_ms", .whole (wholeMillis age).toNat)]

def unavailable : Note where
  level := .debug
  message := "Secret unavailable from backend and cache"

def replaced (count : Nat) : Note where
  level := .info
  message := "Replaced cache contents from backend listing"
  fields := [("count", .whole count)]

def servingListing (count : Nat) : Note where
  level := .warn
  message := "Serving secret listing from cache"
  fields := [("count", .whole count)]

def seeded : Note where
  level := .debug
  message := "Seeded secret into cache"

def cleared (count : Nat) : Note where
  level := .debug
  message := "Cleared secret cache"
  fields := [("count", .whole count)]

def created (h : Handle) : Note where
  level := .debug
  message := "Created secret cache"
  fields := [("mountpoint", .label h.log.mountpoint),
    ("fresh_threshold_ms", .whole (wholeMillis h.timing.freshThreshold).toNat),
    ("secret_fetch_timeout_ms", .whole (wholeMillis h.timing.secretDeadline).toNat),
    ("secret_list_fetch_timeout_ms", .whole (wholeMillis h.timing.listDeadline).toNat)]

end Note

namespace Handle

def lookupCount (h : Handle) (outcome : LookupOutcome) : Measurement :=
  .counted h.log.mountpoint (.lookups outcome)

def listingCount (h : Handle) (fromBackend : Bool) : Measurement :=
  .counted h.log.mountpoint (.listings fromBackend)

def waitMeasurements (h : Handle) (operation : String) : Verdict α → List Measurement
  | .answered _ => []
  | .unusable => [.counted h.log.mountpoint (.failures operation)]
  | .failed => [.counted h.log.mountpoint (.failures operation)]
  | .late => [.counted h.log.mountpoint (.timeouts operation)]

def waitNote (operation : String) (deadline elapsed : Nat) : Verdict α → Note
  | .answered _ => .answered operation elapsed
  | .unusable => .unusable operation
  | .failed => .failed operation
  | .late => .late operation deadline

def entriesAfter (h : Handle) (w : Write) (now : Nat) (store : Store) : Measurement :=
  .entries h.log.mountpoint (w.apply now store).size

def fallback (h : Handle) (store : Store) (now : Nat) (name : String) (notes : List Note)
    (measurements : List Measurement) : Effect :=
  match store.get? name with
  | some k =>
    ⟨.secret (some k.secret), none, notes ++ [.serving (k.age now)],
      measurements ++ [h.lookupCount .fallback]⟩
  | none =>
    ⟨.secret none, none, notes ++ [.unavailable], measurements ++ [h.lookupCount .miss]⟩

def lookupEffect (h : Handle) (store : Store) (started now : Nat) (name : String)
    (verdict : Verdict Secret) : Effect :=
  let note := waitNote "secret" h.timing.secretDeadline (now - started) verdict
  let measurements := h.waitMeasurements "secret" verdict
  match verdict with
  | .answered secret =>
    if secret.name = name then
      ⟨.secret (some secret), some (.add secret), [note, .stored],
        [h.entriesAfter (.add secret) now store, h.lookupCount .backend]⟩
    else
      h.fallback store now name [note, .foreign secret.name]
        [.counted h.log.mountpoint (.failures "secret")]
  | _ => h.fallback store now name [note] measurements

def listingEffect (h : Handle) (store : Store) (started now : Nat)
    (verdict : Verdict (List Secret)) : Effect :=
  let note := waitNote "secret_list" h.timing.listDeadline (now - started) verdict
  match verdict with
  | .answered secrets =>
    ⟨.secrets secrets, some (.replace secrets),
      [note, .replaced (Write.apply (.replace secrets) now store).size],
      [h.entriesAfter (.replace secrets) now store, h.listingCount true]⟩
  | _ =>
    ⟨.secrets store.secrets, none, [note, .servingListing store.size],
      h.waitMeasurements "secret_list" verdict ++ [h.listingCount false]⟩

/-- What an operation of the cache does when it ends now, having started some time before. -/
def effect (h : Handle) (store : Store) (started now : Nat) : Outcome → Effect
  | .fresh _ secret => ⟨.secret (some secret), none, [.hit], [h.lookupCount .fresh]⟩
  | .fetched name verdict => h.lookupEffect store started now name verdict
  | .listed verdict => h.listingEffect store started now verdict
  | .added secret =>
    ⟨.nothing, some (.add secret), [.seeded], [h.entriesAfter (.add secret) now store]⟩
  | .cleared =>
    ⟨.nothing, some .clear, [.cleared store.size], [h.entriesAfter .clear now store]⟩
  | .sized => ⟨.count store.size, none, [], []⟩
  | .emptiness => ⟨.flag (store.size = 0), none, [], []⟩
  | .info => ⟨.info h.timing h.log, none, [], []⟩

def span? (h : Handle) (outcome : Outcome) : Option Span :=
  outcome.operation?.map fun operation => ⟨operation, h.log.mountpoint, outcome.subject?⟩

end Handle

def logTarget : String := "secretfs::secrets::cache"

def Note.event (note : Note) (time : Nat) (span : Option Span) : Event :=
  ⟨time, note.level, logTarget, note.message, note.fields, note.withheld, span⟩

end SecretKeeper.Cache

/-!
What is measured. Every series belongs to one mount point; counters only grow, and one gauge per
mount point holds the number of kept secrets.
-/
namespace SecretKeeper.Metrics

inductive LookupOutcome where
  | fresh
  | backend
  | fallback
  | miss
  deriving DecidableEq, Repr

def LookupOutcome.label : LookupOutcome → String
  | fresh => "fresh"
  | backend => "backend"
  | fallback => "fallback"
  | miss => "miss"

inductive Counter where
  | lookups (outcome : LookupOutcome)
  | timeouts (operation : String)
  | failures (operation : String)
  | listings (fromBackend : Bool)
  deriving DecidableEq, Repr

namespace Counter

def name : Counter → String
  | lookups _ => "secretfs_cache_lookups_total"
  | timeouts _ => "secretfs_backend_timeouts_total"
  | failures _ => "secretfs_backend_failures_total"
  | listings _ => "secretfs_cache_list_total"

def description : Counter → String
  | lookups _ => "Secret lookups by outcome"
  | timeouts _ => "Backend calls abandoned at their deadline"
  | failures _ => "Backend calls that returned no usable answer"
  | listings _ => "Secret listings by source"

def label : Counter → String × String
  | lookups outcome => ("outcome", outcome.label)
  | timeouts operation => ("operation", operation)
  | failures operation => ("operation", operation)
  | listings fromBackend => ("outcome", if fromBackend then "backend" else "fallback")

end Counter

def gaugeName : String := "secretfs_cache_entries"

def gaugeDescription : String := "Entries currently cached"

inductive Measurement where
  | described
  | counted (mountpoint : String) (counter : Counter)
  | entries (mountpoint : String) (count : Nat)
  deriving DecidableEq, Repr

end SecretKeeper.Metrics

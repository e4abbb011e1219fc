import SecretKeeper.Json.Value
import SecretKeeper.Metrics.Series

/-!
A recorder keeps the value of every series that was reported to it. A snapshot lists them in the
order of their names and labels.
-/
namespace SecretKeeper.Metrics

def alter [DecidableEq κ] (key : κ) (f : Option Nat → Nat) : List (κ × Nat) → List (κ × Nat)
  | [] => [(key, f none)]
  | (k, n) :: rest => if k = key then (k, f (some n)) :: rest else (k, n) :: alter key f rest

/-- Series are there from their first report on; descriptions hold for all of them once they are
given. -/
structure Recorder where
  counts : List ((String × Counter) × Nat)
  gauges : List (String × Nat)
  isDescribed : Bool
  deriving DecidableEq, Repr

namespace Recorder

def empty : Recorder := ⟨[], [], false⟩

def measure (r : Recorder) : Measurement → Recorder
  | .described => { r with isDescribed := true }
  | .counted mountpoint c =>
    { r with counts := alter (mountpoint, c) (fun n => n.getD 0 + 1) r.counts }
  | .entries mountpoint n => { r with gauges := alter mountpoint (fun _ => n) r.gauges }

def count (r : Recorder) (mountpoint : String) (c : Counter) : Nat :=
  (r.counts.lookup (mountpoint, c)).getD 0

def gauge? (r : Recorder) (mountpoint : String) : Option Nat := r.gauges.lookup mountpoint

end Recorder

inductive Kind where
  | counter
  | gauge
  deriving DecidableEq, Repr

structure Sample where
  name : String
  kind : Kind
  labels : List (String × String)
  value : Nat
  description : Option String
  deriving DecidableEq, Repr

/-- The nearest number with 53 significant bits, ties to even. -/
def roundToFloat (n : Nat) : Nat :=
  let unit := Nat.pow 2 (n.log2 - 52)
  let below := n / unit
  let up := 2 * (n % unit) > unit || 2 * (n % unit) = unit && below % 2 = 1
  (if up then below + 1 else below) * unit

namespace Sample

def unit? (s : Sample) : Option String := s.description.map fun _ => "count"

def orderKey (s : Sample) : String :=
  let labels := s.labels.map fun (k, v) => Json.Value.list [.text k, .text v]
  (Json.Value.list [.text s.name, .list labels]).render

end Sample

namespace Recorder

def counterSample (isDescribed : Bool) : (String × Counter) × Nat → Sample
  | ((mountpoint, c), n) =>
    { name := c.name
      kind := .counter
      labels := [("mountpoint", mountpoint), c.label]
      value := n
      description := if isDescribed then some c.description else none }

def gaugeSample (isDescribed : Bool) : String × Nat → Sample
  | (mountpoint, n) =>
    { name := gaugeName
      kind := .gauge
      labels := [("mountpoint", mountpoint)]
      value := roundToFloat n
      description := if isDescribed then some gaugeDescription else none }

def snapshot (r : Recorder) : List Sample :=
  (r.counts.map (counterSample r.isDescribed) ++ r.gauges.map (gaugeSample r.isDescribed)).mergeSort
    fun a b => a.orderKey ≤ b.orderKey

end Recorder
end SecretKeeper.Metrics

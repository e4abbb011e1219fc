import SecretKeeper.Metrics.Recorder

/-!
Reports to one recorder under a label that can change. The first label is the empty mount point.
-/
namespace SecretKeeper.Metrics

inductive Step where
  | relabel (mountpoint : String)
  | describe
  | count (counter : Counter)
  | entries (count : Nat)
  deriving DecidableEq, Repr

structure Session where
  mountpoint : String
  recorder : Recorder
  deriving DecidableEq, Repr

namespace Session

def start : Session := ⟨"", .empty⟩

def step (s : Session) : Step → Session
  | .relabel mountpoint => { s with mountpoint }
  | .describe => { s with recorder := s.recorder.measure .described }
  | .count c => { s with recorder := s.recorder.measure (.counted s.mountpoint c) }
  | .entries n => { s with recorder := s.recorder.measure (.entries s.mountpoint n) }

def run (s : Session) : List Step → List (List Sample)
  | [] => []
  | x :: xs => (s.step x).recorder.snapshot :: (s.step x).run xs

end Session
end SecretKeeper.Metrics

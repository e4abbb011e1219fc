import SecretKeeper.Proofs.Validation
import SecretKeeper.Settings.Bounds

/-!
What a check of settings comes to. They pass exactly if they keep to all bounds; otherwise the
refusal tells every bound that is broken, in the order of the paths, and the field if it is one.
-/
namespace SecretKeeper

namespace Settings

structure InBounds (s : Settings) : Prop where
  secretDeadline : 1 ≤ s.timing.secretDeadline.toNat ∧ s.timing.secretDeadline.toNat ≤ 60000
  listDeadline : 1 ≤ s.timing.listDeadline.toNat ∧ s.timing.listDeadline.toNat ≤ 60000
  mountpoint : s.log.mountpoint.length ≤ 4096

def broken (s : Settings) : List Failure :=
  (if s.log.mountpoint.length ≤ 4096 then []
    else [⟨"logging.mountpoint", "Mount point is too long"⟩]) ++
  ((if TimingSettings.isDeadline s.timing.secretDeadline then []
    else [⟨"timeouts.secret_fetch_timeout_ms",
      "Secret fetch timeout must be between 1 and 60000 milliseconds"⟩]) ++
  if TimingSettings.isDeadline s.timing.listDeadline then []
    else [⟨"timeouts.secret_list_fetch_timeout_ms",
      "Secret list fetch timeout must be between 1 and 60000 milliseconds"⟩])

theorem isDeadline_iff (ms : UInt64) :
    TimingSettings.isDeadline ms = true ↔ 1 ≤ ms.toNat ∧ ms.toNat ≤ 60000 := by
  simp [TimingSettings.isDeadline, TimingSettings.greatestDeadline, UInt64.le_iff_toNat_le]

theorem broken_eq_nil_iff (s : Settings) : s.broken = [] ↔ s.InBounds := by
  have parts : s.broken = [] ↔ s.log.mountpoint.length ≤ 4096 ∧
      TimingSettings.isDeadline s.timing.secretDeadline = true ∧
      TimingSettings.isDeadline s.timing.listDeadline = true := by
    simp [broken]
  rw [parts, isDeadline_iff, isDeadline_iff]
  constructor
  · rintro ⟨mountpoint, secret, list⟩
    exact ⟨secret, list, mountpoint⟩
  · intro bounds
    exact ⟨bounds.mountpoint, bounds.secretDeadline, bounds.listDeadline⟩

theorem broken_sorted (s : Settings) : s.broken.Pairwise fun a b => a.before b = true := by
  unfold broken
  split <;> split <;> split <;> decide

/-- A bound that settings break, by the path of the field. -/
inductive Breaks (s : Settings) : String → Prop where
  | mountpoint (long : 4096 < s.log.mountpoint.length) : Breaks s "logging.mountpoint"
  | secretDeadline (out : ¬(1 ≤ s.timing.secretDeadline.toNat ∧
      s.timing.secretDeadline.toNat ≤ 60000)) : Breaks s "timeouts.secret_fetch_timeout_ms"
  | listDeadline (out : ¬(1 ≤ s.timing.listDeadline.toNat ∧
      s.timing.listDeadline.toNat ≤ 60000)) : Breaks s "timeouts.secret_list_fetch_timeout_ms"

theorem mem_broken (s : Settings) (path : String) :
    path ∈ s.broken.map Failure.path ↔ s.Breaks path := by
  have paths : path ∈ s.broken.map Failure.path ↔
      4096 < s.log.mountpoint.length ∧ path = "logging.mountpoint" ∨
      TimingSettings.isDeadline s.timing.secretDeadline = false ∧
        path = "timeouts.secret_fetch_timeout_ms" ∨
      TimingSettings.isDeadline s.timing.listDeadline = false ∧
        path = "timeouts.secret_list_fetch_timeout_ms" := by
    rw [← Nat.not_le]
    unfold broken
    by_cases mountpoint : s.log.mountpoint.length ≤ 4096 <;>
      cases TimingSettings.isDeadline s.timing.secretDeadline <;>
      cases TimingSettings.isDeadline s.timing.listDeadline <;>
      simp [mountpoint]
  rw [paths, ← Bool.not_eq_true, ← Bool.not_eq_true, isDeadline_iff, isDeadline_iff]
  constructor
  · rintro (⟨long, rfl⟩ | ⟨out, rfl⟩ | ⟨out, rfl⟩)
    · exact .mountpoint long
    · exact .secretDeadline out
    · exact .listDeadline out
  · rintro (long | out | out)
    · exact Or.inl ⟨long, rfl⟩
    · exact Or.inr (Or.inl ⟨out, rfl⟩)
    · exact Or.inr (Or.inr ⟨out, rfl⟩)

theorem broken_ordered (s : Settings) : (s.broken.map Failure.path).Pairwise (· < ·) := by
  unfold broken
  split <;> split <;> split <;> decide

theorem soleField_broken (s : Settings) (path : String) :
    Failure.soleField s.broken = some path ↔ ∀ other, s.Breaks other ↔ other = path := by
  rw [Failure.soleField_eq_some_iff]
  simp only [← mem_broken]
  have ordered := s.broken_ordered
  constructor
  · intro sole other
    rw [sole, List.mem_singleton]
  · intro sole
    rcases paths : s.broken.map Failure.path with _ | ⟨first, _ | ⟨second, rest⟩⟩
    · have listed := (sole path).mpr rfl
      rw [paths] at listed
      cases listed
    · have same := (sole first).mp (paths ▸ List.mem_cons_self)
      rw [same]
    · rw [paths] at ordered
      have less := List.rel_of_pairwise_cons ordered List.mem_cons_self
      have same := (sole first).mp (paths ▸ List.mem_cons_self)
      have same' := (sole second).mp (paths ▸ List.mem_cons_of_mem _ List.mem_cons_self)
      rw [same, same'] at less
      exact absurd less (String.lt_irrefl path)

/-- Deadlines are checked before the mount point. -/
theorem violations_failures (s : Settings) :
    (Violation.fieldsFailures "" s.violations).Perm s.broken ∧
      s.violations.isEmpty = s.broken.isEmpty := by
  have longest : LogSettings.longestMountpoint = 4096 := rfl
  unfold broken violations TimingSettings.violations LogSettings.violations violationUnless
  rw [longest]
  by_cases mountpoint : s.log.mountpoint.length ≤ 4096 <;>
    cases TimingSettings.isDeadline s.timing.secretDeadline <;>
    cases TimingSettings.isDeadline s.timing.listDeadline <;>
    simp only [mountpoint, decide_true, decide_false, ↓reduceIte, Bool.false_eq_true] <;>
    decide

theorem checked_eq (s : Settings) : s.checked =
    if s.broken.isEmpty then .ok s
    else .error (.validation
      ("Validation failed: " ++ "; ".intercalate (s.broken.map Failure.describe))
      (Failure.soleField s.broken)) := by
  obtain ⟨perm, empty⟩ := s.violations_failures
  rw [checked, empty, Problem.ofViolations, Problem.ofFailures_of_perm perm s.broken_sorted]

end Settings
end SecretKeeper

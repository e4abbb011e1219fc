import Mathlib.Data.Nat.Dist
import SecretKeeper.Proofs.Metrics.Recorder

/-!
What a gauge shows. The number that was reported is rounded to the nearest one with 53 significant
bits, and of two nearest ones to the one with the even significand.
-/
namespace SecretKeeper.Metrics

def IsFloat (x : Nat) : Prop :=
  ∃ significand exponent, significand < 9007199254740992 ∧ x = significand * Nat.pow 2 exponent

/-- A float to which no float is nearer. Of two such floats it is the one that is a multiple of
twice the gap between them. -/
structure NearestFloat (n x : Nat) : Prop where
  float : IsFloat x
  nearest : ∀ y, IsFloat y → Nat.dist n x ≤ Nat.dist n y
  even : ∀ y, IsFloat y → y ≠ x → Nat.dist n y = Nat.dist n x → 2 * Nat.dist x y ∣ x

theorem pow_split {a b : Nat} (order : a ≤ b) :
    Nat.pow 2 b = Nat.pow 2 (b - a) * Nat.pow 2 a := (Nat.pow_sub_mul_pow 2 order).symm

/-- Multiples of a power of two that 53 bits tell from their neighbours. -/
structure Grid (below exponent : Nat) : Prop where
  fits : below < 9007199254740992
  fine : exponent = 0 ∨ 4503599627370496 ≤ below

namespace Grid
variable {below exponent : Nat} (grid : Grid below exponent)
include grid

theorem low_float : IsFloat (below * Nat.pow 2 exponent) := ⟨below, exponent, grid.fits, rfl⟩

theorem high_float : IsFloat ((below + 1) * Nat.pow 2 exponent) := by
  have fits := grid.fits
  by_cases last : below + 1 = 9007199254740992
  · have width : Nat.pow 2 53 = 9007199254740992 := by decide
    have split := pow_split (Nat.le_add_left exponent 53)
    rw [Nat.add_sub_cancel, width] at split
    exact ⟨1, 53 + exponent, by decide, by rw [last, split, Nat.one_mul]⟩
  · exact ⟨below + 1, exponent, by omega, rfl⟩

theorem apart {y : Nat} (float : IsFloat y) :
    y ≤ below * Nat.pow 2 exponent ∨ (below + 1) * Nat.pow 2 exponent ≤ y := by
  obtain ⟨significand, shift, fits, rfl⟩ := float
  by_cases coarse : exponent ≤ shift
  · rw [pow_split coarse, ← Nat.mul_assoc]
    rcases Nat.lt_or_ge below (significand * Nat.pow 2 (shift - exponent)) with more | less
    · exact Or.inr (Nat.mul_le_mul_right _ more)
    · exact Or.inl (Nat.mul_le_mul_right _ less)
  · have full : 4503599627370496 ≤ below := grid.fine.resolve_left (by omega)
    have double : 2 ≤ Nat.pow 2 (exponent - shift) := Nat.le_self_pow (by omega) 2
    rw [pow_split (Nat.le_of_not_le coarse), ← Nat.mul_assoc]
    refine Or.inl (Nat.mul_le_mul_right _ ?_)
    calc significand
      _ ≤ 4503599627370496 * 2 := by omega
      _ ≤ below * Nat.pow 2 (exponent - shift) := Nat.mul_le_mul full double

theorem nearest {n x : Nat} (low : below * Nat.pow 2 exponent ≤ n)
    (high : n ≤ (below + 1) * Nat.pow 2 exponent)
    (neighbour : x = below * Nat.pow 2 exponent ∨ x = (below + 1) * Nat.pow 2 exponent)
    (near : 2 * Nat.dist n x ≤ Nat.pow 2 exponent)
    (tie : 2 * Nat.dist n x = Nat.pow 2 exponent → 2 * Nat.pow 2 exponent ∣ x) :
    NearestFloat n x := by
  have next := Nat.add_one_mul below (Nat.pow 2 exponent)
  constructor
  · rcases neighbour with rfl | rfl
    · exact grid.low_float
    · exact grid.high_float
  · intro y float
    have apart := grid.apart float
    simp only [Nat.dist] at *
    omega
  · intro y float other same
    have apart := grid.apart float
    have middle : 2 * Nat.dist n x = Nat.pow 2 exponent := by
      simp only [Nat.dist] at *
      omega
    have gap : Nat.dist x y = Nat.pow 2 exponent := by
      simp only [Nat.dist] at *
      omega
    rw [gap]
    exact tie middle

end Grid

theorem grid_of (n : Nat) : Grid (n / Nat.pow 2 (n.log2 - 52)) (n.log2 - 52) := by
  have positive : 0 < Nat.pow 2 (n.log2 - 52) := Nat.two_pow_pos _
  have above : n < Nat.pow 2 (n.log2 + 1) := Nat.lt_log2_self
  constructor
  · have bound : Nat.pow 2 (n.log2 + 1) ≤ Nat.pow 2 (53 + (n.log2 - 52)) :=
      Nat.pow_le_pow_right (by decide) (by omega)
    have width : Nat.pow 2 53 = 9007199254740992 := by decide
    rw [pow_split (Nat.le_add_left (n.log2 - 52) 53), Nat.add_sub_cancel, width] at bound
    exact (Nat.div_lt_iff_lt_mul positive).mpr (Nat.lt_of_lt_of_le above bound)
  · by_cases short : n.log2 ≤ 52
    · exact Or.inl (by omega)
    · right
      have nonzero : n ≠ 0 := by
        rintro rfl
        exact short (by decide)
      have reached : Nat.pow 2 n.log2 ≤ n := Nat.log2_self_le nonzero
      have width : Nat.pow 2 52 = 4503599627370496 := by decide
      have rest : n.log2 - (n.log2 - 52) = 52 := by omega
      rw [pow_split (Nat.sub_le n.log2 52), rest, width] at reached
      exact (Nat.le_div_iff_mul_le positive).mpr reached

theorem even_multiple {multiple gap : Nat} (even : multiple % 2 = 0) :
    2 * gap ∣ multiple * gap := by
  obtain ⟨half, rfl⟩ := Nat.dvd_of_mod_eq_zero even
  exact ⟨half, Nat.mul_right_comm 2 half gap⟩

theorem roundToFloat_nearest (n : Nat) : NearestFloat n (roundToFloat n) := by
  have positive : 0 < Nat.pow 2 (n.log2 - 52) := Nat.two_pow_pos _
  have inside := Nat.mod_lt n positive
  have parts := Nat.div_add_mod' n (Nat.pow 2 (n.log2 - 52))
  have next := Nat.add_one_mul (n / Nat.pow 2 (n.log2 - 52)) (Nat.pow 2 (n.log2 - 52))
  have low : n / Nat.pow 2 (n.log2 - 52) * Nat.pow 2 (n.log2 - 52) ≤ n := by omega
  have high : n ≤ (n / Nat.pow 2 (n.log2 - 52) + 1) * Nat.pow 2 (n.log2 - 52) := by omega
  simp only [roundToFloat]
  split
  · rename_i up
    simp only [Bool.or_eq_true, Bool.and_eq_true, decide_eq_true_eq] at up
    refine (grid_of n).nearest low high (Or.inr rfl) ?_ ?_
    · simp only [Nat.dist]
      omega
    · simp only [Nat.dist]
      intro middle
      exact even_multiple (by omega)
  · rename_i down
    simp only [Bool.or_eq_true, Bool.and_eq_true, decide_eq_true_eq] at down
    refine (grid_of n).nearest low high (Or.inl rfl) ?_ ?_
    · simp only [Nat.dist]
      omega
    · simp only [Nat.dist]
      intro middle
      exact even_multiple (by omega)

end SecretKeeper.Metrics

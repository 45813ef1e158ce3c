import Mathlib.Algebra.Order.Archimedean.Basic
import Mathlib.Algebra.Order.Field.Basic
import Mathlib.Tactic.Linarith
import Mathlib.Tactic.Ring

/-!
# Proportional corrections

An offset is measured with some noise, and a fixed part of the measured error is corrected. The noise
is all that remains of the offset in the long run.
-/

namespace StarlinkTcp.Machine

variable {K : Type*} [Field K] {gain noise start : K}

/-- What remains of the offset `start` after `n` corrections, at most. -/
def residue (gain noise start : K) (n : Nat) : K := (1 - gain) ^ n * start + (1 - (1 - gain) ^ n) * noise

theorem residue_zero : residue gain noise start 0 = start := by
  simp [residue]

theorem residue_succ (n : Nat) :
    residue gain noise start (n + 1) = (1 - gain) * residue gain noise start n + gain * noise := by
  simp only [residue, pow_succ]
  ring

variable [LinearOrder K] [IsStrictOrderedRing K]

theorem residue_le_max (nonneg : 0 ≤ gain) (le_one : gain ≤ 1) (n : Nat) :
    residue gain noise start n ≤ max start noise := by
  have part : 0 ≤ (1 - gain) ^ n := pow_nonneg (by linarith) n
  have rest : 0 ≤ 1 - (1 - gain) ^ n := by
    have power := pow_le_one₀ (n := n) (by linarith : 0 ≤ 1 - gain) (by linarith)
    linarith
  calc residue gain noise start n
      ≤ (1 - gain) ^ n * max start noise + (1 - (1 - gain) ^ n) * max start noise :=
        add_le_add (mul_le_mul_of_nonneg_left (le_max_left _ _) part)
          (mul_le_mul_of_nonneg_left (le_max_right _ _) rest)
    _ = max start noise := by ring

/-- One correction: the measured error is the negated offset up to the noise. -/
theorem corrected_le {offset error bound : K} (nonneg : 0 ≤ gain) (le_one : gain ≤ 1)
    (measured : |error + offset| ≤ noise) (before : |offset| ≤ bound) :
    |offset + error * gain| ≤ (1 - gain) * bound + gain * noise := by
  have rest : 0 ≤ 1 - gain := by linarith
  have split : offset + error * gain = (1 - gain) * offset + gain * (error + offset) := by ring
  calc |offset + error * gain|
      = |(1 - gain) * offset + gain * (error + offset)| := by rw [split]
    _ ≤ |(1 - gain) * offset| + |gain * (error + offset)| := abs_add_le _ _
    _ = (1 - gain) * |offset| + gain * |error + offset| := by
        rw [abs_mul, abs_mul, abs_of_nonneg rest, abs_of_nonneg nonneg]
    _ ≤ (1 - gain) * bound + gain * noise :=
        add_le_add (mul_le_mul_of_nonneg_left before rest) (mul_le_mul_of_nonneg_left measured nonneg)

theorem exists_residue_le [Archimedean K] (positive : 0 < gain) (le_one : gain ≤ 1) (noisy : 0 ≤ noise)
    (offset : 0 ≤ start) {margin : K} (room : 0 < margin) :
    ∃ N, ∀ n ≥ N, residue gain noise start n ≤ noise + margin := by
  have ratio : 0 ≤ 1 - gain := by linarith
  obtain ⟨N, small⟩ := exists_pow_lt_of_lt_one (div_pos room (by linarith : 0 < start + 1))
    (by linarith : 1 - gain < 1)
  rw [lt_div_iff₀ (by linarith)] at small
  refine ⟨N, fun n later => ?_⟩
  have power := pow_le_pow_of_le_one ratio (by linarith) later
  have part : 0 ≤ (1 - gain) ^ n := pow_nonneg ratio n
  have first : (1 - gain) ^ n * start ≤ margin := by
    calc (1 - gain) ^ n * start
        ≤ (1 - gain) ^ N * (start + 1) := mul_le_mul power (by linarith) offset (part.trans power)
      _ ≤ margin := small.le
  have second : (1 - (1 - gain) ^ n) * noise ≤ noise :=
    mul_le_of_le_one_left noisy (by linarith)
  rw [residue]
  linarith

end StarlinkTcp.Machine

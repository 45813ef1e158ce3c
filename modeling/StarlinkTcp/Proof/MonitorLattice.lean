import StarlinkTcp.Monitor.Detector
import StarlinkTcp.Monitor.Program
import Mathlib.Algebra.Order.Archimedean.Basic

/-!
# The monitor's lattice and the kernel's

The monitor predicts events and measures phase errors on the lattice of its unrounded locked period;
the kernel runs on the whole milliseconds it was given. The anchors differ by half a millisecond at
most. The periods differ by the rounding of the period, once more in every cycle, so the lattices stay
together exactly when there was nothing to round.
-/

namespace StarlinkTcp.Proof
open Machine Monitor

def kernelBoundaryMs (lockedPeriod anchor : ℚ) (k : ℤ) : ℤ := anchorMs anchor + k * periodMs lockedPeriod

def predictedEventMs (lockedPeriod anchor : ℚ) (k : ℤ) : ℚ := 1000 * (anchor + k * lockedPeriod)

/-- Every boundary is within 1 ms of its prediction, so an event without phase error is within 1 ms of
a boundary. -/
structure LatticesAgree (lockedPeriod anchor : ℚ) : Prop where
  boundary : ∀ k : ℕ, |(kernelBoundaryMs lockedPeriod anchor k : ℚ) - predictedEventMs lockedPeriod anchor k| ≤ 1
  event : ∀ event predicted, signedPhaseError event anchor lockedPeriod = some (0, predicted) →
    ∃ k : ℤ, |(kernelBoundaryMs lockedPeriod anchor k : ℚ) - 1000 * event| ≤ 1

section Drift

variable {lockedPeriod anchor : ℚ}

theorem boundary_sub_predicted (k : ℤ) :
    (kernelBoundaryMs lockedPeriod anchor k : ℚ) - predictedEventMs lockedPeriod anchor k =
      (anchorMs anchor - anchor * 1000) + k * (periodMs lockedPeriod - lockedPeriod * 1000) := by
  simp only [kernelBoundaryMs, predictedEventMs]
  push_cast
  ring

theorem abs_anchorMs_sub_le (anchor : ℚ) : |(anchorMs anchor : ℚ) - anchor * 1000| ≤ 1 / 2 := by
  rw [abs_sub_comm]
  exact abs_sub_roundHalfEven_le _

theorem periodMs_of_whole {m : ℤ} (positive : 0 < lockedPeriod) (whole : lockedPeriod * 1000 = m) :
    periodMs lockedPeriod = m := by
  have atLeastOne : 0 < m := by
    have scaled : (0 : ℚ) < m := by
      rw [← whole]
      linarith
    exact_mod_cast scaled
  rw [periodMs, whole, roundHalfEven_intCast]
  exact max_eq_right atLeastOne

theorem boundary_near_of_whole {m : ℤ} (positive : 0 < lockedPeriod) (whole : lockedPeriod * 1000 = m) (k : ℤ) :
    |(kernelBoundaryMs lockedPeriod anchor k : ℚ) - predictedEventMs lockedPeriod anchor k| ≤ 1 := by
  have near := abs_anchorMs_sub_le anchor
  rw [boundary_sub_predicted, periodMs_of_whole positive whole, whole, sub_self, mul_zero, add_zero]
  linarith

theorem exists_boundary_far (rounded : (periodMs lockedPeriod : ℚ) ≠ lockedPeriod * 1000) :
    ∃ k : ℕ, 1 < |(kernelBoundaryMs lockedPeriod anchor k : ℚ) - predictedEventMs lockedPeriod anchor k| := by
  have drift : 0 < |(periodMs lockedPeriod : ℚ) - lockedPeriod * 1000| := abs_pos.mpr (sub_ne_zero.mpr rounded)
  obtain ⟨k, enough⟩ := exists_nat_gt (2 / |(periodMs lockedPeriod : ℚ) - lockedPeriod * 1000|)
  have far : 2 < k * |(periodMs lockedPeriod : ℚ) - lockedPeriod * 1000| := (div_lt_iff₀ drift).mp enough
  refine ⟨k, ?_⟩
  have near := abs_anchorMs_sub_le anchor
  have triangle := abs_sub_abs_le_abs_sub ((k : ℚ) * (periodMs lockedPeriod - lockedPeriod * 1000))
    (-(anchorMs anchor - anchor * 1000))
  rw [abs_neg, abs_mul, Nat.abs_cast, sub_neg_eq_add, add_comm] at triangle
  rw [boundary_sub_predicted, Int.cast_natCast]
  linarith

end Drift

/-- The lattices agree in every cycle exactly when the locked period is a whole number of
milliseconds. -/
theorem lattices_agree_iff (lockedPeriod anchor : ℚ) (positive : 0 < lockedPeriod) :
    LatticesAgree lockedPeriod anchor ↔ ∃ m : ℤ, lockedPeriod * 1000 = m := by
  constructor
  · intro agree
    by_contra fractional
    obtain ⟨k, far⟩ : ∃ k : ℕ,
        1 < |(kernelBoundaryMs lockedPeriod anchor k : ℚ) - predictedEventMs lockedPeriod anchor k| :=
      exists_boundary_far fun exact => fractional ⟨_, exact.symm⟩
    exact absurd (agree.boundary k) (not_le.mpr far)
  · rintro ⟨m, whole⟩
    refine ⟨fun k => boundary_near_of_whole positive whole k, ?_⟩
    intro event predicted exact
    simp only [signedPhaseError, if_neg (not_le.mpr positive), Option.some.injEq, Prod.mk.injEq] at exact
    let k := roundHalfEven ((event - anchor) / lockedPeriod)
    have near : |(kernelBoundaryMs lockedPeriod anchor k : ℚ) - predictedEventMs lockedPeriod anchor k| ≤ 1 :=
      boundary_near_of_whole positive whole k
    have lies : event = anchor + k * lockedPeriod := sub_eq_zero.mp exact.1
    rw [predictedEventMs, ← lies] at near
    exact ⟨k, near⟩

theorem lattices_agree_fifteen_seconds : (0 : ℚ) < 15 ∧ LatticesAgree 15 (1788853601999843359 / 10 ^ 9) :=
  ⟨by norm_num, (lattices_agree_iff 15 _ (by norm_num)).mpr ⟨15000, by norm_num⟩⟩

/-- The period and an event of the recorded run: after three cycles the boundary is 1.5 ms late. -/
theorem recorded_period_drifts :
    ¬ |(kernelBoundaryMs (15001551986 / 10 ^ 9) (1788853601999843359 / 10 ^ 9) (3 : ℕ) : ℚ) -
      predictedEventMs (15001551986 / 10 ^ 9) (1788853601999843359 / 10 ^ 9) (3 : ℕ)| ≤ 1 := by
  decide +kernel

end StarlinkTcp.Proof

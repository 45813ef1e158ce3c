import Mathlib.Algebra.Order.Group.Int
import Mathlib.Data.Int.Order.Basic
import Mathlib.Algebra.Ring.Int.Defs

/-!
# Rounding to a grid

`roundDown` and `roundUp` take an integer to the multiples of a positive unit next to it.
-/

namespace StarlinkTcp.Machine

def roundDown (x unit : Int) : Int := x / unit * unit

def roundUp (x unit : Int) : Int := (x + (unit - 1)) / unit * unit

variable {x bound unit : Int}

theorem dvd_roundDown (x unit : Int) : unit ∣ roundDown x unit := Int.dvd_mul_left _ _

theorem dvd_roundUp (x unit : Int) : unit ∣ roundUp x unit := Int.dvd_mul_left _ _

section Positive

variable (positive : 0 < unit)
include positive

theorem roundDown_le (x : Int) : roundDown x unit ≤ x := Int.ediv_mul_le x positive.ne'

theorem le_roundUp (x : Int) : x ≤ roundUp x unit := by
  have remainder := Int.emod_lt_of_pos (x + (unit - 1)) positive
  rw [Int.emod_def, Int.mul_comm] at remainder
  unfold roundUp
  omega

theorem roundUp_le (aligned : unit ∣ bound) (le : x ≤ bound) : roundUp x unit ≤ bound := by
  obtain ⟨n, rfl⟩ := aligned
  unfold roundUp
  rw [Int.mul_comm unit n]
  apply Int.mul_le_mul_of_nonneg_right _ positive.le
  rw [← Int.lt_add_one_iff, Int.ediv_lt_iff_lt_mul positive, Int.add_mul, Int.mul_comm n unit]
  omega

theorem roundUp_mono (le : x ≤ bound) : roundUp x unit ≤ roundUp bound unit :=
  roundUp_le positive (dvd_roundUp bound unit) (le.trans (le_roundUp positive bound))

theorem roundUp_nonneg (nonneg : 0 ≤ x) : 0 ≤ roundUp x unit := nonneg.trans (le_roundUp positive x)

end Positive

end StarlinkTcp.Machine

import Mathlib.Data.Nat.ModEq
import Mathlib.Data.Int.ModEq

/-!
# A periodic lattice of instants

Instants are natural numbers, the lattice is every instant congruent to `anchor` modulo `period`.
`index` numbers the cells between lattice points and `position` is the distance from the start of
the cell. Both add one whole period before subtracting, as code over unsigned words has to.
-/

namespace StarlinkTcp.Machine.Lattice

def position (period anchor t : Nat) : Nat := (t + period - anchor % period) % period

def index (period anchor t : Nat) : Nat := (t + period - anchor % period) / period

variable {period anchor t u : Nat}

theorem position_lt (positive : 0 < period) : position period anchor t < period :=
  Nat.mod_lt _ positive

theorem index_mul_add_position (period anchor t : Nat) :
    index period anchor t * period + position period anchor t = t + period - anchor % period := by
  rw [Nat.mul_comm]
  exact Nat.div_add_mod _ _

theorem index_mono (le : t ≤ u) : index period anchor t ≤ index period anchor u :=
  Nat.div_le_div_right (Nat.sub_le_sub_right (Nat.add_le_add_right le period) _)

theorem position_add_of_index_eq (positive : 0 < period) (le : t ≤ u)
    (same : index period anchor t = index period anchor u) :
    position period anchor u = position period anchor t + (u - t) := by
  have before := index_mul_add_position period anchor t
  have after := index_mul_add_position period anchor u
  have reduced := Nat.mod_lt anchor positive
  rw [← same] at after
  omega

/-- The lattice point at which cell `n` ends. -/
def boundary (period anchor n : Nat) : Nat := n * period + anchor % period

theorem index_le_iff (positive : 0 < period) {n : Nat} :
    index period anchor t ≤ n ↔ t < boundary period anchor n := by
  have reduced := Nat.mod_lt anchor positive
  unfold index boundary
  rw [← Nat.lt_succ_iff, Nat.div_lt_iff_lt_mul positive, Nat.succ_mul]
  omega

theorem boundary_index (positive : 0 < period) :
    boundary period anchor (index period anchor t) = t + (period - position period anchor t) := by
  have split := index_mul_add_position period anchor t
  have inside : position period anchor t < period := position_lt positive
  have reduced := Nat.mod_lt anchor positive
  unfold boundary
  omega

/-- The only lattice point within one period after an instant is the end of its cell. -/
theorem boundary_index_eq (positive : 0 < period) {q : ℤ} (after : (t : ℤ) < (anchor % period : ℕ) + q * period)
    (within : (anchor % period : ℕ) + q * period ≤ (t : ℤ) + period) :
    (boundary period anchor (index period anchor t) : ℤ) = (anchor % period : ℕ) + q * period := by
  have ends : boundary period anchor (index period anchor t) = t + (period - position period anchor t) :=
    boundary_index positive
  have inside : position period anchor t < period := position_lt positive
  have cell : (boundary period anchor (index period anchor t) : ℤ) =
      index period anchor t * period + (anchor % period : ℕ) := by
    simp only [boundary, Nat.cast_add, Nat.cast_mul]
  have width : (0 : ℤ) ≤ period := Int.natCast_nonneg period
  rcases lt_trichotomy q (index period anchor t) with below | same | above
  · have step := Int.mul_le_mul_of_nonneg_right (Int.add_one_le_of_lt below) width
    rw [Int.add_mul, Int.one_mul] at step
    omega
  · rw [cell, same, Int.add_comm]
  · have step := Int.mul_le_mul_of_nonneg_right (Int.add_one_le_of_lt above) width
    rw [Int.add_mul, Int.one_mul] at step
    omega

theorem position_eq_zero_iff (positive : 0 < period) :
    position period anchor t = 0 ↔ t ≡ anchor [MOD period] := by
  have reduced := Nat.mod_lt anchor positive
  have split : t + period - anchor % period = t + (period - anchor % period) := by omega
  unfold position
  rw [split]
  constructor
  · intro zero
    have shifted : t + (period - anchor % period) + anchor % period ≡ anchor % period [MOD period] := by
      have := Nat.ModEq.add_right (anchor % period)
        (show t + (period - anchor % period) ≡ 0 [MOD period] from zero)
      simpa using this
    rw [show t + (period - anchor % period) + anchor % period = t + period by omega] at shifted
    exact (by simpa [Nat.ModEq] using shifted)
  · intro congruent
    have step : t + (period - anchor % period) ≡
        anchor % period + (period - anchor % period) [MOD period] :=
      (congruent.trans (Nat.mod_modEq anchor period).symm).add_right _
    rw [show anchor % period + (period - anchor % period) = period by omega] at step
    simpa [Nat.ModEq] using step

theorem position_div (unit : Nat) (positive : 0 < unit) (periodPositive : 0 < period) :
    position (unit * period) (unit * anchor) t / unit = position period anchor (t / unit) := by
  have reduced := Nat.mod_lt anchor periodPositive
  have fine : t + unit * period - unit * anchor % (unit * period) =
      t + unit * (period - anchor % period) := by
    have bound : unit * (anchor % period) ≤ unit * period := Nat.mul_le_mul_left _ reduced.le
    rw [Nat.mul_mod_mul_left, Nat.mul_sub]
    omega
  have coarse : t / unit + period - anchor % period = t / unit + (period - anchor % period) :=
    Nat.add_sub_assoc reduced.le _
  unfold position
  rw [fine, coarse, Nat.mod_mul_right_div_self, Nat.add_mul_div_left _ _ positive]

theorem position_eq_ite (positive : 0 < period) :
    position period anchor t =
      if anchor % period ≤ t % period then t % period - anchor % period
      else t % period + period - anchor % period := by
  have reduced := Nat.mod_lt anchor positive
  have remainder := Nat.mod_lt t positive
  have shift : t + period - anchor % period =
      (t % period + period - anchor % period) + period * (t / period) := by
    have := Nat.mod_add_div t period
    omega
  unfold position
  rw [shift, Nat.add_mul_mod_self_left]
  split
  · rename_i le
    rw [show t % period + period - anchor % period = (t % period - anchor % period) + period by omega,
      Nat.add_mod_right, Nat.mod_eq_of_lt (by omega)]
  · exact Nat.mod_eq_of_lt (by omega)

end StarlinkTcp.Machine.Lattice

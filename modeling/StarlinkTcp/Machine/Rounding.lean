import Mathlib.Data.Rat.Floor
import Mathlib.Tactic.Linarith

/-!
# Rounding to the nearest integer, ties to even
-/

namespace StarlinkTcp.Machine

/-- The nearest integer, the even one of two equally near: the built-in `round` of Python. -/
def roundHalfEven (x : ℚ) : ℤ :=
  let below := ⌊x⌋
  let rest := x - below
  if rest < 1 / 2 then below
  else if 1 / 2 < rest then below + 1
  else if below % 2 = 0 then below
  else below + 1

theorem abs_sub_roundHalfEven_le (x : ℚ) : |x - roundHalfEven x| ≤ 1 / 2 := by
  have lower := Int.floor_le x
  have upper := Int.lt_floor_add_one x
  unfold roundHalfEven
  rw [abs_le]
  dsimp only
  split_ifs <;> push_cast <;> constructor <;> linarith

theorem abs_sub_roundHalfEven_le_abs (x : ℚ) (n : ℤ) : |x - roundHalfEven x| ≤ |x - n| := by
  by_cases same : roundHalfEven x = n
  · rw [same]
  · have half := abs_sub_roundHalfEven_le x
    have apart : (1 : ℚ) ≤ |(roundHalfEven x : ℚ) - n| := by
      exact_mod_cast Int.one_le_abs (sub_ne_zero.mpr same)
    have triangle := abs_sub_le (roundHalfEven x : ℚ) x n
    rw [abs_sub_comm (roundHalfEven x : ℚ) x] at triangle
    linarith

@[simp] theorem roundHalfEven_intCast (n : ℤ) : roundHalfEven n = n := by
  simp [roundHalfEven]

theorem roundHalfEven_eq {n : ℤ} {x : ℚ} (near : |x - n| < 1 / 2) : roundHalfEven x = n := by
  have close := abs_le.mp (abs_sub_roundHalfEven_le x)
  have around := abs_lt.mp near
  have below : (roundHalfEven x : ℚ) < n + 1 := by linarith
  have above : (n : ℚ) < roundHalfEven x + 1 := by linarith
  have upper : roundHalfEven x < n + 1 := by exact_mod_cast below
  have lower : n < roundHalfEven x + 1 := by exact_mod_cast above
  omega

theorem lt_roundHalfEven {n : ℤ} {x : ℚ} (lt : n + 1 / 2 < x) : n < roundHalfEven x := by
  have close := abs_le.mp (abs_sub_roundHalfEven_le x)
  have above : (n : ℚ) < roundHalfEven x := by linarith
  exact_mod_cast above

theorem le_roundHalfEven {n : ℤ} {x : ℚ} (le : n ≤ x) : n ≤ roundHalfEven x := by
  have floor : n ≤ ⌊x⌋ := Int.le_floor.mpr le
  unfold roundHalfEven
  dsimp only
  split_ifs <;> omega

theorem roundHalfEven_le {n : ℤ} {x : ℚ} (le : x ≤ n) : roundHalfEven x ≤ n := by
  have floor : ⌊x⌋ ≤ n := by exact_mod_cast (Int.floor_le x).trans le
  unfold roundHalfEven
  dsimp only
  split_ifs with small
  · exact floor
  all_goals
    -- `x` is not an integer, so `⌊x⌋` is below `n`
    have between : ⌊x⌋ < n := by
      have above : (⌊x⌋ : ℚ) < n := by linarith
      exact_mod_cast above
    omega

example : [roundHalfEven (5 / 2), roundHalfEven (7 / 2), roundHalfEven (-5 / 2)] = [2, 4, -2] := by
  decide +kernel

end StarlinkTcp.Machine

import Mathlib.Tactic.NormNum
import StarlinkTcp.Machine.Majority
import StarlinkTcp.Monitor.Period

/-!
# Medians and percentiles

Both read a sorted list at one position or between two neighbours, so they stay between the values
there.
-/

namespace StarlinkTcp.Proof
open Machine Monitor

variable {xs : List ℚ}

theorem getD_insertionSort_mono {m n : Nat} (le : m ≤ n) (lt : n < (xs.insertionSort (· ≤ ·)).length) :
    (xs.insertionSort (· ≤ ·)).getD m 0 ≤ (xs.insertionSort (· ≤ ·)).getD n 0 := by
  rw [List.getD_eq_getElem _ _ lt, List.getD_eq_getElem _ _ (lt_of_le_of_lt le lt)]
  rcases Nat.eq_or_lt_of_le le with rfl | before
  · exact le_refl _
  · exact List.pairwise_iff_getElem.mp (List.pairwise_insertionSort (· ≤ ·) xs) m n _ lt before

/-! ## Medians -/

@[simp] theorem median_singleton (x : ℚ) : median [x] = some x := by
  simp [median]

theorem median_pair {x y : ℚ} (le : x ≤ y) : median [x, y] = some ((x + y) / 2) := by
  have sorted : [x, y].Pairwise (· ≤ ·) := by simpa using le
  rw [median, sorted.insertionSort_eq]
  simp

theorem median_triple {x y z : ℚ} (le : x ≤ y) (next : y ≤ z) : median [x, y, z] = some y := by
  have sorted : [x, y, z].Pairwise (· ≤ ·) := by simpa using ⟨⟨le, le.trans next⟩, next⟩
  rw [median, sorted.insertionSort_eq]
  simp

theorem exists_median (nonempty : xs ≠ []) : ∃ middle, median xs = some middle := by
  have some_length : (xs.insertionSort (· ≤ ·)).length ≠ 0 := by
    rw [List.length_insertionSort]
    exact fun none => nonempty (List.length_eq_zero_iff.mp none)
  unfold median
  dsimp only
  rw [if_neg some_length]
  split
  · exact ⟨_, rfl⟩
  · exact ⟨_, rfl⟩

theorem median_between {middle : ℚ} (found : median xs = some middle) :
    (xs.insertionSort (· ≤ ·)).getD ((xs.length - 1) / 2) 0 ≤ middle ∧
      middle ≤ (xs.insertionSort (· ≤ ·)).getD (xs.length / 2) 0 := by
  have mono := @getD_insertionSort_mono xs ((xs.length - 1) / 2) (xs.length / 2) (by omega)
  unfold median at found
  dsimp only at found
  rw [List.length_insertionSort] at found mono
  split at found
  · cases found
  · split at found
    · have same : (xs.length - 1) / 2 = xs.length / 2 := by omega
      cases found
      rw [same]
      exact ⟨le_refl _, le_refl _⟩
    · have neighbour : (xs.length - 1) / 2 = xs.length / 2 - 1 := by omega
      rw [neighbour] at mono ⊢
      cases found
      have ordered := mono (by omega)
      constructor <;> linarith

theorem ne_nil_of_median {middle : ℚ} (found : median xs = some middle) : xs ≠ [] := by
  rintro rfl
  cases found

theorem median_span {middle : ℚ} (found : median xs = some middle) :
    (∃ x ∈ xs, x ≤ middle) ∧ ∃ x ∈ xs, middle ≤ x := by
  have some_length := List.length_pos_iff.mpr (ne_nil_of_median found)
  have member (n : Nat) (lt : n < xs.length) : (xs.insertionSort (· ≤ ·)).getD n 0 ∈ xs :=
    getD_insertionSort_mem (by rwa [List.length_insertionSort])
  obtain ⟨above, below⟩ := median_between found
  exact ⟨⟨_, member _ (by omega), above⟩, _, member _ (by omega), below⟩

theorem median_mem_bounds {middle lower upper : ℚ} (found : median xs = some middle)
    (bounds : ∀ x ∈ xs, lower ≤ x ∧ x ≤ upper) : lower ≤ middle ∧ middle ≤ upper := by
  obtain ⟨⟨x, first, above⟩, y, second, below⟩ := median_span found
  exact ⟨(bounds x first).1.trans above, below.trans (bounds y second).2⟩

theorem abs_median_le {middle bound : ℚ} (found : median xs = some middle)
    (bounds : ∀ x ∈ xs, |x| ≤ bound) : |middle| ≤ bound :=
  abs_le.mpr (median_mem_bounds found fun x member => abs_le.mp (bounds x member))

theorem median_between_sorted {middle : ℚ} (sorted : xs.Pairwise (· ≤ ·)) (found : median xs = some middle) :
    xs.getD ((xs.length - 1) / 2) 0 ≤ middle ∧ middle ≤ xs.getD (xs.length / 2) 0 := by
  have between := median_between found
  rwa [sorted.insertionSort_eq] at between

theorem median_le_append {x middle later : ℚ} (sorted : (xs ++ [x]).Pairwise (· ≤ ·))
    (found : median xs = some middle) (next : median (xs ++ [x]) = some later) : middle ≤ later := by
  have some_length := List.length_pos_iff.mpr (ne_nil_of_median found)
  have below := (median_between_sorted (List.pairwise_append.mp sorted).1 found).2
  have above := (median_between_sorted sorted next).1
  -- both medians are next to the value at the same position
  have same : (xs ++ [x]).getD (((xs ++ [x]).length - 1) / 2) 0 = xs.getD (xs.length / 2) 0 := by
    rw [List.length_append, List.length_singleton, Nat.add_sub_cancel]
    exact List.getD_append _ _ _ _ (by omega)
  rw [same] at above
  exact below.trans above

def percentilePosition (n : Nat) (p : ℚ) : ℚ := (n - 1 : ℚ) * p / 100

theorem percentilePosition_bounds {n : Nat} {p : ℚ} (some_length : 0 < n) (lower : 0 ≤ p) (upper : p ≤ 100) :
    0 ≤ percentilePosition n p ∧ percentilePosition n p ≤ n - 1 := by
  have size : (1 : ℚ) ≤ n := by exact_mod_cast some_length
  unfold percentilePosition
  constructor
  · exact div_nonneg (mul_nonneg (by linarith) lower) (by norm_num)
  · rw [div_le_iff₀ (by norm_num)]
    exact mul_le_mul_of_nonneg_left upper (by linarith)

theorem exists_percentile {p : ℚ} (nonempty : xs ≠ []) : ∃ q, percentile xs p = some q := by
  have some_length : (xs.insertionSort (· ≤ ·)).length ≠ 0 := by
    rw [List.length_insertionSort]
    exact fun none => nonempty (List.length_eq_zero_iff.mp none)
  unfold percentile
  dsimp only
  rw [if_neg some_length]
  split
  · exact ⟨_, rfl⟩
  · split
    · exact ⟨_, rfl⟩
    · exact ⟨_, rfl⟩

theorem percentile_between {p q : ℚ} (lower : 0 ≤ p) (upper : p ≤ 100) (found : percentile xs p = some q) :
    ⌈percentilePosition xs.length p⌉.toNat < xs.length ∧
    (xs.insertionSort (· ≤ ·)).getD ⌊percentilePosition xs.length p⌋.toNat 0 ≤ q ∧
    q ≤ (xs.insertionSort (· ≤ ·)).getD ⌈percentilePosition xs.length p⌉.toNat 0 := by
  have mono := fun m n => @getD_insertionSort_mono xs m n
  unfold percentile at found
  dsimp only at found
  rw [List.length_insertionSort] at found mono
  split at found
  · cases found
  · have some_length : 0 < xs.length := by omega
    obtain ⟨start, finish⟩ := percentilePosition_bounds some_length lower upper
    have floorNonneg : 0 ≤ ⌊percentilePosition xs.length p⌋ := Int.floor_nonneg.mpr start
    have ceiling : ⌈percentilePosition xs.length p⌉ ≤ (xs.length : ℤ) - 1 :=
      Int.ceil_le.mpr (by push_cast; exact finish)
    have floorLe := Int.floor_le_ceil (percentilePosition xs.length p)
    refine ⟨by omega, ?_⟩
    split at found
    · -- the only value is at both positions
      rename_i single
      have floor : ⌊percentilePosition xs.length p⌋.toNat = 0 := by omega
      have ceil : ⌈percentilePosition xs.length p⌉.toNat = 0 := by omega
      rw [floor, ceil]
      cases found
      exact ⟨le_refl _, le_refl _⟩
    · rw [← percentilePosition] at found
      split at found
      · rename_i same
        cases found
        rw [← same]
        exact ⟨le_refl _, le_refl _⟩
      · cases found
        have ordered := mono _ _ (Int.toNat_le_toNat floorLe) (by omega)
        have cast : ((⌊percentilePosition xs.length p⌋.toNat : ℕ) : ℚ) = ⌊percentilePosition xs.length p⌋ := by
          exact_mod_cast Int.toNat_of_nonneg floorNonneg
        have fracNonneg : 0 ≤ percentilePosition xs.length p - ⌊percentilePosition xs.length p⌋.toNat := by
          rw [cast]
          exact sub_nonneg.mpr (Int.floor_le _)
        have fracLe : percentilePosition xs.length p - ⌊percentilePosition xs.length p⌋.toNat ≤ 1 := by
          rw [cast]
          linarith [Int.lt_floor_add_one (percentilePosition xs.length p)]
        constructor <;> nlinarith

theorem percentile_le {p q bound : ℚ} (lower : 0 ≤ p) (upper : p ≤ 100)
    (bounded : ∀ x ∈ xs, x ≤ bound) (found : percentile xs p = some q) : q ≤ bound := by
  obtain ⟨inside, -, below⟩ := percentile_between lower upper found
  exact below.trans (bounded _ (getD_insertionSort_mem (by rwa [List.length_insertionSort])))

theorem median_le_percentile_pair {middle q : ℚ} (pair : xs.length = 2) (found : median xs = some middle)
    (high : percentile xs 95 = some q) : middle ≤ q := by
  have ordered := @getD_insertionSort_mono xs 0 1 (by omega)
  unfold median at found
  unfold percentile at high
  simp only [List.length_insertionSort, pair] at found high ordered
  norm_num at found high ordered
  linarith

theorem median_le_percentile {middle q : ℚ} (found : median xs = some middle)
    (high : percentile xs 95 = some q) : middle ≤ q := by
  by_cases pair : xs.length = 2
  · exact median_le_percentile_pair pair found high
  · obtain ⟨inside, above, -⟩ := percentile_between (by norm_num) (by norm_num) high
    have some_length := List.length_pos_iff.mpr (ne_nil_of_median found)
    -- the lower neighbour of the 95th percentile is not before the middle
    have position : ((xs.length / 2 : ℕ) : ℚ) ≤ percentilePosition xs.length 95 := by
      have scaled : xs.length / 2 * 100 ≤ (xs.length - 1) * 95 := by omega
      rw [percentilePosition, le_div_iff₀ (by norm_num), ← Nat.cast_pred some_length]
      exact_mod_cast scaled
    have middle_le : xs.length / 2 ≤ ⌊percentilePosition xs.length 95⌋.toNat := by
      have floor : ((xs.length / 2 : ℕ) : ℤ) ≤ ⌊percentilePosition xs.length 95⌋ :=
        Int.le_floor.mpr (by exact_mod_cast position)
      omega
    have floorLe := Int.toNat_le_toNat (Int.floor_le_ceil (percentilePosition xs.length 95))
    have ordered := @getD_insertionSort_mono xs _ _ middle_le (by rw [List.length_insertionSort]; omega)
    exact (median_between found).2.trans (ordered.trans above)

end StarlinkTcp.Proof

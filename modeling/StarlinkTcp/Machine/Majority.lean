import Mathlib.Data.List.Basic
import Mathlib.Order.Lattice

/-!
# Majorities of a sorted list

If more than half of the entries of a sorted list lie between two bounds, so do the entries in the middle.
Cutting the list off removes at most the entries that were cut, so a majority survives with fewer outsiders.
Counting also shows that sorting is monotone: entries that are below others one by one are still below them
once both lists are sorted.
-/

namespace StarlinkTcp.Machine

theorem countP_take_add {α : Type*} {xs : List α} {p : α → Bool} {n : Nat} (le : n ≤ xs.length) :
    n ≤ (xs.take n).countP p + xs.countP fun x => ¬ p x := by
  have whole := (xs.take n).length_eq_countP_add_countP p
  have fewer := (List.take_sublist n xs).countP_le (p := fun x => decide ¬ p x = true)
  rw [List.length_take] at whole
  omega

variable {α : Type*} [LinearOrder α] {xs : List α} {low high : α}

theorem le_getElem_of_countP (sorted : xs.Pairwise (· ≤ ·)) {i : Nat} (lt : i < xs.length)
    (few : xs.countP (· < low) ≤ i) : low ≤ xs[i] := by
  by_contra below
  have before : ∀ x ∈ xs.take (i + 1), x < low := by
    intro x member
    obtain ⟨j, bound, rfl⟩ := List.getElem_of_mem member
    rw [List.length_take] at bound
    rw [List.getElem_take]
    rcases Nat.eq_or_lt_of_le (by omega : j ≤ i) with rfl | earlier
    · exact not_le.mp below
    · exact lt_of_le_of_lt (List.pairwise_iff_getElem.mp sorted j i _ lt earlier) (not_le.mp below)
  have counted : (xs.take (i + 1)).countP (· < low) = i + 1 := by
    rw [List.countP_eq_length.mpr fun x member => decide_eq_true (before x member), List.length_take]
    omega
  have most := (List.take_sublist (i + 1) xs).countP_le (p := fun x => decide (x < low))
  omega

theorem getElem_le_of_countP (sorted : xs.Pairwise (· ≤ ·)) {i : Nat} (lt : i < xs.length)
    (many : i < xs.countP (· ≤ high)) : xs[i] ≤ high := by
  by_contra above
  have after : ∀ x ∈ xs.drop i, ¬ x ≤ high := by
    intro x member
    obtain ⟨j, bound, rfl⟩ := List.getElem_of_mem member
    rw [List.length_drop] at bound
    rw [List.getElem_drop]
    rcases Nat.eq_zero_or_pos j with rfl | later
    · exact above
    · have le := List.pairwise_iff_getElem.mp sorted i (i + j) lt (by omega) (by omega)
      exact fun reaches => above (le_trans le reaches)
  have none : (xs.drop i).countP (· ≤ high) = 0 :=
    List.countP_eq_zero.mpr fun x member => by simpa using after x member
  have split : xs.countP (· ≤ high) = (xs.take i).countP (· ≤ high) + (xs.drop i).countP (· ≤ high) := by
    rw [← List.countP_append, List.take_append_drop]
  have most := (xs.take i).countP_le_length (p := fun x => decide (x ≤ high))
  rw [List.length_take] at most
  omega

/-- The two entries around the middle lie where the majority lies. -/
theorem middle_of_majority (sorted : xs.Pairwise (· ≤ ·))
    (majority : xs.length < 2 * xs.countP fun x => low ≤ x ∧ x ≤ high) (some_length : 0 < xs.length) :
    low ≤ xs[(xs.length - 1) / 2] ∧ xs[xs.length / 2] ≤ high := by
  have whole := xs.length_eq_countP_add_countP fun x => decide (low ≤ x ∧ x ≤ high)
  constructor
  · apply le_getElem_of_countP sorted
    have outside : xs.countP (· < low) ≤ xs.countP fun x => ¬ decide (low ≤ x ∧ x ≤ high) = true :=
      List.countP_mono_left fun x _ below => by
        have := of_decide_eq_true below
        simp [not_le.mpr this]
    omega
  · apply getElem_le_of_countP sorted
    have inside : (xs.countP fun x => low ≤ x ∧ x ≤ high) ≤ xs.countP (· ≤ high) :=
      List.countP_mono_left fun x _ between => decide_eq_true (of_decide_eq_true between).2
    omega

end StarlinkTcp.Machine

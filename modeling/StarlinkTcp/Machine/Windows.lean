import Mathlib.Algebra.Order.Group.Abs
import Mathlib.Algebra.Order.Group.Int
import Mathlib.Data.List.Chain
import Mathlib.Data.List.Flatten
import Mathlib.Data.List.Nodup
import Mathlib.Data.List.Sort

/-!
# Windows of indices around given places

The window around `c` holds the indices below `m` at a distance of at most `half`. Windows around several places
are read one after the other, so an index is read once for each place near it.
-/

namespace StarlinkTcp.Machine

def window (m : Nat) (half c : ℤ) : List Nat := (List.range m).filter fun i => |c - i| ≤ half

section
variable {m : Nat} {half : ℤ}

theorem mem_window {c : ℤ} {i : Nat} : i ∈ window m half c ↔ i < m ∧ |c - i| ≤ half := by
  simp [window]

theorem window_nodup {c : ℤ} : (window m half c).Nodup := List.nodup_range.filter _

theorem count_window {c : ℤ} {i : Nat} (lt : i < m) :
    (window m half c).count i = if |c - i| ≤ half then 1 else 0 := by
  by_cases near : |c - i| ≤ half
  · rw [if_pos near]
    exact List.count_eq_one_of_mem window_nodup (mem_window.mpr ⟨lt, near⟩)
  · rw [if_neg near]
    exact List.count_eq_zero.mpr fun member => near (mem_window.mp member).2

theorem count_windows {i : Nat} (lt : i < m) (centres : List ℤ) :
    (centres.flatMap (window m half)).count i = centres.countP fun c : ℤ => |c - i| ≤ half := by
  induction centres with
  | nil => rfl
  | cons c centres ih =>
      rw [List.flatMap_cons, List.count_append, count_window lt, ih, List.countP_cons, Nat.add_comm]
      simp

theorem window_disjoint_iff {a b : ℤ} (nonneg : 0 ≤ half) (lower : 0 ≤ a) (le : a ≤ b) (upper : b < m) :
    List.Disjoint (window m half a) (window m half b) ↔ 2 * half < b - a := by
  constructor
  · intro disjoint
    by_contra near
    -- the later window begins no later than the earlier one ends
    have shared : ((max a (b - half)).toNat : ℤ) = max a (b - half) := Int.toNat_of_nonneg (by omega)
    have valid : (max a (b - half)).toNat < m := by omega
    refine disjoint (mem_window.mpr ⟨valid, ?_⟩) (mem_window.mpr ⟨valid, ?_⟩)
    · rw [shared, abs_le]
      omega
    · rw [shared, abs_le]
      omega
  · intro far i first second
    have left := abs_le.mp (mem_window.mp first).2
    have right := abs_le.mp (mem_window.mp second).2
    omega

theorem windows_nodup_iff {centres : List ℤ} (nonneg : 0 ≤ half) (sorted : centres.Pairwise (· ≤ ·))
    (valid : ∀ c ∈ centres, 0 ≤ c ∧ c < m) :
    (centres.flatMap (window m half)).Nodup ↔ centres.IsChain fun a b => 2 * half < b - a := by
  let Far (a b : ℤ) : Prop := 2 * half < b - a
  have : IsTrans ℤ Far := ⟨fun a b c first second => by unfold Far at *; omega⟩
  have apart : centres.Pairwise (Function.onFun List.Disjoint (window m half)) ↔ centres.Pairwise Far := by
    constructor
    · intro disjoint
      refine (disjoint.and sorted).imp_of_mem fun first second both => ?_
      exact (window_disjoint_iff nonneg (valid _ first).1 both.2 (valid _ second).2).mp both.1
    · intro far
      refine (far.and sorted).imp_of_mem fun first second both => ?_
      exact (window_disjoint_iff nonneg (valid _ first).1 both.2 (valid _ second).2).mpr both.1
  rw [List.nodup_flatMap, and_iff_right fun _ _ => window_nodup, apart]
  exact List.isChain_iff_pairwise.symm

end

/-- The indices from `start` up to `stop` are the window around the middle. -/
theorem range_drop_take_eq_window {m a b : Nat} {half c : ℤ} (start : (a : ℤ) = max 0 (c - half))
    (stop : (b : ℤ) = min (m : ℤ) (c + half + 1)) : ((List.range m).take b).drop a = window m half c := by
  rw [List.take_range, List.range_eq_range', List.drop_range']
  refine List.Pairwise.eq_of_mem_iff (r := (· < ·)) List.pairwise_lt_range' (List.pairwise_lt_range.filter _) ?_
  intro i
  rw [List.mem_range'_1, mem_window, abs_le]
  omega

end StarlinkTcp.Machine

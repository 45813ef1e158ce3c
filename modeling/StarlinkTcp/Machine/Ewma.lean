import Mathlib.Logic.Function.Iterate
import Mathlib.Order.Monotone.Basic

/-!
# Moving averages in integer arithmetic

One update takes off the old value its `k`-th part and adds the `k`-th part of the sample, each rounded down
by itself. The roundings do not cancel, so the average of a constant sample stops short of it by less than `k`.
-/

namespace StarlinkTcp.Machine

def ewma (k old sample : Nat) : Nat := old - old / k + sample / k

section Update

variable {k old old' sample sample' : Nat}

theorem div_add_le (positive : 0 < k) (a d : Nat) : (a + d) / k ≤ a / k + d := by
  have scaled : a + d ≤ a + d * k := Nat.add_le_add_left (Nat.le_mul_of_pos_right d positive) a
  exact (Nat.div_le_div_right scaled).trans_eq (Nat.add_mul_div_right a d positive)

theorem sub_div_mono (positive : 0 < k) (le : old ≤ old') : old - old / k ≤ old' - old' / k := by
  obtain ⟨d, rfl⟩ := Nat.exists_eq_add_of_le le
  have step := div_add_le positive old d
  have part := Nat.div_le_self old k
  omega

theorem ewma_self (k x : Nat) : ewma k x x = x := Nat.sub_add_cancel (Nat.div_le_self x k)

theorem ewma_mono (positive : 0 < k) (le : old ≤ old') (le' : sample ≤ sample') :
    ewma k old sample ≤ ewma k old' sample' :=
  Nat.add_le_add (sub_div_mono positive le) (Nat.div_le_div_right le')

theorem le_ewma (positive : 0 < k) : min old sample ≤ ewma k old sample := by
  rw [← ewma_self k (min old sample)]
  exact ewma_mono positive (min_le_left _ _) (min_le_right _ _)

theorem ewma_le (positive : 0 < k) : ewma k old sample ≤ max old sample := by
  rw [← ewma_self k (max old sample)]
  exact ewma_mono positive (le_max_left _ _) (le_max_right _ _)

theorem ewma_ne_zero (two : 2 ≤ k) (nonzero : old ≠ 0) : ewma k old sample ≠ 0 := by
  have part := Nat.div_lt_self (Nat.pos_of_ne_zero nonzero) two
  exact Nat.ne_of_gt (Nat.add_pos_left (Nat.sub_pos_of_lt part) _)

theorem ewma_eq_self_iff : ewma k old sample = old ↔ old / k = sample / k := by
  have part := Nat.div_le_self old k
  unfold ewma
  omega

theorem natAbs_lt_of_div_eq (positive : 0 < k) (same : old / k = sample / k) :
    ((old : ℤ) - sample).natAbs < k := by
  have first := Nat.div_add_mod old k
  have second := Nat.div_add_mod sample k
  have below := Nat.mod_lt old positive
  have below' := Nat.mod_lt sample positive
  rw [same] at first
  omega

end Update

/-! ## Folding in the same sample -/

section Repeated

variable {k : Nat} (positive : 0 < k) (sample : Nat)
include positive

theorem ewma_rises {x : Nat} (below : x ≤ sample) : x ≤ ewma k x sample ∧ ewma k x sample ≤ sample := by
  have lower := @le_ewma k x sample positive
  have upper := @ewma_le k x sample positive
  rw [min_eq_left below] at lower
  rw [max_eq_right below] at upper
  exact ⟨lower, upper⟩

theorem ewma_falls {x : Nat} (above : sample ≤ x) : sample ≤ ewma k x sample ∧ ewma k x sample ≤ x := by
  have lower := @le_ewma k x sample positive
  have upper := @ewma_le k x sample positive
  rw [min_eq_right above] at lower
  rw [max_eq_left above] at upper
  exact ⟨lower, upper⟩

/-- As long as the average moves, each step brings it nearer to the sample. -/
theorem ewma_progress (x : Nat) : x / k = sample / k ∨
    ((ewma k x sample : ℤ) - sample).natAbs < ((x : ℤ) - sample).natAbs := by
  by_cases settled : ewma k x sample = x
  · exact .inl (ewma_eq_self_iff.mp settled)
  · right
    rcases Nat.le_total x sample with below | above
    · obtain ⟨lower, upper⟩ := ewma_rises positive sample below
      omega
    · obtain ⟨lower, upper⟩ := ewma_falls positive sample above
      omega

theorem ewma_iterate_between (old n : Nat) :
    (old ≤ sample → (fun x => ewma k x sample)^[n] old ≤ sample) ∧
    (sample ≤ old → sample ≤ (fun x => ewma k x sample)^[n] old) := by
  induction n with
  | zero => exact ⟨id, id⟩
  | succ n ih =>
      rw [Function.iterate_succ_apply']
      exact ⟨fun below => (ewma_rises positive sample (ih.1 below)).2,
        fun above => (ewma_falls positive sample (ih.2 above)).1⟩

theorem ewma_iterate_progress (old n : Nat) : ((fun x => ewma k x sample)^[n] old) / k = sample / k ∨
    (((fun x => ewma k x sample)^[n] old : ℕ) - sample : ℤ).natAbs + n ≤ ((old : ℤ) - sample).natAbs := by
  induction n with
  | zero => exact .inr le_rfl
  | succ n ih =>
      rw [Function.iterate_succ_apply']
      rcases ih with settled | moved
      · left
        rw [ewma_eq_self_iff.mpr settled]
        exact settled
      · rcases ewma_progress positive sample ((fun x => ewma k x sample)^[n] old) with settled | nearer
        · left
          rw [ewma_eq_self_iff.mpr settled]
          exact settled
        · right
          omega

theorem ewma_settled {old n : Nat} (enough : ((old : ℤ) - sample).natAbs ≤ n) :
    ((fun x => ewma k x sample)^[n] old) / k = sample / k := by
  rcases ewma_iterate_progress positive sample old n with settled | moved
  · exact settled
  · -- no way is left to go
    have same : (fun x => ewma k x sample)^[n] old = sample := by omega
    rw [same]

theorem ewma_stays {old n : Nat} (enough : ((old : ℤ) - sample).natAbs ≤ n) :
    (fun x => ewma k x sample)^[n + 1] old = (fun x => ewma k x sample)^[n] old := by
  rw [Function.iterate_succ_apply']
  exact ewma_eq_self_iff.mpr (ewma_settled positive sample enough)

end Repeated

/-! ## Ranges -/

/-- Some value lies at or below `x`, and some at or above it. -/
def Spans (values : List Nat) (x : Nat) : Prop := (∃ low ∈ values, low ≤ x) ∧ ∃ high ∈ values, x ≤ high

theorem Spans.append_left {values more : List Nat} {x : Nat} (spans : Spans values x) : Spans (values ++ more) x := by
  obtain ⟨⟨low, inLow, below⟩, high, inHigh, above⟩ := spans
  exact ⟨⟨low, List.mem_append_left _ inLow, below⟩, high, List.mem_append_left _ inHigh, above⟩

theorem Spans.of_last (values : List Nat) (x : Nat) : Spans (values ++ [x]) x :=
  ⟨⟨x, by simp, le_rfl⟩, x, by simp, le_rfl⟩

end StarlinkTcp.Machine

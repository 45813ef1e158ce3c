import Mathlib.Data.List.Basic
import StarlinkTcp.Machine.Fallible

/-!
# Interleavings

Two lists of inputs interleave the same streams if the inputs of every key come in the same order in both. If
steps on different keys commute up to a relation that the steps respect, the two runs end in related states.
-/

namespace StarlinkTcp.Machine

variable {State Input Error Key : Type}

def Interleaves [DecidableEq Key] (key : Input → Key) (xs ys : List Input) : Prop :=
  ∀ k, xs.filter (fun x => key x = k) = ys.filter fun y => key y = k

structure Exchanges (step : State → Input → Except Error State) (key : Input → Key)
    (same : State → State → Prop) : Prop where
  refl : ∀ s, same s s
  trans : ∀ {s t u}, same s t → same t u → same s u
  respects : ∀ {s s' t i}, same s s' → step s i = .ok t → ∃ t', step s' i = .ok t' ∧ same t t'
  commutes : ∀ {s t u i j}, key i ≠ key j → step s i = .ok t → step t j = .ok u →
    ∃ t' u', step s j = .ok t' ∧ step t' i = .ok u' ∧ same u u'

theorem Interleaves.symm [DecidableEq Key] {key : Input → Key} {xs ys : List Input}
    (interleaves : Interleaves key xs ys) : Interleaves key ys xs := fun k => (interleaves k).symm

theorem interleaves_append_comm [DecidableEq Key] {key : Input → Key} {xs ys : List Input}
    (apart : ∀ x ∈ xs, ∀ y ∈ ys, key x ≠ key y) : Interleaves key (xs ++ ys) (ys ++ xs) := by
  intro k
  rw [List.filter_append, List.filter_append]
  by_cases among : ∃ x ∈ xs, key x = k
  · obtain ⟨x, member, rfl⟩ := among
    have none : ys.filter (fun y => key y = key x) = [] :=
      List.filter_eq_nil_iff.mpr fun y other => by simpa using (apart x member y other).symm
    rw [none, List.append_nil, List.nil_append]
  · have none : xs.filter (fun x => key x = k) = [] :=
      List.filter_eq_nil_iff.mpr fun x member => by simpa using fun same => among ⟨x, member, same⟩
    rw [none, List.nil_append, List.append_nil]

/-- The first input of one list is the first of its stream in the other. -/
theorem Interleaves.uncons [DecidableEq Key] {key : Input → Key} {x : Input} {xs ys : List Input}
    (interleaves : Interleaves key (x :: xs) ys) :
    ∃ before after, ys = before ++ x :: after ∧ (∀ y ∈ before, key y ≠ key x) ∧
      Interleaves key xs (before ++ after) := by
  have own := interleaves (key x)
  rw [List.filter_cons, if_pos (decide_eq_true rfl)] at own
  obtain ⟨before, after, rfl, others, -, rest⟩ := List.filter_eq_cons_iff.mp own.symm
  have foreign : ∀ y ∈ before, key y ≠ key x := fun y member => by simpa using others y member
  refine ⟨before, after, rfl, foreign, fun k => ?_⟩
  rw [List.filter_append]
  by_cases same : key x = k
  · subst same
    rw [List.filter_eq_nil_iff.mpr others, List.nil_append, rest]
  · have all := interleaves k
    rw [List.filter_cons, if_neg (by simpa using same), List.filter_append, List.filter_cons,
      if_neg (by simpa using same)] at all
    exact all

namespace Exchanges

variable {step : State → Input → Except Error State} {key : Input → Key} {same : State → State → Prop}
variable (exchanges : Exchanges step key same) {s s' t : State} {xs ys : List Input}

include exchanges

theorem run_respects (start : same s s') (ok : xs.foldlM step s = .ok t) :
    ∃ t', xs.foldlM step s' = .ok t' ∧ same t t' := by
  induction xs generalizing s s' with
  | nil =>
      cases ok
      exact ⟨s', rfl, start⟩
  | cons x xs ih =>
      obtain ⟨middle, first, rest⟩ := bind_eq_ok.mp ok
      obtain ⟨middle', first', related⟩ := exchanges.respects start first
      obtain ⟨t', rest', final⟩ := ih related rest
      exact ⟨t', bind_eq_ok.mpr ⟨middle', first', rest'⟩, final⟩

/-- An input may wait until inputs of other streams have been read. -/
theorem postpone {x : Input} (foreign : ∀ y ∈ xs, key y ≠ key x) (ok : (x :: xs).foldlM step s = .ok t) :
    ∃ t', (xs ++ [x]).foldlM step s = .ok t' ∧ same t t' := by
  induction xs generalizing s t with
  | nil => exact ⟨t, ok, exchanges.refl t⟩
  | cons y xs ih =>
      obtain ⟨early, first, ok⟩ := bind_eq_ok.mp ok
      obtain ⟨both, second, rest⟩ := bind_eq_ok.mp ok
      obtain ⟨early', both', second', first', related⟩ :=
        exchanges.commutes (foreign y List.mem_cons_self).symm first second
      obtain ⟨u, rest', final⟩ := exchanges.run_respects related rest
      obtain ⟨u', postponed, last⟩ := ih (fun z member => foreign z (List.mem_cons_of_mem _ member))
        (bind_eq_ok.mpr ⟨both', first', rest'⟩)
      exact ⟨u', bind_eq_ok.mpr ⟨early', second', postponed⟩, exchanges.trans final last⟩

theorem run_interleaves [DecidableEq Key] (interleaves : Interleaves key xs ys) (ok : xs.foldlM step s = .ok t) :
    ∃ t', ys.foldlM step s = .ok t' ∧ same t t' := by
  induction xs generalizing ys s with
  | nil =>
      have none : ys = [] := by
        cases ys with
        | nil => rfl
        | cons y ys =>
            have own := interleaves (key y)
            rw [List.filter_nil, List.filter_cons, if_pos (decide_eq_true rfl)] at own
            cases own
      subst none
      exact ⟨t, ok, exchanges.refl t⟩
  | cons x xs ih =>
      obtain ⟨before, after, rfl, foreign, rest⟩ := interleaves.uncons
      obtain ⟨early, first, ok⟩ := bind_eq_ok.mp ok
      obtain ⟨u, others, related⟩ := ih rest ok
      rw [List.foldlM_append] at others
      obtain ⟨middle, left, right⟩ := bind_eq_ok.mp others
      obtain ⟨middle', postponed, moved⟩ := exchanges.postpone foreign (bind_eq_ok.mpr ⟨early, first, left⟩)
      obtain ⟨u', right', final⟩ := exchanges.run_respects moved right
      refine ⟨u', ?_, exchanges.trans related final⟩
      rw [List.append_cons, List.foldlM_append]
      exact bind_eq_ok.mpr ⟨middle', postponed, right'⟩

end Exchanges

end StarlinkTcp.Machine

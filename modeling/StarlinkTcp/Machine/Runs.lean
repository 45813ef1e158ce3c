import Mathlib.Order.Basic
import Mathlib.Data.Nat.Init

/-!
# Runs of a deterministic step function

A run is given by its start and by what arrives at each step. `runState step start inputs n` is the
state before step `n`. The rules below turn one-step facts into facts about every run.
-/

namespace StarlinkTcp.Machine

variable {State Input : Type*}

def runState (step : State → Input → State) (start : State) (inputs : Nat → Input) : Nat → State
  | 0 => start
  | n + 1 => step (runState step start inputs n) (inputs n)

theorem runState_invariant {step : State → Input → State} {start : State} {inputs : Nat → Input}
    (invariant : Nat → State → Prop) (initial : invariant 0 start)
    (preserved : ∀ n state, invariant n state → invariant (n + 1) (step state (inputs n))) (n : Nat) :
    invariant n (runState step start inputs n) := by
  induction n with
  | zero => exact initial
  | succ n ih => exact preserved n _ ih

theorem runState_related {step : State → Input → State} {start start' : State}
    {inputs inputs' : Nat → Input} (related : State → State → Prop) (initial : related start start')
    (kept : ∀ n, related (runState step start inputs n) (runState step start' inputs' n) →
      related (step (runState step start inputs n) (inputs n))
        (step (runState step start' inputs' n) (inputs' n))) (n : Nat) :
    related (runState step start inputs n) (runState step start' inputs' n) := by
  induction n with
  | zero => exact initial
  | succ n ih => exact kept n ih

/-- The steps of a run that count. -/
def counted (counts : Nat → Bool) : Nat → Nat
  | 0 => 0
  | n + 1 => counted counts n + if counts n then 1 else 0

/-- A run in which every step that counts reaches the goal or makes one unit of progress. -/
theorem goal_or_progress {states : Nat → State} {goal : Nat → Prop} {counts : Nat → Bool}
    (progress : Nat → State → Prop) (initial : progress 0 (states 0)) {n : Nat}
    (step : ∀ k < n, ∀ units, progress units (states k) →
      goal k ∨ progress (units + if counts k then 1 else 0) (states (k + 1))) :
    (∃ k < n, goal k) ∨ progress (counted counts n) (states n) := by
  induction n with
  | zero => exact .inr initial
  | succ n ih =>
      rcases ih fun k lt => step k (Nat.lt_succ_of_lt lt) with ⟨k, lt, reached⟩ | before
      · exact .inl ⟨k, Nat.lt_succ_of_lt lt, reached⟩
      · rcases step n (Nat.lt_succ_self n) _ before with reached | after
        · exact .inl ⟨n, Nat.lt_succ_self n, reached⟩
        · exact .inr after

end StarlinkTcp.Machine

import Mathlib.Order.Nat
import Mathlib.Data.Nat.Find

/-!
# Schedules of system calls

A call that moves bytes is interrupted, fails, or moves some of the bytes asked for. A schedule fixes the
outcome of every call in advance. A fair one never fails, never moves nothing, and interrupts finitely often
in a row.
-/

namespace StarlinkTcp.Machine

inductive CallOutcome where
  | interrupted
  | failed
  | transfers (limit : Nat)
deriving DecidableEq, Repr

structure FairSchedule where
  outcome : Nat → CallOutcome
  works : ∀ i, outcome i ≠ .failed
  moves : ∀ i limit, outcome i = .transfers limit → 0 < limit
  returns : ∀ i, ∃ j, i ≤ j ∧ outcome j ≠ .interrupted

/-- Every other call is interrupted, and the others move one byte. -/
instance : Inhabited FairSchedule where
  default :=
    { outcome := fun i => if i % 2 = 0 then .interrupted else .transfers 1
      works := by
        intro i
        split <;> simp
      moves := by
        intro i limit
        split
        · simp
        · rintro ⟨⟩
          decide
      returns := by
        intro i
        refine ⟨2 * i + 1, by omega, ?_⟩
        rw [if_neg (by omega)]
        simp }

theorem interrupted_succ {outcome : Nat → CallOutcome} {i d : Nat}
    (interrupted : ∀ l < d + 1, outcome (i + l) = .interrupted) :
    outcome i = .interrupted ∧ ∀ l < d, outcome (i + 1 + l) = .interrupted := by
  refine ⟨interrupted 0 (Nat.succ_pos d), fun l lt => ?_⟩
  have next := interrupted (l + 1) (Nat.succ_lt_succ lt)
  rwa [Nat.add_comm l 1, ← Nat.add_assoc] at next

/-- From any call on, some interrupted calls are followed by one that moves bytes. -/
theorem FairSchedule.exists_transfer (schedule : FairSchedule) (i : Nat) :
    ∃ d limit, (∀ l < d, schedule.outcome (i + l) = .interrupted) ∧
      schedule.outcome (i + d) = .transfers limit ∧ 0 < limit := by
  have later : ∃ d, schedule.outcome (i + d) ≠ .interrupted := by
    obtain ⟨j, le, done⟩ := schedule.returns i
    exact ⟨j - i, by rwa [Nat.add_sub_cancel' le]⟩
  refine ⟨Nat.find later, ?_⟩
  have done := Nat.find_spec later
  have before := fun l lt => not_not.mp (Nat.find_min later (m := l) lt)
  cases outcome : schedule.outcome (i + Nat.find later) with
  | interrupted => exact absurd outcome done
  | failed => exact absurd outcome (schedule.works _)
  | transfers limit => exact ⟨limit, before, rfl, schedule.moves _ _ outcome⟩

end StarlinkTcp.Machine

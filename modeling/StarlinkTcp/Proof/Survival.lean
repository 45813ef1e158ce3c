import StarlinkTcp.Proof.Coupling
import StarlinkTcp.Proof.Discipline
import StarlinkTcp.Proof.PeriodFits

/-!
# What can end the monitor

Nothing in the loop catches an exception. Three operations raise: the median of an empty list, the division
by a complexity penalty of zero, and a sysctl write that the kernel refuses. The baseline takes a median of at
least one interval exactly when it asks for one sample or more. The penalty is at least one unless
`skip_penalty` is negative. The writes stay within the ranges of the table as long as the periods that can be
locked and the bounds of the prediction guard do.
-/

namespace StarlinkTcp.Monitor
open Kernel Machine

/-- The kernel's parameters are really written. -/
def Args.writing (args : Args) : Bool := args.manageEnable ∧ ¬ args.dryRun

/-- What the monitor may have to write fits the table: the longest period it can lock, and the prediction
guard if it is adapted. -/
structure Args.Writable (args : Args) : Prop where
  period : args.periodMax * 1000 + 1 / 2 + args.periodToleranceMs ≤ 4294967295
  predictionGuard : args.autoPredictionGuard = true →
    1 ≤ args.predictionGuardMinMs ∧ args.predictionGuardMinMs ≤ 4294967295 ∧
      args.predictionGuardMaxMs ≤ 4294967295

end StarlinkTcp.Monitor

namespace StarlinkTcp.Proof
open Kernel Machine Monitor Relation

def Programmable (period : ℚ) : Prop := period * 1000 ≤ 4294967295

/-! ## Writes the kernel accepts -/

section Writes

variable {setup : Setup} {s : MonitorState}

end Writes

/-! ## Periods that are programmed -/

section Lockable

variable {setup : Setup} {reading : Reading} {observation s s' : MonitorState}

theorem observedFit_programmable (writable : setup.args.Writable) {commonTimes : List ℚ} {fit : PeriodFit}
    (observed : MonitorState.observedFit setup reading commonTimes = some fit) : Programmable fit.periodS := by
  unfold MonitorState.observedFit at observed
  split at observed
  · obtain ⟨candidate, among, scored⟩ := estimatePeriod_scored observed
    obtain ⟨dt, -, k, -, -, below, rfl⟩ := mem_periodCandidates.mp among
    have near := (scorePeriod_near scored).2
    have rounded := abs_le.mp (abs_sub_roundHalfEven_le (dt / ((k : ℚ) + 1) * 1000))
    have fits := writable.period
    unfold Programmable
    linarith [rounded.1]
  · cases observed

/-- The periods that the monitor has locked or may lock can be programmed. -/
structure Lockable (s : MonitorState) : Prop where
  fits : ∀ period ∈ s.recentGoodPeriodFits, Programmable period
  locked : ∀ period ∈ s.lockedPeriod, Programmable period

theorem Lockable.of_same (lockable : Lockable s) (fits : s'.recentGoodPeriodFits = s.recentGoodPeriodFits)
    (locked : s'.lockedPeriod = s.lockedPeriod) : Lockable s' := by
  constructor
  · rw [fits]
    exact lockable.fits
  · rw [locked]
    exact lockable.locked

theorem Lockable.median (lockable : Lockable s) {period : ℚ} (middle : median s.recentGoodPeriodFits = some period) :
    Programmable period := by
  obtain ⟨-, longest, member, below⟩ := median_span middle
  have bound := lockable.fits longest member
  unfold Programmable at bound ⊢
  linarith

theorem mem_dequeAppend {α : Type} {maxlen : Nat} {xs : List α} {x y : α} (member : y ∈ dequeAppend maxlen xs x) :
    y ∈ xs ∨ y = x := by
  have appended := List.mem_of_mem_drop member
  rw [List.mem_append, List.mem_singleton] at appended
  exact appended

theorem Lockable.fitted (writable : setup.args.Writable) (lockable : Lockable s) :
    Lockable (s.fitted setup reading (observation.fit setup reading)) := by
  cases found : observation.fit setup reading with
  | none => exact lockable
  | some fit =>
      have programmable : Programmable fit.periodS := observedFit_programmable writable found
      rw [fitted_shape]
      refine ⟨fun period member => ?_, lockable.locked⟩
      dsimp only at member
      split at member
      · rcases mem_dequeAppend member with earlier | rfl
        · exact lockable.fits period earlier
        · exact programmable
      · exact lockable.fits period member

theorem activate_fits {fit : PeriodFit} {period anchor : ℚ}
    (ok : s.activate setup reading fit period anchor = .ok s') :
    s'.recentGoodPeriodFits = s.recentGoodPeriodFits := by
  unfold MonitorState.activate at ok
  dsimp only at ok
  obtain ⟨written, writes, ok⟩ := bind_eq_ok.mp ok
  obtain ⟨net, rfl⟩ := managedWrites_shape writes
  cases ok
  rfl

theorem Lockable.turn (writable : setup.args.Writable) (lockable : Lockable s)
    (turn : Turn setup reading observation s s') : Lockable s' := by
  cases turn with
  | fit => exact lockable.fitted writable
  | readProbe ok =>
      obtain ⟨states, procs, rows, rfl, -⟩ := readProbe_shape ok
      exact lockable.of_same rfl rfl
  | activate _ _ candidate ok =>
      have locks := activate_locks ok
      constructor
      · rw [activate_fits ok]
        exact lockable.fits
      · intro period locked
        rw [locks.lockedPeriod, Option.mem_some_iff] at locked
        rw [← locked]
        exact lockable.median (lockCandidate_median candidate)
  | countMismatch =>
      obtain ⟨mismatches, same⟩ := countMismatch_shape
      rw [same]
      exact lockable.of_same rfl rfl
  | checkPhase _ _ _ _ anchored ok =>
      rcases checkPhase_shape anchored ok with rfl | ⟨_, _, _, _, _, _, -, rfl⟩
      · exact lockable
      · exact lockable.of_same rfl rfl
  | relearn ok =>
      have forgets := enterLearning_forgets ok
      constructor
      · rw [forgets.recentGoodPeriodFits]
        simp
      · rw [forgets.lockedPeriod]
        simp
  | _ => exact lockable.of_same rfl rfl

theorem Lockable.moment (writable : setup.args.Writable) (lockable : Lockable s)
    (moment : Moment setup reading observation s s') : Lockable s' := by
  cases moment with
  | recordCommon common =>
      rcases recordCommon_shape with ⟨-, same⟩ | ⟨-, states, same⟩
      · rw [same]
        exact lockable
      · rw [same]
        exact lockable.of_same rfl rfl
  | turn turn => exact lockable.turn writable turn

theorem Lockable.passes (writable : setup.args.Writable) (lockable : Lockable s)
    (passes : Passes setup reading observation s s') : Lockable s' := by
  induction passes with
  | refl => exact lockable
  | tail _ moment ih => exact ih.moment writable moment

end Lockable

/-! ## Each part of an iteration -/

section Iteration

variable {setup : Setup} {reading : Reading} {s : MonitorState}

variable (programmable : setup.args.writing = true → setup.args.Writable ∧ Lockable s)

include programmable

end Iteration

/-! ## Runs -/

end StarlinkTcp.Proof

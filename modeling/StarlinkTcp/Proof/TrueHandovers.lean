import StarlinkTcp.Proof.Coupling
import StarlinkTcp.Proof.Coverage
import StarlinkTcp.Proof.MonitorLattice
import StarlinkTcp.Proof.SafeShrink
import Mathlib.Tactic.LinearCombination

/-!
# True handovers

A handover comes earlier or later than the boundary the kernel expects it at: by the error of the monitor's
prediction, by the rounding of the anchor, and by that of the period in every cycle since. As long as the
prediction guard makes up for all three, DRAIN has begun its full length before the window of the true
handover is due, and OUTAGE is not over before its own length less the guard.
-/

namespace StarlinkTcp.Monitor

/-- How far the boundary of a cycle is from the true handover, in microseconds, if the monitor predicts the
handover up to `errorS`. -/
def boundaryErrorUs (lockedPeriod errorS : ℚ) (cycle : ℤ) : ℚ :=
  10 ^ 6 * errorS + 500 + 1000 * (|cycle| * |(periodMs lockedPeriod : ℚ) - lockedPeriod * 1000|)

end StarlinkTcp.Monitor

namespace StarlinkTcp.Proof
open Kernel Machine Monitor

/-- The sysctls hold the lattice of the monitor. -/
structure OnLattice (net : Net) (lockedPeriod anchor : ℚ) : Prop where
  periodMs : (net.tcpLeoRwndPeriodMs.toNat : ℤ) = periodMs lockedPeriod
  offsetMs : (net.tcpLeoRwndOffsetMs.toNat : ℤ) = offsetMs lockedPeriod anchor

/-- The snapshot in force after the freeze decision, or the one that a freeze would take now. -/
def Callback.plan (c : Callback) (st : LeoState) : LeoState :=
  if (c.decided st).frozen then c.decided st
  else leoFreezeParameters c.net c.sk c.normalWin c.nowUs (c.ready st)

/-- A snapshot is in force and the window at its minimum, or as near as the data that has arrived since PRE
began allows. -/
structure Callback.Closed (c : Callback) (st : LeoState) : Prop where
  inForce : (c.report st).state.frozen = true
  phase : (c.report st).phase = .drain ∨ (c.report st).phase = .outage
  window : c.window st = min (leoSafeTarget c.sk (c.report st).state (c.report st).state.frozenMinRwnd) c.normalWin

/-! ## The kernel's boundary and the handover -/

section Boundary

variable {lockedPeriod anchor : ℚ}

theorem OnLattice.periodUs {net : Net} (lattice : OnLattice net lockedPeriod anchor) :
    ((leoPeriodUs net).toNat : ℤ) = 1000 * Monitor.periodMs lockedPeriod := by
  rw [leoPeriodUs_toNat, ← lattice.periodMs]
  push_cast
  ring

theorem kernelBoundaryMs_pred (cycle : ℤ) :
    kernelBoundaryMs lockedPeriod anchor (cycle - 1) =
      kernelBoundaryMs lockedPeriod anchor cycle - periodMs lockedPeriod := by
  unfold kernelBoundaryMs
  ring

theorem boundary_near {handover errorS : ℚ} {cycle : ℤ}
    (predicted : |handover - (anchor + cycle * lockedPeriod)| ≤ errorS) :
    |1000 * (kernelBoundaryMs lockedPeriod anchor cycle : ℚ) - 10 ^ 6 * handover| ≤
      boundaryErrorUs lockedPeriod errorS cycle := by
  have rounded := abs_anchorMs_sub_le anchor
  have drift := abs_mul (cycle : ℚ) (periodMs lockedPeriod - lockedPeriod * 1000)
  have apart := @boundary_sub_predicted lockedPeriod anchor cycle
  rw [predictedEventMs] at apart
  have split : 1000 * (kernelBoundaryMs lockedPeriod anchor cycle : ℚ) - 10 ^ 6 * handover =
      1000 * (anchorMs anchor - anchor * 1000) +
        1000 * (cycle * (periodMs lockedPeriod - lockedPeriod * 1000)) -
        10 ^ 6 * (handover - (anchor + cycle * lockedPeriod)) := by
    linarith
  rw [split, boundaryErrorUs, Int.cast_abs, ← drift]
  obtain ⟨anchorBelow, anchorAbove⟩ := abs_le.mp rounded
  obtain ⟨errorBelow, errorAbove⟩ := abs_le.mp predicted
  obtain ⟨driftBelow, driftAbove⟩ :=
    abs_le.mp (le_refl |(cycle : ℚ) * (periodMs lockedPeriod - lockedPeriod * 1000)|)
  rw [abs_le]
  constructor <;> linarith

variable {net : Net} {nowUs : UInt64}

theorem nextHandoverUs_lattice (lattice : OnLattice net lockedPeriod anchor) (period : 0 < net.tcpLeoRwndPeriodMs)
    (real : RealUs nowUs) {cycle : ℤ} (before : (nowUs.toNat : ℤ) < 1000 * kernelBoundaryMs lockedPeriod anchor cycle)
    (within : 1000 * kernelBoundaryMs lockedPeriod anchor cycle ≤ nowUs.toNat + (leoPeriodUs net).toNat) :
    (nextHandoverUs net nowUs : ℤ) = 1000 * kernelBoundaryMs lockedPeriod anchor cycle := by
  have positive := leoPeriodUs_pos period
  have width := lattice.periodUs
  have start : ((leoOffsetUs net).toNat : ℤ) = 1000 * offsetMs lockedPeriod anchor := by
    rw [leoOffsetUs_toNat, ← lattice.offsetMs]
    push_cast
    ring
  have inside : (leoOffsetUs net).toNat < (leoPeriodUs net).toNat := by
    have remainder := Int.emod_lt_of_pos (anchorMs anchor) (periodMs_pos lockedPeriod)
    have offset : offsetMs lockedPeriod anchor < periodMs lockedPeriod := remainder
    omega
  -- the anchor is `anchorMs / periodMs` whole periods past the offset
  have aligned : (((leoOffsetUs net).toNat % (leoPeriodUs net).toNat : ℕ) : ℤ) +
      (anchorMs anchor / periodMs lockedPeriod + cycle) * (leoPeriodUs net).toNat =
        1000 * kernelBoundaryMs lockedPeriod anchor cycle := by
    have whole := Int.mul_ediv_add_emod (anchorMs anchor) (periodMs lockedPeriod)
    rw [Nat.mod_eq_of_lt inside, start, width, kernelBoundaryMs, offsetMs]
    linear_combination 1000 * whole
  rw [← aligned] at before within ⊢
  unfold nextHandoverUs
  rw [leoPeriodId_toNat period real]
  exact Lattice.boundary_index_eq positive before within

end Boundary

/-! ## The plan of a callback -/

section Timeline

theorem outageEndUs_toNat (net : Net) (st : LeoState) :
    (leoTimeline net st).outageEndUs.toNat =
      (leoTimeline net st).outageStartUs.toNat + st.frozenOutageUs.toNat := by
  obtain ⟨start, -, -⟩ := leoTimeline_toNat net st
  have period := leoPeriodUs_toNat net
  have word := net.tcpLeoRwndPeriodMs.toNat_lt
  have outage := st.frozenOutageUs.toNat_lt
  have ends : (leoTimeline net st).outageEndUs =
      (leoTimeline net st).outageStartUs + st.frozenOutageUs.toUInt64 := rfl
  rw [ends, UInt64.toNat_add, UInt32.toNat_toUInt64]
  omega

/-- Between the start of DRAIN and the end of OUTAGE. -/
theorem closed_stage {timeline : LeoTimeline} {periodUs posUs : UInt64}
    (ordered : timeline.preStartUs ≤ timeline.drainStartUs) (started : timeline.drainStartUs ≤ posUs)
    (going : posUs < timeline.outageEndUs) (inside : posUs < periodUs) :
    (scheduledStage timeline periodUs posUs).phase = .drain ∨
      (scheduledStage timeline periodUs posUs).phase = .outage := by
  unfold scheduledStage
  rw [if_neg (UInt64.not_lt.mpr (UInt64.le_trans ordered started)), if_neg (UInt64.not_lt.mpr started)]
  split
  · exact .inl rfl
  · have before : posUs < min timeline.outageEndUs periodUs := by
      rw [UInt64.lt_iff_toNat_lt, UInt64.toNat_min]
      exact lt_min going inside
    rw [if_pos before]
    exact .inr rfl

end Timeline

namespace SteadyRun

variable {net : Net} {gapUs : Nat} {callbacks : Nat → Callback} (steady : SteadyRun net gapUs callbacks) {k : Nat}

include steady

/-- Every plan is a snapshot that some callback takes or has taken. -/
theorem plan_snapshot : ∃ i ≤ k, ∃ st, ((callbacks k).plan (controllerRun callbacks k)).snapshot =
    (leoFreezeParameters net (callbacks i).sk (callbacks i).normalWin (callbacks i).nowUs st).snapshot := by
  have runs := steady.runs k
  unfold Callback.plan
  split
  · rename_i frozen
    have snapshot := Callback.report_snapshot runs (controllerRun callbacks k)
    rw [← controllerRun_of_runs runs] at snapshot
    have inForce : (controllerRun callbacks (k + 1)).frozen = true :=
      (congrArg LeoSnapshot.frozen snapshot).trans frozen
    obtain ⟨i, lt, held⟩ := heldFrom_of_frozen inForce
    obtain ⟨st, taken⟩ := snapshot_of_freeze held.1
    refine ⟨i, Nat.le_of_lt_succ lt, st, ?_⟩
    rw [← snapshot, held.snapshot_eq lt, taken, steady.fixed i]
  · exact ⟨k, le_rfl, _, by rw [steady.fixed k]⟩

theorem plan_guard : ((callbacks k).plan (controllerRun callbacks k)).frozenPredictionGuardUs =
    leoPredictionGuardUs net := by
  obtain ⟨i, -, st, snapshot⟩ := @plan_snapshot _ _ _ steady k
  exact congrArg LeoSnapshot.predictionGuardUs snapshot

theorem plan_outage_le : ((callbacks k).plan (controllerRun callbacks k)).frozenOutageUs ≤
    ((callbacks k).plan (controllerRun callbacks k)).frozenRttHalfUs := by
  obtain ⟨i, -, st, snapshot⟩ := @plan_snapshot _ _ _ steady k
  have outage := congrArg LeoSnapshot.outageUs snapshot
  have half := congrArg LeoSnapshot.rttHalfUs snapshot
  simp only [LeoState.snapshot] at outage half
  rw [outage, half]
  exact @frozenOutage_le net ⟨(callbacks i).sk, (callbacks i).normalWin, (callbacks i).nowUs, st⟩

/-- Once the longest ramp is over, the plan is in force, or its timeline has not begun. -/
theorem plan_cases (settled : nextHandoverUs net (callbacks k).nowUs + gapUs + longestRecoveryUs net ≤
      (callbacks k).nowUs.toNat + (leoPeriodUs net).toNat) :
    ((callbacks k).decided (controllerRun callbacks k)).frozen = true ∧
        ((callbacks k).decided (controllerRun callbacks k)).frozenPeriodId = leoPeriodId net (callbacks k).nowUs ∧
        (callbacks k).plan (controllerRun callbacks k) = (callbacks k).decided (controllerRun callbacks k) ∨
      leoPeriodPositionUs net (callbacks k).nowUs <
        (leoTimeline net ((callbacks k).plan (controllerRun callbacks k))).preStartUs := by
  have schedule := steady.schedule
  have runs := steady.runs k
  have snapshot := Callback.report_snapshot runs (controllerRun callbacks k)
  rw [← controllerRun_of_runs runs] at snapshot
  by_cases frozen : ((callbacks k).decided (controllerRun callbacks k)).frozen = true
  · have inForce : (controllerRun callbacks (k + 1)).frozen = true :=
      (congrArg LeoSnapshot.frozen snapshot).trans frozen
    obtain ⟨i, lt, held⟩ := heldFrom_of_frozen inForce
    have same := steady.periodId_of_held held (Nat.le_of_lt_succ lt) settled
    have periodId := congrArg LeoSnapshot.periodId snapshot
    exact .inl ⟨frozen, periodId.symm.trans same, if_pos frozen⟩
  · right
    rw [Callback.plan, if_neg frozen, steady.fixed k]
    by_contra reached
    have due := leoFreezeDue_of_preStart_le schedule.period (Callback.nowUs_real _)
      (freezeGuard_nonneg steady.admissible) (UInt64.not_lt.mp reached)
    rcases Callback.decided_cases runs (controllerRun callbacks k) with
      ⟨-, froze⟩ | ⟨-, -, inForce, -, kept⟩ | ⟨early, unfrozen, -⟩
    · rw [froze] at frozen
      exact frozen rfl
    · rw [kept] at frozen
      exact frozen inForce
    · have freezes := Callback.freezes_of_due runs (schedule.periodUs_ne_zero k) unfrozen
        (by rw [steady.fixed k]; exact due)
      simp [early] at freezes

/-- In the interval that a plan reserves for DRAIN and OUTAGE, the window is closed. -/
theorem plan_closed {plan : LeoState} (planned : (callbacks k).plan (controllerRun callbacks k) = plan)
    (settled : nextHandoverUs net (callbacks k).nowUs + gapUs + longestRecoveryUs net ≤
      (callbacks k).nowUs.toNat + (leoPeriodUs net).toNat)
    (draining : nextHandoverUs net (callbacks k).nowUs ≤ (callbacks k).nowUs.toNat +
      plan.frozenRttHalfUs.toNat + plan.frozenDrainUs.toNat + plan.frozenPredictionGuardUs.toNat)
    (going : (callbacks k).nowUs.toNat + plan.frozenRttHalfUs.toNat <
      nextHandoverUs net (callbacks k).nowUs + plan.frozenOutageUs.toNat) :
    (callbacks k).Closed (controllerRun callbacks k) := by
  have period := steady.schedule.period
  have runs := steady.runs k
  have inside := leoPeriodPositionUs_lt period (Callback.nowUs_real (callbacks k))
  have width := UInt64.lt_iff_toNat_lt.mp inside
  have ends := nextHandoverUs_eq period (Callback.nowUs_real (callbacks k))
  obtain ⟨outage, drain, -⟩ := leoTimeline_toNat net plan
  obtain ⟨preFirst, -⟩ := leoTimeline_ordered net plan
  have finish := outageEndUs_toNat net plan
  have begun : (leoTimeline net plan).drainStartUs ≤ leoPeriodPositionUs net (callbacks k).nowUs := by
    rw [UInt64.le_iff_toNat_le]
    omega
  have before : leoPeriodPositionUs net (callbacks k).nowUs < (leoTimeline net plan).outageEndUs := by
    rw [UInt64.lt_iff_toNat_lt]
    omega
  have phase : ((callbacks k).report (controllerRun callbacks k)).phase = .drain ∨
      ((callbacks k).report (controllerRun callbacks k)).phase = .outage := by
    rcases steady.plan_cases settled with ⟨frozen, same, inForce⟩ | early
    · rw [← planned, inForce] at begun before preFirst
      rw [Callback.report_phase, steady.fixed k,
        leoPhase_of_same_period frozen (leoPeriodUs_ne_zero period) same.symm, leoScheduledPhase_phase]
      exact closed_stage preFirst begun before inside
    · rw [planned] at early
      exact absurd (UInt64.le_trans preFirst begun) (UInt64.not_le.mpr early)
  have inForce := (Callback.report_of_shrinking runs
    (phase.elim (fun drain => .inr (.inl drain)) fun outage => .inr (.inr outage))).1
  refine ⟨inForce, phase, ?_⟩
  rw [Callback.window_of_runs runs, Callback.report_target]
  rcases phase with drain | outage
  · rw [drain]
    rfl
  · rw [outage]
    rfl

end SteadyRun

/-- If the prediction guard makes up for the error of a predicted handover, every callback of a kernel that the
monitor has programmed finds the window closed from DRAIN and half an RTT before the true handover on, until
OUTAGE less the guard is over, once the ramp after the previous boundary is behind it. -/
theorem true_handovers_met (setup : Setup) (managed : setup.args.manageEnable = true)
    (live : setup.args.dryRun = false) (net : Net) (startWall startMono : ℚ) (starts : Starts)
    (first s : MonitorState) (started : start setup net startWall startMono starts = .ok (some first))
    (reached : Reaches (MonitorState.iteration setup) first s) (lockedPeriod anchor : ℚ) (active : s.active = true)
    (locked : s.lockedPeriod = some lockedPeriod) (anchored : s.phaseAnchor = some anchor)
    (gapUs : Nat) (callbacks : Nat → Callback) (steady : SteadyRun s.net gapUs callbacks)
    (handover errorS : ℚ) (cycle : ℤ) (predicted : |handover - (anchor + cycle * lockedPeriod)| ≤ errorS)
    (guarded : boundaryErrorUs lockedPeriod errorS cycle ≤ (leoPredictionGuardUs s.net).toNat) (k : Nat) :
    let nowUs : ℚ := (callbacks k).nowUs.toNat
    let guardUs : ℚ := (leoPredictionGuardUs s.net).toNat
    let plan := (callbacks k).plan (controllerRun callbacks k)
    1000 * (kernelBoundaryMs lockedPeriod anchor (cycle - 1) : ℚ) + gapUs + longestRecoveryUs s.net ≤ nowUs →
    10 ^ 6 * handover ≤ nowUs + plan.frozenRttHalfUs.toNat + plan.frozenDrainUs.toNat →
    nowUs + plan.frozenRttHalfUs.toNat + guardUs < 10 ^ 6 * handover + plan.frozenOutageUs.toNat →
    (callbacks k).Closed (controllerRun callbacks k) := by
  intro nowUs guardUs plan settled draining going
  have coupled := (reaches_transition managed live reached).coupled (start_coupled managed live started)
  obtain ⟨-, -, period, at_anchor, samePeriod, sameAnchor, periodWord, offsetWord, -⟩ := coupled.programmed active
  cases samePeriod.symm.trans locked
  cases sameAnchor.symm.trans anchored
  have guard : plan.frozenPredictionGuardUs = leoPredictionGuardUs s.net := steady.plan_guard
  have short := UInt32.le_iff_toNat_le.mp (@SteadyRun.plan_outage_le _ _ _ steady k)
  have shortQ : (plan.frozenOutageUs.toNat : ℚ) ≤ plan.frozenRttHalfUs.toNat := by exact_mod_cast short
  obtain ⟨early, late⟩ := abs_le.mp (boundary_near predicted)
  have lattice : OnLattice s.net lockedPeriod anchor := ⟨periodWord, offsetWord⟩
  have afterRamp : 1000 * (kernelBoundaryMs lockedPeriod anchor cycle : ℚ) + gapUs + longestRecoveryUs s.net ≤
      nowUs + (leoPeriodUs s.net).toNat := by
    have width : ((leoPeriodUs s.net).toNat : ℚ) = 1000 * periodMs lockedPeriod := by
      exact_mod_cast lattice.periodUs
    rw [kernelBoundaryMs_pred, Int.cast_sub] at settled
    linarith
  have positive : (0 : ℚ) ≤ gapUs ∧ (0 : ℚ) ≤ longestRecoveryUs s.net := ⟨Nat.cast_nonneg _, Nat.cast_nonneg _⟩
  have next : (nextHandoverUs s.net (callbacks k).nowUs : ℤ) =
      1000 * kernelBoundaryMs lockedPeriod anchor cycle := by
    apply nextHandoverUs_lattice lattice steady.schedule.period (Callback.nowUs_real _)
    · have before : ((callbacks k).nowUs.toNat : ℚ) < 1000 * (kernelBoundaryMs lockedPeriod anchor cycle : ℚ) := by
        linarith
      exact_mod_cast before
    · have within : 1000 * (kernelBoundaryMs lockedPeriod anchor cycle : ℚ) ≤
          ((callbacks k).nowUs.toNat : ℚ) + (leoPeriodUs s.net).toNat := by linarith [positive.1, positive.2]
      exact_mod_cast within
  have nextQ : (nextHandoverUs s.net (callbacks k).nowUs : ℚ) =
      1000 * (kernelBoundaryMs lockedPeriod anchor cycle : ℚ) := by exact_mod_cast next
  apply steady.plan_closed rfl
  · have bound : (nextHandoverUs s.net (callbacks k).nowUs : ℚ) + gapUs + longestRecoveryUs s.net ≤
        ((callbacks k).nowUs.toNat : ℚ) + (leoPeriodUs s.net).toNat := by linarith
    exact_mod_cast bound
  · have bound : (nextHandoverUs s.net (callbacks k).nowUs : ℚ) ≤ ((callbacks k).nowUs.toNat : ℚ) +
        plan.frozenRttHalfUs.toNat + plan.frozenDrainUs.toNat + plan.frozenPredictionGuardUs.toNat := by
      rw [guard]
      linarith
    exact_mod_cast bound
  · have bound : ((callbacks k).nowUs.toNat : ℚ) + plan.frozenRttHalfUs.toNat <
        (nextHandoverUs s.net (callbacks k).nowUs : ℚ) + plan.frozenOutageUs.toNat := by linarith
    exact_mod_cast bound

/-- What the first activation of `eagerSetup` writes. -/
def eagerNet : Net :=
  { tcpSkInit with
    tcpLeoRwndPeriodMs := 5000
    tcpLeoRwndOffsetMs := 2000
    tcpLeoRwndEnable := 1
    tcpLeoDynamicEnable := 1 }

/-- One callback 35 ms before a boundary, all others 3 ms after it. -/
def offBoundaryCallbacks (n : Nat) : Callback where
  net := eagerNet
  clk := ⟨if n = 0 then 16965000000 else 17003000000, 0⟩
  sk := downloadView 0 7
  normalWin := 1000000

theorem offBoundaryCallbacks_steady : SteadyRun eagerNet 40000 offBoundaryCallbacks where
  admissible :=
    { tcpSkInit_admissible with
      rwndEnable := by decide
      rwndPeriodMs := by decide
      dynamicEnable := by decide }
  fixed _ := rfl
  runs _ := rfl
  clock n := by
    cases n with
    | zero => decide
    | succ n => exact UInt64.le_refl _
  often n := by
    cases n with
    | zero => decide
    | succ n => exact Nat.le_add_right _ _

/-- The handover comes 20 ms after the boundary, within the guard of 30 ms. -/
theorem true_handovers_met_late :
    ∃ s, eagerStart.iteration eagerSetup periodicReading = .ok s ∧ s.net = eagerNet ∧
      (offBoundaryCallbacks 0).Closed (controllerRun offBoundaryCallbacks 0) := by
  obtain ⟨s, ok, seen⟩ := exists_ok_of_succeedsWith (by decide +kernel :
    succeedsWith (fun s : MonitorState => decide (s.active = true ∧ s.lockedPeriod = some 5 ∧
        s.phaseAnchor = some 12 ∧ s.net = eagerNet))
      (eagerStart.iteration eagerSetup periodicReading) = true)
  obtain ⟨active, locked, anchored, net⟩ := of_decide_eq_true seen
  have reached : Reaches (MonitorState.iteration eagerSetup) eagerStart s := .tail .refl ok
  have steady : SteadyRun s.net 40000 offBoundaryCallbacks := by
    rw [net]
    exact offBoundaryCallbacks_steady
  refine ⟨s, ok, net, ?_⟩
  apply true_handovers_met eagerSetup rfl rfl tcpSkInit 0 0 (fun _ => true) eagerStart s eagerStart_started reached
    5 12 active locked anchored 40000 offBoundaryCallbacks steady (1702 / 100) (2 / 100) 1
  · norm_num [abs_of_pos]
  · rw [net]
    decide +kernel
  · rw [net]
    decide +kernel
  · decide +kernel
  · rw [net]
    decide +kernel

end StarlinkTcp.Proof

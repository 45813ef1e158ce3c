import StarlinkTcp.Proof.FrozenDurations
import StarlinkTcp.Proof.Interference

/-!
# No handover passes uncovered

When callbacks come often enough, the snapshot of one handover is released before the next handover is
near, the freeze falls due in time, and the first callback past the boundary starts the ramp. How often is
enough is read off the sysctls: the freeze guard, and what the longest ramp leaves of the period.
-/

namespace StarlinkTcp.Proof
open Kernel Machine

def longestRecoveryUs (net : Net) : Nat :=
  if net.tcpLeoDynamicRecoveryEnable = 0 then 0
  else 1000 * max net.tcpLeoDynamicRecoveryMinMs.toInt.toNat net.tcpLeoDynamicRecoveryMaxMs.toInt.toNat

/-- The boundary that ends the period of an instant. -/
def nextHandoverUs (net : Net) (nowUs : UInt64) : Nat :=
  Lattice.boundary (leoPeriodUs net).toNat (leoOffsetUs net).toNat (leoPeriodId net nowUs).toNat

/-- Every callback runs the controller, under one configuration and at most `gapUs` after the one before. -/
structure SteadyRun (net : Net) (gapUs : Nat) (callbacks : Nat → Callback) : Prop where
  admissible : net.Admissible
  fixed : ∀ n, (callbacks n).net = net
  runs : ∀ n, (callbacks n).runs = true
  clock : ∀ n, (callbacks n).clk.realNs ≤ (callbacks (n + 1)).clk.realNs
  often : ∀ n, (callbacks (n + 1)).nowUs.toNat ≤ (callbacks n).nowUs.toNat + gapUs

section Net

variable {net : Net}

theorem leoCalcRecoveryUs_le (admissible : net.Admissible) (rttUs : UInt32) :
    (leoCalcRecoveryUs net rttUs).toNat ≤ longestRecoveryUs net := by
  unfold leoCalcRecoveryUs longestRecoveryUs
  split
  · exact Nat.zero_le _
  · rw [UInt64.toNat_toUInt32]
    apply (Nat.mod_le _ _).trans
    rw [clampBetween_toNat, u64OfInt_ms admissible.recoveryMinMs, u64OfInt_ms admissible.recoveryMaxMs]
    omega

theorem period_of_admissible (admissible : net.Admissible) : 0 < net.tcpLeoRwndPeriodMs := by
  have positive := UInt32.le_iff_toNat_le.mp admissible.rwndPeriodMs
  rw [UInt32.toNat_one] at positive
  rw [UInt32.lt_iff_toNat_lt, UInt32.toNat_zero]
  exact positive

theorem freezeGuard_nonneg (admissible : net.Admissible) : 0 ≤ net.tcpLeoDynamicFreezeGuardMs := by
  rw [Int32.le_iff_toInt_le]
  exact le_trans (by decide) (Int32.le_iff_toInt_le.mp admissible.freezeGuardMs)

/-- Boundaries of different periods lie a whole period apart. -/
theorem handoverUs_add_period_le {nowUs : UInt64} {st : LeoState}
    (behind : st.frozenPeriodId < leoPeriodId net nowUs) :
    handoverUs net st + (leoPeriodUs net).toNat ≤ nextHandoverUs net nowUs := by
  rw [UInt64.lt_iff_toNat_lt] at behind
  have cells := Nat.mul_le_mul_right (leoPeriodUs net).toNat (Nat.succ_le_of_lt behind)
  rw [Nat.succ_mul] at cells
  unfold handoverUs nextHandoverUs Lattice.boundary
  omega

variable (period : 0 < net.tcpLeoRwndPeriodMs) {nowUs : UInt64}

include period

theorem nextHandoverUs_le_iff {laterUs : UInt64} (real : RealUs laterUs) :
    nextHandoverUs net nowUs ≤ laterUs.toNat ↔ leoPeriodId net nowUs < leoPeriodId net laterUs := by
  have split : (leoPeriodId net laterUs).toNat ≤ (leoPeriodId net nowUs).toNat ↔
      laterUs.toNat < nextHandoverUs net nowUs := by
    rw [leoPeriodId_toNat period real]
    exact Lattice.index_le_iff (leoPeriodUs_pos period)
  rw [UInt64.lt_iff_toNat_lt]
  omega

variable (real : RealUs nowUs)

include real

theorem nextHandoverUs_eq : nextHandoverUs net nowUs =
    nowUs.toNat + ((leoPeriodUs net).toNat - (leoPeriodPositionUs net nowUs).toNat) := by
  unfold nextHandoverUs
  rw [leoPeriodId_toNat period real, leoPeriodPositionUs_toNat period real]
  exact Lattice.boundary_index (leoPeriodUs_pos period)

theorem lt_nextHandoverUs : nowUs.toNat < nextHandoverUs net nowUs := by
  have inside := leoPeriodPositionUs_lt period real
  rw [UInt64.lt_iff_toNat_lt] at inside
  rw [nextHandoverUs_eq period real]
  omega

/-- A handover within the freeze guard is due. -/
theorem leoFreezeDue_of_near {sk : SockView} {normalWin : UInt32} {st : LeoState} {gapUs : Nat}
    (admissible : net.Admissible) (guarded : gapUs ≤ 1000 * net.tcpLeoDynamicFreezeGuardMs.toInt.toNat)
    (near : nextHandoverUs net nowUs ≤ nowUs.toNat + gapUs) :
    leoFreezeDue net sk normalWin nowUs st = true := by
  have ahead := leoRequiredFreezeAheadUs_toNat net sk normalWin nowUs st (freezeGuard_nonneg admissible)
  have inside := leoPeriodPositionUs_lt period real
  rw [nextHandoverUs_eq period real] at near
  rw [leoFreezeDue, decide_eq_true_eq, UInt64.le_iff_toNat_le,
    UInt64.toNat_sub_of_le _ _ (UInt64.le_of_lt inside), ahead]
  omega

end Net

theorem Callback.freezes_of_due {c : Callback} {st : LeoState} (runs : c.runs = true)
    (period : leoPeriodUs c.net ≠ 0) (unfrozen : c.releases st = true ∨ (c.ready st).frozen = false)
    (due : leoFreezeDue c.net c.sk c.normalWin c.nowUs (c.ready st) = true) : c.freezes st = true := by
  have released : (leoRelease c.net c.nowUs (c.ready st)).frozen = false := by
    rcases unfrozen with releases | unfrozen
    · simp only [Callback.releases, Bool.decide_and, Bool.and_eq_true, decide_eq_true_eq] at releases
      rw [leoRelease_of_releases releases.2.2]
    · unfold leoRelease
      split
      · rfl
      · exact unfrozen
  simp only [Callback.freezes, Bool.decide_and, Bool.and_eq_true, decide_eq_true_eq]
  exact ⟨runs, period, released, due⟩

theorem snapshot_of_freeze {callbacks : Nat → Callback} {i : Nat}
    (freezes : (callbacks i).freezes (controllerRun callbacks i) = true) :
    ∃ st, (controllerRun callbacks (i + 1)).snapshot = (leoFreezeParameters (callbacks i).net (callbacks i).sk
      (callbacks i).normalWin (callbacks i).nowUs st).snapshot := by
  have runs := freezes_runs freezes
  have snapshot := Callback.report_snapshot runs (controllerRun callbacks i)
  rw [← controllerRun_of_runs runs] at snapshot
  rcases Callback.decided_cases runs (controllerRun callbacks i) with
    ⟨-, froze⟩ | ⟨early, -⟩ | ⟨early, -⟩
  · rw [froze] at snapshot
    exact ⟨_, snapshot⟩
  · simp [early] at freezes
  · simp [early] at freezes

/-- Near a handover the longest ramp after the previous one is over. -/
theorem settled_of_near {net : Net} {nowUs : UInt64} {gapUs : Nat}
    (fits : 2 * gapUs + longestRecoveryUs net ≤ (leoPeriodUs net).toNat)
    (near : nextHandoverUs net nowUs ≤ nowUs.toNat + gapUs) :
    nextHandoverUs net nowUs + gapUs + longestRecoveryUs net ≤ nowUs.toNat + (leoPeriodUs net).toNat := by
  omega

namespace SteadyRun

variable {net : Net} {gapUs : Nat} {callbacks : Nat → Callback} (steady : SteadyRun net gapUs callbacks)
  {i k : Nat}

include steady

theorem schedule : Schedule net callbacks where
  period := period_of_admissible steady.admissible
  fixed n := by
    rw [steady.fixed n]
    exact ⟨rfl, rfl⟩
  clock := steady.clock

theorem frozenRecoveryUs_le (held : HeldFrom callbacks i (k + 1)) (le : i ≤ k) :
    (controllerRun callbacks (k + 1)).frozenRecoveryUs.toNat ≤ longestRecoveryUs net := by
  obtain ⟨st, taken⟩ := snapshot_of_freeze held.1
  have recovery := congrArg LeoSnapshot.recoveryUs taken
  rw [steady.fixed i] at recovery
  rw [held.recoveryUs_eq (Nat.lt_succ_of_le le)]
  exact (congrArg UInt32.toNat recovery).trans_le (leoCalcRecoveryUs_le steady.admissible _)

/-- Once the longest ramp is over, no snapshot of an earlier handover is held any more. -/
theorem periodId_of_held (held : HeldFrom callbacks i (k + 1)) (le : i ≤ k)
    (settled : nextHandoverUs net (callbacks k).nowUs + gapUs + longestRecoveryUs net ≤
      (callbacks k).nowUs.toNat + (leoPeriodUs net).toNat) :
    (controllerRun callbacks (k + 1)).frozenPeriodId = leoPeriodId net (callbacks k).nowUs := by
  have schedule := steady.schedule
  by_contra other
  obtain ⟨a, b, -, consecutive, -, before, -, ramp⟩ :=
    schedule.after_handover held le (steady.runs k) (Ne.symm other)
  have adjacent : b = a + 1 := by
    have lt := consecutive.lt
    have le := consecutive.le_of_runs (steady.runs (b - 1)) (by omega)
    omega
  have often : (callbacks b).nowUs.toNat ≤ (callbacks a).nowUs.toNat + gapUs := by
    rw [adjacent]
    exact steady.often a
  have behind := UInt64.lt_of_le_of_ne
    (schedule.frozenPeriodId_le held (Nat.lt_succ_of_le le) le) other
  have apart := handoverUs_add_period_le behind
  have longest := steady.frozenRecoveryUs_le held le
  omega

theorem exists_held (guarded : gapUs ≤ 1000 * net.tcpLeoDynamicFreezeGuardMs.toInt.toNat)
    (near : nextHandoverUs net (callbacks k).nowUs ≤ (callbacks k).nowUs.toNat + gapUs) :
    ∃ i ≤ k, HeldFrom callbacks i (k + 1) := by
  have schedule := steady.schedule
  have runs := steady.runs k
  rcases Callback.decided_cases runs (controllerRun callbacks k) with
    ⟨freezes, -⟩ | ⟨-, releases, frozen, -, -⟩ | ⟨early, unfrozen, -⟩
  · exact ⟨k, le_rfl, freezes, fun l lower upper => by omega⟩
  · obtain ⟨i, lt, held⟩ := heldFrom_of_frozen frozen
    refine ⟨i, lt.le, held.1, fun l lower upper => ?_⟩
    rcases Nat.lt_succ_iff_lt_or_eq.mp upper with before | rfl
    · exact held.2 l lower before
    · exact releases
  · exfalso
    have due : leoFreezeDue (callbacks k).net (callbacks k).sk (callbacks k).normalWin (callbacks k).nowUs
        ((callbacks k).ready (controllerRun callbacks k)) = true := by
      rw [steady.fixed k]
      exact leoFreezeDue_of_near schedule.period (Callback.nowUs_real _) steady.admissible guarded near
    have freezes := Callback.freezes_of_due runs (schedule.periodUs_ne_zero k) unfrozen due
    simp [early] at freezes

theorem preStart_reached (near : nextHandoverUs net (callbacks k).nowUs ≤ (callbacks k).nowUs.toNat + gapUs)
    {st : LeoState} (covers : gapUs ≤ leadUs st) :
    (leoTimeline net st).preStartUs ≤ leoPeriodPositionUs net (callbacks k).nowUs := by
  obtain ⟨outage, drain, pre⟩ := leoTimeline_toNat net st
  rw [nextHandoverUs_eq steady.schedule.period (Callback.nowUs_real _)] at near
  rw [UInt64.le_iff_toNat_le]
  unfold leadUs at covers
  omega

theorem near_of_crossing
    (crossing : leoPeriodId net (callbacks (k + 1)).nowUs ≠ leoPeriodId net (callbacks k).nowUs) :
    nextHandoverUs net (callbacks k).nowUs ≤ (callbacks (k + 1)).nowUs.toNat := by
  have schedule := steady.schedule
  rw [nextHandoverUs_le_iff schedule.period (Callback.nowUs_real _)]
  exact UInt64.lt_of_le_of_ne (schedule.periodId_le (Nat.le_succ k)) (Ne.symm crossing)

theorem next_periodId (fits : 2 * gapUs + longestRecoveryUs net ≤ (leoPeriodUs net).toNat)
    (crossing : leoPeriodId net (callbacks (k + 1)).nowUs ≠ leoPeriodId net (callbacks k).nowUs) :
    (leoPeriodId net (callbacks (k + 1)).nowUs).toNat = (leoPeriodId net (callbacks k).nowUs).toNat + 1 := by
  have schedule := steady.schedule
  have later := UInt64.lt_iff_toNat_lt.mp
    (UInt64.lt_of_le_of_ne (schedule.periodId_le (Nat.le_succ k)) (Ne.symm crossing))
  have before := lt_nextHandoverUs schedule.period (Callback.nowUs_real (callbacks k))
  have often := steady.often k
  apply Nat.le_antisymm _ later
  rw [leoPeriodId_toNat schedule.period (Callback.nowUs_real (callbacks (k + 1))),
    Lattice.index_le_iff (leoPeriodUs_pos schedule.period)]
  unfold nextHandoverUs Lattice.boundary at before
  rw [Lattice.boundary, Nat.succ_mul]
  omega

theorem recovery_after_crossing (held : HeldFrom callbacks i (k + 1)) (le : i ≤ k)
    (same : (controllerRun callbacks (k + 1)).frozenPeriodId = leoPeriodId net (callbacks k).nowUs)
    (crossing : leoPeriodId net (callbacks (k + 1)).nowUs ≠ leoPeriodId net (callbacks k).nowUs)
    (enabled : (controllerRun callbacks (k + 1)).frozenRecoveryUs ≠ 0) :
    ((callbacks (k + 1)).report (controllerRun callbacks (k + 1))).phase = .recovery ∧
    ((callbacks (k + 1)).report (controllerRun callbacks (k + 1))).elapsedUs = 0 := by
  have schedule := steady.schedule
  have lt : i < k + 1 := Nat.lt_succ_of_le le
  rw [held.recoveryUs_eq lt] at enabled
  rw [held.periodId_eq lt] at same
  have inside (l : Nat) (lower : i ≤ l) (upper : l < k + 1) (_ : (callbacks l).runs = true) :
      leoPeriodId net (callbacks l).nowUs = (controllerRun callbacks (i + 1)).frozenPeriodId := by
    apply UInt64.le_antisymm
    · rw [same]
      exact schedule.periodId_le (Nat.le_of_lt_succ upper)
    · rw [schedule.frozenPeriodId_of_freeze held.1]
      exact schedule.periodId_le lower
  obtain ⟨-, phase, elapsed, -⟩ := schedule.recovery_at_boundary held lt (steady.runs (k + 1)) inside
    (by rw [same]; exact crossing) enabled
  exact ⟨phase, elapsed⟩

end SteadyRun

/-- Under steady callbacks no further apart than the freeze guard, every callback near a handover leaves a
snapshot of that handover in force, its timeline entered if the callbacks are no further apart than its lead,
and the first callback past the handover starts the ramp. -/
theorem handovers_covered (net : Net) (gapUs : Nat) (callbacks : Nat → Callback)
    (steady : SteadyRun net gapUs callbacks)
    (guarded : gapUs ≤ 1000 * net.tcpLeoDynamicFreezeGuardMs.toInt.toNat)
    (fits : 2 * gapUs + longestRecoveryUs net ≤ (leoPeriodUs net).toNat) (k : Nat) :
    let st := controllerRun callbacks (k + 1)
    let near := nextHandoverUs net (callbacks k).nowUs ≤ (callbacks k).nowUs.toNat + gapUs
    (near → st.frozen = true ∧ st.frozenPeriodId = leoPeriodId net (callbacks k).nowUs ∧
      (gapUs ≤ leadUs st → (leoTimeline net st).preStartUs ≤ leoPeriodPositionUs net (callbacks k).nowUs)) ∧
    (leoPeriodId net (callbacks (k + 1)).nowUs ≠ leoPeriodId net (callbacks k).nowUs →
      near ∧
      (leoPeriodId net (callbacks (k + 1)).nowUs).toNat = (leoPeriodId net (callbacks k).nowUs).toNat + 1 ∧
      (st.frozenRecoveryUs ≠ 0 →
        ((callbacks (k + 1)).report st).phase = .recovery ∧
        ((callbacks (k + 1)).report st).elapsedUs = 0)) := by
  intro st near
  constructor
  · intro close
    obtain ⟨i, le, held⟩ := steady.exists_held guarded close
    exact ⟨held.frozen (Nat.lt_succ_of_le le), steady.periodId_of_held held le (settled_of_near fits close),
      steady.preStart_reached close⟩
  · intro crossing
    have close : near := (steady.near_of_crossing crossing).trans (steady.often k)
    obtain ⟨i, le, held⟩ := steady.exists_held guarded close
    have same := steady.periodId_of_held held le (settled_of_near fits close)
    exact ⟨close, steady.next_periodId fits crossing, steady.recovery_after_crossing held le same crossing⟩

/-- One callback 20 ms before a boundary of the lattice at boot, all others 10 ms after it. -/
def punctualCallbacks (n : Nat) : Callback where
  net := tcpSkInit
  clk := ⟨if n = 0 then 26980000000 else 27010000000, 0⟩
  sk := downloadView 0 7
  normalWin := 1000000

theorem punctualCallbacks_steady : SteadyRun tcpSkInit 40000 punctualCallbacks where
  admissible := tcpSkInit_admissible
  fixed _ := rfl
  runs _ := rfl
  clock n := by
    cases n with
    | zero => decide
    | succ n => exact UInt64.le_refl _
  often n := by
    cases n with
    | zero => decide
    | succ n => exact Nat.le_add_right _ _

theorem handovers_covered_punctual :
    (controllerRun punctualCallbacks 1).frozen = true ∧
    ((punctualCallbacks 1).report (controllerRun punctualCallbacks 1)).phase = .recovery := by
  obtain ⟨force, crossed⟩ := handovers_covered tcpSkInit 40000 punctualCallbacks punctualCallbacks_steady
    (by decide) (by decide) 0
  obtain ⟨near, -, ramp⟩ := crossed (by decide)
  exact ⟨(force near).1, (ramp (by decide)).1⟩

end StarlinkTcp.Proof

import StarlinkTcp.Proof.PhaseOrder
import StarlinkTcp.Proof.RightEdge

/-!
# The recovery ramp

The ramp climbs from the floor of the snapshot and starts with the first callback past the boundary.
Within the ramp the window only grows. The step from DRAIN or OUTAGE into the ramp drops to the floor
whatever those phases had reached, and the first callback past the boundary may be any number of
periods late.
-/

namespace StarlinkTcp.Proof
open Kernel Machine

namespace Callback

variable {c : Callback} {st : LeoState}

def window (c : Callback) (st : LeoState) : UInt32 :=
  (tcpLeoDynamicTarget c.net c.clk c.sk c.normalWin st).1

def startsRecovery (c : Callback) (st : LeoState) : Bool :=
  st.recoveryStarted = false ∧ (step st c).recoveryStarted = true

theorem window_of_runs (runs : c.runs = true) : c.window st = min (c.report st).target c.normalWin := by
  have gates : leoControls c.net c.sk = true := runs
  simp [window, tcpLeoDynamicTarget, report, gates]

theorem report_recoveryStarted (runs : c.runs = true) (st : LeoState) :
    (c.report st).state.recoveryStarted = (leoPhase c.net c.nowUs (c.decided st)).2.2.recoveryStarted :=
  congrArg Prod.fst (report_ramp runs st)

theorem recoveryStarted_of_recovery (runs : c.runs = true) (recovery : (c.report st).phase = .recovery) :
    (c.report st).state.recoveryStarted = true := by
  rw [report_phase] at recovery
  rw [report_recoveryStarted runs]
  have frozen : (c.decided st).frozen = true := by
    rw [← Bool.not_eq_false]
    intro unfrozen
    rw [leoPhase_of_unfrozen unfrozen] at recovery
    cases recovery
  by_cases period : leoPeriodUs c.net = 0
  · simp [leoPhase, frozen, period] at recovery
  · rcases leoPhase_cases c.nowUs period frozen with
      ⟨-, phase, -⟩ | ⟨-, -, -, phase⟩ | ⟨-, -, started, -, phase⟩ | ⟨-, -, phase, -⟩
    · rw [phase] at recovery
      exact absurd recovery (scheduledStage_phase_ne_recovery _ _ _)
    · rw [phase]
    · rw [phase]
      exact started
    · simp [phase] at recovery

theorem startsRecovery_spec (period : leoPeriodUs c.net ≠ 0) (starts : c.startsRecovery st = true) :
    c.runs = true ∧ st.frozen = true ∧ c.decided st = st ∧
      leoPeriodId c.net c.nowUs > st.frozenPeriodId := by
  simp only [startsRecovery, decide_eq_true_eq] at starts
  obtain ⟨stopped, started⟩ := starts
  cases runs : c.runs
  · rw [step_of_not_runs runs, stopped] at started
    cases started
  · rw [step_of_runs runs, report_recoveryStarted runs] at started
    rcases decided_cases runs st with ⟨-, froze⟩ | ⟨-, -, frozen, -, kept⟩ | ⟨-, -, unfrozen⟩
    · rw [froze, leoPhase_of_same_period rfl period rfl] at started
      cases started
    · refine ⟨rfl, frozen, kept, ?_⟩
      rw [kept] at started
      rcases leoPhase_cases c.nowUs period frozen with
        ⟨-, -, state⟩ | ⟨later, -⟩ | ⟨later, -⟩ | ⟨-, -, -, state⟩
      · rw [state, stopped] at started
        cases started
      · exact later
      · exact later
      · rw [state, stopped] at started
        cases started
    · -- an unfrozen state keeps the flag it had, unless the socket is set up now and the flag is clear
      rw [unfrozen, leoPhase_of_unfrozen rfl] at started
      cases initialized : st.initialized
      · simp [ready, leoEnsureInitialized, leoUpdateMeasurements, initialized, tcpLeoDynamicInit] at started
      · rw [ready_of_initialized initialized] at started
        simp [stopped] at started

end Callback

/-! ## Two consecutive callbacks -/

/-- Both callbacks run the controller, and none between them does. -/
structure Consecutive (callbacks : Nat → Callback) (a b : Nat) : Prop where
  lt : a < b
  first : (callbacks a).runs = true
  second : (callbacks b).runs = true
  between : ∀ l, a < l → l < b → (callbacks l).runs = false

namespace Consecutive

variable {callbacks : Nat → Callback} {a b : Nat}

theorem controllerRun_eq (consecutive : Consecutive callbacks a b) :
    controllerRun callbacks b = controllerRun callbacks (a + 1) := by
  obtain ⟨lt, -, -, between⟩ := consecutive
  induction b, lt using Nat.le_induction with
  | base => rfl
  | succ b lt ih =>
      rw [controllerRun_of_not_runs (between b lt (Nat.lt_succ_self b))]
      exact ih fun l lower upper => between l lower (Nat.lt_succ_of_lt upper)

theorem le_of_runs (consecutive : Consecutive callbacks a b) {l : Nat} (runs : (callbacks l).runs = true)
    (lt : l < b) : l ≤ a := by
  by_contra later
  have quiet := consecutive.between l (Nat.lt_of_not_le later) lt
  simp [runs] at quiet

end Consecutive

theorem exists_consecutive {callbacks : Nat → Callback} {i k : Nat} (lt : i < k)
    (first : (callbacks i).runs = true) (second : (callbacks k).runs = true) :
    ∃ j, i ≤ j ∧ Consecutive callbacks j k := by
  have member : i ≤ k - 1 := by omega
  have runs := Nat.findGreatest_spec (P := fun l => (callbacks l).runs = true) member first
  have lower := Nat.le_findGreatest (P := fun l => (callbacks l).runs = true) member first
  have upper := Nat.findGreatest_le (P := fun l => (callbacks l).runs = true) (k - 1)
  refine ⟨_, lower, by omega, runs, second, fun l after before => ?_⟩
  rw [← Bool.not_eq_true]
  exact Nat.findGreatest_is_greatest after (by omega)

/-! ## The period the ramp starts in -/

theorem Schedule.periodId_of_not_started {net : Net} {callbacks : Nat → Callback}
    (schedule : Schedule net callbacks) {i j : Nat} (le : i ≤ j) (held : HeldFrom callbacks i (j + 1))
    (runs : (callbacks j).runs = true) (stopped : (controllerRun callbacks (j + 1)).recoveryStarted = false) :
    leoPeriodId net (callbacks j).nowUs = (controllerRun callbacks (j + 1)).frozenPeriodId := by
  by_contra moved
  have recovery : ((callbacks j).report (controllerRun callbacks j)).phase = .recovery := by
    rw [schedule.phase_eq_stage held le runs, cycleStage, if_neg moved]
    rfl
  rw [controllerRun_of_runs runs, Callback.recoveryStarted_of_recovery runs recovery] at stopped
  cases stopped

theorem Schedule.periodId_before_recovery {net : Net} {callbacks : Nat → Callback}
    (schedule : Schedule net callbacks) {j k : Nat} (consecutive : Consecutive callbacks j k)
    (starts : (callbacks k).startsRecovery (controllerRun callbacks k) = true) :
    leoPeriodId net (callbacks j).nowUs = (controllerRun callbacks (k + 1)).frozenPeriodId ∧
    (controllerRun callbacks (k + 1)).frozenPeriodId < leoPeriodId net (callbacks k).nowUs := by
  obtain ⟨runs, frozen, kept, later⟩ := Callback.startsRecovery_spec (schedule.periodUs_ne_zero k) starts
  have snapshot := Callback.report_snapshot runs (controllerRun callbacks k)
  rw [← controllerRun_of_runs runs, kept] at snapshot
  have sameId : (controllerRun callbacks (k + 1)).frozenPeriodId = (controllerRun callbacks k).frozenPeriodId :=
    congrArg LeoSnapshot.periodId snapshot
  rw [schedule.periodId_eq k] at later
  refine ⟨?_, by rw [sameId]; exact later⟩
  obtain ⟨i, lt, held⟩ := heldFrom_of_frozen frozen
  have le : i ≤ j := consecutive.le_of_runs (freezes_runs held.1) lt
  have stopped : (controllerRun callbacks (j + 1)).recoveryStarted = false := by
    rw [← consecutive.controllerRun_eq]
    simp only [Callback.startsRecovery, decide_eq_true_eq] at starts
    exact starts.1
  rw [sameId, consecutive.controllerRun_eq]
  exact schedule.periodId_of_not_started le (held.shorten consecutive.lt) consecutive.first stopped

/-- Every ramp of a run starts in the period directly after the frozen one exactly when no callback
that starts one comes more than one period after the callback before it. -/
theorem recovery_in_next_period_iff (net : Net) (callbacks : Nat → Callback)
    (schedule : Schedule net callbacks) :
    (∀ k, (callbacks k).startsRecovery (controllerRun callbacks k) = true →
      (leoPeriodId net (callbacks k).nowUs).toNat =
        (controllerRun callbacks (k + 1)).frozenPeriodId.toNat + 1) ↔
    (∀ j k, Consecutive callbacks j k → (callbacks k).startsRecovery (controllerRun callbacks k) = true →
      (leoPeriodId net (callbacks k).nowUs).toNat ≤ (leoPeriodId net (callbacks j).nowUs).toNat + 1) := by
  constructor
  · intro next j k consecutive starts
    obtain ⟨before, -⟩ := schedule.periodId_before_recovery consecutive starts
    rw [before, next k starts]
  · intro near k starts
    obtain ⟨runs, frozen, -, -⟩ := Callback.startsRecovery_spec (schedule.periodUs_ne_zero k) starts
    obtain ⟨i, lt, held⟩ := heldFrom_of_frozen frozen
    obtain ⟨j, -, consecutive⟩ := exists_consecutive lt (freezes_runs held.1) runs
    obtain ⟨before, after⟩ := schedule.periodId_before_recovery consecutive starts
    have bound := near j k consecutive starts
    rw [UInt64.lt_iff_toNat_lt] at after
    rw [before] at bound
    omega

theorem boundaryCallbacks_periodId (n : Nat) :
    1 ≤ (leoPeriodId tcpSkInit (boundaryCallbacks n).nowUs).toNat ∧
    (leoPeriodId tcpSkInit (boundaryCallbacks n).nowUs).toNat ≤ 2 := by
  cases n with
  | zero => decide
  | succ n =>
      have clock : (boundaryCallbacks (n + 1)).clk = (boundaryCallbacks 1).clk := rfl
      simp only [Callback.nowUs, clock]
      decide

theorem recovery_in_next_period_at_boundary :
    Schedule tcpSkInit boundaryCallbacks ∧
    (boundaryCallbacks 1).startsRecovery (controllerRun boundaryCallbacks 1) = true ∧
    (leoPeriodId tcpSkInit (boundaryCallbacks 1).nowUs).toNat =
      (controllerRun boundaryCallbacks 2).frozenPeriodId.toNat + 1 := by
  refine ⟨boundaryCallbacks_schedule, by decide, ?_⟩
  refine (recovery_in_next_period_iff tcpSkInit boundaryCallbacks boundaryCallbacks_schedule).mpr ?_ 1 (by decide)
  intro j k _ _
  have earlier := boundaryCallbacks_periodId j
  have later := boundaryCallbacks_periodId k
  omega

def idleCallbacks (n : Nat) : Callback where
  net := tcpSkInit
  clk := ⟨if n = 0 then 26900000000 else 101900000000, 0⟩
  sk := downloadView 0 7
  normalWin := 1000000

/-- A connection that was idle for five periods comes back 100 ms before a handover: the snapshot of
the first period takes it into RECOVERY, and the handover ahead is not frozen although it is due. -/
theorem idle_connection_recovers_late :
    Schedule tcpSkInit idleCallbacks ∧
    (idleCallbacks 1).startsRecovery (controllerRun idleCallbacks 1) = true ∧
    (leoPeriodId tcpSkInit (idleCallbacks 1).nowUs).toNat ≠
      (controllerRun idleCallbacks 2).frozenPeriodId.toNat + 1 ∧
    leoFreezeDue tcpSkInit (idleCallbacks 1).sk (idleCallbacks 1).normalWin (idleCallbacks 1).nowUs
      (controllerRun idleCallbacks 1) = true ∧
    (idleCallbacks 1).freezes (controllerRun idleCallbacks 1) = false := by
  refine ⟨⟨by decide, fun _ => ⟨rfl, rfl⟩, fun n => ?_⟩, by decide, by decide, by decide, by decide⟩
  cases n with
  | zero => decide
  | succ n => exact UInt64.le_refl _

/-! ## The window along the ramp -/

section Ramp

variable {st : LeoState}

theorem leoRecoveryTarget_zero (normalWin : UInt32) (enabled : st.frozenRecoveryUs ≠ 0) :
    leoRecoveryTarget st normalWin 0 = st.frozenMinRwnd := by
  rw [← UInt32.toNat_inj, leoRecoveryTarget_toNat normalWin 0 enabled]
  simp

theorem leoRecoveryTarget_mono {normalWin laterWin : UInt32} {elapsedUs laterUs : UInt64}
    (enabled : st.frozenRecoveryUs ≠ 0) (grows : normalWin ≤ laterWin) (passes : elapsedUs ≤ laterUs) :
    leoRecoveryTarget st normalWin elapsedUs ≤ leoRecoveryTarget st laterWin laterUs := by
  have top : (recoveryEnd st normalWin).toNat ≤ (recoveryEnd st laterWin).toNat := by
    simp only [recoveryEnd, UInt32.toNat_max, UInt32.toNat_min]
    rw [UInt32.le_iff_toNat_le] at grows
    omega
  rw [UInt32.le_iff_toNat_le, leoRecoveryTarget_toNat _ _ enabled, leoRecoveryTarget_toNat _ _ enabled]
  rw [UInt64.le_iff_toNat_le] at passes
  apply Nat.add_le_add_left
  apply Nat.div_le_div_right
  exact Nat.mul_le_mul (Nat.sub_le_sub_right top _) (min_le_min_right _ passes)

end Ramp

namespace Callback

variable {c : Callback} {st : LeoState}

theorem recovery_elapsedUs (period : leoPeriodUs c.net ≠ 0) (runs : c.runs = true)
    (recovery : (c.report st).phase = .recovery) :
    (c.report st).elapsedUs = c.nowUs - (c.report st).state.recoveryStartRealUs ∧
    (c.report st).elapsedUs < st.frozenRecoveryUs.toUInt64 ∧
    (st.recoveryStarted = true → (c.report st).state.recoveryStartRealUs = st.recoveryStartRealUs) := by
  obtain ⟨kept, enabled⟩ := decided_of_recovery runs recovery
  have start := congrArg Prod.snd (report_ramp runs st)
  simp only [LeoState.ramp, kept] at start
  rw [report_elapsedUs, start, kept]
  rw [report_phase, kept] at recovery
  have frozen : st.frozen = true := by
    rw [← Bool.not_eq_false]
    intro unfrozen
    rw [leoPhase_of_unfrozen unfrozen] at recovery
    cases recovery
  rcases leoPhase_cases c.nowUs period frozen with
    ⟨-, phase, -⟩ | ⟨-, -, stopped, phase⟩ | ⟨-, -, -, within, phase⟩ | ⟨-, -, phase, -⟩
  · rw [phase] at recovery
    exact absurd recovery (scheduledStage_phase_ne_recovery _ _ _)
  · rw [phase]
    refine ⟨(UInt64.sub_self _).symm, ?_, fun started => by simp [stopped] at started⟩
    simp only [UInt64.lt_iff_toNat_lt, UInt64.toNat_zero, UInt32.toNat_toUInt64]
    exact toNat_pos enabled
  · rw [phase]
    exact ⟨rfl, within, fun _ => rfl⟩
  · simp [phase] at recovery

theorem recovery_target (runs : c.runs = true) (recovery : (c.report st).phase = .recovery) :
    (c.report st).target = leoRecoveryTarget st c.normalWin (c.report st).elapsedUs := by
  have snapshot := report_snapshot runs st
  rw [(decided_of_recovery runs recovery).1] at snapshot
  simp only [LeoState.snapshot, LeoSnapshot.mk.injEq] at snapshot
  rw [report_target, recovery]
  simp only [leoTarget, leoRecoveryTarget, snapshot]

end Callback

/-- The snapshot leaves the ramp nothing to take back: the ordinary window is at its floor, or
everything above the floor has arrived since PRE start. -/
def drained (c : Callback) (st : LeoState) : Bool :=
  c.normalWin ≤ st.frozenMinRwnd ∨
    st.frozenPreStartWnd.toNat ≤ st.frozenMinRwnd.toNat + (received c.sk st).toNat

section Pair

variable {net : Net} {callbacks : Nat → Callback} (schedule : Schedule net callbacks) {i a b : Nat}
  (consecutive : Consecutive callbacks a b)
  (recovery : ((callbacks b).report (controllerRun callbacks b)).phase = .recovery)

include schedule consecutive recovery

theorem recovery_elapsedUs_mono
    (before : ((callbacks a).report (controllerRun callbacks a)).phase = .recovery) :
    ((callbacks a).report (controllerRun callbacks a)).elapsedUs ≤
      ((callbacks b).report (controllerRun callbacks b)).elapsedUs := by
  obtain ⟨elapsedA, withinA, -⟩ :=
    Callback.recovery_elapsedUs (schedule.periodUs_ne_zero a) consecutive.first before
  obtain ⟨elapsedB, -, sameStart⟩ :=
    Callback.recovery_elapsedUs (schedule.periodUs_ne_zero b) consecutive.second recovery
  have stateB : controllerRun callbacks b = ((callbacks a).report (controllerRun callbacks a)).state := by
    rw [consecutive.controllerRun_eq, controllerRun_of_runs consecutive.first]
  have started := Callback.recoveryStarted_of_recovery consecutive.first before
  rw [← stateB] at started elapsedA
  rw [sameStart started] at elapsedB
  have passes := schedule.nowUs_le consecutive.lt.le
  have realB := Callback.nowUs_real (callbacks b)
  have bound := (controllerRun callbacks a).frozenRecoveryUs.toNat_lt
  -- both readings are below the width of the word, so the two differences wrap alike
  rw [UInt64.lt_iff_toNat_lt, UInt32.toNat_toUInt64] at withinA
  rw [UInt64.le_iff_toNat_le] at passes ⊢
  rw [elapsedA] at withinA ⊢
  rw [elapsedB]
  rw [UInt64.toNat_sub] at withinA ⊢
  rw [UInt64.toNat_sub]
  unfold RealUs at realB
  omega

theorem window_le_of_recovery (grows : (callbacks a).normalWin ≤ (callbacks b).normalWin)
    (before : ((callbacks a).report (controllerRun callbacks a)).phase = .recovery) :
    (callbacks a).window (controllerRun callbacks a) ≤ (callbacks b).window (controllerRun callbacks b) := by
  obtain ⟨kept, enabled⟩ := Callback.decided_of_recovery consecutive.first before
  have snapshot : (controllerRun callbacks b).snapshot = (controllerRun callbacks a).snapshot := by
    rw [consecutive.controllerRun_eq, controllerRun_of_runs consecutive.first,
      Callback.report_snapshot consecutive.first, kept]
  have sameRamp (elapsedUs : UInt64) : leoRecoveryTarget (controllerRun callbacks b) (callbacks b).normalWin elapsedUs =
      leoRecoveryTarget (controllerRun callbacks a) (callbacks b).normalWin elapsedUs := by
    simp only [LeoState.snapshot, LeoSnapshot.mk.injEq] at snapshot
    simp only [leoRecoveryTarget, snapshot]
  have climbs := leoRecoveryTarget_mono enabled grows
    (recovery_elapsedUs_mono schedule consecutive recovery before)
  rw [Callback.window_of_runs consecutive.first, Callback.window_of_runs consecutive.second,
    Callback.recovery_target consecutive.first before, Callback.recovery_target consecutive.second recovery,
    sameRamp]
  simp only [UInt32.le_iff_toNat_le, UInt32.toNat_min] at climbs grows ⊢
  omega

theorem recovery_elapsedUs_zero (le : i ≤ a) (held : HeldFrom callbacks i (b + 1))
    (shrinking : Shrinking ((callbacks a).report (controllerRun callbacks a)).phase) :
    ((callbacks b).report (controllerRun callbacks b)).elapsedUs = 0 := by
  have lt := lt_of_le_of_lt le consecutive.lt
  have heldA : HeldFrom callbacks i (a + 1) := held.shorten (Nat.le_succ_of_le consecutive.lt)
  have heldB := held.shorten (Nat.le_succ b)
  have frozenId := heldA.periodId_eq (Nat.lt_succ_of_le le)
  have sameA := schedule.periodId_of_shrinking consecutive.first shrinking
  have inside (l : Nat) (lower : i ≤ l) (upper : l < b) (runs : (callbacks l).runs = true) :
      leoPeriodId net (callbacks l).nowUs = (controllerRun callbacks (i + 1)).frozenPeriodId := by
    rw [← frozenId]
    apply UInt64.le_antisymm
    · rw [← sameA]
      exact schedule.periodId_le (consecutive.le_of_runs runs upper)
    · exact schedule.frozenPeriodId_le heldA (Nat.lt_succ_of_le le) lower
  have past : leoPeriodId net (callbacks b).nowUs ≠ (controllerRun callbacks (i + 1)).frozenPeriodId := by
    intro same
    rw [← held.periodId_eq (Nat.lt_succ_of_lt lt)] at same
    rw [schedule.phase_eq_stage held lt.le consecutive.second, cycleStage, if_pos same] at recovery
    exact scheduledStage_phase_ne_recovery _ _ _ recovery
  have enabled := (Callback.decided_of_recovery consecutive.second recovery).2
  rw [heldB.recoveryUs_eq lt] at enabled
  exact (schedule.recovery_at_boundary heldB lt consecutive.second inside past enabled).2.2.1

theorem window_le_of_shrinking_iff (le : i ≤ a) (held : HeldFrom callbacks i (b + 1))
    (grows : (callbacks a).normalWin ≤ (callbacks b).normalWin)
    (before : ((callbacks a).report (controllerRun callbacks a)).phase = .drain ∨
      ((callbacks a).report (controllerRun callbacks a)).phase = .outage) :
    (callbacks a).window (controllerRun callbacks a) ≤ (callbacks b).window (controllerRun callbacks b) ↔
      drained (callbacks a) (controllerRun callbacks (a + 1)) = true := by
  have shrinking : Shrinking ((callbacks a).report (controllerRun callbacks a)).phase := .inr before
  have stateA := controllerRun_of_runs consecutive.first
  obtain ⟨inForce, started⟩ := Callback.report_of_shrinking consecutive.first shrinking
  rw [← stateA] at inForce started
  have floor := ((controllerRun_sound callbacks (a + 1)).preStart_between inForce started).1
  have safe := leoSafeTarget_toNat (callbacks a).sk floor
  have targetA : ((callbacks a).report (controllerRun callbacks a)).target =
      leoSafeTarget (callbacks a).sk (controllerRun callbacks (a + 1))
        (controllerRun callbacks (a + 1)).frozenMinRwnd := by
    rw [Callback.report_target, ← stateA]
    rcases before with phase | phase <;> rw [phase] <;> rfl
  have enabled := (Callback.decided_of_recovery consecutive.second recovery).2
  have targetB : ((callbacks b).report (controllerRun callbacks b)).target =
      (controllerRun callbacks (a + 1)).frozenMinRwnd := by
    rw [Callback.recovery_target consecutive.second recovery,
      recovery_elapsedUs_zero schedule consecutive recovery le held shrinking,
      leoRecoveryTarget_zero _ enabled, consecutive.controllerRun_eq]
  rw [Callback.window_of_runs consecutive.first, Callback.window_of_runs consecutive.second, targetA, targetB]
  simp only [drained, decide_eq_true_eq, UInt32.le_iff_toNat_le, UInt32.toNat_min, safe] at grows floor ⊢
  omega

end Pair

/-- Of two consecutive callbacks under one snapshot, the second in RECOVERY and the first in DRAIN,
OUTAGE or RECOVERY, the second offers no less than the first exactly when the first is in the ramp
already or has drained to the floor. -/
theorem recovery_opens_window_iff (net : Net) (callbacks : Nat → Callback)
    (schedule : Schedule net callbacks) (i a b : Nat) (le : i ≤ a) (held : HeldFrom callbacks i (b + 1))
    (consecutive : Consecutive callbacks a b)
    (before : ((callbacks a).report (controllerRun callbacks a)).phase = .drain ∨
      ((callbacks a).report (controllerRun callbacks a)).phase = .outage ∨
      ((callbacks a).report (controllerRun callbacks a)).phase = .recovery)
    (recovery : ((callbacks b).report (controllerRun callbacks b)).phase = .recovery)
    (grows : (callbacks a).normalWin ≤ (callbacks b).normalWin) :
    (callbacks a).window (controllerRun callbacks a) ≤ (callbacks b).window (controllerRun callbacks b) ↔
      ((callbacks a).report (controllerRun callbacks a)).phase = .recovery ∨
      drained (callbacks a) (controllerRun callbacks (a + 1)) = true := by
  by_cases ramp : ((callbacks a).report (controllerRun callbacks a)).phase = .recovery
  · simp only [ramp, true_or, iff_true]
    exact window_le_of_recovery schedule consecutive recovery grows ramp
  · have shrinking : ((callbacks a).report (controllerRun callbacks a)).phase = .drain ∨
        ((callbacks a).report (controllerRun callbacks a)).phase = .outage := by
      rcases before with drain | outage | again
      · exact .inl drain
      · exact .inr outage
      · exact absurd again ramp
    simp only [ramp, false_or]
    exact window_le_of_shrinking_iff schedule consecutive recovery le held grows shrinking

theorem recovery_opens_window_within_ramp :
    Schedule tcpSkInit boundaryCallbacks ∧ HeldFrom boundaryCallbacks 0 3 ∧
    (boundaryCallbacks 1).window (controllerRun boundaryCallbacks 1) ≤
      (boundaryCallbacks 2).window (controllerRun boundaryCallbacks 2) := by
  have held : HeldFrom boundaryCallbacks 0 3 := by
    refine ⟨by decide, fun l lower upper => ?_⟩
    obtain rfl | rfl : l = 1 ∨ l = 2 := by omega
    · decide
    · decide
  refine ⟨boundaryCallbacks_schedule, held, ?_⟩
  exact (recovery_opens_window_iff tcpSkInit boundaryCallbacks boundaryCallbacks_schedule 0 1 2
    (by decide) held ⟨by decide, by decide, by decide, fun l lower upper => by omega⟩
    (.inr (.inr (by decide))) (by decide) (by decide)).mpr (.inl (by decide))

def drainCallbacks (n : Nat) : Callback where
  net := tcpSkInit
  clk := ⟨if n = 0 then 26950000000 else 27010000000, 0⟩
  sk := downloadView 0 7
  normalWin := 1000000

/-- Nothing arrives between a DRAIN callback, which offers the whole megabyte, and the first callback
past the boundary, which offers the floor. -/
theorem recovery_closes_undrained_window :
    Schedule tcpSkInit drainCallbacks ∧ HeldFrom drainCallbacks 0 2 ∧ Consecutive drainCallbacks 0 1 ∧
    ((drainCallbacks 0).report (controllerRun drainCallbacks 0)).phase = .drain ∧
    ((drainCallbacks 1).report (controllerRun drainCallbacks 1)).phase = .recovery ∧
    (drainCallbacks 0).normalWin ≤ (drainCallbacks 1).normalWin ∧
    ¬ (drainCallbacks 0).window (controllerRun drainCallbacks 0) ≤
      (drainCallbacks 1).window (controllerRun drainCallbacks 1) := by
  refine ⟨⟨by decide, fun _ => ⟨rfl, rfl⟩, fun n => ?_⟩, ⟨by decide, fun l lower upper => ?_⟩,
    ⟨by decide, by decide, by decide, fun l lower upper => by omega⟩, by decide, by decide, by decide,
    by decide⟩
  · cases n with
    | zero => decide
    | succ n => exact UInt64.le_refl _
  · obtain rfl : l = 1 := by omega
    decide

end StarlinkTcp.Proof

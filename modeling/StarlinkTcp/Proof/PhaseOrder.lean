import StarlinkTcp.Proof.SafeShrink

/-!
# The order of one handover cycle

With the period and offset sysctls fixed and a clock that does not go back, the callbacks between a
freeze and the release of its snapshot walk through the stages of `Stage` in order: before the
boundary by position, after it in RECOVERY until the ramp is over. The period id of a snapshot is
past for good once the snapshot is released, so no handover is frozen twice.
-/

namespace StarlinkTcp.Proof
open Kernel Machine

structure Schedule (net : Net) (callbacks : Nat → Callback) : Prop where
  period : 0 < net.tcpLeoRwndPeriodMs
  fixed : ∀ n, (callbacks n).net.tcpLeoRwndPeriodMs = net.tcpLeoRwndPeriodMs ∧
    (callbacks n).net.tcpLeoRwndOffsetMs = net.tcpLeoRwndOffsetMs
  clock : ∀ n, (callbacks n).clk.realNs ≤ (callbacks (n + 1)).clk.realNs

theorem nowUs_le_of_clock {callbacks : Nat → Callback}
    (clock : ∀ n, (callbacks n).clk.realNs ≤ (callbacks (n + 1)).clk.realNs) {i j : Nat} (le : i ≤ j) :
    (callbacks i).nowUs ≤ (callbacks j).nowUs := by
  have ticks : Monotone fun n => (callbacks n).clk.realNs.toNat :=
    monotone_nat_of_le_succ fun n => UInt64.le_iff_toNat_le.mp (clock n)
  rw [UInt64.le_iff_toNat_le]
  simp only [Callback.nowUs, leoNowRealUs_toNat]
  exact Nat.div_le_div_right (ticks le)

namespace Schedule

variable {net : Net} {callbacks : Nat → Callback} (schedule : Schedule net callbacks)

include schedule

theorem periodUs_eq (n : Nat) : leoPeriodUs (callbacks n).net = leoPeriodUs net := by
  simp only [leoPeriodUs, (schedule.fixed n).1]

theorem offsetUs_eq (n : Nat) : leoOffsetUs (callbacks n).net = leoOffsetUs net := by
  simp only [leoOffsetUs, (schedule.fixed n).2]

theorem periodId_eq (n : Nat) (nowUs : UInt64) :
    leoPeriodId (callbacks n).net nowUs = leoPeriodId net nowUs := by
  simp only [leoPeriodId, schedule.periodUs_eq n, schedule.offsetUs_eq n]

theorem position_eq (n : Nat) (nowUs : UInt64) :
    leoPeriodPositionUs (callbacks n).net nowUs = leoPeriodPositionUs net nowUs := by
  simp only [leoPeriodPositionUs, schedule.periodUs_eq n, schedule.offsetUs_eq n]

theorem timeline_eq (n : Nat) (st : LeoState) : leoTimeline (callbacks n).net st = leoTimeline net st := by
  simp only [leoTimeline, schedule.periodUs_eq n]

theorem periodUs_ne_zero (n : Nat) : leoPeriodUs (callbacks n).net ≠ 0 := by
  rw [schedule.periodUs_eq n]
  exact leoPeriodUs_ne_zero schedule.period

theorem nowUs_le {i j : Nat} (le : i ≤ j) : (callbacks i).nowUs ≤ (callbacks j).nowUs :=
  nowUs_le_of_clock schedule.clock le

theorem periodId_le {i j : Nat} (le : i ≤ j) :
    leoPeriodId net (callbacks i).nowUs ≤ leoPeriodId net (callbacks j).nowUs :=
  leoPeriodId_mono schedule.period (Callback.nowUs_real _) (Callback.nowUs_real _) (schedule.nowUs_le le)

end Schedule

/-! ## Holding a snapshot -/

namespace Callback

variable {c : Callback} {st : LeoState}

theorem step_initialized (initialized : st.frozen = true → st.initialized = true) :
    (step st c).frozen = true → (step st c).initialized = true := by
  cases runs : c.runs
  · rw [step_of_not_runs runs]
    exact initialized
  · intro _
    rw [step_of_runs runs]
    exact report_initialized runs st

theorem decided_of_not_released (runs : c.runs = true) (frozen : st.frozen = true)
    (initialized : st.initialized = true) (releases : c.releases st = false) :
    c.freezes st = false ∧ c.decided st = st := by
  have ready : c.ready st = st := ready_of_initialized initialized
  rcases decided_cases runs st with ⟨freezes, -⟩ | ⟨freezes, -, -, -, kept⟩ | ⟨-, released | unfrozen, -⟩
  · exfalso
    simp only [Callback.freezes, Callback.releases, runs, true_and, ready, Bool.decide_and,
      Bool.and_eq_true, decide_eq_true_eq, Bool.and_eq_false_iff, decide_eq_false_iff_not] at freezes releases
    rcases releases with period | holds
    · exact period freezes.1
    · simp only [Bool.not_eq_true] at holds
      rw [leoRelease_of_not_releases holds, frozen] at freezes
      exact absurd freezes.2.1 (by simp)
  · exact ⟨freezes, kept⟩
  · simp [releases] at released
  · simp [ready, frozen] at unfrozen

end Callback

theorem controllerRun_initialized (callbacks : Nat → Callback) (n : Nat) :
    (controllerRun callbacks n).frozen = true → (controllerRun callbacks n).initialized = true :=
  runState_invariant (fun _ (st : LeoState) => st.frozen = true → st.initialized = true)
    (by simp [tcpLeoDynamicInit])
    (fun _ _ => Callback.step_initialized) n

/-- Callback `i` froze a snapshot and no callback before `k` has released it. -/
def HeldFrom (callbacks : Nat → Callback) (i k : Nat) : Prop :=
  (callbacks i).freezes (controllerRun callbacks i) = true ∧
    ∀ l, i < l → l < k → (callbacks l).releases (controllerRun callbacks l) = false

section Run

variable {callbacks : Nat → Callback} {i k : Nat}

theorem HeldFrom.shorten (held : HeldFrom callbacks i k) {l : Nat} (le : l ≤ k) : HeldFrom callbacks i l :=
  ⟨held.1, fun m lower upper => held.2 m lower (lt_of_lt_of_le upper le)⟩

theorem freezes_runs (freezes : (callbacks i).freezes (controllerRun callbacks i) = true) :
    (callbacks i).runs = true := by
  simp only [Callback.freezes, Bool.decide_and, Bool.and_eq_true, decide_eq_true_eq] at freezes
  exact freezes.1

theorem run_after_freeze (freezes : (callbacks i).freezes (controllerRun callbacks i) = true) :
    (controllerRun callbacks (i + 1)).frozen = true ∧
    (controllerRun callbacks (i + 1)).frozenPeriodId = leoPeriodId (callbacks i).net (callbacks i).nowUs ∧
    (controllerRun callbacks (i + 1)).recoveryStarted = false := by
  have runs := freezes_runs freezes
  have stepped := controllerRun_of_runs runs
  rcases Callback.decided_cases runs (controllerRun callbacks i) with ⟨-, froze⟩ | ⟨idle, -⟩ | ⟨idle, -⟩
  · have snapshot := Callback.report_snapshot runs (controllerRun callbacks i)
    have ramp := Callback.report_ramp runs (controllerRun callbacks i)
    rw [froze] at snapshot ramp
    simp only [LeoState.snapshot, LeoSnapshot.mk.injEq] at snapshot
    refine ⟨?_, ?_, ?_⟩
    · rw [stepped, snapshot.1]
      rfl
    · rw [stepped, snapshot.2.1]
      rfl
    · -- the freezing callback is still in the period it froze
      by_cases period : leoPeriodUs (callbacks i).net = 0
      · simp [Callback.freezes, period] at freezes
      · rw [leoPhase_of_same_period rfl period rfl] at ramp
        rw [stepped]
        exact congrArg Prod.fst ramp
  · simp [idle] at freezes
  · simp [idle] at freezes

theorem HeldFrom.snapshot_eq (held : HeldFrom callbacks i k) (lt : i < k) :
    (controllerRun callbacks k).snapshot = (controllerRun callbacks (i + 1)).snapshot := by
  induction k, lt using Nat.le_induction with
  | base => rfl
  | succ k lt ih =>
      have before := ih (held.shorten (Nat.le_succ k))
      have frozen : (controllerRun callbacks k).frozen = true :=
        (congrArg LeoSnapshot.frozen before).trans (run_after_freeze held.1).1
      cases runs : (callbacks k).runs
      · rw [← before]
        rw [controllerRun_of_not_runs runs]
      · have kept := Callback.decided_of_not_released runs frozen
          (controllerRun_initialized callbacks k frozen) (held.2 k lt (Nat.lt_succ_self k))
        calc (controllerRun callbacks (k + 1)).snapshot
            = ((callbacks k).report (controllerRun callbacks k)).state.snapshot := by
              rw [controllerRun_of_runs runs]
          _ = (controllerRun callbacks k).snapshot := by rw [Callback.report_snapshot runs, kept.2]
          _ = _ := before

theorem HeldFrom.frozen (held : HeldFrom callbacks i k) (lt : i < k) :
    (controllerRun callbacks k).frozen = true :=
  (congrArg LeoSnapshot.frozen (held.snapshot_eq lt)).trans (run_after_freeze held.1).1

theorem HeldFrom.periodId_eq (held : HeldFrom callbacks i k) (lt : i < k) :
    (controllerRun callbacks k).frozenPeriodId = (controllerRun callbacks (i + 1)).frozenPeriodId :=
  congrArg LeoSnapshot.periodId (held.snapshot_eq lt)

theorem HeldFrom.recoveryUs_eq (held : HeldFrom callbacks i k) (lt : i < k) :
    (controllerRun callbacks k).frozenRecoveryUs = (controllerRun callbacks (i + 1)).frozenRecoveryUs :=
  congrArg LeoSnapshot.recoveryUs (held.snapshot_eq lt)

theorem HeldFrom.decided_eq (held : HeldFrom callbacks i (k + 1)) (lt : i < k)
    (runs : (callbacks k).runs = true) :
    (callbacks k).decided (controllerRun callbacks k) = controllerRun callbacks k := by
  have frozen := (held.shorten (Nat.le_succ k)).frozen lt
  exact (Callback.decided_of_not_released runs frozen (controllerRun_initialized callbacks k frozen)
    (held.2 k lt (Nat.lt_succ_self k))).2

end Run

theorem not_released_spec {net : Net} {nowUs : UInt64} {st : LeoState} (frozen : st.frozen = true)
    (holds : leoReleases net nowUs st = false) :
    (st.recoveryStarted = true → nowUs - st.recoveryStartRealUs < st.frozenRecoveryUs.toUInt64) ∧
    (leoPeriodId net nowUs ≠ st.frozenPeriodId → st.frozenRecoveryUs ≠ 0) := by
  simp only [leoReleases, frozen, true_and, decide_eq_false_iff_not, not_or, not_and, ge_iff_le,
    UInt64.not_le, not_not] at holds
  exact ⟨holds.1, fun moved disabled => moved (holds.2 disabled)⟩

/-! ## Stages along a run -/

def cycleStage (net : Net) (callbacks : Nat → Callback) (k : Nat) : Stage :=
  let st := controllerRun callbacks (k + 1)
  if leoPeriodId net (callbacks k).nowUs = st.frozenPeriodId then
    scheduledStage (leoTimeline net st) (leoPeriodUs net) (leoPeriodPositionUs net (callbacks k).nowUs)
  else .recovery

namespace Schedule

variable {net : Net} {callbacks : Nat → Callback} (schedule : Schedule net callbacks) {i k : Nat}

include schedule

theorem frozenPeriodId_of_freeze
    (freezes : (callbacks i).freezes (controllerRun callbacks i) = true) :
    (controllerRun callbacks (i + 1)).frozenPeriodId = leoPeriodId net (callbacks i).nowUs := by
  rw [(run_after_freeze freezes).2.1, schedule.periodId_eq i]

theorem frozenPeriodId_le (held : HeldFrom callbacks i k) (lt : i < k) {l : Nat} (le : i ≤ l) :
    (controllerRun callbacks k).frozenPeriodId ≤ leoPeriodId net (callbacks l).nowUs := by
  rw [held.periodId_eq lt, schedule.frozenPeriodId_of_freeze held.1]
  exact schedule.periodId_le le

theorem decided_of_held (held : HeldFrom callbacks i (k + 1)) (le : i ≤ k)
    (runs : (callbacks k).runs = true) :
    let st := (callbacks k).decided (controllerRun callbacks k)
    st.frozen = true ∧ st.frozenPeriodId ≤ leoPeriodId net (callbacks k).nowUs ∧
    (leoPeriodId net (callbacks k).nowUs ≠ st.frozenPeriodId →
      i < k ∧ st = controllerRun callbacks k ∧ st.frozenRecoveryUs ≠ 0 ∧
      (st.recoveryStarted = true →
        (callbacks k).nowUs - st.recoveryStartRealUs < st.frozenRecoveryUs.toUInt64)) := by
  intro st
  have snapshot := Callback.report_snapshot runs (controllerRun callbacks k)
  rw [← controllerRun_of_runs runs] at snapshot
  have frozen : st.frozen = true :=
    (congrArg LeoSnapshot.frozen snapshot).symm.trans (held.frozen (Nat.lt_succ_of_le le))
  have periodId : (controllerRun callbacks (k + 1)).frozenPeriodId = st.frozenPeriodId :=
    congrArg LeoSnapshot.periodId snapshot
  refine ⟨frozen, ?_, ?_⟩
  · rw [← periodId]
    exact schedule.frozenPeriodId_le held (Nat.lt_succ_of_le le) le
  · intro moved
    rcases Nat.eq_or_lt_of_le le with rfl | lt
    · rw [← periodId, schedule.frozenPeriodId_of_freeze held.1] at moved
      exact absurd rfl moved
    · have before := held.shorten (Nat.le_succ k)
      have initialized := controllerRun_initialized callbacks k (before.frozen lt)
      have released := held.2 k lt (Nat.lt_succ_self k)
      have kept : st = controllerRun callbacks k := held.decided_eq lt runs
      have holds : leoReleases (callbacks k).net (callbacks k).nowUs (controllerRun callbacks k) = false := by
        simpa [Callback.releases, runs, schedule.periodUs_ne_zero k,
          Callback.ready_of_initialized initialized] using released
      obtain ⟨ramp, enabled⟩ := not_released_spec (before.frozen lt) holds
      rw [kept] at moved ⊢
      exact ⟨lt, rfl, enabled (by rw [schedule.periodId_eq k]; exact moved), ramp⟩

theorem phase_eq_stage (held : HeldFrom callbacks i (k + 1)) (le : i ≤ k)
    (runs : (callbacks k).runs = true) :
    ((callbacks k).report (controllerRun callbacks k)).phase = (cycleStage net callbacks k).phase := by
  obtain ⟨frozen, behind, past⟩ := schedule.decided_of_held held le runs
  have snapshot := Callback.report_snapshot runs (controllerRun callbacks k)
  rw [← controllerRun_of_runs runs] at snapshot
  have periodId : (controllerRun callbacks (k + 1)).frozenPeriodId =
      ((callbacks k).decided (controllerRun callbacks k)).frozenPeriodId :=
    congrArg LeoSnapshot.periodId snapshot
  have timeline : leoTimeline net (controllerRun callbacks (k + 1)) =
      leoTimeline net ((callbacks k).decided (controllerRun callbacks k)) := leoTimeline_congr snapshot
  simp only [Callback.report_phase, cycleStage, periodId]
  rcases leoPhase_cases (callbacks k).nowUs (schedule.periodUs_ne_zero k) frozen with
    ⟨same, phase, -⟩ | ⟨later, -, -, phase⟩ | ⟨later, -, -, -, phase⟩ | ⟨moved, why, -, -⟩
  · rw [schedule.periodId_eq k] at same
    rw [phase, if_pos same, timeline, schedule.timeline_eq k, schedule.periodUs_eq k, schedule.position_eq k]
  · rw [schedule.periodId_eq k] at later
    rw [phase, if_neg (UInt64.ne_of_lt later).symm]
    rfl
  · rw [schedule.periodId_eq k] at later
    rw [phase, if_neg (UInt64.ne_of_lt later).symm]
    rfl
  · rw [schedule.periodId_eq k] at moved why
    obtain ⟨-, -, enabled, ramp⟩ := past moved
    rcases why with ahead | disabled | ⟨started, expired⟩
    · exact absurd ahead (UInt64.not_lt.mpr behind)
    · exact absurd disabled enabled
    · exact absurd (ramp started) (UInt64.not_lt.mpr expired)

theorem cycleStage_mono {a b : Nat} (held : HeldFrom callbacks i (b + 1)) (lower : i ≤ a) (le : a ≤ b) :
    cycleStage net callbacks a ≤ cycleStage net callbacks b := by
  have heldA := held.shorten (Nat.succ_le_succ le)
  have snapshot : (controllerRun callbacks (a + 1)).snapshot = (controllerRun callbacks (b + 1)).snapshot := by
    rw [heldA.snapshot_eq (Nat.lt_succ_of_le lower),
      held.snapshot_eq (Nat.lt_succ_of_le (lower.trans le))]
  have periodId : (controllerRun callbacks (a + 1)).frozenPeriodId =
      (controllerRun callbacks (b + 1)).frozenPeriodId := congrArg LeoSnapshot.periodId snapshot
  have timeline : leoTimeline net (controllerRun callbacks (a + 1)) =
      leoTimeline net (controllerRun callbacks (b + 1)) := leoTimeline_congr snapshot
  have behind := schedule.frozenPeriodId_le heldA (Nat.lt_succ_of_le lower) lower
  unfold cycleStage
  dsimp only
  by_cases same : leoPeriodId net (callbacks b).nowUs = (controllerRun callbacks (b + 1)).frozenPeriodId
  · -- not yet past the boundary at `b`, so not at `a` either, and the position has grown
    have sameA : leoPeriodId net (callbacks a).nowUs = (controllerRun callbacks (a + 1)).frozenPeriodId := by
      apply UInt64.le_antisymm _ behind
      rw [periodId, ← same]
      exact schedule.periodId_le le
    rw [if_pos same, if_pos sameA, timeline]
    exact scheduledStage_mono _ _ (leoPeriodPositionUs_mono schedule.period (Callback.nowUs_real _)
      (Callback.nowUs_real _) (schedule.nowUs_le le) (by rw [sameA, same, periodId]))
  · rw [if_neg same]
    exact Stage.le_recovery _

theorem periodId_of_shrinking (runs : (callbacks k).runs = true)
    (shrinking : Shrinking ((callbacks k).report (controllerRun callbacks k)).phase) :
    leoPeriodId net (callbacks k).nowUs = (controllerRun callbacks (k + 1)).frozenPeriodId := by
  have inForce := (Callback.report_of_shrinking runs shrinking).1
  have snapshot := Callback.report_snapshot runs (controllerRun callbacks k)
  have frozen : ((callbacks k).decided (controllerRun callbacks k)).frozen = true :=
    (congrArg LeoSnapshot.frozen snapshot).symm.trans inForce
  have periodId : (controllerRun callbacks (k + 1)).frozenPeriodId =
      ((callbacks k).decided (controllerRun callbacks k)).frozenPeriodId := by
    rw [controllerRun_of_runs runs]
    exact congrArg LeoSnapshot.periodId snapshot
  rw [Callback.report_phase] at shrinking
  rw [periodId, ← schedule.periodId_eq k]
  rcases leoPhase_cases (callbacks k).nowUs (schedule.periodUs_ne_zero k) frozen with
    ⟨same, -, -⟩ | ⟨-, -, -, phase⟩ | ⟨-, -, -, -, phase⟩ | ⟨-, -, phase, -⟩
  · exact same
  all_goals simp [phase, Shrinking] at shrinking

/-! ## Recovery -/

theorem recovery_not_started (held : HeldFrom callbacks i k) (lt : i < k)
    (inside : ∀ l, i ≤ l → l < k → (callbacks l).runs = true →
      leoPeriodId net (callbacks l).nowUs = (controllerRun callbacks (i + 1)).frozenPeriodId) :
    (controllerRun callbacks k).recoveryStarted = false := by
  induction k, lt using Nat.le_induction with
  | base => exact (run_after_freeze held.1).2.2
  | succ k lt ih =>
      have before := ih (held.shorten (Nat.le_succ k)) fun l lower upper =>
        inside l lower (Nat.lt_succ_of_lt upper)
      cases runs : (callbacks k).runs
      · rw [controllerRun_of_not_runs runs]
        exact before
      · have heldBefore := held.shorten (Nat.le_succ k)
        have frozen := heldBefore.frozen lt
        have kept := held.decided_eq lt runs
        have same : leoPeriodId (callbacks k).net (callbacks k).nowUs =
            (controllerRun callbacks k).frozenPeriodId := by
          rw [schedule.periodId_eq k, heldBefore.periodId_eq lt]
          exact inside k (Nat.le_of_lt lt) (Nat.lt_succ_self k) runs
        have ramp := Callback.report_ramp runs (controllerRun callbacks k)
        rw [kept, leoPhase_of_same_period frozen (schedule.periodUs_ne_zero k) same,
          ← controllerRun_of_runs runs] at ramp
        exact (congrArg Prod.fst ramp).trans before

theorem recovery_at_boundary (held : HeldFrom callbacks i k) (lt : i < k)
    (runs : (callbacks k).runs = true)
    (inside : ∀ l, i ≤ l → l < k → (callbacks l).runs = true →
      leoPeriodId net (callbacks l).nowUs = (controllerRun callbacks (i + 1)).frozenPeriodId)
    (past : leoPeriodId net (callbacks k).nowUs ≠ (controllerRun callbacks (i + 1)).frozenPeriodId)
    (enabled : (controllerRun callbacks (i + 1)).frozenRecoveryUs ≠ 0) :
    (callbacks k).releases (controllerRun callbacks k) = false ∧
    ((callbacks k).report (controllerRun callbacks k)).phase = .recovery ∧
    ((callbacks k).report (controllerRun callbacks k)).elapsedUs = 0 ∧
    (controllerRun callbacks (k + 1)).ramp = (true, (callbacks k).nowUs) := by
  have frozen := held.frozen lt
  have initialized := controllerRun_initialized callbacks k frozen
  have started := schedule.recovery_not_started held lt inside
  rw [← held.recoveryUs_eq lt] at enabled
  rw [← held.periodId_eq lt] at past
  have released : (callbacks k).releases (controllerRun callbacks k) = false := by
    simp [Callback.releases, Callback.ready_of_initialized initialized, leoReleases, started, enabled]
  have kept := (Callback.decided_of_not_released runs frozen initialized released).2
  have behind := schedule.frozenPeriodId_le held lt (Nat.le_of_lt lt)
  have ramp := Callback.report_ramp runs (controllerRun callbacks k)
  rw [← controllerRun_of_runs runs, kept] at ramp
  rw [Callback.report_phase, Callback.report_elapsedUs, kept, ramp]
  rcases leoPhase_cases (callbacks k).nowUs (schedule.periodUs_ne_zero k) frozen with
    ⟨same, -, -⟩ | ⟨-, -, -, phase⟩ | ⟨-, -, again, -, -⟩ | ⟨-, why, -, -⟩
  · exact absurd (schedule.periodId_eq k _ ▸ same) past
  · rw [phase]
    exact ⟨released, rfl, rfl, rfl⟩
  · simp [started] at again
  · rw [schedule.periodId_eq k] at why
    rcases why with ahead | disabled | ⟨again, -⟩
    · exact absurd ahead (UInt64.not_lt.mpr behind)
    · exact absurd disabled enabled
    · simp [started] at again

theorem ramp_kept (held : HeldFrom callbacks i k) {first : Nat} (lower : i < first) (le : first ≤ k)
    (started : (controllerRun callbacks first).recoveryStarted = true) :
    (controllerRun callbacks k).ramp = (controllerRun callbacks first).ramp := by
  induction k, le using Nat.le_induction with
  | base => rfl
  | succ k le ih =>
      have heldBefore := held.shorten (Nat.le_succ k)
      have before := ih heldBefore
      have lt : i < k := lt_of_lt_of_le lower le
      cases runs : (callbacks k).runs
      · rw [controllerRun_of_not_runs runs]
        exact before
      · have frozen := heldBefore.frozen lt
        have kept := held.decided_eq lt runs
        have running : (controllerRun callbacks k).recoveryStarted = true :=
          (congrArg Prod.fst before).trans started
        have ramp := Callback.report_ramp runs (controllerRun callbacks k)
        rw [← controllerRun_of_runs runs, kept] at ramp
        rw [ramp, ← before]
        rcases leoPhase_cases (callbacks k).nowUs (schedule.periodUs_ne_zero k) frozen with
          ⟨-, -, state⟩ | ⟨-, -, stopped, -⟩ | ⟨-, -, -, -, phase⟩ | ⟨-, -, -, state⟩
        · rw [state]
        · simp [running] at stopped
        · rw [phase]
        · rw [state]

theorem recovery_within_ramp (held : HeldFrom callbacks i (k + 1)) (lt : i < k)
    (runs : (callbacks k).runs = true) (started : (controllerRun callbacks k).recoveryStarted = true)
    (recovery : ((callbacks k).report (controllerRun callbacks k)).phase = .recovery) :
    (callbacks k).nowUs - (controllerRun callbacks k).recoveryStartRealUs <
      (controllerRun callbacks k).frozenRecoveryUs.toUInt64 := by
  have heldBefore := held.shorten (Nat.le_succ k)
  have frozen := heldBefore.frozen lt
  have kept := held.decided_eq lt runs
  rw [Callback.report_phase, kept] at recovery
  rcases leoPhase_cases (callbacks k).nowUs (schedule.periodUs_ne_zero k) frozen with
    ⟨-, phase, -⟩ | ⟨-, -, stopped, -⟩ | ⟨-, -, -, within, -⟩ | ⟨-, -, phase, -⟩
  · rw [phase] at recovery
    exact absurd recovery (scheduledStage_phase_ne_recovery _ _ _)
  · simp [started] at stopped
  · exact within
  · simp [phase] at recovery

end Schedule

/-! ## Successive freezes -/

/-- From step `n` on the clock is not before the frozen period, and is past it once the snapshot is
released or its ramp has started. -/
structure ClockAhead (net : Net) (callbacks : Nat → Callback) (n : Nat) (st : LeoState) : Prop where
  initialized : st.initialized = true
  reached : ∀ k, n ≤ k → st.frozenPeriodId ≤ leoPeriodId net (callbacks k).nowUs
  past : st.frozen = false ∨ st.recoveryStarted = true →
    ∀ k, n ≤ k → st.frozenPeriodId < leoPeriodId net (callbacks k).nowUs

theorem leoRelease_unfrozen {net : Net} {nowUs : UInt64} {st : LeoState}
    (released : (leoRelease net nowUs st).frozen = false) :
    st.frozen = false ∨ st.recoveryStarted = true ∨ leoPeriodId net nowUs ≠ st.frozenPeriodId := by
  cases releases : leoReleases net nowUs st
  · rw [leoRelease_of_not_releases releases] at released
    exact .inl released
  · simp only [leoReleases, decide_eq_true_eq] at releases
    rcases releases.2 with ⟨started, -⟩ | ⟨-, moved⟩
    · exact .inr (.inl started)
    · exact .inr (.inr moved)

namespace Schedule

variable {net : Net} {callbacks : Nat → Callback} (schedule : Schedule net callbacks) {n : Nat} {st : LeoState}

include schedule

theorem past_of_released (ahead : ClockAhead net callbacks n st)
    (released : (leoRelease (callbacks n).net (callbacks n).nowUs st).frozen = false) :
    ∀ k, n ≤ k → st.frozenPeriodId < leoPeriodId net (callbacks k).nowUs := by
  rcases leoRelease_unfrozen released with unfrozen | started | moved
  · exact ahead.past (.inl unfrozen)
  · exact ahead.past (.inr started)
  · rw [schedule.periodId_eq n] at moved
    intro k le
    exact UInt64.lt_of_lt_of_le (UInt64.lt_of_le_of_ne (ahead.reached n le_rfl) (Ne.symm moved))
      (schedule.periodId_le le)

theorem past_of_freezes (ahead : ClockAhead net callbacks n st) (freezes : (callbacks n).freezes st = true) :
    st.frozenPeriodId < leoPeriodId net (callbacks n).nowUs := by
  simp only [Callback.freezes, Bool.decide_and, Bool.and_eq_true, decide_eq_true_eq,
    Callback.ready_of_initialized ahead.initialized] at freezes
  exact schedule.past_of_released ahead freezes.2.2.1 n le_rfl

theorem clockAhead_of_freeze {st' : LeoState} (initialized : st'.initialized = true)
    (frozen : st'.frozen = true) (stopped : st'.recoveryStarted = false)
    (now : st'.frozenPeriodId = leoPeriodId net (callbacks n).nowUs) :
    ClockAhead net callbacks (n + 1) st' where
  initialized := initialized
  reached k le := by
    rw [now]
    exact schedule.periodId_le (Nat.le_of_succ_le le)
  past why := by simp [frozen, stopped] at why

theorem step_clockAhead (ahead : ClockAhead net callbacks n st) :
    ClockAhead net callbacks (n + 1) (Callback.step st (callbacks n)) ∧
    st.frozenPeriodId ≤ (Callback.step st (callbacks n)).frozenPeriodId := by
  have later {k : Nat} (le : n + 1 ≤ k) : n ≤ k := Nat.le_of_succ_le le
  cases runs : (callbacks n).runs
  · rw [Callback.step_of_not_runs runs]
    exact ⟨⟨ahead.initialized, fun k le => ahead.reached k (later le),
      fun why k le => ahead.past why k (later le)⟩, UInt64.le_refl _⟩
  · have ready : (callbacks n).ready st = st := Callback.ready_of_initialized ahead.initialized
    have initialized := Callback.report_initialized runs st
    have snapshot := Callback.report_snapshot runs st
    have ramp := Callback.report_ramp runs st
    have frozenEq := congrArg LeoSnapshot.frozen snapshot
    have periodIdEq := congrArg LeoSnapshot.periodId snapshot
    have startedEq := congrArg Prod.fst ramp
    simp only [LeoState.snapshot, LeoState.ramp] at frozenEq periodIdEq startedEq
    rw [Callback.step_of_runs runs]
    rcases Callback.decided_cases runs st with
      ⟨freezes, froze⟩ | ⟨-, -, frozen, -, kept⟩ | ⟨-, why, unfrozen⟩
    · have now : ((callbacks n).report st).state.frozenPeriodId = leoPeriodId net (callbacks n).nowUs := by
        rw [periodIdEq, froze, ← schedule.periodId_eq n]
        rfl
      rw [froze, leoPhase_of_same_period rfl (schedule.periodUs_ne_zero n) rfl] at startedEq
      refine ⟨schedule.clockAhead_of_freeze initialized (by rw [frozenEq, froze]; rfl) startedEq now, ?_⟩
      rw [now]
      exact UInt64.le_of_lt (schedule.past_of_freezes ahead freezes)
    · rw [kept] at frozenEq periodIdEq startedEq
      refine ⟨⟨initialized, fun k le => ?_, fun why k le => ?_⟩, ?_⟩
      · rw [periodIdEq]
        exact ahead.reached k (later le)
      · rw [frozenEq, frozen, startedEq] at why
        simp only [Bool.true_eq_false, false_or] at why
        rw [periodIdEq]
        -- either the ramp was running before, or this callback is past the boundary and started it
        rcases leoPhase_cases (callbacks n).nowUs (schedule.periodUs_ne_zero n) frozen with
          ⟨-, -, state⟩ | ⟨boundary, -⟩ | ⟨boundary, -⟩ | ⟨-, -, -, state⟩
        · exact ahead.past (.inr (by rw [← why, state])) k (later le)
        · rw [schedule.periodId_eq n] at boundary
          exact UInt64.lt_of_lt_of_le boundary (schedule.periodId_le (later le))
        · rw [schedule.periodId_eq n] at boundary
          exact UInt64.lt_of_lt_of_le boundary (schedule.periodId_le (later le))
        · exact ahead.past (.inr (by rw [← why, state])) k (later le)
      · rw [periodIdEq]
        exact UInt64.le_refl _
    · rw [unfrozen, ready] at periodIdEq
      have past : ∀ k, n ≤ k → st.frozenPeriodId < leoPeriodId net (callbacks k).nowUs := by
        rw [ready] at why
        rcases why with releases | idle
        · simp only [Callback.releases, ready, Bool.decide_and, Bool.and_eq_true, decide_eq_true_eq] at releases
          exact schedule.past_of_released ahead (by rw [leoRelease_of_releases releases.2.2])
        · exact ahead.past (.inl idle)
      refine ⟨⟨initialized, fun k le => ?_, fun _ k le => ?_⟩, ?_⟩
      · rw [periodIdEq]
        exact ahead.reached k (later le)
      · rw [periodIdEq]
        exact past k (later le)
      · rw [periodIdEq]
        exact UInt64.le_refl _

theorem run_clockAhead {i j : Nat} (freezes : (callbacks i).freezes (controllerRun callbacks i) = true)
    (lt : i < j) :
    ClockAhead net callbacks j (controllerRun callbacks j) ∧
    (controllerRun callbacks (i + 1)).frozenPeriodId ≤ (controllerRun callbacks j).frozenPeriodId := by
  induction j, lt using Nat.le_induction with
  | base =>
      obtain ⟨frozen, -, stopped⟩ := run_after_freeze freezes
      exact ⟨schedule.clockAhead_of_freeze (controllerRun_initialized callbacks (i + 1) frozen) frozen stopped
        (schedule.frozenPeriodId_of_freeze freezes), UInt64.le_refl _⟩
  | succ j lt ih =>
      obtain ⟨ahead, grown⟩ := schedule.step_clockAhead ih.1
      exact ⟨ahead, UInt64.le_trans ih.2 grown⟩

theorem freezes_increase {i j : Nat} (first : (callbacks i).freezes (controllerRun callbacks i) = true)
    (second : (callbacks j).freezes (controllerRun callbacks j) = true) (lt : i < j) :
    (controllerRun callbacks (i + 1)).frozenPeriodId < (controllerRun callbacks (j + 1)).frozenPeriodId := by
  obtain ⟨ahead, grown⟩ := schedule.run_clockAhead first lt
  rw [schedule.frozenPeriodId_of_freeze second]
  exact UInt64.lt_of_le_of_lt grown (schedule.past_of_freezes ahead second)

end Schedule

theorem heldFrom_of_frozen {callbacks : Nat → Callback} {n : Nat}
    (frozen : (controllerRun callbacks n).frozen = true) : ∃ i, i < n ∧ HeldFrom callbacks i n := by
  induction n with
  | zero => cases frozen
  | succ n ih =>
      have extend (releases : (callbacks n).releases (controllerRun callbacks n) = false) :
          (∃ i, i < n ∧ HeldFrom callbacks i n) → ∃ i, i < n + 1 ∧ HeldFrom callbacks i (n + 1) := by
        rintro ⟨i, lt, held⟩
        refine ⟨i, Nat.lt_succ_of_lt lt, held.1, fun l lower upper => ?_⟩
        rcases Nat.lt_succ_iff_lt_or_eq.mp upper with before | rfl
        · exact held.2 l lower before
        · exact releases
      cases runs : (callbacks n).runs
      · rw [controllerRun_of_not_runs runs] at frozen
        exact extend (by simp [Callback.releases, runs]) (ih frozen)
      · have sameFrozen := congrArg LeoSnapshot.frozen (Callback.report_snapshot runs (controllerRun callbacks n))
        simp only [LeoState.snapshot] at sameFrozen
        rw [controllerRun_of_runs runs, sameFrozen] at frozen
        rcases Callback.decided_cases runs (controllerRun callbacks n) with
          ⟨freezes, -⟩ | ⟨-, releases, inForce, -, -⟩ | ⟨-, -, unfrozen⟩
        · exact ⟨n, Nat.lt_succ_self n, freezes, fun l lower upper => by omega⟩
        · exact extend releases (ih inForce)
        · rw [unfrozen] at frozen
          cases frozen

theorem heldFrom_of_phase {callbacks : Nat → Callback} {k : Nat} (runs : (callbacks k).runs = true)
    (controlled : ((callbacks k).report (controllerRun callbacks k)).phase ≠ .normal) :
    ∃ i, i ≤ k ∧ HeldFrom callbacks i (k + 1) := by
  have frozen : (controllerRun callbacks (k + 1)).frozen = true := by
    have sameFrozen := congrArg LeoSnapshot.frozen (Callback.report_snapshot runs (controllerRun callbacks k))
    simp only [LeoState.snapshot] at sameFrozen
    rw [controllerRun_of_runs runs, sameFrozen, ← Bool.not_eq_false]
    intro unfrozen
    rw [Callback.report_phase, leoPhase_of_unfrozen unfrozen] at controlled
    exact controlled rfl
  obtain ⟨i, lt, held⟩ := heldFrom_of_frozen frozen
  exact ⟨i, Nat.le_of_lt_succ lt, held⟩

theorem Schedule.recovery_bounded {net : Net} {callbacks : Nat → Callback}
    (schedule : Schedule net callbacks) {i k b : Nat} (lt : i < k) (le : k ≤ b)
    (held : HeldFrom callbacks i (b + 1)) (enabled : (controllerRun callbacks (i + 1)).frozenRecoveryUs ≠ 0)
    (ramp : (controllerRun callbacks (k + 1)).ramp = (true, (callbacks k).nowUs))
    (runs : (callbacks b).runs = true)
    (recovery : ((callbacks b).report (controllerRun callbacks b)).phase = .recovery) :
    (callbacks b).nowUs.toNat <
      (callbacks k).nowUs.toNat + (controllerRun callbacks (i + 1)).frozenRecoveryUs.toNat := by
  rcases Nat.eq_or_lt_of_le le with rfl | later
  · have positive := toNat_pos enabled
    omega
  · have heldBefore := held.shorten (Nat.le_succ b)
    have started : (controllerRun callbacks (k + 1)).recoveryStarted = true := congrArg Prod.fst ramp
    have kept := schedule.ramp_kept heldBefore (Nat.lt_succ_of_lt lt) later started
    have startedB := (congrArg Prod.fst kept).trans started
    have startB : (controllerRun callbacks b).recoveryStartRealUs = (callbacks k).nowUs :=
      (congrArg Prod.snd kept).trans (congrArg Prod.snd ramp)
    have within := schedule.recovery_within_ramp held (lt.trans later) runs startedB recovery
    rw [startB, heldBefore.recoveryUs_eq (lt.trans later), UInt64.lt_iff_toNat_lt,
      UInt64.toNat_sub_of_le _ _ (schedule.nowUs_le le), UInt32.toNat_toUInt64] at within
    omega

/-- The order of one handover cycle: under one snapshot the phases are those of a walk through the
stages, the shrinking ones in the frozen period only; RECOVERY starts at the first callback past the
boundary and is bounded by its frozen duration; no period is frozen twice. -/
theorem handover_cycle_order (net : Net) (callbacks : Nat → Callback) (schedule : Schedule net callbacks) :
    (∀ k, (callbacks k).runs = true → ((callbacks k).report (controllerRun callbacks k)).phase ≠ .normal →
      ∃ i, i ≤ k ∧ HeldFrom callbacks i (k + 1)) ∧
    (∀ i a b, i ≤ a → a ≤ b → HeldFrom callbacks i (b + 1) →
      (callbacks a).runs = true → (callbacks b).runs = true →
      ((callbacks a).report (controllerRun callbacks a)).phase = (cycleStage net callbacks a).phase ∧
      ((callbacks b).report (controllerRun callbacks b)).phase = (cycleStage net callbacks b).phase ∧
      cycleStage net callbacks a ≤ cycleStage net callbacks b) ∧
    (∀ k, (callbacks k).runs = true → Shrinking ((callbacks k).report (controllerRun callbacks k)).phase →
      leoPeriodId net (callbacks k).nowUs = (controllerRun callbacks (k + 1)).frozenPeriodId) ∧
    (∀ i k, i < k → HeldFrom callbacks i k → (callbacks k).runs = true →
      (∀ l, i ≤ l → l < k → (callbacks l).runs = true →
        leoPeriodId net (callbacks l).nowUs = (controllerRun callbacks (i + 1)).frozenPeriodId) →
      leoPeriodId net (callbacks k).nowUs ≠ (controllerRun callbacks (i + 1)).frozenPeriodId →
      (controllerRun callbacks (i + 1)).frozenRecoveryUs ≠ 0 →
      (callbacks k).releases (controllerRun callbacks k) = false ∧
      ((callbacks k).report (controllerRun callbacks k)).phase = .recovery ∧
      ((callbacks k).report (controllerRun callbacks k)).elapsedUs = 0 ∧
      ∀ b, k ≤ b → HeldFrom callbacks i (b + 1) → (callbacks b).runs = true →
        ((callbacks b).report (controllerRun callbacks b)).phase = .recovery →
        (callbacks b).nowUs.toNat <
          (callbacks k).nowUs.toNat + (controllerRun callbacks (i + 1)).frozenRecoveryUs.toNat) ∧
    (∀ i j, i < j → (callbacks i).freezes (controllerRun callbacks i) = true →
      (callbacks j).freezes (controllerRun callbacks j) = true →
      (controllerRun callbacks (i + 1)).frozenPeriodId < (controllerRun callbacks (j + 1)).frozenPeriodId) := by
  refine ⟨fun k => heldFrom_of_phase, ?_, fun k => schedule.periodId_of_shrinking, ?_,
    fun i j lt first second => schedule.freezes_increase first second lt⟩
  · intro i a b lower le held runsA runsB
    exact ⟨schedule.phase_eq_stage (held.shorten (Nat.succ_le_succ le)) lower runsA,
      schedule.phase_eq_stage held (lower.trans le) runsB, schedule.cycleStage_mono held lower le⟩
  · intro i k lt held runs inside past enabled
    obtain ⟨released, phase, elapsed, ramp⟩ :=
      schedule.recovery_at_boundary held lt runs inside past enabled
    exact ⟨released, phase, elapsed, fun b le heldB runsB recovery =>
      schedule.recovery_bounded lt le heldB enabled ramp runsB recovery⟩

def boundaryCallbacks (n : Nat) : Callback where
  net := tcpSkInit
  clk := ⟨if n = 0 then 26900000000 else 27010000000, 0⟩
  sk := downloadView 0 7
  normalWin := 1000000

theorem boundaryCallbacks_net (n : Nat) : (boundaryCallbacks n).net = tcpSkInit := rfl

theorem boundaryCallbacks_schedule : Schedule tcpSkInit boundaryCallbacks where
  period := by decide
  fixed _ := ⟨rfl, rfl⟩
  clock n := by
    cases n with
    | zero => decide
    | succ n => exact UInt64.le_refl _

theorem boundaryCallbacks_held : HeldFrom boundaryCallbacks 0 1 := by
  refine ⟨by decide, ?_⟩
  intro l lower upper
  omega

theorem handover_cycle_order_at_boundary :
    Schedule tcpSkInit boundaryCallbacks ∧
    ((boundaryCallbacks 1).report (controllerRun boundaryCallbacks 1)).phase = .recovery ∧
    ((boundaryCallbacks 1).report (controllerRun boundaryCallbacks 1)).elapsedUs = 0 := by
  have cycle := (handover_cycle_order tcpSkInit boundaryCallbacks boundaryCallbacks_schedule).2.2.2.1
    0 1 Nat.zero_lt_one boundaryCallbacks_held (by decide)
    (fun l _ upper _ => by
      obtain rfl : l = 0 := by omega
      decide)
    (by decide) (by decide)
  exact ⟨boundaryCallbacks_schedule, cycle.2.1, cycle.2.2.1⟩

end StarlinkTcp.Proof

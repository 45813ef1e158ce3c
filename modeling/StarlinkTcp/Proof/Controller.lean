import StarlinkTcp.Machine.Runs
import StarlinkTcp.Proof.Lookahead

/-!
# What one callback of the dynamic controller can do

A callback brings fresh sysctls, clocks, socket fields and an ordinary window; only `LeoState` is
carried from one to the next. The lemmas here say once which parts of the state each stage of
`tcp_leo_dynamic_target` leaves alone and what the freeze and the phase decision can do. Every run
property is derived from them.
-/

namespace StarlinkTcp.Kernel

structure LeoMeasurements where
  lastSampleUs : UInt64
  lastBytesReceived : UInt64
  recvRateBpsEwma : UInt64
  rttUs : UInt32
  rttBaselineUs : UInt32
  normalRwndEwma : UInt32

def LeoState.measurements (st : LeoState) : LeoMeasurements where
  lastSampleUs := st.lastSampleUs
  lastBytesReceived := st.lastBytesReceived
  recvRateBpsEwma := st.recvRateBpsEwma
  rttUs := st.rttUs
  rttBaselineUs := st.rttBaselineUs
  normalRwndEwma := st.normalRwndEwma

def LeoState.withMeasurements (st : LeoState) (m : LeoMeasurements) : LeoState :=
  { st with
    lastSampleUs := m.lastSampleUs
    lastBytesReceived := m.lastBytesReceived
    recvRateBpsEwma := m.recvRateBpsEwma
    rttUs := m.rttUs
    rttBaselineUs := m.rttBaselineUs
    normalRwndEwma := m.normalRwndEwma }

/-- What `leo_freeze_parameters` fixes for one handover, with the flag that says it is in force. -/
structure LeoSnapshot where
  frozen : Bool
  periodId : UInt64
  rttUs : UInt32
  rttHalfUs : UInt32
  recvRateBps : UInt64
  startRwnd : UInt32
  minRwnd : UInt32
  preUs : UInt32
  outageUs : UInt32
  drainUs : UInt32
  recoveryUs : UInt32
  predictionGuardUs : UInt32

def LeoState.snapshot (st : LeoState) : LeoSnapshot where
  frozen := st.frozen
  periodId := st.frozenPeriodId
  rttUs := st.frozenRttUs
  rttHalfUs := st.frozenRttHalfUs
  recvRateBps := st.frozenRecvRateBps
  startRwnd := st.frozenStartRwnd
  minRwnd := st.frozenMinRwnd
  preUs := st.frozenPreUs
  outageUs := st.frozenOutageUs
  drainUs := st.frozenDrainUs
  recoveryUs := st.frozenRecoveryUs
  predictionGuardUs := st.frozenPredictionGuardUs

def LeoState.ramp (st : LeoState) : Bool × UInt64 := (st.recoveryStarted, st.recoveryStartRealUs)

def LeoState.preStart (st : LeoState) : Bool × UInt32 × UInt32 :=
  (st.preStarted, st.frozenPreStartWnd, st.frozenPreStartRcvNxt)

end StarlinkTcp.Kernel

namespace StarlinkTcp.Proof
open Kernel Machine

structure Callback where
  net : Net
  clk : Clock
  sk : SockView
  normalWin : UInt32
deriving DecidableEq, Repr

namespace Callback

def nowUs (c : Callback) : UInt64 := leoNowRealUs c.clk

def runs (c : Callback) : Bool := leoControls c.net c.sk

def step (st : LeoState) (c : Callback) : LeoState :=
  (tcpLeoDynamicTarget c.net c.clk c.sk c.normalWin st).2

def report (c : Callback) (st : LeoState) : LeoReport :=
  leoController c.net c.clk c.sk c.normalWin st

def ready (c : Callback) (st : LeoState) : LeoState :=
  leoEnsureInitialized c.net c.clk c.sk c.normalWin st

def releases (c : Callback) (st : LeoState) : Bool :=
  c.runs ∧ leoPeriodUs c.net ≠ 0 ∧ leoReleases c.net c.nowUs (c.ready st)

def freezes (c : Callback) (st : LeoState) : Bool :=
  c.runs ∧ leoPeriodUs c.net ≠ 0 ∧ (leoRelease c.net c.nowUs (c.ready st)).frozen = false ∧
    leoFreezeDue c.net c.sk c.normalWin c.nowUs (c.ready st)

def decided (c : Callback) (st : LeoState) : LeoState :=
  leoMaybeFreeze c.net c.sk c.normalWin c.nowUs (c.ready st)

def recordsPreStart (c : Callback) (st : LeoState) : Bool :=
  c.runs ∧
    ((c.report st).phase = .preHandover ∧ st.currentPhase ≠ .preHandover ∨
     ((c.report st).phase = .preHandover ∨ (c.report st).phase = .outage ∨
       (c.report st).phase = .drain) ∧ (c.decided st).preStarted = false)

theorem nowUs_real (c : Callback) : RealUs c.nowUs := leoNowRealUs_real c.clk

theorem step_of_runs {c : Callback} {st : LeoState} (runs : c.runs = true) :
    step st c = (c.report st).state := by
  have gates : leoControls c.net c.sk = true := runs
  simp [step, tcpLeoDynamicTarget, report, gates]

theorem step_of_not_runs {c : Callback} {st : LeoState} (runs : c.runs = false) : step st c = st := by
  have gates : leoControls c.net c.sk = false := runs
  simp [step, tcpLeoDynamicTarget, gates]

end Callback

section Frames

variable {net : Net} {sk : SockView} {normalWin : UInt32} {nowUs : UInt64} {phase : TcpLeoPhase}
  {st : LeoState}

theorem leoUpdateMeasurements_frame (initialized : st.initialized = true) :
    leoUpdateMeasurements net sk normalWin nowUs phase st =
      st.withMeasurements (leoUpdateMeasurements net sk normalWin nowUs phase st).measurements := by
  have kept : ¬ st.initialized = false := by simp [initialized]
  unfold leoUpdateMeasurements
  dsimp only
  rw [if_neg kept]
  split_ifs <;> rfl

theorem leoUpdateMeasurements_initialized :
    (leoUpdateMeasurements net sk normalWin nowUs phase st).initialized = true := by
  cases initialized : st.initialized
  · simp [leoUpdateMeasurements, initialized]
  · rw [leoUpdateMeasurements_frame initialized]
    exact initialized

theorem leoUpdateMeasurements_of_fresh (fresh : st.initialized = false) :
    (leoUpdateMeasurements net sk normalWin nowUs phase st).frozen = false := by
  simp [leoUpdateMeasurements, fresh, tcpLeoDynamicInit]

theorem leoTimeline_congr {st' : LeoState} (same : st.snapshot = st'.snapshot) :
    leoTimeline net st = leoTimeline net st' := by
  simp only [LeoState.snapshot, LeoSnapshot.mk.injEq] at same
  simp only [leoTimeline, same]

theorem leoRelease_of_releases (releases : leoReleases net nowUs st = true) :
    leoRelease net nowUs st = { st with frozen := false } := by
  simp [leoRelease, releases]

theorem leoRelease_of_not_releases (releases : leoReleases net nowUs st = false) :
    leoRelease net nowUs st = st := by
  simp [leoRelease, releases]

theorem leoPhase_frame :
    (leoPhase net nowUs st).2.2.snapshot = st.snapshot ∧
    (leoPhase net nowUs st).2.2.preStart = st.preStart ∧
    (leoPhase net nowUs st).2.2.measurements = st.measurements ∧
    (leoPhase net nowUs st).2.2.initialized = st.initialized := by
  unfold leoPhase
  dsimp only
  split_ifs <;> exact ⟨rfl, rfl, rfl, rfl⟩

/-- Every way `leo_phase` can decide on a snapshot in force, guards included. -/
theorem leoPhase_cases (nowUs : UInt64) (period : leoPeriodUs net ≠ 0) (frozen : st.frozen = true) :
    (leoPeriodId net nowUs = st.frozenPeriodId ∧
      (leoPhase net nowUs st).1 =
        (scheduledStage (leoTimeline net st) (leoPeriodUs net) (leoPeriodPositionUs net nowUs)).phase ∧
      (leoPhase net nowUs st).2.2 = st) ∨
    (leoPeriodId net nowUs > st.frozenPeriodId ∧ st.frozenRecoveryUs ≠ 0 ∧ st.recoveryStarted = false ∧
      leoPhase net nowUs st =
        (.recovery, 0, { st with recoveryStarted := true, recoveryStartRealUs := nowUs })) ∨
    (leoPeriodId net nowUs > st.frozenPeriodId ∧ st.frozenRecoveryUs ≠ 0 ∧ st.recoveryStarted = true ∧
      nowUs - st.recoveryStartRealUs < st.frozenRecoveryUs.toUInt64 ∧
      leoPhase net nowUs st = (.recovery, nowUs - st.recoveryStartRealUs, st)) ∨
    (leoPeriodId net nowUs ≠ st.frozenPeriodId ∧
      (leoPeriodId net nowUs < st.frozenPeriodId ∨ st.frozenRecoveryUs = 0 ∨
        st.recoveryStarted = true ∧ st.frozenRecoveryUs.toUInt64 ≤ nowUs - st.recoveryStartRealUs) ∧
      (leoPhase net nowUs st).1 = .normal ∧ (leoPhase net nowUs st).2.2 = st) := by
  by_cases same : leoPeriodId net nowUs = st.frozenPeriodId
  · left
    have scheduled := leoPhase_of_same_period frozen period same
    refine ⟨same, ?_, congrArg (fun answer => answer.2.2) scheduled⟩
    rw [scheduled, leoScheduledPhase_phase]
  · right
    by_cases past : leoPeriodId net nowUs > st.frozenPeriodId ∧ st.frozenRecoveryUs ≠ 0
    · cases started : st.recoveryStarted
      · left
        exact ⟨past.1, past.2, rfl, by simp [leoPhase, frozen, period, same, past, started]⟩
      · right
        by_cases early : nowUs - st.recoveryStartRealUs < st.frozenRecoveryUs.toUInt64
        · left
          exact ⟨past.1, past.2, rfl, early, by simp [leoPhase, frozen, period, same, past, started, early]⟩
        · right
          exact ⟨same, .inr (.inr ⟨rfl, UInt64.not_lt.mp early⟩),
            by simp [leoPhase, frozen, period, same, past, started, early],
            by simp [leoPhase, frozen, period, same, past, started, early]⟩
    · right
      right
      refine ⟨same, ?_, by simp [leoPhase, frozen, period, same, past],
        by simp [leoPhase, frozen, period, same, past]⟩
      rw [not_and_or, not_not, gt_iff_lt, UInt64.not_lt] at past
      rcases past with le | disabled
      · exact .inl (UInt64.lt_of_le_of_ne le same)
      · exact .inr (.inl disabled)

theorem leoPhase_of_unfrozen (unfrozen : st.frozen = false) : leoPhase net nowUs st = (.normal, 0, st) := by
  simp [leoPhase, unfrozen]

end Frames

namespace Callback

variable {c : Callback} {st : LeoState}

theorem ready_initialized : (c.ready st).initialized = true := by
  unfold ready leoEnsureInitialized
  split
  · exact leoUpdateMeasurements_initialized
  · rename_i initialized
    simpa using initialized

theorem ready_of_initialized (initialized : st.initialized = true) : c.ready st = st := by
  simp [ready, leoEnsureInitialized, initialized]

theorem ready_frozen_of_fresh (fresh : st.initialized = false) : (c.ready st).frozen = false := by
  simp only [ready, leoEnsureInitialized, fresh, if_true]
  exact leoUpdateMeasurements_of_fresh fresh

theorem ready_eq_of_frozen (frozen : (c.ready st).frozen = true) : c.ready st = st := by
  cases initialized : st.initialized
  · rw [ready_frozen_of_fresh initialized] at frozen
    cases frozen
  · exact ready_of_initialized initialized

/-- The three outcomes of `leo_maybe_freeze`: a new snapshot, the old one kept, or none. -/
theorem decided_cases (runs : c.runs = true) (st : LeoState) :
    (c.freezes st = true ∧
      c.decided st = leoFreezeParameters c.net c.sk c.normalWin c.nowUs
        (leoRelease c.net c.nowUs (c.ready st))) ∨
    (c.freezes st = false ∧ c.releases st = false ∧ st.frozen = true ∧ c.ready st = st ∧
      c.decided st = st) ∨
    (c.freezes st = false ∧ (c.releases st = true ∨ (c.ready st).frozen = false) ∧
      c.decided st = { c.ready st with frozen := false }) := by
  by_cases freezes : c.freezes st = true
  · left
    refine ⟨freezes, ?_⟩
    simp only [Callback.freezes, Bool.decide_and, Bool.and_eq_true, decide_eq_true_eq] at freezes
    exact leoMaybeFreeze_of_due freezes.2.1 freezes.2.2.1 freezes.2.2.2
  · right
    have kept : c.decided st = if c.releases st then { c.ready st with frozen := false } else c.ready st := by
      simp only [Callback.freezes, runs, true_and, decide_eq_true_eq, not_and] at freezes
      by_cases period : leoPeriodUs c.net = 0
      · simp [decided, leoMaybeFreeze, Callback.releases, period]
      · have early : ¬ ((leoRelease c.net c.nowUs (c.ready st)).frozen = false ∧
            leoFreezeDue c.net c.sk c.normalWin c.nowUs (c.ready st) = true) :=
          fun both => freezes period both.1 both.2
        simp only [decided, leoMaybeFreeze, period, if_false, if_neg early]
        simp [leoRelease, Callback.releases, runs, period]
    rw [Bool.not_eq_true] at freezes
    cases releases : c.releases st
    · simp only [releases, Bool.false_eq_true, if_false] at kept
      cases frozen : (c.ready st).frozen
      · exact .inr ⟨freezes, .inr rfl, by rw [kept, ← frozen]⟩
      · have same := ready_eq_of_frozen frozen
        exact .inl ⟨freezes, rfl, by rw [← same, frozen], same, by rw [kept, same]⟩
    · exact .inr ⟨freezes, .inl rfl, by rw [kept, releases]; rfl⟩

theorem decided_initialized : (c.decided st).initialized = true := by
  have released : (leoRelease c.net c.nowUs (c.ready st)).initialized = true := by
    unfold leoRelease
    split <;> exact ready_initialized
  unfold decided leoMaybeFreeze
  dsimp only
  split_ifs
  · exact ready_initialized
  · exact released
  · exact released

theorem report_phase : (c.report st).phase = (leoPhase c.net c.nowUs (c.decided st)).1 := rfl

theorem report_elapsedUs : (c.report st).elapsedUs = (leoPhase c.net c.nowUs (c.decided st)).2.1 := rfl

def measured (c : Callback) (st : LeoState) : LeoState :=
  leoUpdateMeasurements c.net c.sk c.normalWin (leoNowMonoUs c.clk) (c.report st).phase
    (leoPhase c.net c.nowUs (c.decided st)).2.2

theorem measured_frame : c.measured st =
    (leoPhase c.net c.nowUs (c.decided st)).2.2.withMeasurements (c.measured st).measurements := by
  apply leoUpdateMeasurements_frame
  rw [leoPhase_frame.2.2.2]
  exact decided_initialized

theorem measured_preStarted : (c.measured st).preStarted = (c.decided st).preStarted := by
  rw [measured_frame]
  exact congrArg Prod.fst leoPhase_frame.2.1

theorem report_state (runs : c.runs = true) (st : LeoState) : (c.report st).state =
    { (if c.recordsPreStart st then leoRecordPreStart c.sk c.normalWin (c.measured st)
        else c.measured st) with currentPhase := (c.report st).phase } := by
  have preStarted : (c.measured st).preStarted = (c.decided st).preStarted := measured_preStarted
  have unfolded : (c.report st).state =
      { (if ((c.report st).phase = .preHandover ∨ (c.report st).phase = .outage ∨
              (c.report st).phase = .drain) ∧
            (if (c.report st).phase = .preHandover ∧ st.currentPhase ≠ .preHandover then
              leoRecordPreStart c.sk c.normalWin (c.measured st) else c.measured st).preStarted = false then
          leoRecordPreStart c.sk c.normalWin
            (if (c.report st).phase = .preHandover ∧ st.currentPhase ≠ .preHandover then
              leoRecordPreStart c.sk c.normalWin (c.measured st) else c.measured st)
        else
          (if (c.report st).phase = .preHandover ∧ st.currentPhase ≠ .preHandover then
            leoRecordPreStart c.sk c.normalWin (c.measured st) else c.measured st)) with
        currentPhase := (c.report st).phase } := rfl
  rw [unfolded]
  by_cases entering : (c.report st).phase = .preHandover ∧ st.currentPhase ≠ .preHandover
  · simp [recordsPreStart, runs, entering, leoRecordPreStart]
  · simp [recordsPreStart, runs, entering, preStarted]

theorem report_target : (c.report st).target =
    leoTarget c.sk c.normalWin (c.report st).state (c.report st).elapsedUs (c.report st).phase := rfl

theorem report_initialized (runs : c.runs = true) (st : LeoState) : (c.report st).state.initialized = true := by
  have measured : (c.measured st).initialized = true := leoUpdateMeasurements_initialized
  rw [report_state runs st]
  split <;> exact measured

theorem report_snapshot (runs : c.runs = true) (st : LeoState) :
    (c.report st).state.snapshot = (c.decided st).snapshot := by
  have measured : (c.measured st).snapshot = (c.decided st).snapshot := by
    rw [measured_frame]
    exact leoPhase_frame.1
  rw [report_state runs st, ← measured]
  generalize c.measured st = m
  split <;> rfl

theorem report_ramp (runs : c.runs = true) (st : LeoState) :
    (c.report st).state.ramp = (leoPhase c.net c.nowUs (c.decided st)).2.2.ramp := by
  have measured : (c.measured st).ramp = (leoPhase c.net c.nowUs (c.decided st)).2.2.ramp := by
    rw [measured_frame]
    rfl
  rw [report_state runs st, ← measured]
  generalize c.measured st = m
  split <;> rfl

theorem report_preStart (runs : c.runs = true) (st : LeoState) :
    (c.report st).state.preStart =
      if c.recordsPreStart st then
        (true, max (min c.normalWin (c.decided st).frozenStartRwnd) (c.decided st).frozenMinRwnd, c.sk.rcvNxt)
      else (c.decided st).preStart := by
  have snapshot : (c.measured st).snapshot = (c.decided st).snapshot := by
    rw [measured_frame]
    exact leoPhase_frame.1
  have start := congrArg LeoSnapshot.startRwnd snapshot
  have floor := congrArg LeoSnapshot.minRwnd snapshot
  simp only [LeoState.snapshot] at start floor
  rw [report_state runs st]
  split
  · simp only [LeoState.preStart, leoRecordPreStart, start, floor]
  · have measured : (c.measured st).preStart = (c.decided st).preStart := by
      rw [measured_frame]
      exact leoPhase_frame.2.1
    exact measured

end Callback

/-- The state before callback `n` of a run that starts on a fresh socket. -/
def controllerRun (callbacks : Nat → Callback) (n : Nat) : LeoState :=
  runState Callback.step tcpLeoDynamicInit callbacks n

theorem controllerRun_of_runs {callbacks : Nat → Callback} {n : Nat} (runs : (callbacks n).runs = true) :
    controllerRun callbacks (n + 1) = ((callbacks n).report (controllerRun callbacks n)).state :=
  Callback.step_of_runs runs

theorem controllerRun_of_not_runs {callbacks : Nat → Callback} {n : Nat}
    (runs : (callbacks n).runs = false) :
    controllerRun callbacks (n + 1) = controllerRun callbacks n :=
  Callback.step_of_not_runs runs

end StarlinkTcp.Proof

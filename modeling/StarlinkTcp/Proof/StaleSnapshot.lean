import StarlinkTcp.Proof.PhaseOrder

/-!
# Snapshots across re-programmed sysctls

Period ids count periods of the lattice in force, so an id stored under one period or offset means
nothing under another. The rule that releases a snapshot without recovery compares for inequality;
with recovery the snapshot waits for its ramp, and `leo_phase` starts the ramp only when the current
id is the larger one. A snapshot whose id lies ahead of the clock is therefore neither used nor
released. This is the only way a snapshot outlives its period.
-/

namespace StarlinkTcp.Proof
open Kernel Machine

/-- A snapshot in force is that of the current period, or its recovery ramp is running. -/
def SnapshotFresh (net : Net) (nowUs : UInt64) (st : LeoState) : Prop :=
  st.frozen = true → st.frozenPeriodId = leoPeriodId net nowUs ∨
    st.recoveryStarted = true ∧ nowUs - st.recoveryStartRealUs < st.frozenRecoveryUs.toUInt64

instance (net : Net) (nowUs : UInt64) (st : LeoState) : Decidable (SnapshotFresh net nowUs st) :=
  inferInstanceAs (Decidable (_ → _))

/-- The callback finds a snapshot that waits for its ramp, with a period id ahead of the clock. -/
def Callback.strands (c : Callback) (st : LeoState) : Bool :=
  st.frozen ∧ st.recoveryStarted = false ∧ st.frozenRecoveryUs ≠ 0 ∧
    leoPeriodId c.net c.nowUs < st.frozenPeriodId

section Step

variable {net : Net} {nowUs : UInt64} {st st' : LeoState}

theorem SnapshotFresh.congr (snapshot : st.snapshot = st'.snapshot) (ramp : st.ramp = st'.ramp) :
    SnapshotFresh net nowUs st ↔ SnapshotFresh net nowUs st' := by
  simp only [LeoState.snapshot, LeoSnapshot.mk.injEq] at snapshot
  simp only [LeoState.ramp, Prod.mk.injEq] at ramp
  simp only [SnapshotFresh, snapshot, ramp]

theorem leoPhase_fresh_iff (period : leoPeriodUs net ≠ 0) (frozen : st.frozen = true)
    (holds : leoReleases net nowUs st = false) :
    SnapshotFresh net nowUs (leoPhase net nowUs st).2.2 ↔
      ¬ (st.recoveryStarted = false ∧ st.frozenRecoveryUs ≠ 0 ∧
        leoPeriodId net nowUs < st.frozenPeriodId) := by
  obtain ⟨within, enabled⟩ := not_released_spec frozen holds
  rcases leoPhase_cases nowUs period frozen with
    ⟨same, -, state⟩ | ⟨later, positive, -, phase⟩ | ⟨later, -, started, early, phase⟩ | ⟨moved, why, -, state⟩
  · rw [state, same]
    refine ⟨fun _ behind => UInt64.lt_irrefl _ behind.2.2, fun _ _ => .inl same.symm⟩
  · rw [phase]
    refine ⟨fun _ behind => UInt64.lt_asymm later behind.2.2, fun _ _ => .inr ⟨rfl, ?_⟩⟩
    simp only [UInt64.lt_iff_toNat_lt, UInt64.sub_self, UInt64.toNat_zero, UInt32.toNat_toUInt64]
    exact toNat_pos positive
  · rw [phase]
    exact ⟨fun _ behind => UInt64.lt_asymm later behind.2.2, fun _ _ => .inr ⟨started, early⟩⟩
  · rw [state]
    -- only an id ahead of the clock is left: both release rules have passed
    have ahead : leoPeriodId net nowUs < st.frozenPeriodId := by
      rcases why with ahead | disabled | ⟨started, expired⟩
      · exact ahead
      · exact absurd disabled (enabled moved)
      · exact absurd (within started) (UInt64.not_lt.mpr expired)
    constructor
    · intro fresh behind
      rcases fresh frozen with same | ⟨started, -⟩
      · exact moved same.symm
      · simp [behind.1] at started
    · intro fresh _
      cases started : st.recoveryStarted
      · exact absurd ⟨started, enabled moved, ahead⟩ fresh
      · exact .inr ⟨rfl, within started⟩

end Step

theorem Callback.report_fresh_iff {c : Callback} {st : LeoState} (period : leoPeriodUs c.net ≠ 0)
    (initialized : st.frozen = true → st.initialized = true) (runs : c.runs = true) :
    SnapshotFresh c.net c.nowUs (c.report st).state ↔ c.strands st = false := by
  rw [SnapshotFresh.congr ((report_snapshot runs st).trans leoPhase_frame.1.symm) (report_ramp runs st)]
  have strandsReleases : c.strands st = true → c.releases st = false := by
    intro strands
    simp only [Callback.strands, decide_eq_true_eq] at strands
    simp [Callback.releases, ready_of_initialized (initialized strands.1), leoReleases, strands]
  rcases decided_cases runs st with ⟨freezes, froze⟩ | ⟨-, releases, frozen, ready, kept⟩ | ⟨freezes, why, unfrozen⟩
  · rw [froze, leoPhase_of_same_period rfl period rfl]
    refine ⟨fun _ => ?_, fun _ _ => .inl rfl⟩
    rw [← Bool.not_eq_true]
    intro strands
    have frozen : st.frozen = true := by
      simp only [Callback.strands, decide_eq_true_eq] at strands
      exact strands.1
    have kept := (decided_of_not_released runs frozen (initialized frozen) (strandsReleases strands)).1
    simp [kept] at freezes
  · have holds : leoReleases c.net c.nowUs st = false := by
      simpa [Callback.releases, runs, period, ready] using releases
    rw [kept, leoPhase_fresh_iff period frozen holds]
    simp only [Callback.strands, frozen, true_and, decide_eq_false_iff_not]
  · rw [unfrozen, leoPhase_of_unfrozen rfl]
    refine ⟨fun _ => ?_, fun _ frozen => by cases frozen⟩
    rw [← Bool.not_eq_true]
    intro strands
    have releases := strandsReleases strands
    simp only [Callback.strands, decide_eq_true_eq] at strands
    rcases why with released | idle
    · simp [releases] at released
    · rw [ready_of_initialized (initialized strands.1), strands.1] at idle
      cases idle

/-- Along every run under admissible sysctls, re-programmed at will between callbacks, the snapshot
left by each callback is fresh exactly as long as no callback strands one. -/
theorem snapshot_fresh_iff_not_stranded (callbacks : Nat → Callback)
    (admissible : ∀ n, (callbacks n).net.Admissible) (horizon : Nat) :
    (∀ n, n < horizon → (callbacks n).runs = true →
      SnapshotFresh (callbacks n).net (callbacks n).nowUs (controllerRun callbacks (n + 1))) ↔
    (∀ n, n < horizon → (callbacks n).runs = true →
      (callbacks n).strands (controllerRun callbacks n) = false) := by
  have pointwise (n : Nat) (runs : (callbacks n).runs = true) :
      SnapshotFresh (callbacks n).net (callbacks n).nowUs (controllerRun callbacks (n + 1)) ↔
        (callbacks n).strands (controllerRun callbacks n) = false := by
    have period : leoPeriodUs (callbacks n).net ≠ 0 := by
      apply leoPeriodUs_ne_zero
      exact UInt32.lt_of_lt_of_le (by decide) (admissible n).rwndPeriodMs
    rw [controllerRun_of_runs runs]
    exact Callback.report_fresh_iff period (controllerRun_initialized callbacks n) runs
  constructor
  · intro fresh n lt runs
    exact (pointwise n runs).mp (fresh n lt runs)
  · intro held n lt runs
    exact (pointwise n runs).mpr (held n lt runs)

theorem snapshot_fresh_at_boundary :
    (∀ n, (boundaryCallbacks n).net.Admissible) ∧
    SnapshotFresh (boundaryCallbacks 1).net (boundaryCallbacks 1).nowUs (controllerRun boundaryCallbacks 2) := by
  have admissible (n : Nat) : (boundaryCallbacks n).net.Admissible := by
    rw [boundaryCallbacks_net]
    exact tcpSkInit_admissible
  refine ⟨admissible, (snapshot_fresh_iff_not_stranded boundaryCallbacks admissible 2).mpr ?_ 1
    (by decide) (by decide)⟩
  intro n lt _
  obtain rfl | rfl : n = 0 ∨ n = 1 := by omega
  · decide
  · decide

def doubledPeriod : Net := { tcpSkInit with tcpLeoRwndPeriodMs := 30000 }

theorem doubledPeriod_admissible : doubledPeriod.Admissible := by
  constructor
  case allowPorts => exact tcpSkInit_allowPorts
  all_goals decide

def reprogrammedCallbacks (n : Nat) : Callback where
  net := if n = 0 then tcpSkInit else doubledPeriod
  clk := ⟨if n = 0 then 161900000000 else 161910000000, 0⟩
  sk := downloadView 0 7
  normalWin := 1000000

/-- After the second callback the socket is frozen on period 10 of the old lattice, in period 5 of the
new one, with no ramp running. -/
theorem reprogrammed_period_strands_snapshot :
    (∀ n, (reprogrammedCallbacks n).net.Admissible) ∧
    (∀ n, (reprogrammedCallbacks n).clk.realNs ≤ (reprogrammedCallbacks (n + 1)).clk.realNs) ∧
    (reprogrammedCallbacks 1).runs = true ∧
    ¬ SnapshotFresh (reprogrammedCallbacks 1).net (reprogrammedCallbacks 1).nowUs
      (controllerRun reprogrammedCallbacks 2) := by
  refine ⟨fun n => ?_, fun n => ?_, by decide, by decide⟩
  · simp only [reprogrammedCallbacks]
    split
    · exact tcpSkInit_admissible
    · exact doubledPeriod_admissible
  · cases n with
    | zero => decide
    | succ n => exact UInt64.le_refl _

end StarlinkTcp.Proof

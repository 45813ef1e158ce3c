import StarlinkTcp.Proof.Controller

/-!
# The shrink is anchored at the snapshot

A snapshot in force orders its windows: the floor, the window PRE started from, the window the cycle
started from. The order is kept by every callback whatever the sysctls and clocks do between two of
them. It makes the subtractions of `leo_pre_target` and `leo_safe_target` exact, and the target of
the shrinking phases then stays within the bytes received since PRE start of its anchor.
-/

namespace StarlinkTcp.Proof
open Kernel Machine

def Shrinking (phase : TcpLeoPhase) : Prop :=
  phase = .preHandover ∨ phase = .drain ∨ phase = .outage

instance (phase : TcpLeoPhase) : Decidable (Shrinking phase) := inferInstanceAs (Decidable (_ ∨ _))

structure SnapshotSound (st : LeoState) : Prop where
  floor_le_start : st.frozen = true → st.frozenMinRwnd ≤ st.frozenStartRwnd
  preStart_between : st.frozen = true → st.preStarted = true →
    st.frozenMinRwnd ≤ st.frozenPreStartWnd ∧ st.frozenPreStartWnd ≤ st.frozenStartRwnd

theorem SnapshotSound.of_unfrozen {st : LeoState} (unfrozen : st.frozen = false) : SnapshotSound st where
  floor_le_start frozen := by simp [unfrozen] at frozen
  preStart_between frozen := by simp [unfrozen] at frozen

theorem leoFreezeParameters_sound (net : Net) (sk : SockView) (normalWin : UInt32) (nowUs : UInt64)
    (st : LeoState) : SnapshotSound (leoFreezeParameters net sk normalWin nowUs st) where
  floor_le_start _ := by
    simp only [leoFreezeParameters, leoStartRwnd, UInt32.le_iff_toNat_le, UInt32.toNat_max]
    omega
  preStart_between _ started := by simp [leoFreezeParameters] at started

namespace Callback

variable {c : Callback} {st : LeoState}

theorem decided_sound (runs : c.runs = true) (sound : SnapshotSound st) :
    SnapshotSound (c.decided st) := by
  rcases decided_cases runs st with ⟨-, froze⟩ | ⟨-, -, -, -, kept⟩ | ⟨-, -, unfrozen⟩
  · rw [froze]
    exact leoFreezeParameters_sound _ _ _ _ _
  · rw [kept]
    exact sound
  · rw [unfrozen]
    exact .of_unfrozen rfl

theorem report_sound (runs : c.runs = true) (sound : SnapshotSound st) :
    SnapshotSound (c.report st).state := by
  have decided := decided_sound runs sound
  have snapshot := report_snapshot runs st
  have preStart := report_preStart runs st
  simp only [LeoState.snapshot, LeoSnapshot.mk.injEq] at snapshot
  obtain ⟨sameFrozen, -, -, -, -, sameStart, sameMin, -, -, -, -, -⟩ := snapshot
  constructor
  · intro frozen
    rw [sameMin, sameStart]
    exact decided.floor_le_start (sameFrozen ▸ frozen)
  · intro frozen started
    have inForce : (c.decided st).frozen = true := sameFrozen ▸ frozen
    have floor := decided.floor_le_start inForce
    rw [sameMin, sameStart]
    split at preStart <;> simp only [LeoState.preStart, Prod.mk.injEq] at preStart
    · rw [preStart.2.1]
      simp only [UInt32.le_iff_toNat_le, UInt32.toNat_max, UInt32.toNat_min] at floor ⊢
      omega
    · rw [preStart.2.1]
      exact decided.preStart_between inForce (preStart.1 ▸ started)

theorem step_sound (sound : SnapshotSound st) : SnapshotSound (step st c) := by
  cases runs : c.runs
  · rw [step_of_not_runs runs]
    exact sound
  · rw [step_of_runs runs]
    exact report_sound runs sound

theorem report_of_shrinking (runs : c.runs = true) (shrinking : Shrinking (c.report st).phase) :
    (c.report st).state.frozen = true ∧ (c.report st).state.preStarted = true := by
  have sameFrozen := congrArg LeoSnapshot.frozen (report_snapshot runs st)
  have preStart := congrArg Prod.fst (report_preStart runs st)
  simp only [LeoState.snapshot] at sameFrozen
  constructor
  · rw [sameFrozen, ← Bool.not_eq_false]
    intro unfrozen
    rw [report_phase, leoPhase_of_unfrozen unfrozen] at shrinking
    simp [Shrinking] at shrinking
  · simp only [LeoState.preStart] at preStart
    rw [preStart]
    cases records : c.recordsPreStart st
    · cases started : (c.decided st).preStarted
      · rcases shrinking with phase | phase | phase <;> simp [recordsPreStart, runs, phase, started] at records
      · simp
    · simp

end Callback

theorem controllerRun_sound (callbacks : Nat → Callback) (n : Nat) :
    SnapshotSound (controllerRun callbacks n) :=
  runState_invariant (fun _ => SnapshotSound) (.of_unfrozen rfl)
    (fun _ _ => Callback.step_sound) n

/-! ## The targets, exactly -/

section Targets

variable {sk : SockView} {st : LeoState} {elapsedUs : UInt64}

def received (sk : SockView) (st : LeoState) : UInt32 := sk.rcvNxt - st.frozenPreStartRcvNxt

theorem leoPlannedReduction_le (st : LeoState) (elapsedUs : UInt64) :
    (leoPlannedReduction st elapsedUs).toNat ≤ (st.frozenPreStartWnd - st.frozenMinRwnd).toNat := by
  rw [leoPlannedReduction, ramp_toNat]
  exact ramp_le _ _ _

def preReduction (sk : SockView) (st : LeoState) (elapsedUs : UInt64) : Nat :=
  if st.frozenPreUs = 0 then 0
  else min (leoPlannedReduction st elapsedUs).toNat (received sk st).toNat

theorem leoPreTarget_toNat (sk : SockView) (elapsedUs : UInt64) (started : st.preStarted = true)
    (floor : st.frozenMinRwnd ≤ st.frozenPreStartWnd) :
    (leoPreTarget sk st elapsedUs).toNat = st.frozenPreStartWnd.toNat - preReduction sk st elapsedUs ∧
    preReduction sk st elapsedUs ≤ st.frozenPreStartWnd.toNat - st.frozenMinRwnd.toNat := by
  have width := UInt32.toNat_sub_of_le _ _ floor
  rw [UInt32.le_iff_toNat_le] at floor
  have bound := st.frozenPreStartWnd.toNat_lt
  by_cases instant : st.frozenPreUs = 0
  · have reduction : preReduction sk st elapsedUs = 0 := by simp [preReduction, instant]
    rw [reduction]
    refine ⟨?_, Nat.zero_le _⟩
    simp only [leoPreTarget, started, Bool.true_eq_false, if_false, instant, if_true]
    split
    · rename_i flat
      rw [UInt32.le_iff_toNat_le] at flat
      omega
    · rfl
  · have planned := leoPlannedReduction_le st elapsedUs
    rw [width] at planned
    have reduction : preReduction sk st elapsedUs =
        min (leoPlannedReduction st elapsedUs).toNat (received sk st).toNat := by
      simp [preReduction, instant]
    rw [reduction]
    refine ⟨?_, by omega⟩
    simp only [leoPreTarget, started, Bool.true_eq_false, if_false, instant]
    split
    · rename_i flat
      rw [UInt32.le_iff_toNat_le] at flat
      omega
    · have word : (min (min (leoPlannedReduction st elapsedUs)
            (sk.rcvNxt - st.frozenPreStartRcvNxt).toUInt64)
            (st.frozenPreStartWnd - st.frozenMinRwnd).toUInt64).toUInt32.toNat =
          min (leoPlannedReduction st elapsedUs).toNat (received sk st).toNat := by
        simp only [UInt64.toNat_toUInt32, UInt64.toNat_min, UInt32.toNat_toUInt64, width, received]
        omega
      rw [UInt32.toNat_sub_of_le _ _ (by rw [UInt32.le_iff_toNat_le, word]; omega), word]

theorem leoSafeTarget_toNat (sk : SockView) (floor : st.frozenMinRwnd ≤ st.frozenPreStartWnd) :
    (leoSafeTarget sk st st.frozenMinRwnd).toNat =
      st.frozenPreStartWnd.toNat -
        min (received sk st).toNat (st.frozenPreStartWnd.toNat - st.frozenMinRwnd.toNat) := by
  have width := UInt32.toNat_sub_of_le _ _ floor
  rw [UInt32.le_iff_toNat_le] at floor
  have word : (min (sk.rcvNxt - st.frozenPreStartRcvNxt)
        (st.frozenPreStartWnd - st.frozenMinRwnd)).toNat =
      min (received sk st).toNat (st.frozenPreStartWnd.toNat - st.frozenMinRwnd.toNat) := by
    rw [UInt32.toNat_min, width, received]
  simp only [leoSafeTarget, UInt32.toNat_max]
  rw [UInt32.toNat_sub_of_le _ _ (by rw [UInt32.le_iff_toNat_le, word]; omega), word]
  omega

theorem leoTarget_of_shrinking {normalWin : UInt32} {phase : TcpLeoPhase} (shrinking : Shrinking phase)
    (started : st.preStarted = true) (floor : st.frozenMinRwnd ≤ st.frozenPreStartWnd) :
    st.frozenMinRwnd ≤ leoTarget sk normalWin st elapsedUs phase ∧
    leoTarget sk normalWin st elapsedUs phase ≤ st.frozenPreStartWnd ∧
    st.frozenPreStartWnd.toNat ≤
      (leoTarget sk normalWin st elapsedUs phase).toNat + (received sk st).toNat := by
  have order := UInt32.le_iff_toNat_le.mp floor
  have pre := leoPreTarget_toNat sk elapsedUs started floor
  have reduction : preReduction sk st elapsedUs ≤ (received sk st).toNat := by
    unfold preReduction
    split <;> omega
  have safe := leoSafeTarget_toNat sk floor
  simp only [UInt32.le_iff_toNat_le]
  rcases shrinking with rfl | rfl | rfl <;> simp only [leoTarget] <;> omega

end Targets

/-! ## The anchor is a callback of the run -/

/-- The bookkeeping of the snapshot in force was written by callback `m`, and by none since. -/
def AnchoredAt (callbacks : Nat → Callback) (m n : Nat) (st : LeoState) : Prop :=
  m < n ∧ (callbacks m).recordsPreStart (controllerRun callbacks m) = true ∧
    (∀ k, m < k → k < n → (callbacks k).recordsPreStart (controllerRun callbacks k) = false) ∧
    st.frozenPreStartRcvNxt = (callbacks m).sk.rcvNxt

theorem controllerRun_anchored (callbacks : Nat → Callback) (n : Nat) :
    let st := controllerRun callbacks n
    st.frozen = true → st.preStarted = true → ∃ m, AnchoredAt callbacks m n st := by
  induction n with
  | zero =>
      intro st frozen
      cases frozen
  | succ n ih =>
      intro st frozen started
      -- an anchor of the previous state stays the anchor when callback `n` writes nothing
      have extend : (callbacks n).recordsPreStart (controllerRun callbacks n) = false →
          st.frozenPreStartRcvNxt = (controllerRun callbacks n).frozenPreStartRcvNxt →
          (∃ m, AnchoredAt callbacks m n (controllerRun callbacks n)) →
          ∃ m, AnchoredAt callbacks m (n + 1) st := by
        rintro quiet same ⟨m, before, records, silent, anchor⟩
        refine ⟨m, Nat.lt_succ_of_lt before, records, ?_, same.trans anchor⟩
        intro k lower upper
        rcases Nat.lt_succ_iff_lt_or_eq.mp upper with earlier | rfl
        · exact silent k lower earlier
        · exact quiet
      cases runs : (callbacks n).runs
      · have stepped : st = controllerRun callbacks n := controllerRun_of_not_runs runs
        have quiet : (callbacks n).recordsPreStart (controllerRun callbacks n) = false := by
          simp [Callback.recordsPreStart, runs]
        exact extend quiet (by rw [stepped]) (ih (by rw [← stepped]; exact frozen)
          (by rw [← stepped]; exact started))
      · have stepped : st = ((callbacks n).report (controllerRun callbacks n)).state :=
          controllerRun_of_runs runs
        have preStart := Callback.report_preStart runs (controllerRun callbacks n)
        have sameFrozen := congrArg LeoSnapshot.frozen
          (Callback.report_snapshot runs (controllerRun callbacks n))
        rw [← stepped] at preStart sameFrozen
        simp only [LeoState.snapshot] at sameFrozen
        cases records : (callbacks n).recordsPreStart (controllerRun callbacks n)
        · simp only [records, Bool.false_eq_true, if_false, LeoState.preStart, Prod.mk.injEq] at preStart
          rcases Callback.decided_cases runs (controllerRun callbacks n) with
            ⟨-, froze⟩ | ⟨-, -, inForce, -, kept⟩ | ⟨-, -, unfrozen⟩
          · rw [froze] at preStart
            simp [leoFreezeParameters, started] at preStart
          · rw [kept] at preStart
            exact extend records preStart.2.2 (ih inForce (by rw [← preStart.1]; exact started))
          · rw [sameFrozen, unfrozen] at frozen
            cases frozen
        · simp only [records, if_true, LeoState.preStart, Prod.mk.injEq] at preStart
          exact ⟨n, Nat.lt_succ_self n, records, fun k lower upper => by omega, preStart.2.2⟩

/-- Whatever the sysctls, clocks and windows of a run, a callback in PRE, DRAIN or OUTAGE asks for a
window whose right edge is not left of the one PRE started from. `position` is the unbounded stream
position behind the 32-bit `rcv_nxt`. -/
theorem shrink_anchored_at_snapshot (callbacks : Nat → Callback) (n : Nat)
    (runs : (callbacks n).runs = true)
    (shrinking : Shrinking ((callbacks n).report (controllerRun callbacks n)).phase) :
    let report := (callbacks n).report (controllerRun callbacks n)
    let st := controllerRun callbacks (n + 1)
    let bytes := received (callbacks n).sk st
    let deltaWnd := st.frozenPreStartWnd - st.frozenMinRwnd
    st.preStarted = true ∧
    st.frozenMinRwnd ≤ st.frozenPreStartWnd ∧ st.frozenPreStartWnd ≤ st.frozenStartRwnd ∧
    -- the two subtractions of the targets from the anchor do not underflow
    min (min (leoPlannedReduction st report.elapsedUs) bytes.toUInt64) deltaWnd.toUInt64 ≤
      st.frozenPreStartWnd.toUInt64 ∧
    min bytes deltaWnd ≤ st.frozenPreStartWnd ∧
    st.frozenMinRwnd ≤ report.target ∧ report.target ≤ st.frozenPreStartWnd ∧
    st.frozenPreStartWnd.toNat ≤ report.target.toNat + bytes.toNat ∧
    ∀ position : Nat → Nat, Monotone position →
      (∀ k ≤ n, (callbacks k).sk.rcvNxt.toNat = position k % 2 ^ 32) →
      ∃ m ≤ n, (callbacks m).recordsPreStart (controllerRun callbacks m) = true ∧
        (∀ k, m < k → k ≤ n → (callbacks k).recordsPreStart (controllerRun callbacks k) = false) ∧
        (position n - position m < 2 ^ 32 →
          position m + st.frozenPreStartWnd.toNat ≤ position n + report.target.toNat) := by
  intro report st bytes deltaWnd
  have stepped : st = report.state := controllerRun_of_runs runs
  obtain ⟨frozen, started⟩ := Callback.report_of_shrinking runs shrinking
  have frozen : st.frozen = true := by rw [stepped]; exact frozen
  have started : st.preStarted = true := by rw [stepped]; exact started
  obtain ⟨floor, ceiling⟩ := (controllerRun_sound callbacks (n + 1)).preStart_between frozen started
  have width : deltaWnd.toNat = st.frozenPreStartWnd.toNat - st.frozenMinRwnd.toNat :=
    UInt32.toNat_sub_of_le _ _ floor
  have target : report.target = leoTarget (callbacks n).sk (callbacks n).normalWin st report.elapsedUs
      report.phase := by
    rw [stepped]
    exact Callback.report_target
  obtain ⟨lower, upper, near⟩ : st.frozenMinRwnd ≤ report.target ∧
      report.target ≤ st.frozenPreStartWnd ∧
      st.frozenPreStartWnd.toNat ≤ report.target.toNat + bytes.toNat := by
    rw [target]
    exact leoTarget_of_shrinking shrinking started floor
  refine ⟨started, floor, ceiling, ?_, ?_, lower, upper, near, ?_⟩
  · simp only [UInt64.le_iff_toNat_le, UInt64.toNat_min, UInt32.toNat_toUInt64, width]
    omega
  · simp only [UInt32.le_iff_toNat_le, UInt32.toNat_min, width]
    omega
  · intro position monotone stream
    obtain ⟨m, before, records, silent, anchor⟩ := controllerRun_anchored callbacks (n + 1) frozen started
    refine ⟨m, Nat.lt_succ_iff.mp before, records,
      fun k later le => silent k later (Nat.lt_succ_of_le le), ?_⟩
    intro fewer
    have distance : bytes.toNat = position n - position m :=
      cursor_sub_toNat (stream n le_rfl) (by rw [anchor]; exact stream m (Nat.lt_succ_iff.mp before))
        (monotone (Nat.lt_succ_iff.mp before)) fewer
    have ordered := monotone (Nat.lt_succ_iff.mp before)
    omega

theorem shrink_anchored_at_snapshot_in_pre :
    let c : Callback := ⟨tcpSkInit, ⟨26900000000, 0⟩, downloadView 0 7, 1000000⟩
    c.runs = true ∧ Shrinking (c.report tcpLeoDynamicInit).phase ∧
    (c.report tcpLeoDynamicInit).target ≤ (c.report tcpLeoDynamicInit).state.frozenPreStartWnd :=
  ⟨by decide, by decide,
    (shrink_anchored_at_snapshot (fun _ => ⟨tcpSkInit, ⟨26900000000, 0⟩, downloadView 0 7, 1000000⟩) 0
      (by decide) (by decide)).2.2.2.2.2.2.1⟩

end StarlinkTcp.Proof

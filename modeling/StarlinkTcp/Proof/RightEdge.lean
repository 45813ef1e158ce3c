import StarlinkTcp.Proof.SafeShrink
import StarlinkTcp.Proof.Transparency

/-!
# The right edge of the offered window

In dynamic mode the guard of ordinary TCP is off and the stored window is what the controller asks
for. PRE, DRAIN and OUTAGE measure against the window PRE started from, not against the one offered
last, and RECOVERY starts from the floor. For each phase the bytes still on offer are kept under a
condition on the snapshot the call finds; along a run the edge is kept exactly as long as every call
meets its condition.
-/

namespace StarlinkTcp.Proof
open Kernel Machine

section RecoveryTarget

variable {st : LeoState}

def recoveryEnd (st : LeoState) (normalWin : UInt32) : UInt32 :=
  max (min normalWin st.frozenStartRwnd) st.frozenMinRwnd

theorem leoRecoveryTarget_toNat (normalWin : UInt32) (elapsedUs : UInt64) (enabled : st.frozenRecoveryUs ≠ 0) :
    (leoRecoveryTarget st normalWin elapsedUs).toNat =
      st.frozenMinRwnd.toNat + ((recoveryEnd st normalWin).toNat - st.frozenMinRwnd.toNat) *
        min elapsedUs.toNat st.frozenRecoveryUs.toNat / st.frozenRecoveryUs.toNat := by
  have floor : st.frozenMinRwnd ≤ recoveryEnd st normalWin := by
    simp only [recoveryEnd, UInt32.le_iff_toNat_le, UInt32.toNat_max]
    omega
  have width := UInt32.toNat_sub_of_le _ _ floor
  have bound := (recoveryEnd st normalWin).toNat_lt
  have share := ramp_le ((recoveryEnd st normalWin).toNat - st.frozenMinRwnd.toNat) elapsedUs.toNat
    st.frozenRecoveryUs.toNat
  rw [UInt32.le_iff_toNat_le] at floor
  unfold leoRecoveryTarget
  dsimp only
  rw [← recoveryEnd]
  by_cases flat : recoveryEnd st normalWin ≤ st.frozenMinRwnd
  · rw [if_pos (.inr flat)]
    rw [UInt32.le_iff_toNat_le] at flat
    simp only [Nat.sub_eq_zero_of_le flat, Nat.zero_mul, Nat.zero_div]
    omega
  · rw [if_neg (by simp [enabled, flat]), UInt32.toNat_add, UInt64.toNat_toUInt32, ramp_toNat, width]
    generalize ((recoveryEnd st normalWin).toNat - st.frozenMinRwnd.toNat) *
      min elapsedUs.toNat st.frozenRecoveryUs.toNat / st.frozenRecoveryUs.toNat = increase at share ⊢
    omega

theorem preReduction_eq (sk : SockView) (elapsedUs : UInt64) :
    preReduction sk st elapsedUs = min (leoPlannedReduction st elapsedUs).toNat (received sk st).toNat := by
  unfold preReduction
  split
  · rename_i instant
    simp [leoPlannedReduction, instant]
  · rfl

end RecoveryTarget

namespace Callback

variable {c : Callback} {st : LeoState} {edge : UInt32}

/-- The condition under which a controlled call keeps `edge` bytes on offer, read off the snapshot it
finds: a call that records the PRE start offers the starting window of the cycle, a later PRE call
takes off what is both planned and received, DRAIN and OUTAGE what is received, down to the floor, and
RECOVERY has climbed from the floor for the time elapsed. -/
def keepsEdge (c : Callback) (st : LeoState) (edge : UInt32) : Bool :=
  let (phase, elapsedUs, _) := leoPhase c.net c.nowUs (c.decided st)
  if Shrinking phase ∧ c.recordsPreStart st then edge ≤ (c.decided st).frozenStartRwnd
  else
    match phase with
    | .normal => true
    | .preHandover =>
        edge.toNat + (leoPlannedReduction st elapsedUs).toNat ≤ st.frozenPreStartWnd.toNat ∨
        edge.toNat + (received c.sk st).toNat ≤ st.frozenPreStartWnd.toNat
    | .drain | .outage =>
        edge ≤ st.frozenMinRwnd ∨ edge.toNat + (received c.sk st).toNat ≤ st.frozenPreStartWnd.toNat
    | .recovery =>
        (edge.toNat - st.frozenMinRwnd.toNat) * st.frozenRecoveryUs.toNat ≤
          ((recoveryEnd st c.normalWin).toNat - st.frozenMinRwnd.toNat) *
            min elapsedUs.toNat st.frozenRecoveryUs.toNat

theorem decided_of_not_recorded (runs : c.runs = true) (shrinking : Shrinking (c.report st).phase)
    (silent : c.recordsPreStart st = false) : c.decided st = st := by
  have started := (report_of_shrinking runs shrinking).2
  have preStart := congrArg Prod.fst (report_preStart runs st)
  simp only [silent, Bool.false_eq_true, if_false, LeoState.preStart] at preStart
  rcases decided_cases runs st with ⟨-, froze⟩ | ⟨-, -, -, -, kept⟩ | ⟨-, -, unfrozen⟩
  · rw [preStart, froze] at started
    simp [leoFreezeParameters] at started
  · exact kept
  · rw [report_phase, unfrozen, leoPhase_of_unfrozen rfl] at shrinking
    simp [Shrinking] at shrinking

theorem decided_of_recovery (runs : c.runs = true) (recovery : (c.report st).phase = .recovery) :
    c.decided st = st ∧ st.frozenRecoveryUs ≠ 0 := by
  rw [report_phase] at recovery
  rcases decided_cases runs st with ⟨freezes, froze⟩ | ⟨-, -, frozen, -, kept⟩ | ⟨-, -, unfrozen⟩
  · have period : leoPeriodUs c.net ≠ 0 := by
      simp only [Callback.freezes, Bool.decide_and, Bool.and_eq_true, decide_eq_true_eq] at freezes
      exact freezes.2.1
    rw [froze, leoPhase_of_same_period rfl period rfl, leoScheduledPhase_phase] at recovery
    exact absurd recovery (scheduledStage_phase_ne_recovery _ _ _)
  · refine ⟨kept, ?_⟩
    rw [kept] at recovery
    by_cases period : leoPeriodUs c.net = 0
    · simp [leoPhase, frozen, period] at recovery
    · rcases leoPhase_cases c.nowUs period frozen with
        ⟨-, phase, -⟩ | ⟨-, enabled, -, -⟩ | ⟨-, enabled, -, -, -⟩ | ⟨-, -, phase, -⟩
      · rw [phase] at recovery
        exact absurd recovery (scheduledStage_phase_ne_recovery _ _ _)
      · exact enabled
      · exact enabled
      · simp [phase] at recovery
  · rw [unfrozen, leoPhase_of_unfrozen rfl] at recovery
    cases recovery

theorem target_of_recorded (runs : c.runs = true) (shrinking : Shrinking (c.report st).phase)
    (records : c.recordsPreStart st = true) :
    (c.report st).target =
      max (min c.normalWin (c.decided st).frozenStartRwnd) (c.decided st).frozenMinRwnd := by
  have preStart := report_preStart runs st
  simp only [records, if_true, LeoState.preStart, Prod.mk.injEq] at preStart
  obtain ⟨started, anchor, cursor⟩ := preStart
  have sameMin : (c.report st).state.frozenMinRwnd = (c.decided st).frozenMinRwnd :=
    congrArg LeoSnapshot.minRwnd (report_snapshot runs st)
  have floor : (c.report st).state.frozenMinRwnd ≤ (c.report st).state.frozenPreStartWnd := by
    rw [sameMin, anchor, UInt32.le_iff_toNat_le, UInt32.toNat_max]
    omega
  have nothing : (received c.sk (c.report st).state).toNat = 0 := by simp [received, cursor]
  have bounds : (c.report st).target ≤ (c.report st).state.frozenPreStartWnd ∧
      (c.report st).state.frozenPreStartWnd.toNat ≤
        (c.report st).target.toNat + (received c.sk (c.report st).state).toNat := by
    rw [report_target]
    exact (leoTarget_of_shrinking shrinking started floor).2
  rw [nothing, UInt32.le_iff_toNat_le, Nat.add_zero] at bounds
  rw [← anchor, ← UInt32.toNat_inj]
  exact Nat.le_antisymm bounds.1 bounds.2

theorem le_target_of_recorded (runs : c.runs = true) (sound : SnapshotSound st)
    (shrinking : Shrinking (c.report st).phase) (records : c.recordsPreStart st = true)
    (within : edge ≤ c.normalWin) :
    edge ≤ (c.report st).target ↔ edge ≤ (c.decided st).frozenStartRwnd := by
  have inForce := (report_of_shrinking runs shrinking).1
  have sameFrozen : (c.report st).state.frozen = (c.decided st).frozen :=
    congrArg LeoSnapshot.frozen (report_snapshot runs st)
  have order := (decided_sound runs sound).floor_le_start (sameFrozen ▸ inForce)
  rw [target_of_recorded runs shrinking records]
  simp only [UInt32.le_iff_toNat_le, UInt32.toNat_max, UInt32.toNat_min] at *
  omega

theorem anchor_of_not_recorded (runs : c.runs = true) (shrinking : Shrinking (c.report st).phase)
    (silent : c.recordsPreStart st = false) :
    (c.report st).state.preStart = st.preStart ∧ (c.report st).state.snapshot = st.snapshot := by
  have kept := decided_of_not_recorded runs shrinking silent
  have preStart := report_preStart runs st
  simp only [silent, Bool.false_eq_true, if_false, kept] at preStart
  exact ⟨preStart, by rw [report_snapshot runs st, kept]⟩

theorem le_target_of_shrinking (runs : c.runs = true) (sound : SnapshotSound st)
    (shrinking : Shrinking (c.report st).phase) (silent : c.recordsPreStart st = false) :
    ((c.report st).phase = .preHandover → (edge ≤ (c.report st).target ↔
      edge.toNat + (leoPlannedReduction st (c.report st).elapsedUs).toNat ≤ st.frozenPreStartWnd.toNat ∨
      edge.toNat + (received c.sk st).toNat ≤ st.frozenPreStartWnd.toNat)) ∧
    ((c.report st).phase = .drain ∨ (c.report st).phase = .outage → (edge ≤ (c.report st).target ↔
      edge ≤ st.frozenMinRwnd ∨ edge.toNat + (received c.sk st).toNat ≤ st.frozenPreStartWnd.toNat)) := by
  obtain ⟨inForce, started⟩ := report_of_shrinking runs shrinking
  obtain ⟨preStart, snapshot⟩ := anchor_of_not_recorded runs shrinking silent
  have floor := ((report_sound runs sound).preStart_between inForce started).1
  have sameAnchor : (c.report st).state.frozenPreStartWnd = st.frozenPreStartWnd :=
    congrArg (fun preStart => preStart.2.1) preStart
  have sameCursor : (c.report st).state.frozenPreStartRcvNxt = st.frozenPreStartRcvNxt :=
    congrArg (fun preStart => preStart.2.2) preStart
  have sameMin : (c.report st).state.frozenMinRwnd = st.frozenMinRwnd := congrArg LeoSnapshot.minRwnd snapshot
  have samePre : (c.report st).state.frozenPreUs = st.frozenPreUs := congrArg LeoSnapshot.preUs snapshot
  have bytes : received c.sk (c.report st).state = received c.sk st := by simp only [received, sameCursor]
  rw [report_target]
  constructor
  · intro phase
    have reduction : preReduction c.sk (c.report st).state (c.report st).elapsedUs =
        min (leoPlannedReduction st (c.report st).elapsedUs).toNat (received c.sk st).toNat := by
      rw [preReduction_eq, bytes]
      simp only [leoPlannedReduction, sameAnchor, sameMin, samePre]
    obtain ⟨target, bounded⟩ := leoPreTarget_toNat c.sk (c.report st).elapsedUs started floor
    rw [reduction, sameAnchor] at target bounded
    simp only [phase, leoTarget, UInt32.le_iff_toNat_le]
    omega
  · intro phase
    have target := leoSafeTarget_toNat c.sk floor
    rw [bytes, sameAnchor, sameMin] at target
    rw [sameAnchor, sameMin, UInt32.le_iff_toNat_le] at floor
    rcases phase with phase | phase <;>
      simp only [phase, leoTarget, UInt32.le_iff_toNat_le, sameMin, target] <;> omega

theorem le_target_of_recovery (runs : c.runs = true) (recovery : (c.report st).phase = .recovery) :
    edge ≤ (c.report st).target ↔
      (edge.toNat - st.frozenMinRwnd.toNat) * st.frozenRecoveryUs.toNat ≤
        ((recoveryEnd st c.normalWin).toNat - st.frozenMinRwnd.toNat) *
          min (c.report st).elapsedUs.toNat st.frozenRecoveryUs.toNat := by
  obtain ⟨kept, enabled⟩ := decided_of_recovery runs recovery
  have snapshot := report_snapshot runs st
  rw [kept] at snapshot
  have sameMin : (c.report st).state.frozenMinRwnd = st.frozenMinRwnd := congrArg LeoSnapshot.minRwnd snapshot
  have sameStart : (c.report st).state.frozenStartRwnd = st.frozenStartRwnd :=
    congrArg LeoSnapshot.startRwnd snapshot
  have sameRecovery : (c.report st).state.frozenRecoveryUs = st.frozenRecoveryUs :=
    congrArg LeoSnapshot.recoveryUs snapshot
  have positive := toNat_pos enabled
  have target := leoRecoveryTarget_toNat c.normalWin (c.report st).elapsedUs (sameRecovery ▸ enabled)
  simp only [recoveryEnd, sameMin, sameStart, sameRecovery] at target
  rw [report_target, recovery, leoTarget, UInt32.le_iff_toNat_le, target, ← Nat.le_div_iff_mul_le positive]
  simp only [recoveryEnd]
  exact Nat.sub_le_iff_le_add'.symm

theorem le_target_iff (runs : c.runs = true) (sound : SnapshotSound st) (within : edge ≤ c.normalWin) :
    edge ≤ (c.report st).target ↔ c.keepsEdge st edge = true := by
  have unfolded : c.keepsEdge st edge =
      if Shrinking (c.report st).phase ∧ c.recordsPreStart st = true then
        decide (edge ≤ (c.decided st).frozenStartRwnd)
      else
        match (c.report st).phase with
        | .normal => true
        | .preHandover => decide
            (edge.toNat + (leoPlannedReduction st (c.report st).elapsedUs).toNat ≤ st.frozenPreStartWnd.toNat ∨
            edge.toNat + (received c.sk st).toNat ≤ st.frozenPreStartWnd.toNat)
        | .drain | .outage => decide (edge ≤ st.frozenMinRwnd ∨
            edge.toNat + (received c.sk st).toNat ≤ st.frozenPreStartWnd.toNat)
        | .recovery => decide ((edge.toNat - st.frozenMinRwnd.toNat) * st.frozenRecoveryUs.toNat ≤
            ((recoveryEnd st c.normalWin).toNat - st.frozenMinRwnd.toNat) *
              min (c.report st).elapsedUs.toNat st.frozenRecoveryUs.toNat) := rfl
  rw [unfolded]
  by_cases recorded : Shrinking (c.report st).phase ∧ c.recordsPreStart st = true
  · rw [if_pos recorded, decide_eq_true_eq]
    exact le_target_of_recorded runs sound recorded.1 recorded.2 within
  · rw [if_neg recorded]
    have silent (shrinking : Shrinking (c.report st).phase) : c.recordsPreStart st = false := by
      rw [← Bool.not_eq_true]
      exact fun records => recorded ⟨shrinking, records⟩
    cases phase : (c.report st).phase with
    | normal =>
        rw [report_target, phase]
        simpa [leoTarget] using within
    | preHandover =>
        have shrinking : Shrinking (c.report st).phase := .inl phase
        rw [decide_eq_true_eq]
        exact (le_target_of_shrinking runs sound shrinking (silent shrinking)).1 phase
    | drain =>
        have shrinking : Shrinking (c.report st).phase := .inr (.inl phase)
        rw [decide_eq_true_eq]
        exact (le_target_of_shrinking runs sound shrinking (silent shrinking)).2 (.inl phase)
    | outage =>
        have shrinking : Shrinking (c.report st).phase := .inr (.inr phase)
        rw [decide_eq_true_eq]
        exact (le_target_of_shrinking runs sound shrinking (silent shrinking)).2 (.inr phase)
    | recovery =>
        rw [decide_eq_true_eq]
        exact le_target_of_recovery runs phase

end Callback

/-! ## Runs of `tcp_select_window` -/

structure WindowCall extends Callback where
  ackNomem : Bool

namespace WindowCall

/-- The socket the call finds: arrivals have moved the cursors and estimates. -/
def found (call : WindowCall) (sk : TcpSock) : TcpSock :=
  { sk with toSockView := call.sk, ackNomem := call.ackNomem }

def step (sk : TcpSock) (call : WindowCall) : TcpSock :=
  (tcpSelectWindow call.net call.clk call.normalWin (call.found sk)).2

def onOffer (call : WindowCall) (sk : TcpSock) : UInt32 :=
  min call.normalWin (tcpReceiveWindow (call.found sk))

def keepsEdge (call : WindowCall) (sk : TcpSock) : Bool :=
  call.runs = false ∨ call.toCallback.keepsEdge sk.leoState (call.onOffer sk)

variable {call : WindowCall} {sk : TcpSock}

theorem step_leoState (dynamic : leoDynamic call.net = true) :
    (step sk call).leoState =
      if call.ackNomem then sk.leoState else Callback.step sk.leoState call.toCallback := by
  cases memory : call.ackNomem
  · have found : (call.found sk).ackNomem = false := memory
    rw [step, tcpSelectWindow_of_memory found]
    simp [leoAdjustWindow, dynamic, Callback.step, WindowCall.found]
  · simp [step, tcpSelectWindow, WindowCall.found, memory]

theorem step_rcvWnd (dynamic : leoDynamic call.net = true) (memory : call.ackNomem = false) :
    (step sk call).rcvWnd =
      if call.runs then min (call.report sk.leoState).target call.normalWin else call.normalWin := by
  have found : (call.found sk).ackNomem = false := memory
  rw [step, tcpSelectWindow_of_memory found]
  simp only [keepOfferedWindow, dynamic, Bool.true_eq_false, false_and, and_false, if_false, leoAdjustWindow,
    if_true, tcpLeoDynamicTarget]
  have gates : leoControls call.net (call.found sk).toSockView = call.runs := rfl
  rw [gates]
  split <;> rfl

theorem step_sound (dynamic : leoDynamic call.net = true) (sound : SnapshotSound sk.leoState) :
    SnapshotSound (step sk call).leoState := by
  rw [step_leoState dynamic]
  split
  · exact sound
  · exact Callback.step_sound sound

theorem onOffer_le_iff (dynamic : leoDynamic call.net = true) (memory : call.ackNomem = false)
    (sound : SnapshotSound sk.leoState) :
    call.onOffer sk ≤ (step sk call).rcvWnd ↔ call.keepsEdge sk = true := by
  have within : call.onOffer sk ≤ call.normalWin := by
    simp only [onOffer, UInt32.le_iff_toNat_le, UInt32.toNat_min]
    omega
  rw [step_rcvWnd dynamic memory]
  cases runs : call.runs
  · simpa [keepsEdge, runs] using within
  · have target := Callback.le_target_iff runs sound within
    simp only [keepsEdge, runs, Bool.true_eq_false, false_or, decide_eq_true_eq, if_true, ← target]
    simp only [UInt32.le_iff_toNat_le, UInt32.toNat_min] at within ⊢
    omega

end WindowCall

def socketRun (start : TcpSock) (calls : Nat → WindowCall) (n : Nat) : TcpSock :=
  runState WindowCall.step start calls n

theorem socketRun_sound {start : TcpSock} (fresh : start.leoState = tcpLeoDynamicInit)
    {calls : Nat → WindowCall} (dynamic : ∀ n, leoDynamic (calls n).net = true) (n : Nat) :
    SnapshotSound (socketRun start calls n).leoState :=
  runState_invariant (fun _ (sk : TcpSock) => SnapshotSound sk.leoState)
    (by rw [fresh]; exact .of_unfrozen rfl)
    (fun n _ => WindowCall.step_sound (dynamic n)) n

/-- Along every run in dynamic mode, each call keeps what is on offer exactly as long as each call
meets the condition of its phase. -/
theorem right_edge_kept_iff (start : TcpSock) (fresh : start.leoState = tcpLeoDynamicInit)
    (calls : Nat → WindowCall) (dynamic : ∀ n, leoDynamic (calls n).net = true) (horizon : Nat) :
    (∀ n, n < horizon → (calls n).ackNomem = false →
      min (calls n).normalWin (tcpReceiveWindow ((calls n).found (socketRun start calls n))) ≤
        (socketRun start calls (n + 1)).rcvWnd) ↔
    (∀ n, n < horizon → (calls n).ackNomem = false →
      (calls n).keepsEdge (socketRun start calls n) = true) := by
  have pointwise (n : Nat) (memory : (calls n).ackNomem = false) :=
    WindowCall.onOffer_le_iff (dynamic n) memory (socketRun_sound fresh dynamic n)
  constructor
  · intro kept n lt memory
    exact (pointwise n memory).mp (kept n lt memory)
  · intro condition n lt memory
    exact (pointwise n memory).mpr (condition n lt memory)

def openedSocket : TcpSock :=
  { downloadView 0 7 with
    rcvWnd := 1000000
    rcvWup := 7
    predFlags := 5
    ackNomem := false
    leoState := tcpLeoDynamicInit }

def boundaryCalls (n : Nat) : WindowCall where
  net := tcpSkInit
  clk := ⟨if n = 0 then 26900000000 else 27010000000, 0⟩
  sk := downloadView 0 7
  normalWin := 1000000
  ackNomem := false

theorem right_edge_kept_entering_pre :
    openedSocket.leoState = tcpLeoDynamicInit ∧ (∀ n, leoDynamic (boundaryCalls n).net = true) ∧
    1000000 ≤ (socketRun openedSocket boundaryCalls 1).rcvWnd :=
  ⟨rfl, fun _ => rfl,
    (right_edge_kept_iff openedSocket rfl boundaryCalls (fun _ => rfl) 1).mpr
      (fun n lt _ => by
        obtain rfl : n = 0 := by omega
        decide)
      0 Nat.zero_lt_one rfl⟩

/-- The call that enters RECOVERY drops to the floor, while the whole megabyte is still on offer and
ordinary TCP asks for it again. -/
theorem recovery_pulls_right_edge_back :
    (∀ n, leoDynamic (boundaryCalls n).net = true) ∧ (boundaryCalls 1).ackNomem = false ∧
    ¬ min (boundaryCalls 1).normalWin
        (tcpReceiveWindow ((boundaryCalls 1).found (socketRun openedSocket boundaryCalls 1))) ≤
      (socketRun openedSocket boundaryCalls 2).rcvWnd :=
  ⟨fun _ => rfl, rfl, by decide⟩

end StarlinkTcp.Proof

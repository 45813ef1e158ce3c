import StarlinkTcp.Proof.Recovery

/-!
# The advertised window and the recorded one

The window field carries the window shifted right by `rcv_wscale`, so a window that is not a multiple
of the unit `1 << rcv_wscale` reaches the peer smaller than it is recorded. Ordinary TCP keeps its
windows on the grid of the unit; the controllers cut theirs at arbitrary byte counts.
-/

namespace StarlinkTcp.Proof
open Kernel Machine

def OnGrid (wscale : Fin 16) (window : UInt32) : Prop := 2 ^ wscale.val ∣ window.toNat

instance (wscale : Fin 16) (window : UInt32) : Decidable (OnGrid wscale window) :=
  inferInstanceAs (Decidable (_ ∣ _))

/-- A window the controller cuts to `asked` stays on the grid: nothing is cut, or the cut is on it. -/
def CutsOnGrid (wscale : Fin 16) (normalWin asked : UInt32) : Prop :=
  normalWin ≤ asked ∨ OnGrid wscale asked

instance (wscale : Fin 16) (normalWin asked : UInt32) : Decidable (CutsOnGrid wscale normalWin asked) :=
  inferInstanceAs (Decidable (_ ∨ _))

theorem onGrid_min_iff {wscale : Fin 16} {normalWin asked : UInt32} (normal : OnGrid wscale normalWin) :
    OnGrid wscale (min asked normalWin) ↔ CutsOnGrid wscale normalWin asked := by
  unfold CutsOnGrid OnGrid at *
  rw [UInt32.le_iff_toNat_le, UInt32.toNat_min]
  rcases Nat.le_total normalWin.toNat asked.toNat with le | le
  · simp [le, normal]
  · rw [Nat.min_eq_left le]
    constructor
    · exact .inr
    · rintro (ge | cut)
      · rw [Nat.le_antisymm le ge]
        exact normal
      · exact cut

theorem scaledWindow_shift_iff {net : Net} {sk : TcpSock} {newWin : UInt32} (scaled : sk.rcvWscale ≠ 0)
    (fits : newWin ≤ 65535 <<< UInt32.ofNat sk.rcvWscale) :
    (scaledWindow net sk newWin).toUInt16.toUInt32 <<< UInt32.ofNat sk.rcvWscale = newWin ↔
      OnGrid sk.rcvWscale newWin := by
  have lt : sk.rcvWscale.val < 32 := lt_trans sk.rcvWscale.isLt (by decide)
  have positive : 0 < 2 ^ sk.rcvWscale.val := Nat.two_pow_pos _
  have unit : 2 ^ sk.rcvWscale.val ≤ 2 ^ 15 := Nat.pow_le_pow_right (by decide) (by omega)
  have top : ((65535 : UInt32) <<< UInt32.ofNat sk.rcvWscale).toNat = 65535 * 2 ^ sk.rcvWscale.val := by
    rw [shiftLeft_toNat _ lt]
    have : (65535 : UInt32).toNat = 65535 := rfl
    rw [this]
    omega
  rw [UInt32.le_iff_toNat_le, top] at fits
  have field : newWin.toNat / 2 ^ sk.rcvWscale.val ≤ 65535 := Nat.div_le_of_le_mul (by rw [Nat.mul_comm]; exact fits)
  have kept : scaledWindow net sk newWin = newWin >>> UInt32.ofNat sk.rcvWscale := by
    have same : min newWin (65535 <<< UInt32.ofNat sk.rcvWscale) = newWin := by
      rw [← UInt32.toNat_inj, UInt32.toNat_min, top]
      omega
    simp [scaledWindow, scaled, same]
  have product := Nat.div_mul_le_self newWin.toNat (2 ^ sk.rcvWscale.val)
  have word := newWin.toNat_lt
  rw [kept, ← UInt32.toNat_inj, shiftLeft_toNat _ lt, UInt16.toNat_toUInt32, UInt32.toNat_toUInt16,
    shiftRight_toNat _ lt, Nat.mod_eq_of_lt (lt_of_le_of_lt field (by decide)),
    Nat.mod_eq_of_lt (lt_of_le_of_lt product word)]
  exact (Nat.dvd_iff_div_mul_eq _ _).symm

/-! ## What the controllers ask for -/

namespace Callback

variable {c : Callback} {st : LeoState}

/-- What the phase of a controlled call asks for, read off the snapshot it finds, is on the grid. A
call that records the PRE start asks for the window PRE starts from. -/
def keepsGrid (c : Callback) (st : LeoState) : Bool :=
  let (phase, elapsedUs, _) := leoPhase c.net c.nowUs (c.decided st)
  if Shrinking phase ∧ c.recordsPreStart st then
    CutsOnGrid c.sk.rcvWscale c.normalWin (max (c.decided st).frozenStartRwnd (c.decided st).frozenMinRwnd)
  else
    match phase with
    | .normal => true
    | .preHandover => CutsOnGrid c.sk.rcvWscale c.normalWin (leoPreTarget c.sk st elapsedUs)
    | .drain | .outage =>
        CutsOnGrid c.sk.rcvWscale c.normalWin (leoSafeTarget c.sk st st.frozenMinRwnd)
    | .recovery => CutsOnGrid c.sk.rcvWscale c.normalWin (leoRecoveryTarget st c.normalWin elapsedUs)

theorem target_of_not_recorded (runs : c.runs = true) (shrinking : Shrinking (c.report st).phase)
    (silent : c.recordsPreStart st = false) :
    (c.report st).target = leoTarget c.sk c.normalWin st (c.report st).elapsedUs (c.report st).phase := by
  obtain ⟨preStart, snapshot⟩ := anchor_of_not_recorded runs shrinking silent
  simp only [LeoState.preStart, Prod.mk.injEq] at preStart
  simp only [LeoState.snapshot, LeoSnapshot.mk.injEq] at snapshot
  rw [report_target]
  rcases shrinking with phase | phase | phase <;>
    simp only [phase, leoTarget, leoPreTarget, leoSafeTarget, leoPlannedReduction, preStart, snapshot]

theorem target_onGrid_iff (runs : c.runs = true) (normal : OnGrid c.sk.rcvWscale c.normalWin) :
    OnGrid c.sk.rcvWscale (min (c.report st).target c.normalWin) ↔ c.keepsGrid st = true := by
  have unfolded : c.keepsGrid st =
      if Shrinking (c.report st).phase ∧ c.recordsPreStart st = true then
        decide (CutsOnGrid c.sk.rcvWscale c.normalWin
          (max (c.decided st).frozenStartRwnd (c.decided st).frozenMinRwnd))
      else
        match (c.report st).phase with
        | .normal => true
        | .preHandover => decide (CutsOnGrid c.sk.rcvWscale c.normalWin
            (leoPreTarget c.sk st (c.report st).elapsedUs))
        | .drain | .outage => decide (CutsOnGrid c.sk.rcvWscale c.normalWin
            (leoSafeTarget c.sk st st.frozenMinRwnd))
        | .recovery => decide (CutsOnGrid c.sk.rcvWscale c.normalWin
            (leoRecoveryTarget st c.normalWin (c.report st).elapsedUs)) := rfl
  rw [unfolded]
  by_cases recorded : Shrinking (c.report st).phase ∧ c.recordsPreStart st = true
  · have cut : min (c.report st).target c.normalWin =
        min (max (c.decided st).frozenStartRwnd (c.decided st).frozenMinRwnd) c.normalWin := by
      rw [target_of_recorded runs recorded.1 recorded.2, ← UInt32.toNat_inj]
      simp only [UInt32.toNat_min, UInt32.toNat_max]
      omega
    rw [if_pos recorded, decide_eq_true_eq, cut]
    exact onGrid_min_iff normal
  · rw [if_neg recorded, onGrid_min_iff normal]
    have silent (shrinking : Shrinking (c.report st).phase) : c.recordsPreStart st = false := by
      rw [← Bool.not_eq_true]
      exact fun records => recorded ⟨shrinking, records⟩
    cases phase : (c.report st).phase with
    | normal =>
        rw [report_target, phase]
        simp only [iff_true]
        exact .inl (UInt32.le_refl _)
    | preHandover =>
        have shrinking : Shrinking (c.report st).phase := .inl phase
        rw [target_of_not_recorded runs shrinking (silent shrinking), phase, decide_eq_true_eq]
        rfl
    | drain =>
        have shrinking : Shrinking (c.report st).phase := .inr (.inl phase)
        rw [target_of_not_recorded runs shrinking (silent shrinking), phase, decide_eq_true_eq]
        rfl
    | outage =>
        have shrinking : Shrinking (c.report st).phase := .inr (.inr phase)
        rw [target_of_not_recorded runs shrinking (silent shrinking), phase, decide_eq_true_eq]
        rfl
    | recovery => rw [recovery_target runs phase, decide_eq_true_eq]

end Callback

/-- What the static controller cuts the window to: its target, but no further below the offered window
than what has arrived since the last update. -/
def staticCut (net : Net) (clk : Clock) (sk : TcpSock) (normalWin : UInt32) : UInt32 :=
  let curWin := tcpReceiveWindow sk
  let target := tcpLeoRwndTarget net clk sk.toSockView normalWin
  let drained := sk.rcvNxt - sk.rcvWup
  if target < curWin ∧ drained < curWin - target then curWin - drained else target

/-- The static controller leaves the window on the grid: it cuts nothing or on the grid, or the guard
against shrinking rounds the offered window up to it. -/
def staticKeepsGrid (net : Net) (clk : Clock) (sk : TcpSock) (normalWin : UInt32) : Bool :=
  normalWin ≤ tcpLeoRwndTarget net clk sk.toSockView normalWin ∨
  CutsOnGrid sk.rcvWscale normalWin (staticCut net clk sk normalWin) ∨
  net.tcpShrinkWindow = 0 ∧ min (staticCut net clk sk normalWin) normalWin < tcpReceiveWindow sk

theorem tcpLeoRwndClamp_eq {net : Net} {clk : Clock} {sk : TcpSock} {normalWin : UInt32}
    (enabled : net.tcpLeoRwndEnable ≠ 0) :
    tcpLeoRwndClamp net clk sk (tcpReceiveWindow sk) normalWin =
      if normalWin ≤ tcpLeoRwndTarget net clk sk.toSockView normalWin then normalWin
      else min (staticCut net clk sk normalWin) normalWin := by
  have swap (asked : UInt32) : min normalWin asked = min asked normalWin := by
    rw [← UInt32.toNat_inj, UInt32.toNat_min, UInt32.toNat_min, Nat.min_comm]
  unfold tcpLeoRwndClamp staticCut
  dsimp only
  rw [if_neg enabled]
  generalize tcpLeoRwndTarget net clk sk.toSockView normalWin = target
  by_cases cuts : normalWin ≤ target
  · rw [if_pos cuts, if_pos cuts]
  · rw [if_neg cuts, if_neg cuts]
    by_cases below : target < tcpReceiveWindow sk
    · by_cases short : sk.rcvNxt - sk.rcvWup < tcpReceiveWindow sk - target
      · rw [if_pos below, if_neg (UInt32.not_le.mpr short), if_pos ⟨below, short⟩, swap]
      · rw [if_pos below, if_pos (UInt32.not_lt.mp short), if_neg (fun both => short both.2), swap]
    · rw [if_neg below, if_neg (fun both => below both.1), swap]

/-! ## The stored window -/

section Stored

variable {net : Net} {clk : Clock} {sk : TcpSock} {normalWin : UInt32}

theorem keepOfferedWindow_onGrid_iff {newWin : UInt32} (scaled : sk.rcvWscale ≠ 0)
    (static : leoDynamic net = false) :
    OnGrid sk.rcvWscale (keepOfferedWindow net sk (tcpReceiveWindow sk) newWin) ↔
      OnGrid sk.rcvWscale newWin ∨ net.tcpShrinkWindow = 0 ∧ newWin < tcpReceiveWindow sk := by
  have rounded : OnGrid sk.rcvWscale (align (tcpReceiveWindow sk) (1 <<< UInt32.ofNat sk.rcvWscale)) :=
    dvd_align _ (lt_trans sk.rcvWscale.isLt (by decide))
  unfold keepOfferedWindow
  split
  · rename_i guarded
    obtain ⟨below, -, allowed | unscaled⟩ := guarded
    · exact iff_of_true rounded (.inr ⟨allowed, below⟩)
    · exact absurd unscaled scaled
  · rename_i passed
    constructor
    · exact .inl
    · rintro (grid | ⟨allowed, below⟩)
      · exact grid
      · exact absurd ⟨below, static, .inl allowed⟩ passed

theorem static_onGrid_iff (scaled : sk.rcvWscale ≠ 0) (normal : OnGrid sk.rcvWscale normalWin)
    (static : leoDynamic net = false) (enabled : net.tcpLeoRwndEnable ≠ 0) :
    OnGrid sk.rcvWscale (keepOfferedWindow net sk (tcpReceiveWindow sk)
      (tcpLeoRwndClamp net clk sk (tcpReceiveWindow sk) normalWin)) ↔
      staticKeepsGrid net clk sk normalWin = true := by
  rw [keepOfferedWindow_onGrid_iff scaled static, tcpLeoRwndClamp_eq enabled]
  simp only [staticKeepsGrid, decide_eq_true_eq]
  by_cases cuts : normalWin ≤ tcpLeoRwndTarget net clk sk.toSockView normalWin
  · simp only [cuts, true_or, iff_true, if_true]
    exact .inl normal
  · rw [if_neg cuts, onGrid_min_iff normal]
    simp only [cuts, false_or]

end Stored

def recordsAdvertised (net : Net) (clk : Clock) (normalWin : UInt32) (sk : TcpSock) : Bool :=
  sk.ackNomem ∨ net.tcpLeoRwndEnable = 0 ∨
    if leoDynamic net then
      leoControls net sk.toSockView = false ∨ (Callback.mk net clk sk.toSockView normalWin).keepsGrid sk.leoState
    else staticKeepsGrid net clk sk normalWin

/-- For a scaled window that fits the field, and an ordinary window on the grid, the field a call
returns stands for the window it records exactly when the controller in charge cuts on the grid. -/
theorem advertised_is_recorded_iff (net : Net) (clk : Clock) (normalWin : UInt32) (sk : TcpSock)
    (scaled : sk.rcvWscale ≠ 0) (normal : OnGrid sk.rcvWscale normalWin)
    (fits : (tcpSelectWindow net clk normalWin sk).2.rcvWnd ≤ 65535 <<< UInt32.ofNat sk.rcvWscale) :
    (tcpSelectWindow net clk normalWin sk).1.toUInt32 <<< UInt32.ofNat sk.rcvWscale =
      (tcpSelectWindow net clk normalWin sk).2.rcvWnd ↔
    recordsAdvertised net clk normalWin sk = true := by
  cases nomem : sk.ackNomem
  · rw [tcpSelectWindow_of_memory nomem] at fits ⊢
    rw [scaledWindow_shift_iff scaled fits]
    simp only [recordsAdvertised, nomem, Bool.false_eq_true, false_or, decide_eq_true_eq]
    by_cases enabled : net.tcpLeoRwndEnable = 0
    · have off : leoDynamic net = false := by simp [leoDynamic, enabled]
      simp only [enabled, true_or, iff_true, leoAdjustWindow, off, Bool.false_eq_true, if_false, ne_eq,
        not_true_eq_false]
      exact (keepOfferedWindow_onGrid_iff scaled off).mpr (.inl normal)
    · simp only [enabled, false_or]
      cases dynamic : leoDynamic net
      · simp only [leoAdjustWindow, dynamic, Bool.false_eq_true, if_false, ne_eq, enabled, not_false_eq_true,
          if_true]
        exact static_onGrid_iff scaled normal dynamic enabled
      · have stored : keepOfferedWindow net sk (tcpReceiveWindow sk) (leoAdjustWindow net clk normalWin sk).1 =
            (tcpLeoDynamicTarget net clk sk.toSockView normalWin sk.leoState).1 := by
          simp [keepOfferedWindow, dynamic, leoAdjustWindow]
        rw [stored]
        simp only [if_true]
        cases controls : leoControls net sk.toSockView
        · simpa [tcpLeoDynamicTarget, controls] using normal
        · have runs : (Callback.mk net clk sk.toSockView normalWin).runs = true := controls
          have target : (tcpLeoDynamicTarget net clk sk.toSockView normalWin sk.leoState).1 =
              min ((Callback.mk net clk sk.toSockView normalWin).report sk.leoState).target normalWin :=
            Callback.window_of_runs runs
          rw [target]
          simp only [Bool.true_eq_false, false_or]
          exact Callback.target_onGrid_iff runs normal
  · simp only [recordsAdvertised, nomem, true_or, decide_true, iff_true]
    simp [tcpSelectWindow, nomem]

def alignedCallbacks (n : Nat) : Callback := { boundaryCallbacks n with normalWin := 1000064 }

def rampSocket : TcpSock :=
  { openedSocket with rcvWnd := 1000064, leoState := controllerRun alignedCallbacks 2 }

theorem advertised_is_recorded_at_ramp_start :
    rampSocket.rcvWscale ≠ 0 ∧ OnGrid rampSocket.rcvWscale 1000064 ∧
    (tcpSelectWindow tcpSkInit ⟨27010000000, 0⟩ 1000064 rampSocket).1.toUInt32 <<<
        UInt32.ofNat rampSocket.rcvWscale =
      (tcpSelectWindow tcpSkInit ⟨27010000000, 0⟩ 1000064 rampSocket).2.rcvWnd :=
  ⟨by decide, by decide,
    (advertised_is_recorded_iff tcpSkInit ⟨27010000000, 0⟩ 1000064 rampSocket (by decide) (by decide)
      (by decide)).mpr (by decide)⟩

/-- Five milliseconds into the ramp the socket records 171584 bytes and tells its peer 171520. -/
theorem ramp_records_more_than_advertised :
    rampSocket.rcvWscale ≠ 0 ∧ OnGrid rampSocket.rcvWscale 1000064 ∧
    (tcpSelectWindow tcpSkInit ⟨27015000000, 0⟩ 1000064 rampSocket).2.rcvWnd ≤
      65535 <<< UInt32.ofNat rampSocket.rcvWscale ∧
    ¬ (tcpSelectWindow tcpSkInit ⟨27015000000, 0⟩ 1000064 rampSocket).1.toUInt32 <<<
        UInt32.ofNat rampSocket.rcvWscale =
      (tcpSelectWindow tcpSkInit ⟨27015000000, 0⟩ 1000064 rampSocket).2.rcvWnd := by
  refine ⟨by decide, by decide, by decide, by decide⟩

end StarlinkTcp.Proof

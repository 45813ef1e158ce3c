import StarlinkTcp.Kernel.Output
import StarlinkTcp.Proof.Lookahead

/-!
# Sockets the dynamic controller does not touch

`tcp_select_window` reads its dynamic flag off the sysctls, while the controller decides by port, by
phase and by target. Where the controller hands the ordinary window back, the call should be one of
ordinary TCP; it is, except where ordinary TCP would have kept an offered window from shrinking.
-/

namespace StarlinkTcp.Proof
open Kernel Machine

/-- What the peer sees of a call and what it leaves for ordinary TCP. -/
structure SameAdvertisement (first second : UInt16 × TcpSock) : Prop where
  field : first.1 = second.1
  rcvWnd : first.2.rcvWnd = second.2.rcvWnd
  rcvWup : first.2.rcvWup = second.2.rcvWup
  predFlags : first.2.predFlags = second.2.predFlags

def ordinary (net : Net) : Net := { net with tcpLeoRwndEnable := 0 }

theorem leoDynamic_ordinary (net : Net) : leoDynamic (ordinary net) = false := by
  simp [leoDynamic, ordinary]

theorem tcpReceiveWindow_toNat_lt (sk : TcpSock) : (tcpReceiveWindow sk).toNat < 2 ^ 31 := by
  unfold tcpReceiveWindow
  dsimp only
  split
  · decide
  · rename_i nonneg
    generalize sk.rcvWup + sk.rcvWnd - sk.rcvNxt = win at nonneg ⊢
    have signed : win.toInt32.toInt = win.toBitVec.toInt := rfl
    rw [Int32.not_lt, Int32.le_iff_toInt_le, signed, BitVec.toInt_eq_toNat_cond] at nonneg
    have word := win.toNat_lt
    simp only [Int32.toInt_zero, UInt32.toNat_toBitVec] at nonneg
    split at nonneg <;> omega

theorem windowUnit_toNat_lt (wscale : Fin 16) : ((1 : UInt32) <<< UInt32.ofNat wscale - 1).toNat < 2 ^ 15 := by
  revert wscale
  decide

theorem keepOfferedWindow_eq_iff {net : Net} {sk : TcpSock} {newWin : UInt32}
    (static : leoDynamic net = false) :
    keepOfferedWindow net sk (tcpReceiveWindow sk) newWin = newWin ↔
      tcpReceiveWindow sk ≤ newWin ∨ net.tcpShrinkWindow ≠ 0 ∧ sk.rcvWscale ≠ 0 := by
  by_cases shrinks : newWin < tcpReceiveWindow sk ∧ (net.tcpShrinkWindow = 0 ∨ sk.rcvWscale = 0)
  · have kept : tcpReceiveWindow sk ≤ align (tcpReceiveWindow sk) (1 <<< UInt32.ofNat sk.rcvWscale) := by
      apply le_align
      have offered := tcpReceiveWindow_toNat_lt sk
      have unit := windowUnit_toNat_lt sk.rcvWscale
      omega
    have guarded : keepOfferedWindow net sk (tcpReceiveWindow sk) newWin =
        align (tcpReceiveWindow sk) (1 <<< UInt32.ofNat sk.rcvWscale) := by
      simp [keepOfferedWindow, static, shrinks]
    rw [guarded]
    constructor
    · intro same
      rw [same] at kept
      exact absurd shrinks.1 (UInt32.not_lt.mpr kept)
    · rintro (large | ⟨allowed, scaled⟩)
      · exact absurd shrinks.1 (UInt32.not_lt.mpr large)
      · rcases shrinks.2 with zero | unscaled
        · exact absurd zero allowed
        · exact absurd unscaled scaled
  · have passed : keepOfferedWindow net sk (tcpReceiveWindow sk) newWin = newWin := by
      simp only [keepOfferedWindow, static, true_and, if_neg shrinks]
    simp only [passed, true_iff]
    rw [not_and_or, UInt32.not_lt, not_or] at shrinks
    exact shrinks

theorem tcpSelectWindow_of_memory {net : Net} {clk : Clock} {normalWin : UInt32} {sk : TcpSock}
    (memory : sk.ackNomem = false) :
    let newWin := keepOfferedWindow net sk (tcpReceiveWindow sk) (leoAdjustWindow net clk normalWin sk).1
    tcpSelectWindow net clk normalWin sk =
      ((scaledWindow net sk newWin).toUInt16,
        { sk with
          rcvWnd := newWin
          rcvWup := sk.rcvNxt
          predFlags := if scaledWindow net sk newWin = 0 then 0 else sk.predFlags
          leoState := (leoAdjustWindow net clk normalWin sk).2 }) := by
  simp [tcpSelectWindow, memory]

/-- A call in which the controller returns the ordinary window is one of ordinary TCP exactly when
memory is short, the window offered so far is not cut, or ordinary TCP may shrink it. -/
theorem dynamic_transparent_iff (net : Net) (dynamic : leoDynamic net = true) (clk : Clock)
    (normalWin : UInt32) (sk : TcpSock)
    (unchanged : (tcpLeoDynamicTarget net clk sk.toSockView normalWin sk.leoState).1 = normalWin) :
    SameAdvertisement (tcpSelectWindow net clk normalWin sk)
      (tcpSelectWindow (ordinary net) clk normalWin sk) ↔
    sk.ackNomem = true ∨ tcpReceiveWindow sk ≤ normalWin ∨
      net.tcpShrinkWindow ≠ 0 ∧ sk.rcvWscale ≠ 0 := by
  cases nomem : sk.ackNomem
  · have adjusted : (leoAdjustWindow net clk normalWin sk).1 = normalWin := by
      simp [leoAdjustWindow, dynamic, unchanged]
    have disabled : (ordinary net).tcpLeoRwndEnable = 0 := rfl
    have adjustedOrdinary : (leoAdjustWindow (ordinary net) clk normalWin sk).1 = normalWin := by
      simp [leoAdjustWindow, leoDynamic_ordinary, disabled]
    have bypassed : keepOfferedWindow net sk (tcpReceiveWindow sk) normalWin = normalWin := by
      simp [keepOfferedWindow, dynamic]
    have guard : keepOfferedWindow (ordinary net) sk (tcpReceiveWindow sk) normalWin = normalWin ↔
        tcpReceiveWindow sk ≤ normalWin ∨ net.tcpShrinkWindow ≠ 0 ∧ sk.rcvWscale ≠ 0 :=
      keepOfferedWindow_eq_iff (leoDynamic_ordinary net)
    rw [tcpSelectWindow_of_memory nomem, tcpSelectWindow_of_memory nomem, adjusted, adjustedOrdinary,
      bypassed, ← guard]
    simp only [Bool.false_eq_true, false_or]
    constructor
    · intro same
      exact same.rcvWnd.symm
    · intro kept
      rw [kept]
      exact ⟨rfl, rfl, rfl, rfl⟩
  · simp only [true_or, iff_true]
    constructor <;> simp [tcpSelectWindow, nomem]

def webSocket : TcpSock :=
  { downloadView 0 7 with
    inetSport := 443
    rcvWscale := ⟨0, by decide⟩
    rcvWnd := 60000
    rcvWup := 7
    predFlags := 5
    ackNomem := false
    leoState := tcpLeoDynamicInit }

theorem dynamic_transparent_when_growing :
    leoDynamic tcpSkInit = true ∧ leoControls tcpSkInit webSocket.toSockView = false ∧
    SameAdvertisement (tcpSelectWindow tcpSkInit ⟨1000000000, 0⟩ 65000 webSocket)
      (tcpSelectWindow (ordinary tcpSkInit) ⟨1000000000, 0⟩ 65000 webSocket) :=
  ⟨by decide, by decide,
    (dynamic_transparent_iff tcpSkInit (by decide) ⟨1000000000, 0⟩ 65000 webSocket
      (by decide)).mpr (.inr (.inl (by decide)))⟩

/-- The same connection when the ordinary window falls to 50000: the controller hands it back
untouched, but ordinary TCP would have kept the 60000 bytes it had offered. -/
theorem dynamic_mode_shrinks_foreign_socket :
    tcpSkInit.tcpLeoRwndEnable = 1 ∧ tcpSkInit.tcpLeoDynamicEnable = 1 ∧
    (tcpLeoDynamicTarget tcpSkInit ⟨1000000000, 0⟩ webSocket.toSockView 50000 webSocket.leoState).1 = 50000 ∧
    ¬ SameAdvertisement (tcpSelectWindow tcpSkInit ⟨1000000000, 0⟩ 50000 webSocket)
      (tcpSelectWindow (ordinary tcpSkInit) ⟨1000000000, 0⟩ 50000 webSocket) := by
  refine ⟨by decide, by decide, by decide, fun same => ?_⟩
  exact absurd same.rcvWnd (by decide)

end StarlinkTcp.Proof

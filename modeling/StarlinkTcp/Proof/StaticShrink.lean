import StarlinkTcp.Proof.Advertised

/-!
# The safe shrink of the static controller

`tcp_leo_rwnd_clamp` takes the bytes received since the last update off the window it is given. That
window is what `tcp_receive_window` has left of the one advertised last, so the bytes have been taken
off already: a window that is cut while data is arriving ends up below what is on offer.
-/

namespace StarlinkTcp.Kernel

def TcpSock.drained (sk : TcpSock) : UInt32 := sk.rcvNxt - sk.rcvWup

end StarlinkTcp.Kernel

namespace StarlinkTcp.Proof
open Kernel Machine

def keepsOffer (net : Net) (clk : Clock) (sk : TcpSock) (newWin : UInt32) : Bool :=
  net.tcpLeoRwndEnable = 0 ∨
  newWin ≤ tcpLeoRwndTarget net clk sk.toSockView newWin ∨
  tcpReceiveWindow sk ≤ tcpLeoRwndTarget net clk sk.toSockView newWin ∨
  sk.drained = 0 ∨
  newWin.toNat + sk.drained.toNat ≤ (tcpReceiveWindow sk).toNat

variable {net : Net} {clk : Clock} {sk : TcpSock} {newWin : UInt32}

theorem staticCut_of_short
    (below : tcpLeoRwndTarget net clk sk.toSockView newWin < tcpReceiveWindow sk)
    (short : sk.drained < tcpReceiveWindow sk - tcpLeoRwndTarget net clk sk.toSockView newWin) :
    (staticCut net clk sk newWin).toNat = (tcpReceiveWindow sk).toNat - sk.drained.toNat := by
  have gap := UInt32.toNat_sub_of_le _ _ (UInt32.le_of_lt below)
  have within : sk.drained ≤ tcpReceiveWindow sk := by
    rw [UInt32.lt_iff_toNat_lt, gap] at short
    rw [UInt32.le_iff_toNat_le]
    omega
  have cut : staticCut net clk sk newWin = tcpReceiveWindow sk - sk.drained := if_pos ⟨below, short⟩
  rw [cut, UInt32.toNat_sub_of_le _ _ within]

theorem staticCut_of_not_short
    (full : ¬ (tcpLeoRwndTarget net clk sk.toSockView newWin < tcpReceiveWindow sk ∧
      sk.drained < tcpReceiveWindow sk - tcpLeoRwndTarget net clk sk.toSockView newWin)) :
    staticCut net clk sk newWin = tcpLeoRwndTarget net clk sk.toSockView newWin :=
  if_neg full

theorem clamp_le : tcpLeoRwndClamp net clk sk (tcpReceiveWindow sk) newWin ≤ newWin := by
  by_cases enabled : net.tcpLeoRwndEnable = 0
  · rw [tcpLeoRwndClamp, if_pos enabled]
    exact UInt32.le_refl _
  · rw [tcpLeoRwndClamp_eq enabled]
    split
    · exact UInt32.le_refl _
    · rw [UInt32.le_iff_toNat_le, UInt32.toNat_min]
      exact Nat.min_le_right _ _

theorem cut_keeps_offer_iff
    (cuts : ¬ newWin ≤ tcpLeoRwndTarget net clk sk.toSockView newWin) :
    min newWin (tcpReceiveWindow sk) ≤ min (staticCut net clk sk newWin) newWin ↔
      tcpReceiveWindow sk ≤ tcpLeoRwndTarget net clk sk.toSockView newWin ∨ sk.drained = 0 ∨
        newWin.toNat + sk.drained.toNat ≤ (tcpReceiveWindow sk).toNat := by
  rw [UInt32.not_le, UInt32.lt_iff_toNat_lt] at cuts
  rw [UInt32.le_iff_toNat_le, UInt32.toNat_min, UInt32.toNat_min, ← UInt32.toNat_inj]
  by_cases below : tcpLeoRwndTarget net clk sk.toSockView newWin < tcpReceiveWindow sk
  · have gap := UInt32.toNat_sub_of_le _ _ (UInt32.le_of_lt below)
    have less := UInt32.lt_iff_toNat_lt.mp below
    rw [UInt32.le_iff_toNat_le]
    by_cases short : sk.drained < tcpReceiveWindow sk - tcpLeoRwndTarget net clk sk.toSockView newWin
    · rw [staticCut_of_short below short]
      rw [UInt32.lt_iff_toNat_lt, gap] at short
      simp only [UInt32.toNat_zero]
      omega
    · rw [staticCut_of_not_short fun both => short both.2]
      rw [UInt32.not_lt, UInt32.le_iff_toNat_le, gap] at short
      simp only [UInt32.toNat_zero]
      omega
  · rw [staticCut_of_not_short fun both => below both.1]
    rw [UInt32.not_lt] at below
    have above := UInt32.le_iff_toNat_le.mp below
    simp only [below, true_or, iff_true]
    omega

/-- The static controller keeps the smaller of the new window and the one on offer exactly when it does
not cut below the offer, or nothing has arrived, or the new window is small enough to stand the bytes
being taken off twice. -/
theorem static_shrink_safe_iff (net : Net) (clk : Clock) (sk : TcpSock) (newWin : UInt32) :
    (min newWin (tcpReceiveWindow sk) ≤ tcpLeoRwndClamp net clk sk (tcpReceiveWindow sk) newWin ∧
      tcpLeoRwndClamp net clk sk (tcpReceiveWindow sk) newWin ≤ newWin) ↔
    keepsOffer net clk sk newWin = true := by
  have least : min newWin (tcpReceiveWindow sk) ≤ newWin := by
    rw [UInt32.le_iff_toNat_le, UInt32.toNat_min]
    exact Nat.min_le_left _ _
  rw [and_iff_left clamp_le, keepsOffer, decide_eq_true_eq]
  by_cases enabled : net.tcpLeoRwndEnable = 0
  · rw [tcpLeoRwndClamp, if_pos enabled]
    exact iff_of_true least (.inl enabled)
  · rw [tcpLeoRwndClamp_eq enabled]
    by_cases cuts : newWin ≤ tcpLeoRwndTarget net clk sk.toSockView newWin
    · rw [if_pos cuts]
      exact iff_of_true least (.inr (.inl cuts))
    · rw [if_neg cuts, cut_keeps_offer_iff cuts]
      simp only [enabled, cuts, false_or]

def staticNet : Net := { tcpSkInit with tcpLeoDynamicEnable := 0 }

/-- 10000 of the 60000 bytes advertised last have arrived. -/
def arrivingSocket : TcpSock := { openedSocket with rcvWnd := 60000, rcvNxt := 10007 }

/-- 50000 bytes are on offer and 65000 are asked for: ten milliseconds into the outage the controller
offers 40000. -/
theorem arriving_bytes_taken_off_twice :
    tcpReceiveWindow arrivingSocket = 50000 ∧
    tcpLeoRwndClamp staticNet ⟨27010000000, 0⟩ arrivingSocket (tcpReceiveWindow arrivingSocket) 65000 = 40000 ∧
    ¬ (min 65000 (tcpReceiveWindow arrivingSocket) ≤
        tcpLeoRwndClamp staticNet ⟨27010000000, 0⟩ arrivingSocket (tcpReceiveWindow arrivingSocket) 65000 ∧
      tcpLeoRwndClamp staticNet ⟨27010000000, 0⟩ arrivingSocket (tcpReceiveWindow arrivingSocket) 65000 ≤ 65000) := by
  refine ⟨by decide, by decide, by decide⟩

end StarlinkTcp.Proof

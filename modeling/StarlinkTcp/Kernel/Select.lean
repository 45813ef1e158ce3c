import StarlinkTcp.Kernel.Output
import StarlinkTcp.Machine.Grid

/-!
# The ordinary window, `tcp_select_initial_window` and `__tcp_select_window`

The scale factor and the first window of a connection, and the window that ordinary TCP would offer
afterwards, as both controllers receive it. The `int` variables of the
function are integers; its value is stored back into a word. What the memory accounting says (`tcp_space`,
`tcp_full_space`, the pressure flag and the threshold `tcp_adjust_rcv_ssthresh` leaves behind) is an
argument. MPTCP sockets are left out, and so is `icsk_ack.quick`, which only the ACK scheduler reads.
-/

namespace StarlinkTcp.Kernel
open Machine

/-- What `tcp_select_initial_window` stores. -/
structure InitialWindow where
  rcvWnd : UInt32
  windowClamp : UInt32
  rcvWscale : Fin 16
deriving DecidableEq, Repr

/-- `clamp_t(int, ilog2(space) - 15, 0, TCP_MAX_WSCALE)`, or no scaling. -/
def windowScale (wscaleOk : Bool) (space : UInt32) : Fin 16 :=
  ⟨if wscaleOk then min (Nat.log2 space.toNat - 15) 14 else 0, by split <;> omega⟩

/-- `tcp_select_initial_window`. `rmemMax` is the larger of `tcp_rmem[2]` and `sysctl_rmem_max`. -/
def tcpSelectInitialWindow (net : Net) (space : Int32) (mss windowClamp : UInt32) (wscaleOk : Bool)
    (rmemMax initRcvWnd : UInt32) : InitialWindow :=
  let windowClamp : UInt32 := if windowClamp = 0 then (65535 : UInt32) <<< 14 else windowClamp
  let space : UInt32 := min windowClamp (if space < 0 then 0 else space.toUInt32)
  let space : UInt32 := if space > mss then space - space % mss else space
  let rcvWnd : UInt32 := if net.tcpWorkaroundSignedWindows ≠ 0 then min space 32767 else min space 65535
  let rcvWnd : UInt32 := if initRcvWnd ≠ 0 then min rcvWnd (initRcvWnd * mss) else rcvWnd
  let rcvWscale := windowScale wscaleOk (min (max space rmemMax) windowClamp)
  { rcvWnd, rcvWscale, windowClamp := min ((65535 : UInt32) <<< UInt32.ofNat rcvWscale) windowClamp }

structure SpaceView where
  windowClamp : UInt32
  rcvSsthresh : UInt32
  space : Int32
  fullSpace : Int32
  underMemoryPressure : Bool
  adjustedSsthresh : UInt32
deriving DecidableEq, Repr

namespace SpaceView

/-- `rcv_ssthresh` after the adjustment under memory pressure, which both branches make alike. -/
def ssthresh (view : SpaceView) (scarce : Bool) : UInt32 :=
  if scarce ∧ view.underMemoryPressure then view.adjustedSsthresh else view.rcvSsthresh

def full (view : SpaceView) : Int := min view.windowClamp.toInt32.toInt view.fullSpace.toInt

end SpaceView

/-- The part after `shrink_window_allowed`. -/
def selectShrinking (view : SpaceView) (unit mss : Int) : Int :=
  let freeSpace := roundDown view.space.toInt unit
  let scarce : Bool := freeSpace < view.full / 2
  let ssthresh := view.ssthresh scarce
  if scarce ∧ (freeSpace < view.fullSpace.toInt / 16 ∨ freeSpace < mss ∨ freeSpace < unit) then 0
  -- the comparison is of unsigned words
  else if UInt32.ofInt freeSpace > ssthresh then roundUp ssthresh.toInt32.toInt unit
  else freeSpace

/-- The part before it: the window is not to shrink. -/
def selectSteady (view : SpaceView) (rcvWnd : UInt32) (wscale : Fin 16) (unit mss : Int) : Int :=
  let scarce : Bool := view.space.toInt < view.full / 2
  let freeSpace := if scarce then roundDown view.space.toInt unit else view.space.toInt
  let ssthresh := view.ssthresh scarce
  if scarce ∧ (freeSpace < view.fullSpace.toInt / 16 ∨ freeSpace < mss) then 0
  else
    let freeSpace := if UInt32.ofInt freeSpace > ssthresh then ssthresh.toInt32.toInt else freeSpace
    if wscale.val ≠ 0 then roundUp freeSpace unit
    else
      let window := rcvWnd.toInt32.toInt
      if window ≤ freeSpace - mss ∨ window > freeSpace then freeSpace - freeSpace.tmod mss
      else if mss = view.full ∧ freeSpace > window + view.full / 2 then freeSpace
      else window

/-- `__tcp_select_window`. -/
def selectWindow (net : Net) (view : SpaceView) (sk : TcpSock) : UInt32 :=
  let unit : Int := 2 ^ sk.rcvWscale.val
  let rcvMss : Int := sk.rcvMss.toNat
  let mss := if rcvMss > view.full then view.full else rcvMss
  if rcvMss > view.full ∧ mss ≤ 0 then 0
  else if net.tcpShrinkWindow ≠ 0 ∧ sk.rcvWscale.val ≠ 0 then UInt32.ofInt (selectShrinking view unit mss)
  else UInt32.ofInt (selectSteady view sk.rcvWnd sk.rcvWscale unit mss)

end StarlinkTcp.Kernel

import StarlinkTcp.Kernel.Redhat

/-!
# Window selection, `tcp_output.c`

The static controller (`tcp_leo_rwnd_*`) and `tcp_select_window`, which chooses between it, the
dynamic controller and ordinary TCP. The value of `__tcp_select_window` is an argument. The MIB
counters and the debug print are left out: nothing reads them back.
-/

namespace StarlinkTcp.Kernel
open Machine

def tcpLeoRwndMinWindow (net : Net) (sk : SockView) : UInt32 :=
  let minSegs := if net.tcpLeoRwndMinSegs = 0 then 1 else net.tcpLeoRwndMinSegs
  minSegs * leoMss sk

def tcpLeoRwndPhaseMs (net : Net) (clk : Clock) : UInt32 :=
  let period := net.tcpLeoRwndPeriodMs
  if period = 0 then 0
  else
    let nowMs := clk.realNs / 1000000
    let rem := (nowMs % period.toUInt64).toUInt32
    let offset := net.tcpLeoRwndOffsetMs % period
    if rem ≥ offset then rem - offset else rem + period - offset

def tcpLeoRwndTarget (net : Net) (clk : Clock) (sk : SockView) (normalWin : UInt32) : UInt32 :=
  let period := net.tcpLeoRwndPeriodMs
  let outage := net.tcpLeoRwndOutageMs
  let recovery := net.tcpLeoRwndRecoveryMs
  if net.tcpLeoRwndEnable = 0 then normalWin
  else if period = 0 then normalWin
  else
    let pre := if net.tcpLeoRwndPreMs ≥ period then period - 1 else net.tcpLeoRwndPreMs
    let minWin := tcpLeoRwndMinWindow net sk
    if normalWin ≤ minWin then normalWin
    else
      let phase := tcpLeoRwndPhaseMs net clk
      let preStart := period - pre
      let recoveryEnd := outage + recovery
      let delta := (normalWin - minWin).toUInt64
      if pre ≠ 0 ∧ phase ≥ preStart then
        let elapsed := (phase - preStart).toUInt64
        normalWin - (delta * elapsed / pre.toUInt64).toUInt32
      else if phase < outage then minWin
      else if recovery ≠ 0 ∧ phase < recoveryEnd then
        let elapsed := (phase - outage).toUInt64
        if net.tcpLeoRwndFastRecovery ≠ 0 then normalWin
        else minWin + (delta * elapsed / recovery.toUInt64).toUInt32
      else normalWin

/-- The socket as `tcp_select_window` sees it. `ackNomem` is `ICSK_ACK_NOMEM` in
`icsk_ack.pending`. -/
structure TcpSock extends SockView where
  rcvWnd : UInt32
  rcvWup : UInt32
  predFlags : UInt32
  ackNomem : Bool
  leoState : LeoState
deriving DecidableEq, Repr

def tcpLeoRwndClamp (net : Net) (clk : Clock) (sk : TcpSock) (curWin newWin : UInt32) : UInt32 :=
  if net.tcpLeoRwndEnable = 0 then newWin
  else
    let target := tcpLeoRwndTarget net clk sk.toSockView newWin
    if target ≥ newWin then newWin
    else
      -- do not reduce the window faster than bytes newly received since the last update point
      let drained := sk.rcvNxt - sk.rcvWup
      if target < curWin then
        let safeWin := if drained ≥ curWin - target then target else curWin - drained
        min newWin safeWin
      else min newWin target

/-- `tcp_receive_window`: what is left of the window last advertised, read as a signed number. -/
def tcpReceiveWindow (sk : TcpSock) : UInt32 :=
  let win := sk.rcvWup + sk.rcvWnd - sk.rcvNxt
  if win.toInt32 < 0 then 0 else win

/-- `leo_dynamic`, computed from the two enable sysctls only. -/
def leoDynamic (net : Net) : Bool := net.tcpLeoRwndEnable ≠ 0 ∧ net.tcpLeoDynamicEnable ≠ 0

def leoAdjustWindow (net : Net) (clk : Clock) (normalWin : UInt32) (sk : TcpSock) : UInt32 × LeoState :=
  if leoDynamic net then tcpLeoDynamicTarget net clk sk.toSockView normalWin sk.leoState
  else if net.tcpLeoRwndEnable ≠ 0 then
    (tcpLeoRwndClamp net clk sk (tcpReceiveWindow sk) normalWin, sk.leoState)
  else (normalWin, sk.leoState)

def keepOfferedWindow (net : Net) (sk : TcpSock) (curWin newWin : UInt32) : UInt32 :=
  if newWin < curWin ∧ leoDynamic net = false ∧ (net.tcpShrinkWindow = 0 ∨ sk.rcvWscale = 0) then
    align curWin (1 <<< UInt32.ofNat sk.rcvWscale)
  else newWin

def scaledWindow (net : Net) (sk : TcpSock) (newWin : UInt32) : UInt32 :=
  let newWin :=
    if sk.rcvWscale = 0 ∧ net.tcpWorkaroundSignedWindows ≠ 0 then min newWin 32767
    else min newWin (65535 <<< UInt32.ofNat sk.rcvWscale)
  newWin >>> UInt32.ofNat sk.rcvWscale

def tcpSelectWindow (net : Net) (clk : Clock) (normalWin : UInt32) (sk : TcpSock) : UInt16 × TcpSock :=
  if sk.ackNomem then
    (0, { sk with predFlags := 0, rcvWnd := 0, rcvWup := sk.rcvNxt })
  else
    let curWin := tcpReceiveWindow sk
    let adjusted := leoAdjustWindow net clk normalWin sk
    let newWin := keepOfferedWindow net sk curWin adjusted.1
    let field := scaledWindow net sk newWin
    (field.toUInt16,
      { sk with
        rcvWnd := newWin
        rcvWup := sk.rcvNxt
        predFlags := if field = 0 then 0 else sk.predFlags
        leoState := adjusted.2 })

end StarlinkTcp.Kernel

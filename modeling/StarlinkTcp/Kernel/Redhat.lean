import StarlinkTcp.Kernel.Sysctl

/-!
# The dynamic controller, `tcp_redhat.c`

`LeoState` is `struct tcp_leo_dynamic_state`, passed on its own next to the part of `struct sock`
the controller reads (`SockView`). A C function that writes through `st` returns the new state.
Reads of the clocks are arguments: `Clock` holds what `ktime_get_real_ns` and `ktime_get_ns` return
during one callback.
-/

namespace StarlinkTcp.Kernel
open Machine

inductive TcpLeoPhase where
  | normal | preHandover | drain | outage | recovery
deriving DecidableEq, Repr

/-- The fields of `struct sock` and `struct tcp_sock` that ordinary TCP maintains and both
controllers read. The ports are in host order, `rcvRttUs` is `rcv_rtt_est.rtt_us`, which carries
the estimate shifted left by three. -/
structure SockView where
  inetSport : UInt16
  inetDport : UInt16
  rcvMss : UInt16
  advmss : UInt16
  rcvWscale : Fin 16
  rcvRttUs : UInt32
  bytesReceived : UInt64
  rcvNxt : UInt32
deriving DecidableEq, Repr

structure LeoState where
  -- measurement state
  lastSampleUs : UInt64
  lastBytesReceived : UInt64
  recvRateBpsEwma : UInt64
  rttUs : UInt32
  rttBaselineUs : UInt32
  normalRwndEwma : UInt32
  -- parameters frozen for one predicted handover
  frozenPeriodId : UInt64
  frozenRttUs : UInt32
  frozenRttHalfUs : UInt32
  frozenRecvRateBps : UInt64
  frozenStartRwnd : UInt32
  frozenMinRwnd : UInt32
  frozenPreUs : UInt32
  frozenOutageUs : UInt32
  frozenDrainUs : UInt32
  frozenRecoveryUs : UInt32
  frozenPredictionGuardUs : UInt32
  frozenPreStartWnd : UInt32
  frozenPreStartRcvNxt : UInt32
  preStarted : Bool
  recoveryStarted : Bool
  recoveryStartRealUs : UInt64
  initialized : Bool
  frozen : Bool
  currentPhase : TcpLeoPhase
deriving DecidableEq, Repr

def tcpLeoDynamicInit : LeoState where
  lastSampleUs := 0
  lastBytesReceived := 0
  recvRateBpsEwma := 0
  rttUs := 0
  rttBaselineUs := 0
  normalRwndEwma := 0
  frozenPeriodId := 0
  frozenRttUs := 0
  frozenRttHalfUs := 0
  frozenRecvRateBps := 0
  frozenStartRwnd := 0
  frozenMinRwnd := 0
  frozenPreUs := 0
  frozenOutageUs := 0
  frozenDrainUs := 0
  frozenRecoveryUs := 0
  frozenPredictionGuardUs := 0
  frozenPreStartWnd := 0
  frozenPreStartRcvNxt := 0
  preStarted := false
  recoveryStarted := false
  recoveryStartRealUs := 0
  initialized := false
  frozen := false
  currentPhase := .normal

structure Clock where
  realNs : UInt64
  monoNs : UInt64
deriving DecidableEq, Repr

def leoNowRealUs (clk : Clock) : UInt64 := clk.realNs / 1000

def leoNowMonoUs (clk : Clock) : UInt64 := clk.monoNs / 1000

def leoEwmaU32 (old sample shift : UInt32) : UInt32 :=
  if old = 0 then sample
  else
    let shift := clampT shift 1 8
    old - (old >>> shift) + (sample >>> shift)

def leoEwmaU64 (old sample : UInt64) (shift : UInt32) : UInt64 :=
  if old = 0 then sample
  else
    let shift := (clampT shift 1 8).toUInt64
    old - (old >>> shift) + (sample >>> shift)

def tcpLeoPortMatches (net : Net) (sk : SockView) : Bool :=
  net.tcpLeoDynamicAllowPorts.toList.any fun port =>
    -- 0 means unused slot
    port ≠ 0 ∧ (sk.inetSport.toUInt32 = port ∨ sk.inetDport.toUInt32 = port)

def leoPeriodUs (net : Net) : UInt64 := net.tcpLeoRwndPeriodMs.toUInt64 * 1000

def leoOffsetUs (net : Net) : UInt64 := net.tcpLeoRwndOffsetMs.toUInt64 * 1000

def leoPeriodPositionUs (net : Net) (nowUs : UInt64) : UInt64 :=
  let periodUs := leoPeriodUs net
  if periodUs = 0 then 0
  else (nowUs + periodUs - leoOffsetUs net % periodUs) % periodUs

def leoPeriodId (net : Net) (nowUs : UInt64) : UInt64 :=
  let periodUs := leoPeriodUs net
  if periodUs = 0 then 0
  else (nowUs + periodUs - leoOffsetUs net % periodUs) / periodUs

def leoMss (sk : SockView) : UInt32 :=
  if sk.rcvMss ≠ 0 then sk.rcvMss.toUInt32
  else if sk.advmss ≠ 0 then sk.advmss.toUInt32
  else 536

def leoMinRwnd (net : Net) (sk : SockView) : UInt32 :=
  let minSegs := max 1 net.tcpLeoRwndMinSegs
  let scale := (1 : UInt32) <<< UInt32.ofNat sk.rcvWscale
  align (minSegs * leoMss sk) scale

def leoReadReceiverRttUs (net : Net) (sk : SockView) : UInt32 :=
  let rttUs := sk.rcvRttUs >>> 3
  if rttUs = 0 then max 1 net.tcpLeoDynamicFallbackRttMs.toUInt32 * 1000 else rttUs

def leoFallbackRateBps (net : Net) : UInt64 :=
  let mbps := (max 1 net.tcpLeoDynamicFallbackRateMbps.toUInt32).toUInt64
  mbps * 1000000 / 8

def leoUpdateMeasurements (net : Net) (sk : SockView) (normalWin : UInt32) (nowUs : UInt64)
    (phase : TcpLeoPhase) (st : LeoState) : LeoState :=
  let sampleMs := max 1 net.tcpLeoDynamicSampleMs.toUInt32
  let shift := net.tcpLeoDynamicEwmaShift.toUInt32
  if st.initialized = false then
    { tcpLeoDynamicInit with
      lastSampleUs := nowUs
      lastBytesReceived := sk.bytesReceived
      normalRwndEwma := normalWin
      rttUs := leoReadReceiverRttUs net sk
      rttBaselineUs := leoReadReceiverRttUs net sk
      recvRateBpsEwma := leoFallbackRateBps net
      currentPhase := .normal
      initialized := true }
  else
    let deltaUs := nowUs - st.lastSampleUs
    if deltaUs < sampleMs.toUInt64 * 1000 then st
    else
      let bytesNow := sk.bytesReceived
      let deltaBytes := bytesNow - st.lastBytesReceived
      let rateSampleBps := if deltaBytes ≠ 0 then deltaBytes * 1000000 / deltaUs else 0
      let rttSampleUs := leoReadReceiverRttUs net sk
      if phase = .normal then
        { st with
          recvRateBpsEwma := leoEwmaU64 st.recvRateBpsEwma rateSampleBps shift
          rttUs := rttSampleUs
          rttBaselineUs := leoEwmaU32 st.rttBaselineUs rttSampleUs shift
          normalRwndEwma := leoEwmaU32 st.normalRwndEwma normalWin shift
          lastBytesReceived := bytesNow
          lastSampleUs := nowUs }
      else
        { st with rttUs := rttSampleUs, lastBytesReceived := bytesNow, lastSampleUs := nowUs }

/-- `swap(min_us, max_us)` when the configured bounds are the wrong way round, then `clamp_t`. -/
def clampBetween (value minUs maxUs : UInt64) : UInt64 :=
  if minUs > maxUs then clampT value maxUs minUs else clampT value minUs maxUs

def leoCalcPreUs (net : Net) (startRwnd minRwnd : UInt32) (rateBps : UInt64) : UInt32 :=
  let minUs := (max 1 net.tcpLeoDynamicPreMinMs.toUInt32).toUInt64 * 1000
  let maxUs := (max 1 net.tcpLeoDynamicPreMaxMs.toUInt32).toUInt64 * 1000
  if startRwnd ≤ minRwnd ∨ rateBps = 0 then minUs.toUInt32
  else
    let deltaBytes := (startRwnd - minRwnd).toUInt64
    let preUs := deltaBytes * 1000000 / rateBps
    (clampBetween preUs minUs maxUs).toUInt32

def leoPredictionGuardUs (net : Net) : UInt32 :=
  (u64OfInt net.tcpLeoDynamicPredictionGuardMs * 1000).toUInt32

def leoCalcDrainUs (net : Net) (rttUs : UInt32) : UInt32 :=
  let minUs := u64OfInt net.tcpLeoDynamicDrainMinMs * 1000
  let maxUs := u64OfInt net.tcpLeoDynamicDrainMaxMs * 1000
  (clampBetween (rttUs / 2).toUInt64 minUs maxUs).toUInt32

def leoCalcRecoveryUs (net : Net) (rttUs : UInt32) : UInt32 :=
  if net.tcpLeoDynamicRecoveryEnable = 0 then 0
  else
    let minUs := u64OfInt net.tcpLeoDynamicRecoveryMinMs * 1000
    let maxUs := u64OfInt net.tcpLeoDynamicRecoveryMaxMs * 1000
    (clampBetween (rttUs / 2).toUInt64 minUs maxUs).toUInt32

def leoCalcOutageUs (net : Net) (rttUs rttMinUs : UInt32) : UInt32 :=
  let lower := u64OfInt net.tcpLeoDynamicOutageMinMs * 1000
  let upper := u64OfInt net.tcpLeoDynamicOutageMaxMs * 1000
  let guardUs := u64OfInt net.tcpLeoDynamicOutageGuardMs * 1000
  let predictionGuardUs := (leoPredictionGuardUs net).toUInt64
  let minUs := if lower > upper then upper else lower
  let maxUs := if lower > upper then lower else upper
  let theoreticalMin := if rttUs > rttMinUs then ((rttUs - rttMinUs) / 2).toUInt64 else 0
  let outageUs :=
    if net.tcpLeoDynamicPredGuardToOutage ≠ 0 then theoreticalMin + guardUs + predictionGuardUs
    else theoreticalMin + guardUs
  let outageUs := clampT outageUs minUs (maxUs + predictionGuardUs)
  -- receiver-side OUTAGE ends no later than the physical handover boundary
  (min outageUs (rttUs / 2).toUInt64).toUInt32

def leoStartRwnd (net : Net) (sk : SockView) (normalWin : UInt32) (st : LeoState) : UInt32 :=
  let startRwnd := if st.normalRwndEwma ≠ 0 then st.normalRwndEwma else normalWin
  max (min startRwnd normalWin) (leoMinRwnd net sk)

def leoCycleRttUs (net : Net) (sk : SockView) (st : LeoState) : UInt32 :=
  if st.rttUs ≠ 0 then st.rttUs else leoReadReceiverRttUs net sk

def leoCycleRateBps (net : Net) (st : LeoState) : UInt64 :=
  if st.recvRateBpsEwma ≠ 0 then st.recvRateBpsEwma else leoFallbackRateBps net

def leoRequiredFreezeAheadUs (net : Net) (sk : SockView) (normalWin : UInt32) (st : LeoState) : UInt64 :=
  let minRwnd := leoMinRwnd net sk
  let predictionGuardUs := (leoPredictionGuardUs net).toUInt64
  let startRwnd := leoStartRwnd net sk normalWin st
  let rttUs := leoCycleRttUs net sk st
  let rateBps := leoCycleRateBps net st
  let preUs := leoCalcPreUs net startRwnd minRwnd rateBps
  let drainUs := (leoCalcDrainUs net rttUs).toUInt64
  let guardUs := u64OfInt net.tcpLeoDynamicFreezeGuardMs * 1000
  preUs.toUInt64 + (rttUs / 2).toUInt64 + drainUs + guardUs + predictionGuardUs

def leoFreezeParameters (net : Net) (sk : SockView) (normalWin : UInt32) (nowUs : UInt64)
    (st : LeoState) : LeoState :=
  let minRwnd := leoMinRwnd net sk
  let startRwnd := leoStartRwnd net sk normalWin st
  let rttUs := leoCycleRttUs net sk st
  let rateBps := leoCycleRateBps net st
  { st with
    frozenPeriodId := leoPeriodId net nowUs
    frozenRttUs := rttUs
    frozenRttHalfUs := rttUs / 2
    frozenRecvRateBps := rateBps
    frozenStartRwnd := startRwnd
    frozenMinRwnd := minRwnd
    frozenPreUs := leoCalcPreUs net startRwnd minRwnd rateBps
    frozenOutageUs := leoCalcOutageUs net rttUs st.rttBaselineUs
    frozenDrainUs := leoCalcDrainUs net rttUs
    frozenRecoveryUs := leoCalcRecoveryUs net rttUs
    frozenPredictionGuardUs := leoPredictionGuardUs net
    preStarted := false
    recoveryStarted := false
    recoveryStartRealUs := 0
    frozenPreStartWnd := 0
    frozenPreStartRcvNxt := 0
    frozen := true }

/-- The two release rules of `leo_maybe_freeze`: the recovery ramp is over, or recovery is disabled
and the period boundary has passed. -/
def leoReleases (net : Net) (nowUs : UInt64) (st : LeoState) : Bool :=
  st.frozen ∧
    ((st.recoveryStarted ∧ nowUs - st.recoveryStartRealUs ≥ st.frozenRecoveryUs.toUInt64) ∨
     (st.frozenRecoveryUs = 0 ∧ leoPeriodId net nowUs ≠ st.frozenPeriodId))

def leoRelease (net : Net) (nowUs : UInt64) (st : LeoState) : LeoState :=
  if leoReleases net nowUs st then { st with frozen := false } else st

def leoFreezeDue (net : Net) (sk : SockView) (normalWin : UInt32) (nowUs : UInt64) (st : LeoState) : Bool :=
  leoPeriodUs net - leoPeriodPositionUs net nowUs ≤ leoRequiredFreezeAheadUs net sk normalWin st

def leoMaybeFreeze (net : Net) (sk : SockView) (normalWin : UInt32) (nowUs : UInt64)
    (st : LeoState) : LeoState :=
  if leoPeriodUs net = 0 then st
  else
    let due := leoFreezeDue net sk normalWin nowUs st
    let st := leoRelease net nowUs st
    if st.frozen = false ∧ due then leoFreezeParameters net sk normalWin nowUs st else st

structure LeoTimeline where
  preStartUs : UInt64
  drainStartUs : UInt64
  outageStartUs : UInt64
  outageEndUs : UInt64

def leoTimeline (net : Net) (st : LeoState) : LeoTimeline :=
  let periodUs := leoPeriodUs net
  let rttHalfUs := st.frozenRttHalfUs.toUInt64
  let drainUs := st.frozenDrainUs.toUInt64
  let predictionGuardUs := st.frozenPredictionGuardUs.toUInt64
  let preUs := st.frozenPreUs.toUInt64
  let outageStartUs := if periodUs > rttHalfUs then periodUs - rttHalfUs else 0
  let drainStartUs :=
    if outageStartUs > drainUs + predictionGuardUs then outageStartUs - drainUs - predictionGuardUs else 0
  let preStartUs := if drainStartUs > preUs then drainStartUs - preUs else 0
  { preStartUs, drainStartUs, outageStartUs,
    outageEndUs := outageStartUs + st.frozenOutageUs.toUInt64 }

def leoScheduledPhase (timeline : LeoTimeline) (periodUs posUs : UInt64) : TcpLeoPhase × UInt64 :=
  if posUs ≥ timeline.preStartUs ∧ posUs < timeline.drainStartUs then
    (.preHandover, posUs - timeline.preStartUs)
  else if posUs ≥ timeline.drainStartUs ∧ posUs < timeline.outageStartUs then
    (.drain, posUs - timeline.drainStartUs)
  else if posUs ≥ timeline.outageStartUs ∧ posUs < min timeline.outageEndUs periodUs then
    (.outage, posUs - timeline.outageStartUs)
  else (.normal, 0)

/-- `leo_phase`: the phase, `*elapsed_us` and the state, which changes when RECOVERY starts. -/
def leoPhase (net : Net) (nowUs : UInt64) (st : LeoState) : TcpLeoPhase × UInt64 × LeoState :=
  if st.frozen = false then (.normal, 0, st)
  else
    let periodUs := leoPeriodUs net
    if periodUs = 0 then (.normal, 0, st)
    else
      let posUs := leoPeriodPositionUs net nowUs
      let currentPeriodId := leoPeriodId net nowUs
      if currentPeriodId = st.frozenPeriodId then
        let scheduled := leoScheduledPhase (leoTimeline net st) periodUs posUs
        (scheduled.1, scheduled.2, st)
      else if currentPeriodId > st.frozenPeriodId ∧ st.frozenRecoveryUs ≠ 0 then
        if st.recoveryStarted = false then
          (.recovery, 0, { st with recoveryStarted := true, recoveryStartRealUs := nowUs })
        else
          let elapsedUs := nowUs - st.recoveryStartRealUs
          if elapsedUs < st.frozenRecoveryUs.toUInt64 then (.recovery, elapsedUs, st)
          -- `*elapsed_us` keeps the value written above
          else (.normal, elapsedUs, st)
      else (.normal, 0, st)

def leoPlannedReduction (st : LeoState) (elapsedUs : UInt64) : UInt64 :=
  (st.frozenPreStartWnd - st.frozenMinRwnd).toUInt64 *
    min elapsedUs st.frozenPreUs.toUInt64 / st.frozenPreUs.toUInt64

def leoPreTarget (sk : SockView) (st : LeoState) (elapsedUs : UInt64) : UInt32 :=
  if st.preStarted = false then st.frozenStartRwnd
  else if st.frozenPreStartWnd ≤ st.frozenMinRwnd then st.frozenMinRwnd
  else if st.frozenPreUs = 0 then st.frozenPreStartWnd
  else
    let deltaWnd := st.frozenPreStartWnd - st.frozenMinRwnd
    let planned := leoPlannedReduction st elapsedUs
    let received := (sk.rcvNxt - st.frozenPreStartRcvNxt).toUInt64
    let reduction := min (min planned received) deltaWnd.toUInt64
    st.frozenPreStartWnd - reduction.toUInt32

def leoRecoveryTarget (st : LeoState) (normalWin : UInt32) (elapsedUs : UInt64) : UInt32 :=
  let endWnd := max (min normalWin st.frozenStartRwnd) st.frozenMinRwnd
  if st.frozenRecoveryUs = 0 ∨ endWnd ≤ st.frozenMinRwnd then endWnd
  else
    let deltaWnd := endWnd - st.frozenMinRwnd
    let increase := deltaWnd.toUInt64 * min elapsedUs st.frozenRecoveryUs.toUInt64 /
      st.frozenRecoveryUs.toUInt64
    st.frozenMinRwnd + increase.toUInt32

def leoSafeTarget (sk : SockView) (st : LeoState) (desired : UInt32) : UInt32 :=
  let received := sk.rcvNxt - st.frozenPreStartRcvNxt
  let maxReduction := min received (st.frozenPreStartWnd - st.frozenMinRwnd)
  max desired (st.frozenPreStartWnd - maxReduction)

/-- The PRE-start bookkeeping, written out twice in `tcp_leo_dynamic_target`. -/
def leoRecordPreStart (sk : SockView) (normalWin : UInt32) (st : LeoState) : LeoState :=
  { st with
    frozenPreStartWnd := max (min normalWin st.frozenStartRwnd) st.frozenMinRwnd
    frozenPreStartRcvNxt := sk.rcvNxt
    preStarted := true }

def leoTarget (sk : SockView) (normalWin : UInt32) (st : LeoState) (elapsedUs : UInt64) :
    TcpLeoPhase → UInt32
  | .preHandover => leoPreTarget sk st elapsedUs
  | .drain => leoSafeTarget sk st st.frozenMinRwnd
  | .outage => leoSafeTarget sk st st.frozenMinRwnd
  | .recovery => leoRecoveryTarget st normalWin elapsedUs
  | .normal => normalWin

structure LeoReport where
  phase : TcpLeoPhase
  elapsedUs : UInt64
  target : UInt32
  state : LeoState
deriving DecidableEq, Repr

def leoEnsureInitialized (net : Net) (clk : Clock) (sk : SockView) (normalWin : UInt32)
    (st : LeoState) : LeoState :=
  if st.initialized = false then
    leoUpdateMeasurements net sk normalWin (leoNowMonoUs clk) .normal st
  else st

/-- The body of `tcp_leo_dynamic_target` after its three gates. -/
def leoController (net : Net) (clk : Clock) (sk : SockView) (normalWin : UInt32) (st : LeoState) :
    LeoReport :=
  let oldPhase := st.currentPhase
  let nowRealUs := leoNowRealUs clk
  let nowMonoUs := leoNowMonoUs clk
  let st := leoEnsureInitialized net clk sk normalWin st
  let st := leoMaybeFreeze net sk normalWin nowRealUs st
  let (phase, elapsedUs, st) := leoPhase net nowRealUs st
  let st := leoUpdateMeasurements net sk normalWin nowMonoUs phase st
  let st :=
    if phase = .preHandover ∧ oldPhase ≠ .preHandover then leoRecordPreStart sk normalWin st else st
  let st :=
    if (phase = .preHandover ∨ phase = .outage ∨ phase = .drain) ∧ st.preStarted = false then
      leoRecordPreStart sk normalWin st
    else st
  let st := { st with currentPhase := phase }
  { phase, elapsedUs, target := leoTarget sk normalWin st elapsedUs phase, state := st }

def leoControls (net : Net) (sk : SockView) : Bool :=
  net.tcpLeoRwndEnable ≠ 0 ∧ net.tcpLeoDynamicEnable ≠ 0 ∧ tcpLeoPortMatches net sk

def tcpLeoDynamicTarget (net : Net) (clk : Clock) (sk : SockView) (normalWin : UInt32) (st : LeoState) :
    UInt32 × LeoState :=
  if leoControls net sk then
    let report := leoController net clk sk normalWin st
    -- never advertise more than ordinary TCP currently allows
    (min report.target normalWin, report.state)
  else (normalWin, st)

end StarlinkTcp.Kernel

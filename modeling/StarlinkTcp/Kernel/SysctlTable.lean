import StarlinkTcp.Kernel.Sysctl

/-!
# The entries of `ipv4_net_table`

The entries behind the fields of `Net`, in the order of `sysctl_net_ipv4.c`: each has a handler, whose
word bounds what can be parsed, and the optional bounds `extra1` and `extra2`. A write that is refused
leaves the field as it was. Values are read back the way the handler prints them.
-/

namespace StarlinkTcp.Kernel

inductive ProcHandler where
  | dou8vecMinmax | douintvec | douintvecMinmax | dointvecMinmax
deriving DecidableEq, Repr

/-- The values of the word that the handler parses. -/
def ProcHandler.word : ProcHandler → Int × Int
  | .dou8vecMinmax => (0, 255)
  | .douintvec => (0, 4294967295)
  | .douintvecMinmax => (0, 4294967295)
  | .dointvecMinmax => (-2147483648, 2147483647)

structure CtlTable where
  procHandler : ProcHandler
  extra1 : Option Int
  extra2 : Option Int
deriving DecidableEq, Repr

inductive Sysctl where
  | tcpWorkaroundSignedWindows
  | tcpShrinkWindow
  | tcpLeoRwndEnable
  | tcpLeoRwndPeriodMs
  | tcpLeoRwndOffsetMs
  | tcpLeoRwndPreMs
  | tcpLeoRwndOutageMs
  | tcpLeoRwndMinSegs
  | tcpLeoRwndRecoveryMs
  | tcpLeoRwndFastRecovery
  | tcpLeoDynamicEnable
  | tcpLeoDynamicSampleMs
  | tcpLeoDynamicFreezeGuardMs
  | tcpLeoDynamicPreMinMs
  | tcpLeoDynamicPreMaxMs
  | tcpLeoDynamicOutageMinMs
  | tcpLeoDynamicOutageMaxMs
  | tcpLeoDynamicOutageGuardMs
  | tcpLeoDynamicDrainMinMs
  | tcpLeoDynamicDrainMaxMs
  | tcpLeoDynamicFallbackRttMs
  | tcpLeoDynamicFallbackRateMbps
  | tcpLeoDynamicEwmaShift
  | tcpLeoDynamicAllowPort1
  | tcpLeoDynamicAllowPort2
  | tcpLeoDynamicAllowPort3
  | tcpLeoDynamicAllowPort4
  | tcpLeoDynamicPredictionGuardMs
  | tcpLeoDynamicPredGuardToOutage
  | tcpLeoDynamicRecoveryEnable
  | tcpLeoDynamicRecoveryMinMs
  | tcpLeoDynamicRecoveryMaxMs
deriving DecidableEq, Repr

def tcpLeoPortMax : Int := 65535

def ipv4NetTable : Sysctl → CtlTable
  | .tcpWorkaroundSignedWindows => ⟨.dou8vecMinmax, none, none⟩
  | .tcpShrinkWindow => ⟨.dou8vecMinmax, some 0, some 1⟩
  | .tcpLeoRwndEnable => ⟨.douintvecMinmax, some 0, some 1⟩
  | .tcpLeoRwndPeriodMs => ⟨.douintvecMinmax, some 1, none⟩
  | .tcpLeoRwndOffsetMs => ⟨.douintvec, none, none⟩
  | .tcpLeoRwndPreMs => ⟨.douintvec, none, none⟩
  | .tcpLeoRwndOutageMs => ⟨.douintvec, none, none⟩
  | .tcpLeoRwndMinSegs => ⟨.douintvecMinmax, some 1, none⟩
  | .tcpLeoRwndRecoveryMs => ⟨.douintvecMinmax, some 1, none⟩
  | .tcpLeoRwndFastRecovery => ⟨.douintvecMinmax, some 1, none⟩
  | .tcpLeoDynamicEnable => ⟨.dointvecMinmax, some 0, some 1⟩
  | .tcpLeoDynamicSampleMs => ⟨.dointvecMinmax, some 1, none⟩
  | .tcpLeoDynamicFreezeGuardMs => ⟨.dointvecMinmax, some 1, none⟩
  | .tcpLeoDynamicPreMinMs => ⟨.dointvecMinmax, some 1, none⟩
  | .tcpLeoDynamicPreMaxMs => ⟨.dointvecMinmax, some 1, none⟩
  | .tcpLeoDynamicOutageMinMs => ⟨.dointvecMinmax, some 0, none⟩
  | .tcpLeoDynamicOutageMaxMs => ⟨.dointvecMinmax, some 0, none⟩
  | .tcpLeoDynamicOutageGuardMs => ⟨.dointvecMinmax, some 0, none⟩
  | .tcpLeoDynamicDrainMinMs => ⟨.dointvecMinmax, some 0, none⟩
  | .tcpLeoDynamicDrainMaxMs => ⟨.dointvecMinmax, some 0, none⟩
  | .tcpLeoDynamicFallbackRttMs => ⟨.dointvecMinmax, some 1, none⟩
  | .tcpLeoDynamicFallbackRateMbps => ⟨.dointvecMinmax, some 1, none⟩
  -- an `int` field behind a handler for `unsigned int`
  | .tcpLeoDynamicEwmaShift => ⟨.douintvecMinmax, some 1, none⟩
  | .tcpLeoDynamicAllowPort1 => ⟨.douintvecMinmax, some 0, some tcpLeoPortMax⟩
  | .tcpLeoDynamicAllowPort2 => ⟨.douintvecMinmax, some 0, some tcpLeoPortMax⟩
  | .tcpLeoDynamicAllowPort3 => ⟨.douintvecMinmax, some 0, some tcpLeoPortMax⟩
  -- a `u32` field behind a handler for `int`
  | .tcpLeoDynamicAllowPort4 => ⟨.dointvecMinmax, some 0, some tcpLeoPortMax⟩
  -- an `int` field behind a handler for `unsigned int`
  | .tcpLeoDynamicPredictionGuardMs => ⟨.douintvecMinmax, some 1, none⟩
  | .tcpLeoDynamicPredGuardToOutage => ⟨.dointvecMinmax, some 0, some 1⟩
  | .tcpLeoDynamicRecoveryEnable => ⟨.dointvecMinmax, some 0, some 1⟩
  | .tcpLeoDynamicRecoveryMinMs => ⟨.dointvecMinmax, some 0, none⟩
  | .tcpLeoDynamicRecoveryMaxMs => ⟨.dointvecMinmax, some 0, none⟩

def CtlTable.accepts (table : CtlTable) (value : Int) : Bool :=
  table.procHandler.word.1 ≤ value ∧ value ≤ table.procHandler.word.2 ∧
    (∀ low ∈ table.extra1, low ≤ value) ∧ (∀ high ∈ table.extra2, value ≤ high)

/-- What is read back from a `u32` field through a handler for `unsigned int`. -/
def unsigned (x : UInt32) : Int := x.toNat

/-- The field of `unsigned int` that holds `value`. -/
def ofUnsigned (value : Int) : UInt32 := UInt32.ofNat value.toNat

def Net.read (net : Net) : Sysctl → Int
  | .tcpWorkaroundSignedWindows => net.tcpWorkaroundSignedWindows.toNat
  | .tcpShrinkWindow => net.tcpShrinkWindow.toNat
  | .tcpLeoRwndEnable => unsigned net.tcpLeoRwndEnable
  | .tcpLeoRwndPeriodMs => unsigned net.tcpLeoRwndPeriodMs
  | .tcpLeoRwndOffsetMs => unsigned net.tcpLeoRwndOffsetMs
  | .tcpLeoRwndPreMs => unsigned net.tcpLeoRwndPreMs
  | .tcpLeoRwndOutageMs => unsigned net.tcpLeoRwndOutageMs
  | .tcpLeoRwndMinSegs => unsigned net.tcpLeoRwndMinSegs
  | .tcpLeoRwndRecoveryMs => unsigned net.tcpLeoRwndRecoveryMs
  | .tcpLeoRwndFastRecovery => unsigned net.tcpLeoRwndFastRecovery
  | .tcpLeoDynamicEnable => net.tcpLeoDynamicEnable.toInt
  | .tcpLeoDynamicSampleMs => net.tcpLeoDynamicSampleMs.toInt
  | .tcpLeoDynamicFreezeGuardMs => net.tcpLeoDynamicFreezeGuardMs.toInt
  | .tcpLeoDynamicPreMinMs => net.tcpLeoDynamicPreMinMs.toInt
  | .tcpLeoDynamicPreMaxMs => net.tcpLeoDynamicPreMaxMs.toInt
  | .tcpLeoDynamicOutageMinMs => net.tcpLeoDynamicOutageMinMs.toInt
  | .tcpLeoDynamicOutageMaxMs => net.tcpLeoDynamicOutageMaxMs.toInt
  | .tcpLeoDynamicOutageGuardMs => net.tcpLeoDynamicOutageGuardMs.toInt
  | .tcpLeoDynamicDrainMinMs => net.tcpLeoDynamicDrainMinMs.toInt
  | .tcpLeoDynamicDrainMaxMs => net.tcpLeoDynamicDrainMaxMs.toInt
  | .tcpLeoDynamicFallbackRttMs => net.tcpLeoDynamicFallbackRttMs.toInt
  | .tcpLeoDynamicFallbackRateMbps => net.tcpLeoDynamicFallbackRateMbps.toInt
  | .tcpLeoDynamicEwmaShift => unsigned net.tcpLeoDynamicEwmaShift.toUInt32
  | .tcpLeoDynamicAllowPort1 => unsigned net.tcpLeoDynamicAllowPorts[0]
  | .tcpLeoDynamicAllowPort2 => unsigned net.tcpLeoDynamicAllowPorts[1]
  | .tcpLeoDynamicAllowPort3 => unsigned net.tcpLeoDynamicAllowPorts[2]
  | .tcpLeoDynamicAllowPort4 => net.tcpLeoDynamicAllowPorts[3].toInt32.toInt
  | .tcpLeoDynamicPredictionGuardMs => unsigned net.tcpLeoDynamicPredictionGuardMs.toUInt32
  | .tcpLeoDynamicPredGuardToOutage => net.tcpLeoDynamicPredGuardToOutage.toInt
  | .tcpLeoDynamicRecoveryEnable => net.tcpLeoDynamicRecoveryEnable.toInt
  | .tcpLeoDynamicRecoveryMinMs => net.tcpLeoDynamicRecoveryMinMs.toInt
  | .tcpLeoDynamicRecoveryMaxMs => net.tcpLeoDynamicRecoveryMaxMs.toInt

def Net.assign (net : Net) (value : Int) : Sysctl → Net
  | .tcpWorkaroundSignedWindows => { net with tcpWorkaroundSignedWindows := UInt8.ofNat value.toNat }
  | .tcpShrinkWindow => { net with tcpShrinkWindow := UInt8.ofNat value.toNat }
  | .tcpLeoRwndEnable => { net with tcpLeoRwndEnable := ofUnsigned value }
  | .tcpLeoRwndPeriodMs => { net with tcpLeoRwndPeriodMs := ofUnsigned value }
  | .tcpLeoRwndOffsetMs => { net with tcpLeoRwndOffsetMs := ofUnsigned value }
  | .tcpLeoRwndPreMs => { net with tcpLeoRwndPreMs := ofUnsigned value }
  | .tcpLeoRwndOutageMs => { net with tcpLeoRwndOutageMs := ofUnsigned value }
  | .tcpLeoRwndMinSegs => { net with tcpLeoRwndMinSegs := ofUnsigned value }
  | .tcpLeoRwndRecoveryMs => { net with tcpLeoRwndRecoveryMs := ofUnsigned value }
  | .tcpLeoRwndFastRecovery => { net with tcpLeoRwndFastRecovery := ofUnsigned value }
  | .tcpLeoDynamicEnable => { net with tcpLeoDynamicEnable := Int32.ofInt value }
  | .tcpLeoDynamicSampleMs => { net with tcpLeoDynamicSampleMs := Int32.ofInt value }
  | .tcpLeoDynamicFreezeGuardMs => { net with tcpLeoDynamicFreezeGuardMs := Int32.ofInt value }
  | .tcpLeoDynamicPreMinMs => { net with tcpLeoDynamicPreMinMs := Int32.ofInt value }
  | .tcpLeoDynamicPreMaxMs => { net with tcpLeoDynamicPreMaxMs := Int32.ofInt value }
  | .tcpLeoDynamicOutageMinMs => { net with tcpLeoDynamicOutageMinMs := Int32.ofInt value }
  | .tcpLeoDynamicOutageMaxMs => { net with tcpLeoDynamicOutageMaxMs := Int32.ofInt value }
  | .tcpLeoDynamicOutageGuardMs => { net with tcpLeoDynamicOutageGuardMs := Int32.ofInt value }
  | .tcpLeoDynamicDrainMinMs => { net with tcpLeoDynamicDrainMinMs := Int32.ofInt value }
  | .tcpLeoDynamicDrainMaxMs => { net with tcpLeoDynamicDrainMaxMs := Int32.ofInt value }
  | .tcpLeoDynamicFallbackRttMs => { net with tcpLeoDynamicFallbackRttMs := Int32.ofInt value }
  | .tcpLeoDynamicFallbackRateMbps => { net with tcpLeoDynamicFallbackRateMbps := Int32.ofInt value }
  | .tcpLeoDynamicEwmaShift => { net with tcpLeoDynamicEwmaShift := (ofUnsigned value).toInt32 }
  | .tcpLeoDynamicAllowPort1 =>
    { net with tcpLeoDynamicAllowPorts := net.tcpLeoDynamicAllowPorts.set 0 (ofUnsigned value) }
  | .tcpLeoDynamicAllowPort2 =>
    { net with tcpLeoDynamicAllowPorts := net.tcpLeoDynamicAllowPorts.set 1 (ofUnsigned value) }
  | .tcpLeoDynamicAllowPort3 =>
    { net with tcpLeoDynamicAllowPorts := net.tcpLeoDynamicAllowPorts.set 2 (ofUnsigned value) }
  | .tcpLeoDynamicAllowPort4 =>
    { net with tcpLeoDynamicAllowPorts := net.tcpLeoDynamicAllowPorts.set 3 (Int32.ofInt value).toUInt32 }
  | .tcpLeoDynamicPredictionGuardMs =>
    { net with tcpLeoDynamicPredictionGuardMs := (ofUnsigned value).toInt32 }
  | .tcpLeoDynamicPredGuardToOutage => { net with tcpLeoDynamicPredGuardToOutage := Int32.ofInt value }
  | .tcpLeoDynamicRecoveryEnable => { net with tcpLeoDynamicRecoveryEnable := Int32.ofInt value }
  | .tcpLeoDynamicRecoveryMinMs => { net with tcpLeoDynamicRecoveryMinMs := Int32.ofInt value }
  | .tcpLeoDynamicRecoveryMaxMs => { net with tcpLeoDynamicRecoveryMaxMs := Int32.ofInt value }

end StarlinkTcp.Kernel

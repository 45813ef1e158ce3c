import StarlinkTcp.Machine.Words

/-!
# The sysctls of the two receive-window controllers

`Net` holds the fields of `struct netns_ipv4` (`ipv4.h`) that `tcp_redhat.c` and the controller
part of `tcp_output.c` read, with their C types. `Net.Admissible` says which values the handlers
of `sysctl_net_ipv4.c` let a write store in the fields of the dynamic controller.
-/

namespace StarlinkTcp.Kernel

structure Net where
  tcpLeoRwndEnable : UInt32
  tcpLeoRwndPeriodMs : UInt32
  tcpLeoRwndOffsetMs : UInt32
  tcpLeoRwndPreMs : UInt32
  tcpLeoRwndOutageMs : UInt32
  tcpLeoRwndMinSegs : UInt32
  tcpLeoRwndRecoveryMs : UInt32
  tcpLeoRwndFastRecovery : UInt32
  tcpLeoDynamicEnable : Int32
  tcpLeoDynamicSampleMs : Int32
  tcpLeoDynamicFreezeGuardMs : Int32
  tcpLeoDynamicPreMinMs : Int32
  tcpLeoDynamicPreMaxMs : Int32
  tcpLeoDynamicOutageMinMs : Int32
  tcpLeoDynamicOutageMaxMs : Int32
  tcpLeoDynamicOutageGuardMs : Int32
  tcpLeoDynamicDrainMinMs : Int32
  tcpLeoDynamicDrainMaxMs : Int32
  tcpLeoDynamicFallbackRttMs : Int32
  tcpLeoDynamicFallbackRateMbps : Int32
  tcpLeoDynamicEwmaShift : Int32
  tcpLeoDynamicAllowPorts : Vector UInt32 4
  tcpLeoDynamicPredictionGuardMs : Int32
  tcpLeoDynamicPredGuardToOutage : Int32
  tcpLeoDynamicRecoveryEnable : Int32
  tcpLeoDynamicRecoveryMinMs : Int32
  tcpLeoDynamicRecoveryMaxMs : Int32
  tcpShrinkWindow : UInt8
  tcpWorkaroundSignedWindows : UInt8
deriving DecidableEq, Repr

/-- The values `tcp_sk_init` stores when the namespace is created (`tcp_ipv4.c`). -/
def tcpSkInit : Net where
  tcpLeoRwndEnable := 1
  tcpLeoRwndPeriodMs := 15000
  tcpLeoRwndOffsetMs := 12000
  tcpLeoRwndPreMs := 150
  tcpLeoRwndOutageMs := 100
  tcpLeoRwndMinSegs := 4
  tcpLeoRwndRecoveryMs := 0
  tcpLeoRwndFastRecovery := 1
  tcpLeoDynamicEnable := 1
  tcpLeoDynamicSampleMs := 50
  tcpLeoDynamicFreezeGuardMs := 50
  tcpLeoDynamicPreMinMs := 20
  tcpLeoDynamicPreMaxMs := 300
  tcpLeoDynamicOutageMinMs := 10
  tcpLeoDynamicOutageMaxMs := 80
  tcpLeoDynamicOutageGuardMs := 5
  tcpLeoDynamicDrainMinMs := 10
  tcpLeoDynamicDrainMaxMs := 80
  tcpLeoDynamicFallbackRttMs := 70
  tcpLeoDynamicFallbackRateMbps := 250
  tcpLeoDynamicEwmaShift := 3
  tcpLeoDynamicAllowPorts := #v[20075, 20076, 0, 0]
  tcpLeoDynamicPredictionGuardMs := 30
  tcpLeoDynamicPredGuardToOutage := 1
  tcpLeoDynamicRecoveryEnable := 1
  tcpLeoDynamicRecoveryMinMs := 20
  tcpLeoDynamicRecoveryMaxMs := 80
  tcpShrinkWindow := 1
  tcpWorkaroundSignedWindows := 0

/-- What `ipv4_net_table` admits for the sysctls the dynamic controller reads. The shift and the
prediction guard are `int` fields behind `proc_douintvec_minmax` with no upper bound, so every
nonzero bit pattern of theirs is admitted. -/
structure Net.Admissible (net : Net) : Prop where
  rwndEnable : net.tcpLeoRwndEnable ≤ 1
  rwndPeriodMs : 1 ≤ net.tcpLeoRwndPeriodMs
  rwndMinSegs : 1 ≤ net.tcpLeoRwndMinSegs
  dynamicEnable : 0 ≤ net.tcpLeoDynamicEnable ∧ net.tcpLeoDynamicEnable ≤ 1
  sampleMs : 1 ≤ net.tcpLeoDynamicSampleMs
  freezeGuardMs : 1 ≤ net.tcpLeoDynamicFreezeGuardMs
  preMinMs : 1 ≤ net.tcpLeoDynamicPreMinMs
  preMaxMs : 1 ≤ net.tcpLeoDynamicPreMaxMs
  outageMinMs : 0 ≤ net.tcpLeoDynamicOutageMinMs
  outageMaxMs : 0 ≤ net.tcpLeoDynamicOutageMaxMs
  outageGuardMs : 0 ≤ net.tcpLeoDynamicOutageGuardMs
  drainMinMs : 0 ≤ net.tcpLeoDynamicDrainMinMs
  drainMaxMs : 0 ≤ net.tcpLeoDynamicDrainMaxMs
  fallbackRttMs : 1 ≤ net.tcpLeoDynamicFallbackRttMs
  fallbackRateMbps : 1 ≤ net.tcpLeoDynamicFallbackRateMbps
  ewmaShift : 1 ≤ net.tcpLeoDynamicEwmaShift.toUInt32
  allowPorts : ∀ port ∈ net.tcpLeoDynamicAllowPorts, port ≤ 65535
  predictionGuardMs : 1 ≤ net.tcpLeoDynamicPredictionGuardMs.toUInt32
  predGuardToOutage : 0 ≤ net.tcpLeoDynamicPredGuardToOutage ∧ net.tcpLeoDynamicPredGuardToOutage ≤ 1
  recoveryEnable : 0 ≤ net.tcpLeoDynamicRecoveryEnable ∧ net.tcpLeoDynamicRecoveryEnable ≤ 1
  recoveryMinMs : 0 ≤ net.tcpLeoDynamicRecoveryMinMs
  recoveryMaxMs : 0 ≤ net.tcpLeoDynamicRecoveryMaxMs

theorem tcpSkInit_allowPorts : ∀ port ∈ tcpSkInit.tcpLeoDynamicAllowPorts, port ≤ 65535 := by
  intro port member
  simp [tcpSkInit] at member
  rcases member with rfl | rfl | rfl <;> decide

theorem tcpSkInit_admissible : tcpSkInit.Admissible := by
  constructor
  case allowPorts => exact tcpSkInit_allowPorts
  all_goals decide

inductive SysctlName where
  | tcpLeoRwndPeriodMs
  | tcpLeoRwndOffsetMs
  | tcpLeoRwndEnable
  | tcpLeoDynamicEnable
  | tcpLeoDynamicPredictionGuardMs
deriving DecidableEq, Repr

structure SysctlWrite where
  name : SysctlName
  value : Int
deriving DecidableEq, Repr

def SysctlName.range : SysctlName → Int × Int
  | .tcpLeoRwndPeriodMs => (1, 4294967295)
  | .tcpLeoRwndOffsetMs => (0, 4294967295)
  | .tcpLeoRwndEnable => (0, 1)
  | .tcpLeoDynamicEnable => (0, 1)
  | .tcpLeoDynamicPredictionGuardMs => (1, 4294967295)

def SysctlWrite.Accepted (write : SysctlWrite) : Prop :=
  write.name.range.1 ≤ write.value ∧ write.value ≤ write.name.range.2

instance (write : SysctlWrite) : Decidable write.Accepted := inferInstanceAs (Decidable (_ ∧ _))

def Net.store (net : Net) (write : SysctlWrite) : Net :=
  let word := UInt32.ofNat write.value.toNat
  match write.name with
  | .tcpLeoRwndPeriodMs => { net with tcpLeoRwndPeriodMs := word }
  | .tcpLeoRwndOffsetMs => { net with tcpLeoRwndOffsetMs := word }
  | .tcpLeoRwndEnable => { net with tcpLeoRwndEnable := word }
  | .tcpLeoDynamicEnable => { net with tcpLeoDynamicEnable := word.toInt32 }
  | .tcpLeoDynamicPredictionGuardMs => { net with tcpLeoDynamicPredictionGuardMs := word.toInt32 }

def Net.write (net : Net) (write : SysctlWrite) : Option Net :=
  if write.Accepted then some (net.store write) else none

def Net.writes (net : Net) : List SysctlWrite → Option Net
  | [] => some net
  | write :: rest => net.write write >>= fun net => net.writes rest

theorem Net.writes_cons_eq_some {net after : Net} {write : SysctlWrite} {rest : List SysctlWrite} :
    net.writes (write :: rest) = some after ↔
      write.Accepted ∧ (net.store write).writes rest = some after := by
  by_cases accepted : write.Accepted <;> simp [Net.writes, Net.write, accepted]

end StarlinkTcp.Kernel

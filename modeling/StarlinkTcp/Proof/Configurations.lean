import Mathlib.Tactic.IntervalCases
import StarlinkTcp.Kernel.SysctlTable
import StarlinkTcp.Machine.Registers

/-!
# The configurations an administrator can reach

The fields of `Net` are registers behind the checks of `ipv4_net_table`. From the values of
`tcp_sk_init`, writes in any number and order, refused ones included, reach exactly the admissible
configurations. One field boots with a value its own entry refuses.
-/

namespace StarlinkTcp.Proof
open Kernel Machine

section Words

theorem unsigned_ofUnsigned {value : Int} (lower : 0 ≤ value) (upper : value ≤ 4294967295) :
    unsigned (ofUnsigned value) = value := by
  unfold unsigned ofUnsigned
  rw [UInt32.toNat_ofNat_of_lt' (by rw [UInt32.size]; omega)]
  omega

theorem uint8_ofNat_toNat {value : Int} (lower : 0 ≤ value) (upper : value ≤ 255) :
    ((UInt8.ofNat value.toNat).toNat : Int) = value := by
  rw [UInt8.toNat_ofNat_of_lt' (by rw [UInt8.size]; omega)]
  omega

theorem int32_toInt_ofInt {value : Int} (lower : -2147483648 ≤ value) (upper : value ≤ 2147483647) :
    (Int32.ofInt value).toInt = value :=
  Int32.toInt_ofInt_of_le lower (by omega)

theorem unsigned_inj {x y : UInt32} (same : unsigned x = unsigned y) : x = y :=
  UInt32.toNat_inj.mp (Int.ofNat.inj same)

theorem int32_range (x : Int32) : -2147483648 ≤ x.toInt ∧ x.toInt ≤ 2147483647 := by
  have lower := x.le_toInt
  have upper := x.toInt_lt
  omega

theorem unsigned_range (x : UInt32) : 0 ≤ unsigned x ∧ unsigned x ≤ 4294967295 := by
  have upper := x.toNat_lt
  unfold unsigned
  omega

end Words

/-! ## Reading back what was written -/

theorem accepts_word {table : CtlTable} {value : Int} (accepted : table.accepts value = true) :
    table.procHandler.word.1 ≤ value ∧ value ≤ table.procHandler.word.2 := by
  simp only [CtlTable.accepts, decide_eq_true_eq] at accepted
  exact ⟨accepted.1, accepted.2.1⟩

theorem read_assign_self (net : Net) (name : Sysctl) (value : Int)
    (accepted : (ipv4NetTable name).accepts value = true) : (net.assign value name).read name = value := by
  obtain ⟨lower, upper⟩ := accepts_word accepted
  cases name <;> first
    | exact unsigned_ofUnsigned lower upper
    | exact int32_toInt_ofInt lower upper
    | exact uint8_ofNat_toNat lower upper
    | exact (congrArg unsigned (Vector.getElem_set_self _)).trans (unsigned_ofUnsigned lower upper)
    | exact (congrArg (fun x : UInt32 => x.toInt32.toInt) (Vector.getElem_set_self _)).trans
        (int32_toInt_ofInt lower upper)

theorem read_assign_other (net : Net) (name : Sysctl) (value : Int) (other : Sysctl) (ne : other ≠ name) :
    (net.assign value name).read other = net.read other := by
  cases name <;> cases other <;> first
    | rfl
    | exact absurd rfl ne
    | simp [Net.assign, Net.read]

theorem int32_of_word_inj {x y : Int32} (same : unsigned x.toUInt32 = unsigned y.toUInt32) : x = y := by
  rw [← x.toInt32_toUInt32, unsigned_inj same, y.toInt32_toUInt32]

theorem word_of_int32_inj {x y : UInt32} (same : x.toInt32.toInt = y.toInt32.toInt) : x = y := by
  rw [← x.toUInt32_toInt32, Int32.toInt_inj.mp same, y.toUInt32_toInt32]

theorem uint8_inj {x y : UInt8} (same : (x.toNat : Int) = y.toNat) : x = y :=
  UInt8.toNat_inj.mp (Int.ofNat.inj same)

theorem read_ext (net net' : Net) (same : ∀ name, net.read name = net'.read name) : net = net' := by
  have u32 {x y : UInt32} : unsigned x = unsigned y → x = y := unsigned_inj
  have i32 {x y : Int32} : x.toInt = y.toInt → x = y := Int32.toInt_inj.mp
  have ports : net.tcpLeoDynamicAllowPorts = net'.tcpLeoDynamicAllowPorts := by
    apply Vector.ext
    intro i bound
    interval_cases i
    · exact u32 (same .tcpLeoDynamicAllowPort1)
    · exact u32 (same .tcpLeoDynamicAllowPort2)
    · exact u32 (same .tcpLeoDynamicAllowPort3)
    · exact word_of_int32_inj (same .tcpLeoDynamicAllowPort4)
  cases net
  cases net'
  rw [Net.mk.injEq]
  exact ⟨u32 (same .tcpLeoRwndEnable), u32 (same .tcpLeoRwndPeriodMs), u32 (same .tcpLeoRwndOffsetMs),
    u32 (same .tcpLeoRwndPreMs), u32 (same .tcpLeoRwndOutageMs), u32 (same .tcpLeoRwndMinSegs),
    u32 (same .tcpLeoRwndRecoveryMs), u32 (same .tcpLeoRwndFastRecovery), i32 (same .tcpLeoDynamicEnable),
    i32 (same .tcpLeoDynamicSampleMs), i32 (same .tcpLeoDynamicFreezeGuardMs),
    i32 (same .tcpLeoDynamicPreMinMs), i32 (same .tcpLeoDynamicPreMaxMs),
    i32 (same .tcpLeoDynamicOutageMinMs), i32 (same .tcpLeoDynamicOutageMaxMs),
    i32 (same .tcpLeoDynamicOutageGuardMs), i32 (same .tcpLeoDynamicDrainMinMs),
    i32 (same .tcpLeoDynamicDrainMaxMs), i32 (same .tcpLeoDynamicFallbackRttMs),
    i32 (same .tcpLeoDynamicFallbackRateMbps), int32_of_word_inj (same .tcpLeoDynamicEwmaShift),
    ports, int32_of_word_inj (same .tcpLeoDynamicPredictionGuardMs), i32 (same .tcpLeoDynamicPredGuardToOutage),
    i32 (same .tcpLeoDynamicRecoveryEnable), i32 (same .tcpLeoDynamicRecoveryMinMs),
    i32 (same .tcpLeoDynamicRecoveryMaxMs), uint8_inj (same .tcpShrinkWindow),
    uint8_inj (same .tcpWorkaroundSignedWindows)⟩

def netRegisters : Registers Net Sysctl Int where
  get := Net.read
  set net name value := net.assign value name
  accepts name := (ipv4NetTable name).accepts
  get_set_self := read_assign_self
  get_set_other := read_assign_other
  ext := read_ext

/-! ## Which values are accepted -/

section Accepts

variable {low high : Int}

theorem accepts_int (x : Int32) :
    (CtlTable.mk .dointvecMinmax (some low) none).accepts x.toInt = true ↔ low ≤ x.toInt := by
  have range := int32_range x
  simp [CtlTable.accepts, ProcHandler.word, range]

theorem accepts_int_between (x : Int32) :
    (CtlTable.mk .dointvecMinmax (some low) (some high)).accepts x.toInt = true ↔
      low ≤ x.toInt ∧ x.toInt ≤ high := by
  have range := int32_range x
  simp [CtlTable.accepts, ProcHandler.word, range]

theorem accepts_unsigned (x : UInt32) :
    (CtlTable.mk .douintvecMinmax (some low) none).accepts (unsigned x) = true ↔ low ≤ unsigned x := by
  have range := unsigned_range x
  simp [CtlTable.accepts, ProcHandler.word, range]

theorem accepts_unsigned_between (x : UInt32) :
    (CtlTable.mk .douintvecMinmax (some low) (some high)).accepts (unsigned x) = true ↔
      low ≤ unsigned x ∧ unsigned x ≤ high := by
  have range := unsigned_range x
  simp [CtlTable.accepts, ProcHandler.word, range]

theorem accepts_any (x : UInt32) : (CtlTable.mk .douintvec none none).accepts (unsigned x) = true := by
  have range := unsigned_range x
  simp [CtlTable.accepts, ProcHandler.word, range]

theorem accepts_byte (x : UInt8) : (CtlTable.mk .dou8vecMinmax none none).accepts x.toNat = true := by
  have range : (x.toNat : Int) ≤ 255 := Int.le_of_lt_add_one (Int.ofNat_lt.mpr x.toNat_lt)
  simp [CtlTable.accepts, ProcHandler.word, range]

theorem accepts_byte_flag (x : UInt8) :
    (CtlTable.mk .dou8vecMinmax (some 0) (some 1)).accepts x.toNat = true ↔ x ≤ 1 := by
  have range : (x.toNat : Int) ≤ 255 := Int.le_of_lt_add_one (Int.ofNat_lt.mpr x.toNat_lt)
  have one : (1 : UInt8).toNat = 1 := rfl
  rw [UInt8.le_iff_toNat_le, one]
  simp [CtlTable.accepts, ProcHandler.word, range]

theorem one_le_unsigned {x : UInt32} : 1 ≤ unsigned x ↔ 1 ≤ x := by
  rw [UInt32.le_iff_toNat_le]
  exact Int.ofNat_le

theorem unsigned_le {x : UInt32} (bound : UInt32) : unsigned x ≤ unsigned bound ↔ x ≤ bound := by
  rw [UInt32.le_iff_toNat_le]
  exact Int.ofNat_le

/-- A word read as `int` lies between zero and a port exactly when it does as `unsigned int`. -/
theorem accepts_port_int (x : UInt32) :
    (CtlTable.mk .dointvecMinmax (some 0) (some tcpLeoPortMax)).accepts x.toInt32.toInt = true ↔ x ≤ 65535 := by
  have signed : x.toInt32.toInt = if 2 * x.toNat < 2 ^ 32 then (x.toNat : Int) else x.toNat - 2 ^ 32 :=
    BitVec.toInt_eq_toNat_cond x.toBitVec
  have upper := x.toNat_lt
  have port : (65535 : UInt32).toNat = 65535 := rfl
  rw [accepts_int_between, signed, UInt32.le_iff_toNat_le, port, tcpLeoPortMax]
  split <;> omega

theorem accepts_port (x : UInt32) :
    (CtlTable.mk .douintvecMinmax (some 0) (some tcpLeoPortMax)).accepts (unsigned x) = true ↔ x ≤ 65535 := by
  rw [accepts_unsigned_between, ← unsigned_le 65535]
  exact and_iff_right (unsigned_range x).1

end Accepts

theorem bootValue_accepted (name : Sysctl) :
    (ipv4NetTable name).accepts (tcpSkInit.read name) = true ↔ name ≠ .tcpLeoRwndRecoveryMs := by
  cases name <;> decide

/-- Every entry but that of the recovery time accepts the value its field holds. -/
def PassesChecks (net : Net) : Prop :=
  ∀ name, name ≠ .tcpLeoRwndRecoveryMs → (ipv4NetTable name).accepts (net.read name) = true

theorem passesChecks_iff (net : Net) :
    PassesChecks net ↔ net.Admissible ∧ 1 ≤ net.tcpLeoRwndFastRecovery ∧ net.tcpShrinkWindow ≤ 1 := by
  constructor
  · intro passes
    have word {x : UInt32} (accepted : 1 ≤ unsigned x) : 1 ≤ x := one_le_unsigned.mp accepted
    have flag {x : Int32} (accepted : 0 ≤ x.toInt ∧ x.toInt ≤ 1) : 0 ≤ x ∧ x ≤ 1 :=
      ⟨Int32.le_iff_toInt_le.mpr accepted.1, Int32.le_iff_toInt_le.mpr accepted.2⟩
    have nonneg {x : Int32} (accepted : 0 ≤ x.toInt) : 0 ≤ x := Int32.le_iff_toInt_le.mpr accepted
    have positive {x : Int32} (accepted : 1 ≤ x.toInt) : 1 ≤ x := Int32.le_iff_toInt_le.mpr accepted
    have ports : ∀ port ∈ net.tcpLeoDynamicAllowPorts, port ≤ 65535 := by
      intro port member
      obtain ⟨i, bound, rfl⟩ := Vector.getElem_of_mem member
      interval_cases i
      · exact (accepts_port _).mp (passes .tcpLeoDynamicAllowPort1 (by decide))
      · exact (accepts_port _).mp (passes .tcpLeoDynamicAllowPort2 (by decide))
      · exact (accepts_port _).mp (passes .tcpLeoDynamicAllowPort3 (by decide))
      · exact (accepts_port_int _).mp (passes .tcpLeoDynamicAllowPort4 (by decide))
    refine ⟨?_, word ((accepts_unsigned _).mp (passes .tcpLeoRwndFastRecovery (by decide))),
      (accepts_byte_flag _).mp (passes .tcpShrinkWindow (by decide))⟩
    exact {
      rwndEnable := (unsigned_le 1).mp
        ((accepts_unsigned_between _).mp (passes .tcpLeoRwndEnable (by decide))).2
      rwndPeriodMs := word ((accepts_unsigned _).mp (passes .tcpLeoRwndPeriodMs (by decide)))
      rwndMinSegs := word ((accepts_unsigned _).mp (passes .tcpLeoRwndMinSegs (by decide)))
      dynamicEnable := flag ((accepts_int_between _).mp (passes .tcpLeoDynamicEnable (by decide)))
      sampleMs := positive ((accepts_int _).mp (passes .tcpLeoDynamicSampleMs (by decide)))
      freezeGuardMs := positive ((accepts_int _).mp (passes .tcpLeoDynamicFreezeGuardMs (by decide)))
      preMinMs := positive ((accepts_int _).mp (passes .tcpLeoDynamicPreMinMs (by decide)))
      preMaxMs := positive ((accepts_int _).mp (passes .tcpLeoDynamicPreMaxMs (by decide)))
      outageMinMs := nonneg ((accepts_int _).mp (passes .tcpLeoDynamicOutageMinMs (by decide)))
      outageMaxMs := nonneg ((accepts_int _).mp (passes .tcpLeoDynamicOutageMaxMs (by decide)))
      outageGuardMs := nonneg ((accepts_int _).mp (passes .tcpLeoDynamicOutageGuardMs (by decide)))
      drainMinMs := nonneg ((accepts_int _).mp (passes .tcpLeoDynamicDrainMinMs (by decide)))
      drainMaxMs := nonneg ((accepts_int _).mp (passes .tcpLeoDynamicDrainMaxMs (by decide)))
      fallbackRttMs := positive ((accepts_int _).mp (passes .tcpLeoDynamicFallbackRttMs (by decide)))
      fallbackRateMbps := positive ((accepts_int _).mp (passes .tcpLeoDynamicFallbackRateMbps (by decide)))
      ewmaShift := word ((accepts_unsigned _).mp (passes .tcpLeoDynamicEwmaShift (by decide)))
      allowPorts := ports
      predictionGuardMs :=
        word ((accepts_unsigned _).mp (passes .tcpLeoDynamicPredictionGuardMs (by decide)))
      predGuardToOutage :=
        flag ((accepts_int_between _).mp (passes .tcpLeoDynamicPredGuardToOutage (by decide)))
      recoveryEnable := flag ((accepts_int_between _).mp (passes .tcpLeoDynamicRecoveryEnable (by decide)))
      recoveryMinMs := nonneg ((accepts_int _).mp (passes .tcpLeoDynamicRecoveryMinMs (by decide)))
      recoveryMaxMs := nonneg ((accepts_int _).mp (passes .tcpLeoDynamicRecoveryMaxMs (by decide))) }
  · rintro ⟨admissible, fastRecovery, shrink⟩ name other
    have word {x : UInt32} (low : 1 ≤ x) :
        (CtlTable.mk .douintvecMinmax (some 1) none).accepts (unsigned x) = true :=
      (accepts_unsigned x).mpr (one_le_unsigned.mpr low)
    have flag {x : Int32} (between : 0 ≤ x ∧ x ≤ 1) :
        (CtlTable.mk .dointvecMinmax (some 0) (some 1)).accepts x.toInt = true :=
      (accepts_int_between x).mpr
        ⟨Int32.le_iff_toInt_le.mp between.1, Int32.le_iff_toInt_le.mp between.2⟩
    have nonneg {x : Int32} (low : 0 ≤ x) :
        (CtlTable.mk .dointvecMinmax (some 0) none).accepts x.toInt = true :=
      (accepts_int x).mpr (Int32.le_iff_toInt_le.mp low)
    have positive {x : Int32} (low : 1 ≤ x) :
        (CtlTable.mk .dointvecMinmax (some 1) none).accepts x.toInt = true :=
      (accepts_int x).mpr (Int32.le_iff_toInt_le.mp low)
    have port (i : Nat) (bound : i < 4) : net.tcpLeoDynamicAllowPorts[i] ≤ 65535 :=
      admissible.allowPorts _ (Vector.getElem_mem bound)
    cases name with
    | tcpWorkaroundSignedWindows => exact accepts_byte _
    | tcpShrinkWindow => exact (accepts_byte_flag _).mpr shrink
    | tcpLeoRwndEnable =>
        exact (accepts_unsigned_between _).mpr ⟨(unsigned_range _).1, (unsigned_le 1).mpr admissible.rwndEnable⟩
    | tcpLeoRwndPeriodMs => exact word admissible.rwndPeriodMs
    | tcpLeoRwndOffsetMs => exact accepts_any _
    | tcpLeoRwndPreMs => exact accepts_any _
    | tcpLeoRwndOutageMs => exact accepts_any _
    | tcpLeoRwndMinSegs => exact word admissible.rwndMinSegs
    | tcpLeoRwndRecoveryMs => exact absurd rfl other
    | tcpLeoRwndFastRecovery => exact word fastRecovery
    | tcpLeoDynamicEnable => exact flag admissible.dynamicEnable
    | tcpLeoDynamicSampleMs => exact positive admissible.sampleMs
    | tcpLeoDynamicFreezeGuardMs => exact positive admissible.freezeGuardMs
    | tcpLeoDynamicPreMinMs => exact positive admissible.preMinMs
    | tcpLeoDynamicPreMaxMs => exact positive admissible.preMaxMs
    | tcpLeoDynamicOutageMinMs => exact nonneg admissible.outageMinMs
    | tcpLeoDynamicOutageMaxMs => exact nonneg admissible.outageMaxMs
    | tcpLeoDynamicOutageGuardMs => exact nonneg admissible.outageGuardMs
    | tcpLeoDynamicDrainMinMs => exact nonneg admissible.drainMinMs
    | tcpLeoDynamicDrainMaxMs => exact nonneg admissible.drainMaxMs
    | tcpLeoDynamicFallbackRttMs => exact positive admissible.fallbackRttMs
    | tcpLeoDynamicFallbackRateMbps => exact positive admissible.fallbackRateMbps
    | tcpLeoDynamicEwmaShift => exact word admissible.ewmaShift
    | tcpLeoDynamicAllowPort1 => exact (accepts_port _).mpr (port 0 (by decide))
    | tcpLeoDynamicAllowPort2 => exact (accepts_port _).mpr (port 1 (by decide))
    | tcpLeoDynamicAllowPort3 => exact (accepts_port _).mpr (port 2 (by decide))
    | tcpLeoDynamicAllowPort4 => exact (accepts_port_int _).mpr (port 3 (by decide))
    | tcpLeoDynamicPredictionGuardMs => exact word admissible.predictionGuardMs
    | tcpLeoDynamicPredGuardToOutage => exact flag admissible.predGuardToOutage
    | tcpLeoDynamicRecoveryEnable => exact flag admissible.recoveryEnable
    | tcpLeoDynamicRecoveryMinMs => exact nonneg admissible.recoveryMinMs
    | tcpLeoDynamicRecoveryMaxMs => exact nonneg admissible.recoveryMaxMs

theorem admitted_boot_iff (net : Net) : netRegisters.Admitted tcpSkInit net ↔ PassesChecks net := by
  constructor
  · intro admitted name other
    rcases admitted name with kept | accepted
    · have same : net.read name = tcpSkInit.read name := kept
      rw [same]
      exact (bootValue_accepted name).mpr other
    · exact accepted
  · intro passes name
    by_cases recovery : name = .tcpLeoRwndRecoveryMs
    · subst recovery
      by_cases zero : net.tcpLeoRwndRecoveryMs = 0
      · left
        show unsigned net.tcpLeoRwndRecoveryMs = unsigned 0
        rw [zero]
      · right
        exact (accepts_unsigned _).mpr (one_le_unsigned.mpr (UInt32.le_iff_toNat_le.mpr (toNat_pos zero)))
    · exact .inr (passes name recovery)

def sysctls : List Sysctl :=
  [.tcpWorkaroundSignedWindows, .tcpShrinkWindow, .tcpLeoRwndEnable, .tcpLeoRwndPeriodMs, .tcpLeoRwndOffsetMs,
    .tcpLeoRwndPreMs, .tcpLeoRwndOutageMs, .tcpLeoRwndMinSegs, .tcpLeoRwndRecoveryMs, .tcpLeoRwndFastRecovery,
    .tcpLeoDynamicEnable, .tcpLeoDynamicSampleMs, .tcpLeoDynamicFreezeGuardMs, .tcpLeoDynamicPreMinMs,
    .tcpLeoDynamicPreMaxMs, .tcpLeoDynamicOutageMinMs, .tcpLeoDynamicOutageMaxMs, .tcpLeoDynamicOutageGuardMs,
    .tcpLeoDynamicDrainMinMs, .tcpLeoDynamicDrainMaxMs, .tcpLeoDynamicFallbackRttMs,
    .tcpLeoDynamicFallbackRateMbps, .tcpLeoDynamicEwmaShift, .tcpLeoDynamicAllowPort1,
    .tcpLeoDynamicAllowPort2, .tcpLeoDynamicAllowPort3, .tcpLeoDynamicAllowPort4,
    .tcpLeoDynamicPredictionGuardMs, .tcpLeoDynamicPredGuardToOutage, .tcpLeoDynamicRecoveryEnable,
    .tcpLeoDynamicRecoveryMinMs, .tcpLeoDynamicRecoveryMaxMs]

theorem mem_sysctls (name : Sysctl) : name ∈ sysctls := by
  cases name <;> decide

/-! ## The writes of the monitor -/

def entry : SysctlName → Sysctl
  | .tcpLeoRwndPeriodMs => .tcpLeoRwndPeriodMs
  | .tcpLeoRwndOffsetMs => .tcpLeoRwndOffsetMs
  | .tcpLeoRwndEnable => .tcpLeoRwndEnable
  | .tcpLeoDynamicEnable => .tcpLeoDynamicEnable
  | .tcpLeoDynamicPredictionGuardMs => .tcpLeoDynamicPredictionGuardMs

theorem accepted_iff (write : SysctlWrite) :
    write.Accepted ↔ (ipv4NetTable (entry write.name)).accepts write.value = true := by
  obtain ⟨name, value⟩ := write
  cases name <;>
    simp [SysctlWrite.Accepted, SysctlName.range, entry, ipv4NetTable, CtlTable.accepts, ProcHandler.word] <;>
    omega

theorem store_eq_assign (net : Net) {write : SysctlWrite} (accepted : write.Accepted) :
    net.store write = net.assign write.value (entry write.name) := by
  obtain ⟨name, value⟩ := write
  cases name with
  | tcpLeoDynamicEnable =>
      obtain ⟨lower, upper⟩ := accepted
      simp only [SysctlName.range] at lower upper
      obtain rfl | rfl : value = 0 ∨ value = 1 := by omega
      · rfl
      · rfl
  | tcpLeoRwndPeriodMs | tcpLeoRwndOffsetMs | tcpLeoRwndEnable | tcpLeoDynamicPredictionGuardMs => rfl

/-- A write of the monitor that goes through is one attempt on the table. -/
theorem write_attempted {net after : Net} {write : SysctlWrite} (written : net.write write = some after) :
    after = netRegisters.attempt net (entry write.name, write.value) := by
  unfold Net.write at written
  split at written
  · rename_i accepted
    rw [netRegisters.attempt_accepted ((accepted_iff write).mp accepted), ← Option.some.inj written,
      store_eq_assign net accepted]
    rfl
  · cases written

theorem writes_attempted {net after : Net} {writes : List SysctlWrite} (written : net.writes writes = some after) :
    after = netRegisters.attempts net (writes.map fun write => (entry write.name, write.value)) := by
  induction writes generalizing net with
  | nil => exact (Option.some.inj written).symm
  | cons write rest ih =>
      obtain ⟨accepted, after⟩ := Net.writes_cons_eq_some.mp written
      have once : net.write write = some (net.store write) := by simp [Net.write, accepted]
      rw [ih after, write_attempted once]
      rfl

/-- Attempted writes, refused or not, lead from the boot values to exactly the admissible
configurations; the writes of the monitor stay among them. The recovery time is the one sysctl that
boots with a value its entry refuses. -/
theorem reachable_configurations :
    (∀ net : Net, (∃ writes, netRegisters.attempts tcpSkInit writes = net) ↔
      net.Admissible ∧ 1 ≤ net.tcpLeoRwndFastRecovery ∧ net.tcpShrinkWindow ≤ 1) ∧
    (∀ (net after : Net) (writes : List SysctlWrite), net.Admissible ∧ 1 ≤ net.tcpLeoRwndFastRecovery ∧
      net.tcpShrinkWindow ≤ 1 → net.writes writes = some after →
      after.Admissible ∧ 1 ≤ after.tcpLeoRwndFastRecovery ∧ after.tcpShrinkWindow ≤ 1) ∧
    ∀ name, (ipv4NetTable name).accepts (tcpSkInit.read name) = true ↔ name ≠ .tcpLeoRwndRecoveryMs := by
  have reached (net : Net) : (∃ writes, netRegisters.attempts tcpSkInit writes = net) ↔
      net.Admissible ∧ 1 ≤ net.tcpLeoRwndFastRecovery ∧ net.tcpShrinkWindow ≤ 1 := by
    rw [netRegisters.exists_attempts_iff sysctls mem_sysctls, admitted_boot_iff, passesChecks_iff]
  refine ⟨reached, fun net after writes before written => ?_, bootValue_accepted⟩
  obtain ⟨earlier, rfl⟩ := (reached net).mpr before
  apply (reached after).mp
  exact ⟨_, (netRegisters.attempts_append tcpSkInit earlier _).trans (writes_attempted written).symm⟩

end StarlinkTcp.Proof

import StarlinkTcp.Kernel.Output
import StarlinkTcp.Machine.Lattice
import StarlinkTcp.Monitor.Program

/-!
# One clock for both controllers and the monitor

The microsecond position and period id of `tcp_redhat.c`, the millisecond phase of `tcp_output.c`
and the offset the monitor writes are three readings of one `Machine.Lattice`: period and anchor
are the two sysctls in milliseconds, time is the real clock.
-/

namespace StarlinkTcp.Proof
open Kernel Machine

/-- A microsecond reading of the 64-bit nanosecond clock. -/
def RealUs (nowUs : UInt64) : Prop := nowUs.toNat ≤ 18446744073709551

theorem leoNowRealUs_toNat (clk : Clock) : (leoNowRealUs clk).toNat = clk.realNs.toNat / 1000 := by
  simp [leoNowRealUs]

theorem leoNowRealUs_real (clk : Clock) : RealUs (leoNowRealUs clk) := by
  have bound := clk.realNs.toNat_lt
  unfold RealUs
  rw [leoNowRealUs_toNat]
  omega

theorem leoPeriodUs_toNat (net : Net) :
    (leoPeriodUs net).toNat = 1000 * net.tcpLeoRwndPeriodMs.toNat := by
  have bound := net.tcpLeoRwndPeriodMs.toNat_lt
  simp only [leoPeriodUs, UInt64.toNat_mul, UInt32.toNat_toUInt64, UInt64.reduceToNat]
  omega

theorem leoOffsetUs_toNat (net : Net) :
    (leoOffsetUs net).toNat = 1000 * net.tcpLeoRwndOffsetMs.toNat := by
  have bound := net.tcpLeoRwndOffsetMs.toNat_lt
  simp only [leoOffsetUs, UInt64.toNat_mul, UInt32.toNat_toUInt64, UInt64.reduceToNat]
  omega

theorem leoPeriodUs_pos {net : Net} (period : 0 < net.tcpLeoRwndPeriodMs) :
    0 < (leoPeriodUs net).toNat := by
  rw [leoPeriodUs_toNat]
  have := UInt32.lt_iff_toNat_lt.mp period
  simp only [UInt32.toNat_zero] at this
  omega

theorem leoPeriodUs_ne_zero {net : Net} (period : 0 < net.tcpLeoRwndPeriodMs) : leoPeriodUs net ≠ 0 := by
  intro zero
  have := leoPeriodUs_pos period
  simp [zero] at this

theorem latticeSum_toNat {net : Net} (period : 0 < net.tcpLeoRwndPeriodMs) {nowUs : UInt64}
    (real : RealUs nowUs) :
    (nowUs + leoPeriodUs net).toNat = nowUs.toNat + (leoPeriodUs net).toNat ∧
    (nowUs + leoPeriodUs net - leoOffsetUs net % leoPeriodUs net).toNat =
      nowUs.toNat + (leoPeriodUs net).toNat - (leoOffsetUs net).toNat % (leoPeriodUs net).toNat := by
  have positive := leoPeriodUs_pos period
  have periodBound : (leoPeriodUs net).toNat < 1000 * 2 ^ 32 := by
    have := net.tcpLeoRwndPeriodMs.toNat_lt
    rw [leoPeriodUs_toNat]
    omega
  have reduced := Nat.mod_lt (leoOffsetUs net).toNat positive
  have sum : (nowUs + leoPeriodUs net).toNat = nowUs.toNat + (leoPeriodUs net).toNat := by
    unfold RealUs at real
    rw [UInt64.toNat_add, Nat.mod_eq_of_lt (by omega)]
  refine ⟨sum, ?_⟩
  rw [UInt64.toNat_sub_of_le _ _ (by rw [UInt64.le_iff_toNat_le, sum, UInt64.toNat_mod]; omega), sum,
    UInt64.toNat_mod]

theorem leoPeriodPositionUs_toNat {net : Net} (period : 0 < net.tcpLeoRwndPeriodMs) {nowUs : UInt64}
    (real : RealUs nowUs) :
    (leoPeriodPositionUs net nowUs).toNat =
      Lattice.position (leoPeriodUs net).toNat (leoOffsetUs net).toNat nowUs.toNat := by
  simp only [leoPeriodPositionUs, leoPeriodUs_ne_zero period, if_false, UInt64.toNat_mod,
    (latticeSum_toNat period real).2, Lattice.position]

theorem leoPeriodId_toNat {net : Net} (period : 0 < net.tcpLeoRwndPeriodMs) {nowUs : UInt64}
    (real : RealUs nowUs) :
    (leoPeriodId net nowUs).toNat =
      Lattice.index (leoPeriodUs net).toNat (leoOffsetUs net).toNat nowUs.toNat := by
  simp only [leoPeriodId, leoPeriodUs_ne_zero period, if_false, UInt64.toNat_div,
    (latticeSum_toNat period real).2, Lattice.index]

theorem leoPeriodPositionUs_lt {net : Net} (period : 0 < net.tcpLeoRwndPeriodMs) {nowUs : UInt64}
    (real : RealUs nowUs) : leoPeriodPositionUs net nowUs < leoPeriodUs net := by
  rw [UInt64.lt_iff_toNat_lt, leoPeriodPositionUs_toNat period real]
  exact Lattice.position_lt (leoPeriodUs_pos period)

theorem leoPeriodId_mono {net : Net} (period : 0 < net.tcpLeoRwndPeriodMs) {nowUs laterUs : UInt64}
    (real : RealUs nowUs) (laterReal : RealUs laterUs) (le : nowUs ≤ laterUs) :
    leoPeriodId net nowUs ≤ leoPeriodId net laterUs := by
  rw [UInt64.le_iff_toNat_le, leoPeriodId_toNat period real, leoPeriodId_toNat period laterReal]
  exact Lattice.index_mono (UInt64.le_iff_toNat_le.mp le)

theorem leoPeriodPositionUs_mono {net : Net} (period : 0 < net.tcpLeoRwndPeriodMs)
    {nowUs laterUs : UInt64} (real : RealUs nowUs) (laterReal : RealUs laterUs) (le : nowUs ≤ laterUs)
    (same : leoPeriodId net nowUs = leoPeriodId net laterUs) :
    leoPeriodPositionUs net nowUs ≤ leoPeriodPositionUs net laterUs := by
  have sameIndex := congrArg UInt64.toNat same
  rw [leoPeriodId_toNat period real, leoPeriodId_toNat period laterReal] at sameIndex
  rw [UInt64.le_iff_toNat_le, leoPeriodPositionUs_toNat period real,
    leoPeriodPositionUs_toNat period laterReal,
    Lattice.position_add_of_index_eq (leoPeriodUs_pos period) (UInt64.le_iff_toNat_le.mp le) sameIndex]
  omega

theorem tcpLeoRwndPhaseMs_toNat {net : Net} (period : 0 < net.tcpLeoRwndPeriodMs) (clk : Clock) :
    (tcpLeoRwndPhaseMs net clk).toNat =
      Lattice.position net.tcpLeoRwndPeriodMs.toNat net.tcpLeoRwndOffsetMs.toNat
        (clk.realNs.toNat / 1000000) := by
  have positive : 0 < net.tcpLeoRwndPeriodMs.toNat := by simpa using UInt32.lt_iff_toNat_lt.mp period
  have periodBound := net.tcpLeoRwndPeriodMs.toNat_lt
  have nonzero : net.tcpLeoRwndPeriodMs ≠ 0 := by
    intro zero
    simp [zero] at positive
  have remainder := Nat.mod_lt (clk.realNs.toNat / 1000000) positive
  have reduced := Nat.mod_lt net.tcpLeoRwndOffsetMs.toNat positive
  have rem : (clk.realNs / 1000000 % net.tcpLeoRwndPeriodMs.toUInt64).toUInt32.toNat =
      clk.realNs.toNat / 1000000 % net.tcpLeoRwndPeriodMs.toNat := by
    simp only [UInt64.toNat_toUInt32, UInt64.toNat_mod, UInt64.toNat_div, UInt32.toNat_toUInt64,
      UInt64.reduceToNat]
    exact Nat.mod_eq_of_lt (by omega)
  have off : (net.tcpLeoRwndOffsetMs % net.tcpLeoRwndPeriodMs).toNat =
      net.tcpLeoRwndOffsetMs.toNat % net.tcpLeoRwndPeriodMs.toNat := UInt32.toNat_mod _ _
  rw [Lattice.position_eq_ite positive]
  simp only [tcpLeoRwndPhaseMs, nonzero, if_false, ge_iff_le, UInt32.le_iff_toNat_le, rem, off]
  split
  · rename_i le
    rw [UInt32.toNat_sub_of_le _ _ (by rw [UInt32.le_iff_toNat_le, rem, off]; exact le), rem, off]
  · rename_i lt
    rw [UInt32.toNat_sub, UInt32.toNat_add, rem, off]
    omega

theorem leoPeriodPositionUs_eq_zero_iff_anchor {before net : Net} {periodS anchorEpochS : ℚ}
    (written : before.writes (Monitor.programRedhat periodS anchorEpochS).1 = some net)
    {nowUs : UInt64} (real : RealUs nowUs) :
    leoPeriodPositionUs net nowUs = 0 ↔
      (nowUs.toNat : ℤ) ≡ 1000 * Monitor.anchorMs anchorEpochS [ZMOD (leoPeriodUs net).toNat] := by
  obtain ⟨periodWord, offsetWord, -, -⟩ := Monitor.programRedhat_written written
  have period : 0 < net.tcpLeoRwndPeriodMs := by
    have := Monitor.periodMs_pos periodS
    rw [UInt32.lt_iff_toNat_lt, UInt32.toNat_zero]
    omega
  have onLattice : leoPeriodPositionUs net nowUs = 0 ↔
      nowUs.toNat ≡ (leoOffsetUs net).toNat [MOD (leoPeriodUs net).toNat] := by
    rw [← UInt64.toNat_inj, leoPeriodPositionUs_toNat period real]
    exact Lattice.position_eq_zero_iff (leoPeriodUs_pos period)
  have anchor : ((leoOffsetUs net).toNat : ℤ) ≡
      1000 * Monitor.anchorMs anchorEpochS [ZMOD (leoPeriodUs net).toNat] := by
    rw [leoOffsetUs_toNat, leoPeriodUs_toNat]
    push_cast
    rw [offsetWord, periodWord]
    exact (Int.mod_modEq _ _).mul_left'
  rw [onLattice, ← Int.natCast_modEq_iff]
  exact ⟨fun congruent => congruent.trans anchor, fun congruent => congruent.trans anchor.symm⟩

/-- The dynamic controller, the static controller and the monitor keep one clock. -/
theorem controllers_share_clock (net : Net) (period : 0 < net.tcpLeoRwndPeriodMs) (clk : Clock) :
    let nowUs := leoNowRealUs clk
    let periodUs := leoPeriodUs net
    let offsetUs := leoOffsetUs net
    -- every `u64` operation is exact
    (nowUs.toNat = clk.realNs.toNat / 1000 ∧
      periodUs.toNat = 1000 * net.tcpLeoRwndPeriodMs.toNat ∧
      offsetUs.toNat = 1000 * net.tcpLeoRwndOffsetMs.toNat ∧
      (nowUs + periodUs).toNat = nowUs.toNat + periodUs.toNat ∧
      offsetUs % periodUs ≤ nowUs + periodUs) ∧
    leoPeriodPositionUs net nowUs < periodUs ∧
    (leoPeriodId net nowUs).toNat * periodUs.toNat + (leoPeriodPositionUs net nowUs).toNat =
      nowUs.toNat + periodUs.toNat - 1000 * net.tcpLeoRwndOffsetMs.toNat % periodUs.toNat ∧
    (leoPeriodPositionUs net nowUs / 1000).toNat = (tcpLeoRwndPhaseMs net clk).toNat ∧
    (∀ later : Clock, clk.realNs ≤ later.realNs →
      leoPeriodId net nowUs ≤ leoPeriodId net (leoNowRealUs later)) ∧
    (∀ (before : Net) (periodS anchorEpochS : ℚ),
      before.writes (Monitor.programRedhat periodS anchorEpochS).1 = some net →
      (leoPeriodPositionUs net nowUs = 0 ↔
        (nowUs.toNat : ℤ) ≡ 1000 * Monitor.anchorMs anchorEpochS [ZMOD periodUs.toNat])) := by
  have real := leoNowRealUs_real clk
  have positive := leoPeriodUs_pos period
  have sum := latticeSum_toNat period real
  refine ⟨⟨leoNowRealUs_toNat clk, leoPeriodUs_toNat net, leoOffsetUs_toNat net, sum.1, ?_⟩,
    leoPeriodPositionUs_lt period real, ?_, ?_, ?_, ?_⟩
  · rw [UInt64.le_iff_toNat_le, sum.1, UInt64.toNat_mod]
    have := Nat.mod_lt (leoOffsetUs net).toNat positive
    omega
  · rw [leoPeriodId_toNat period real, leoPeriodPositionUs_toNat period real,
      Lattice.index_mul_add_position, leoOffsetUs_toNat]
  · have coarse : clk.realNs.toNat / 1000000 = clk.realNs.toNat / 1000 / 1000 := by
      rw [Nat.div_div_eq_div_mul]
    have periodMs : 0 < net.tcpLeoRwndPeriodMs.toNat := by
      rw [leoPeriodUs_toNat] at positive
      omega
    rw [tcpLeoRwndPhaseMs_toNat period, UInt64.toNat_div, leoPeriodPositionUs_toNat period real,
      leoPeriodUs_toNat, leoOffsetUs_toNat, leoNowRealUs_toNat, coarse]
    exact Lattice.position_div 1000 (by norm_num) periodMs
  · intro later le
    apply leoPeriodId_mono period real (leoNowRealUs_real later)
    rw [UInt64.le_iff_toNat_le, leoNowRealUs_toNat, leoNowRealUs_toNat]
    exact Nat.div_le_div_right (UInt64.le_iff_toNat_le.mp le)
  · intro before periodS anchorEpochS written
    exact leoPeriodPositionUs_eq_zero_iff_anchor written real

theorem controllers_share_clock_at_boot :
    0 < tcpSkInit.tcpLeoRwndPeriodMs ∧
    (leoPeriodPositionUs tcpSkInit (leoNowRealUs ⟨1788853471873426000, 0⟩) / 1000).toNat =
      (tcpLeoRwndPhaseMs tcpSkInit ⟨1788853471873426000, 0⟩).toNat :=
  ⟨by decide, (controllers_share_clock tcpSkInit (by decide) ⟨1788853471873426000, 0⟩).2.2.2.1⟩

end StarlinkTcp.Proof

import StarlinkTcp.Kernel.Sysctl
import StarlinkTcp.Machine.Rounding

/-!
# How the monitor programs the kernel

`program_redhat`, `program_redhat_phase_only` and `disable_redhat` of `redhat_auto_monitor.py`, as
the sequences of sysctl writes they make and the values they return. Times are exact rationals.
-/

namespace StarlinkTcp.Monitor
open Kernel Machine

def periodMs (periodS : ℚ) : ℤ := max 1 (roundHalfEven (periodS * 1000))

def anchorMs (anchorEpochS : ℚ) : ℤ := roundHalfEven (anchorEpochS * 1000)

/-- `anchor_ms % period_ms`, whose sign is that of the positive modulus. -/
def offsetMs (periodS anchorEpochS : ℚ) : ℤ := anchorMs anchorEpochS % periodMs periodS

def programRedhat (periodS anchorEpochS : ℚ) : List SysctlWrite × (ℤ × ℤ) :=
  ([⟨.tcpLeoRwndPeriodMs, periodMs periodS⟩,
    ⟨.tcpLeoRwndOffsetMs, offsetMs periodS anchorEpochS⟩,
    ⟨.tcpLeoRwndEnable, 1⟩,
    ⟨.tcpLeoDynamicEnable, 1⟩],
   (periodMs periodS, offsetMs periodS anchorEpochS))

def programRedhatPhaseOnly (lockedPeriodS anchorEpochS : ℚ) : List SysctlWrite × ℤ :=
  ([⟨.tcpLeoRwndOffsetMs, offsetMs lockedPeriodS anchorEpochS⟩], offsetMs lockedPeriodS anchorEpochS)

def disableRedhat : List SysctlWrite :=
  [⟨.tcpLeoRwndEnable, 0⟩, ⟨.tcpLeoDynamicEnable, 0⟩]

theorem periodMs_pos (periodS : ℚ) : 0 < periodMs periodS :=
  lt_of_lt_of_le Int.one_pos (le_max_left _ _)

theorem word_toNat {value : ℤ} (nonneg : 0 ≤ value) (bound : value ≤ 4294967295) :
    ((UInt32.ofNat value.toNat).toNat : ℤ) = value := by
  simp only [UInt32.toNat_ofNat']
  omega

theorem programRedhat_written {before after : Net} {periodS anchorEpochS : ℚ}
    (written : before.writes (programRedhat periodS anchorEpochS).1 = some after) :
    (after.tcpLeoRwndPeriodMs.toNat : ℤ) = periodMs periodS ∧
    (after.tcpLeoRwndOffsetMs.toNat : ℤ) = offsetMs periodS anchorEpochS ∧
    after.tcpLeoRwndEnable = 1 ∧ after.tcpLeoDynamicEnable = 1 := by
  simp only [programRedhat, Net.writes_cons_eq_some] at written
  obtain ⟨period, offset, -, -, shape⟩ := written
  rw [← Option.some.inj shape]
  exact ⟨word_toNat (periodMs_pos periodS).le period.2, word_toNat offset.1 offset.2, rfl, rfl⟩

theorem disableRedhat_written {before after : Net} (written : before.writes disableRedhat = some after) :
    after.tcpLeoRwndEnable = 0 ∧ after.tcpLeoDynamicEnable = 0 := by
  simp only [disableRedhat, Net.writes_cons_eq_some] at written
  obtain ⟨-, -, shape⟩ := written
  rw [← Option.some.inj shape]
  exact ⟨rfl, rfl⟩

theorem programRedhatPhaseOnly_written {before after : Net} {lockedPeriodS anchorEpochS : ℚ}
    (written : before.writes (programRedhatPhaseOnly lockedPeriodS anchorEpochS).1 = some after) :
    (after.tcpLeoRwndOffsetMs.toNat : ℤ) = offsetMs lockedPeriodS anchorEpochS ∧
    after.tcpLeoRwndPeriodMs = before.tcpLeoRwndPeriodMs ∧
    after.tcpLeoRwndEnable = before.tcpLeoRwndEnable ∧
    after.tcpLeoDynamicEnable = before.tcpLeoDynamicEnable := by
  simp only [programRedhatPhaseOnly, Net.writes_cons_eq_some] at written
  obtain ⟨offset, shape⟩ := written
  rw [← Option.some.inj shape]
  exact ⟨word_toNat offset.1 offset.2, rfl, rfl, rfl⟩

end StarlinkTcp.Monitor

import StarlinkTcp.Proof.Recovery

/-!
# The ramps of the dynamic controller

PRE lowers the window from the one it started from to the floor, and RECOVERY raises it from the floor to the
window ordinary TCP allows. Both round the share of the way that has passed downwards, so they are monotone in
everything they depend on and meet the neighbouring phases exactly.
-/

namespace StarlinkTcp.Kernel
open Machine

/-! The two targets once more, with every 64-bit operation and every narrowing checked. -/

def rampChecked (height : UInt32) (elapsedUs : UInt64) (lengthUs : UInt32) : Option UInt64 := do
  let product ← mulChecked height.toUInt64 (min elapsedUs lengthUs.toUInt64)
  divChecked product lengthUs.toUInt64

def leoPreTargetChecked (sk : SockView) (st : LeoState) (elapsedUs : UInt64) : Option UInt32 :=
  if st.preStarted = false then some st.frozenStartRwnd
  else if st.frozenPreStartWnd ≤ st.frozenMinRwnd then some st.frozenMinRwnd
  else if st.frozenPreUs = 0 then some st.frozenPreStartWnd
  else do
    let deltaWnd := st.frozenPreStartWnd - st.frozenMinRwnd
    let planned ← rampChecked deltaWnd elapsedUs st.frozenPreUs
    let received := (sk.rcvNxt - st.frozenPreStartRcvNxt).toUInt64
    let reduction ← narrowChecked (min (min planned received) deltaWnd.toUInt64)
    some (st.frozenPreStartWnd - reduction)

def leoRecoveryTargetChecked (st : LeoState) (normalWin : UInt32) (elapsedUs : UInt64) : Option UInt32 :=
  let endWnd := max (min normalWin st.frozenStartRwnd) st.frozenMinRwnd
  if st.frozenRecoveryUs = 0 ∨ endWnd ≤ st.frozenMinRwnd then some endWnd
  else do
    let increase ← rampChecked (endWnd - st.frozenMinRwnd) elapsedUs st.frozenRecoveryUs
    let increase ← narrowChecked increase
    some (st.frozenMinRwnd + increase)

end StarlinkTcp.Kernel

namespace StarlinkTcp.Proof
open Kernel Machine

structure PreRamp (st : LeoState) : Prop where
  falling : ∀ sk sk' elapsedUs elapsedUs', elapsedUs ≤ elapsedUs' → received sk st ≤ received sk' st →
    leoPreTarget sk' st elapsedUs' ≤ leoPreTarget sk st elapsedUs
  start : st.frozenPreUs ≠ 0 → ∀ sk elapsedUs, elapsedUs = 0 ∨ received sk st = 0 →
    leoPreTarget sk st elapsedUs = st.frozenPreStartWnd
  /-- PRE ends where DRAIN starts. -/
  seam : st.frozenPreUs ≠ 0 → ∀ sk elapsedUs, st.frozenPreUs.toUInt64 ≤ elapsedUs →
    leoPreTarget sk st elapsedUs = leoSafeTarget sk st st.frozenMinRwnd
  exact : ∀ sk elapsedUs, leoPreTargetChecked sk st elapsedUs = some (leoPreTarget sk st elapsedUs)

structure RecoveryRamp (st : LeoState) : Prop where
  rising : ∀ normalWin laterWin elapsedUs laterUs, normalWin ≤ laterWin → elapsedUs ≤ laterUs →
    leoRecoveryTarget st normalWin elapsedUs ≤ leoRecoveryTarget st laterWin laterUs
  start : st.frozenRecoveryUs ≠ 0 → ∀ normalWin, leoRecoveryTarget st normalWin 0 = st.frozenMinRwnd
  finish : ∀ normalWin elapsedUs, st.frozenRecoveryUs.toUInt64 ≤ elapsedUs →
    leoRecoveryTarget st normalWin elapsedUs = max (min normalWin st.frozenStartRwnd) st.frozenMinRwnd
  exact : ∀ normalWin elapsedUs,
    leoRecoveryTargetChecked st normalWin elapsedUs = some (leoRecoveryTarget st normalWin elapsedUs)

variable {st : LeoState} {sk sk' : SockView} {elapsedUs elapsedUs' : UInt64}

theorem rampChecked_eq {height lengthUs : UInt32} (positive : lengthUs ≠ 0) :
    rampChecked height elapsedUs lengthUs =
      some (height.toUInt64 * min elapsedUs lengthUs.toUInt64 / lengthUs.toUInt64) := by
  have product : height.toNat * min elapsedUs.toNat lengthUs.toNat < 2 ^ 64 :=
    lt_of_le_of_lt (Nat.mul_le_mul_left _ (Nat.min_le_right _ _))
      (lt_of_lt_of_le (Nat.mul_lt_mul'' height.toNat_lt lengthUs.toNat_lt) (by norm_num))
  simp only [rampChecked, mulChecked, divChecked, UInt32.toNat_toUInt64, UInt64.toNat_min, product,
    toUInt64_ne_zero positive, if_true, if_false, Option.bind_eq_bind, Option.bind_some]

theorem narrowChecked_of_le {a : UInt64} {bound : UInt32} (le : a.toNat ≤ bound.toNat) :
    narrowChecked a = some a.toUInt32 :=
  if_pos (lt_of_le_of_lt le bound.toNat_lt)

theorem ramp_mono (height length : Nat) {elapsed later : Nat} (le : elapsed ≤ later) :
    height * min elapsed length / length ≤ height * min later length / length :=
  Nat.div_le_div_right (Nat.mul_le_mul_left _ (min_le_min_right _ le))

theorem ramp_full {height elapsed length : Nat} (positive : 0 < length) (le : length ≤ elapsed) :
    height * min elapsed length / length = height := by
  rw [min_eq_right le, Nat.mul_div_cancel _ positive]

/-! ## PRE -/

theorem preTarget_checked :
    leoPreTargetChecked sk st elapsedUs = some (leoPreTarget sk st elapsedUs) := by
  unfold leoPreTargetChecked leoPreTarget
  dsimp only
  split
  · rfl
  · split
    · rfl
    · split
      · rfl
      · rename_i positive
        have narrow : (min (min (leoPlannedReduction st elapsedUs) (sk.rcvNxt - st.frozenPreStartRcvNxt).toUInt64)
            (st.frozenPreStartWnd - st.frozenMinRwnd).toUInt64).toNat ≤
              (st.frozenPreStartWnd - st.frozenMinRwnd).toNat := by
          rw [UInt64.toNat_min, UInt32.toNat_toUInt64 (st.frozenPreStartWnd - st.frozenMinRwnd)]
          exact Nat.min_le_right _ _
        rw [rampChecked_eq positive, Option.bind_eq_bind, Option.bind_some, ← leoPlannedReduction,
          narrowChecked_of_le narrow]
        rfl

section Pre

variable (started : st.preStarted = true) (floor : st.frozenMinRwnd ≤ st.frozenPreStartWnd)

include floor in
theorem plannedReduction_toNat : (leoPlannedReduction st elapsedUs).toNat =
    (st.frozenPreStartWnd.toNat - st.frozenMinRwnd.toNat) * min elapsedUs.toNat st.frozenPreUs.toNat /
      st.frozenPreUs.toNat := by
  rw [leoPlannedReduction, ramp_toNat, UInt32.toNat_sub_of_le _ _ floor]

include started floor

theorem preTarget_falling (passes : elapsedUs ≤ elapsedUs') (arrives : received sk st ≤ received sk' st) :
    leoPreTarget sk' st elapsedUs' ≤ leoPreTarget sk st elapsedUs := by
  rw [UInt64.le_iff_toNat_le] at passes
  rw [UInt32.le_iff_toNat_le] at arrives ⊢
  rw [(leoPreTarget_toNat sk elapsedUs started floor).1, (leoPreTarget_toNat sk' elapsedUs' started floor).1,
    preReduction_eq, preReduction_eq, plannedReduction_toNat floor, plannedReduction_toNat floor]
  apply Nat.sub_le_sub_left
  exact min_le_min (ramp_mono _ _ passes) arrives

theorem preTarget_start (none : elapsedUs = 0 ∨ received sk st = 0) :
    leoPreTarget sk st elapsedUs = st.frozenPreStartWnd := by
  rw [← UInt32.toNat_inj, (leoPreTarget_toNat sk elapsedUs started floor).1, preReduction_eq,
    plannedReduction_toNat floor]
  rcases none with zero | zero
  · simp [zero]
  · simp [zero]

theorem preTarget_seam (positive : st.frozenPreUs ≠ 0) (passed : st.frozenPreUs.toUInt64 ≤ elapsedUs) :
    leoPreTarget sk st elapsedUs = leoSafeTarget sk st st.frozenMinRwnd := by
  rw [UInt64.le_iff_toNat_le, UInt32.toNat_toUInt64] at passed
  rw [← UInt32.toNat_inj, (leoPreTarget_toNat sk elapsedUs started floor).1, leoSafeTarget_toNat sk floor,
    preReduction_eq, plannedReduction_toNat floor, ramp_full (toNat_pos positive) passed, Nat.min_comm]

end Pre

/-! ## RECOVERY -/

variable {normalWin laterWin : UInt32} {laterUs : UInt64}

theorem recoveryTarget_checked :
    leoRecoveryTargetChecked st normalWin elapsedUs = some (leoRecoveryTarget st normalWin elapsedUs) := by
  unfold leoRecoveryTargetChecked leoRecoveryTarget
  dsimp only
  rw [← recoveryEnd]
  split
  · rfl
  · rename_i ramp
    have positive := (not_or.mp ramp).1
    have narrow : ((recoveryEnd st normalWin - st.frozenMinRwnd).toUInt64 * min elapsedUs st.frozenRecoveryUs.toUInt64 /
        st.frozenRecoveryUs.toUInt64).toNat ≤ (recoveryEnd st normalWin - st.frozenMinRwnd).toNat := by
      rw [ramp_toNat]
      exact ramp_le _ _ _
    rw [rampChecked_eq positive, Option.bind_eq_bind, Option.bind_some, narrowChecked_of_le narrow]
    rfl

theorem recoveryTarget_instant (instant : st.frozenRecoveryUs = 0) :
    leoRecoveryTarget st normalWin elapsedUs = recoveryEnd st normalWin := by
  simp [leoRecoveryTarget, recoveryEnd, instant]

theorem recoveryTarget_rising (grows : normalWin ≤ laterWin) (passes : elapsedUs ≤ laterUs) :
    leoRecoveryTarget st normalWin elapsedUs ≤ leoRecoveryTarget st laterWin laterUs := by
  by_cases instant : st.frozenRecoveryUs = 0
  · rw [recoveryTarget_instant instant, recoveryTarget_instant instant]
    rw [UInt32.le_iff_toNat_le] at grows ⊢
    simp only [recoveryEnd, UInt32.toNat_max, UInt32.toNat_min]
    omega
  · exact leoRecoveryTarget_mono instant grows passes

theorem recoveryTarget_finish (passed : st.frozenRecoveryUs.toUInt64 ≤ elapsedUs) :
    leoRecoveryTarget st normalWin elapsedUs = recoveryEnd st normalWin := by
  by_cases instant : st.frozenRecoveryUs = 0
  · exact recoveryTarget_instant instant
  · rw [UInt64.le_iff_toNat_le, UInt32.toNat_toUInt64] at passed
    rw [← UInt32.toNat_inj, leoRecoveryTarget_toNat _ _ instant, ramp_full (toNat_pos instant) passed]
    have above : st.frozenMinRwnd.toNat ≤ (recoveryEnd st normalWin).toNat := by
      simp only [recoveryEnd, UInt32.toNat_max]
      exact Nat.le_max_right _ _
    omega

theorem dynamic_ramps (st : LeoState) :
    (st.preStarted = true → st.frozenMinRwnd ≤ st.frozenPreStartWnd → PreRamp st) ∧ RecoveryRamp st := by
  constructor
  · intro started floor
    exact ⟨fun _ _ _ _ => preTarget_falling started floor, fun _ _ _ => preTarget_start started floor,
      fun positive _ _ => preTarget_seam started floor positive, fun _ _ => preTarget_checked⟩
  · exact ⟨fun _ _ _ _ => recoveryTarget_rising, fun enabled normalWin => leoRecoveryTarget_zero normalWin enabled,
      fun _ _ => recoveryTarget_finish, fun _ _ => recoveryTarget_checked⟩

def rampSnapshot : LeoState :=
  { tcpLeoDynamicInit with
    preStarted := true
    frozenStartRwnd := 1000000
    frozenPreStartWnd := 900000
    frozenMinRwnd := 100000
    frozenPreUs := 20000
    frozenRecoveryUs := 30000 }

theorem dynamic_ramps_snapshot : PreRamp rampSnapshot ∧ RecoveryRamp rampSnapshot :=
  ⟨(dynamic_ramps rampSnapshot).1 rfl (by decide), (dynamic_ramps rampSnapshot).2⟩

end StarlinkTcp.Proof

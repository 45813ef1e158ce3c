import StarlinkTcp.Proof.Advertised

/-!
# The floor and zero windows

Every target of the dynamic controller stays above the floor of its snapshot. The floor is a product
of two words rounded up to the window unit, all in 32 bits, and the sysctl that holds one factor has
no upper bound: the product can wrap to nothing. As long as it does not, no window is closed.
-/

namespace StarlinkTcp.Proof
open Kernel Machine

/-- The product behind `leo_min_rwnd` neither wraps to zero nor into the last unit below `2 ^ 32`,
which the rounding wraps to zero. -/
def floorFits (net : Net) (sk : SockView) : Bool :=
  let bytes := max 1 net.tcpLeoRwndMinSegs.toNat * (leoMss sk).toNat % 2 ^ 32
  0 < bytes ∧ bytes + 2 ^ sk.rcvWscale.val ≤ 2 ^ 32

theorem unit_le_leoMinRwnd_iff (net : Net) (sk : SockView) :
    2 ^ sk.rcvWscale.val ≤ (leoMinRwnd net sk).toNat ↔ floorFits net sk = true := by
  have lt : sk.rcvWscale.val < 32 := lt_trans sk.rcvWscale.isLt (by decide)
  have positive : 0 < 2 ^ sk.rcvWscale.val := Nat.two_pow_pos _
  have unit : 2 ^ sk.rcvWscale.val ≤ 2 ^ 15 := Nat.pow_le_pow_right (by decide) (by omega)
  have bytes : (max 1 net.tcpLeoRwndMinSegs * leoMss sk).toNat =
      max 1 net.tcpLeoRwndMinSegs.toNat * (leoMss sk).toNat % 2 ^ 32 := by
    rw [UInt32.toNat_mul, UInt32.toNat_max, UInt32.toNat_one]
  have word := Nat.mod_lt (max 1 net.tcpLeoRwndMinSegs.toNat * (leoMss sk).toNat) (show 2 ^ 32 > 0 by decide)
  simp only [leoMinRwnd, floorFits, decide_eq_true_eq]
  rw [align_toNat _ lt, bytes]
  generalize max 1 net.tcpLeoRwndMinSegs.toNat * (leoMss sk).toNat % 2 ^ 32 = product at word ⊢
  generalize 2 ^ sk.rcvWscale.val = size at positive unit ⊢
  constructor
  · intro rounded
    have whole : 1 ≤ (product + (size - 1)) % 2 ^ 32 / size := by
      by_contra none
      rw [Nat.lt_one_iff.mp (Nat.lt_of_not_le none)] at rounded
      omega
    have reached := (Nat.le_div_iff_mul_le positive).mp whole
    by_cases wraps : product + (size - 1) < 2 ^ 32
    · rw [Nat.mod_eq_of_lt wraps] at reached
      omega
    · omega
  · rintro ⟨nonzero, fits⟩
    rw [Nat.mod_eq_of_lt (by omega)]
    have whole : 1 ≤ (product + (size - 1)) / size := (Nat.le_div_iff_mul_le positive).mpr (by omega)
    calc size = 1 * size := (one_mul _).symm
      _ ≤ (product + (size - 1)) / size * size := Nat.mul_le_mul_right _ whole

def FloorOpen (wscale : Fin 16) (st : LeoState) : Prop :=
  st.frozen = true → 2 ^ wscale.val ≤ st.frozenMinRwnd.toNat

namespace Callback

variable {c : Callback} {st : LeoState}

theorem decided_floorOpen (runs : c.runs = true) (floors : FloorOpen c.sk.rcvWscale st)
    (fits : c.freezes st = true → floorFits c.net c.sk = true) : FloorOpen c.sk.rcvWscale (c.decided st) := by
  rcases decided_cases runs st with ⟨freezes, froze⟩ | ⟨-, -, -, -, kept⟩ | ⟨-, -, unfrozen⟩
  · intro _
    rw [froze]
    exact (unit_le_leoMinRwnd_iff c.net c.sk).mpr (fits freezes)
  · rw [kept]
    exact floors
  · intro frozen
    rw [unfrozen] at frozen
    cases frozen

theorem step_floorOpen (floors : FloorOpen c.sk.rcvWscale st)
    (fits : c.freezes st = true → floorFits c.net c.sk = true) : FloorOpen c.sk.rcvWscale (step st c) := by
  cases runs : c.runs
  · rw [step_of_not_runs runs]
    exact floors
  · have snapshot := report_snapshot runs st
    simp only [LeoState.snapshot, LeoSnapshot.mk.injEq] at snapshot
    rw [step_of_runs runs]
    intro frozen
    rw [snapshot.1] at frozen
    rw [snapshot.2.2.2.2.2.2.1]
    exact decided_floorOpen runs floors fits frozen

theorem floor_le_target (runs : c.runs = true) (sound : SnapshotSound st)
    (controlled : (c.report st).phase ≠ .normal) :
    (c.decided st).frozen = true ∧ (c.decided st).frozenMinRwnd ≤ (c.report st).target := by
  have snapshot := report_snapshot runs st
  have sameMin : (c.report st).state.frozenMinRwnd = (c.decided st).frozenMinRwnd :=
    congrArg LeoSnapshot.minRwnd snapshot
  have frozen : (c.decided st).frozen = true := by
    rw [← Bool.not_eq_false]
    intro unfrozen
    rw [report_phase, leoPhase_of_unfrozen unfrozen] at controlled
    exact controlled rfl
  refine ⟨frozen, ?_⟩
  by_cases recovery : (c.report st).phase = .recovery
  · obtain ⟨kept, enabled⟩ := decided_of_recovery runs recovery
    rw [recovery_target runs recovery, kept, UInt32.le_iff_toNat_le, leoRecoveryTarget_toNat _ _ enabled]
    exact Nat.le_add_right _ _
  · have shrinking : Shrinking (c.report st).phase := by
      cases phase : (c.report st).phase <;> simp_all [Shrinking]
    obtain ⟨inForce, started⟩ := report_of_shrinking runs shrinking
    have floor := ((report_sound runs sound).preStart_between inForce started).1
    rw [← sameMin, report_target]
    exact (leoTarget_of_shrinking shrinking started floor).1

theorem window_open (sound : SnapshotSound st) (floors : FloorOpen c.sk.rcvWscale st)
    (fits : c.freezes st = true → floorFits c.net c.sk = true)
    (normal : 2 ^ c.sk.rcvWscale.val ≤ c.normalWin.toNat) :
    2 ^ c.sk.rcvWscale.val ≤ (c.window st).toNat := by
  cases runs : c.runs
  · have gates : leoControls c.net c.sk = false := runs
    simpa [window, tcpLeoDynamicTarget, gates] using normal
  · rw [window_of_runs runs, UInt32.toNat_min]
    by_cases idle : (c.report st).phase = .normal
    · rw [report_target, idle]
      simpa [leoTarget] using normal
    · obtain ⟨frozen, floor⟩ := floor_le_target runs sound idle
      have unit := decided_floorOpen runs floors fits frozen
      rw [UInt32.le_iff_toNat_le] at floor
      omega

end Callback

theorem shiftRight_pos_iff (window : UInt32) (wscale : Fin 16) :
    0 < window >>> UInt32.ofNat wscale ↔ 2 ^ wscale.val ≤ window.toNat := by
  rw [UInt32.lt_iff_toNat_lt, shiftRight_toNat _ (lt_trans wscale.isLt (by decide)), UInt32.toNat_zero,
    Nat.div_pos_iff]
  simp

/-- In every run of callbacks on one socket whose snapshots all get a floor that fits, no callback
closes a window ordinary TCP leaves open. -/
theorem floor_keeps_window_open (callbacks : Nat → Callback) (wscale : Fin 16)
    (scale : ∀ n, (callbacks n).sk.rcvWscale = wscale)
    (fits : ∀ n, (callbacks n).freezes (controllerRun callbacks n) = true →
      floorFits (callbacks n).net (callbacks n).sk = true)
    (n : Nat) (normal : 0 < (callbacks n).normalWin >>> UInt32.ofNat wscale) :
    0 < (callbacks n).window (controllerRun callbacks n) >>> UInt32.ofNat wscale := by
  have floors : FloorOpen wscale (controllerRun callbacks n) := by
    refine runState_invariant (fun n st => st = controllerRun callbacks n ∧ FloorOpen wscale st)
      ⟨rfl, fun frozen => by cases frozen⟩ ?_ n |>.2
    rintro m st ⟨rfl, before⟩
    rw [← scale m] at before ⊢
    exact ⟨rfl, Callback.step_floorOpen before (fits m)⟩
  rw [shiftRight_pos_iff] at normal ⊢
  rw [← scale n] at floors normal ⊢
  exact Callback.window_open (controllerRun_sound callbacks n) floors (fits n) normal

theorem floor_keeps_window_open_at_boundary :
    (∀ n, (boundaryCallbacks n).sk.rcvWscale = ⟨7, by decide⟩) ∧
    (0 : UInt32) < (boundaryCallbacks 1).window (controllerRun boundaryCallbacks 1) >>> 7 := by
  have floor : floorFits tcpSkInit (downloadView 0 7) = true := by decide
  exact ⟨fun _ => rfl,
    floor_keeps_window_open boundaryCallbacks ⟨7, by decide⟩ (fun _ => rfl) (fun _ _ => floor) 1 (by decide)⟩

def hugeSegments : Net := { tcpSkInit with tcpLeoRwndMinSegs := 536870912 }

theorem hugeSegments_admissible : hugeSegments.Admissible := by
  constructor
  case allowPorts => exact tcpSkInit_allowPorts
  all_goals decide

def hugeCallbacks (n : Nat) : Callback := { boundaryCallbacks n with net := hugeSegments }

/-- With `2 ^ 29` minimum segments of 1448 bytes the product is a multiple of `2 ^ 32`: the floor is
zero, and so is the window the first callback past the boundary offers. -/
theorem wrapped_floor_closes_window :
    hugeSegments.Admissible ∧ (hugeCallbacks 1).sk.rcvMss ≠ 0 ∧ (hugeCallbacks 1).sk.rcvWscale.val ≤ 14 ∧
    0 < (hugeCallbacks 1).normalWin >>> UInt32.ofNat (hugeCallbacks 1).sk.rcvWscale ∧
    ¬ 0 < (hugeCallbacks 1).window (controllerRun hugeCallbacks 1) >>>
      UInt32.ofNat (hugeCallbacks 1).sk.rcvWscale :=
  ⟨hugeSegments_admissible, by decide, by decide, by decide, by decide⟩

end StarlinkTcp.Proof

import StarlinkTcp.Kernel.Redhat

/-!
# The durations of a snapshot

Every duration is computed in 64 bits, clamped between two sysctls and narrowed to 32 bits. The table puts no
upper limit on these sysctls, so the narrowing can lose bits; and the early return of `leo_calc_pre_us` comes
before the swap of bounds that are the wrong way round. A net whose sysctls avoid both freezes what they say.
-/

namespace StarlinkTcp.Kernel
open Machine

/-- What `leo_freeze_parameters` reads besides the sysctls. -/
structure FreezeInput where
  sk : SockView
  normalWin : UInt32
  nowUs : UInt64
  st : LeoState

def FreezeInput.frozen (input : FreezeInput) (net : Net) : LeoState :=
  leoFreezeParameters net input.sk input.normalWin input.nowUs input.st

/-- `start_rwnd - min_rwnd` of a snapshot. -/
def LeoState.room (st : LeoState) : Nat := st.frozenStartRwnd.toNat - st.frozenMinRwnd.toNat

/-- A stored duration lies between two bounds in milliseconds, given in either order. -/
def BetweenMs (durationUs : UInt32) (a b : Int32) : Prop :=
  1000 * min a.toInt b.toInt ≤ durationUs.toNat ∧ durationUs.toNat ≤ 1000 * max a.toInt b.toInt

structure DurationsObey (net : Net) (st : LeoState) : Prop where
  pre : BetweenMs st.frozenPreUs net.tcpLeoDynamicPreMinMs net.tcpLeoDynamicPreMaxMs
  drain : BetweenMs st.frozenDrainUs net.tcpLeoDynamicDrainMinMs net.tcpLeoDynamicDrainMaxMs
  recovery : net.tcpLeoDynamicRecoveryEnable ≠ 0 →
    BetweenMs st.frozenRecoveryUs net.tcpLeoDynamicRecoveryMinMs net.tcpLeoDynamicRecoveryMaxMs
  predictionGuard : st.frozenPredictionGuardUs.toNat = 1000 * net.tcpLeoDynamicPredictionGuardMs.toInt
  outage : st.frozenOutageUs ≤ st.frozenRttHalfUs

structure PreMonotone (net : Net) : Prop where
  room : ∀ a b : FreezeInput, (a.frozen net).frozenRecvRateBps = (b.frozen net).frozenRecvRateBps →
    (a.frozen net).room ≤ (b.frozen net).room → (a.frozen net).frozenPreUs ≤ (b.frozen net).frozenPreUs
  rate : ∀ a b : FreezeInput, (a.frozen net).room = (b.frozen net).room →
    (a.frozen net).frozenRecvRateBps ≤ (b.frozen net).frozenRecvRateBps →
      (b.frozen net).frozenPreUs ≤ (a.frozen net).frozenPreUs

/-- The sysctls whose durations fit in 32 bits of microseconds, with the PRE bounds in order. -/
structure FittingSysctls (net : Net) : Prop where
  preOrdered : net.tcpLeoDynamicPreMinMs ≤ net.tcpLeoDynamicPreMaxMs
  pre : 1000 * net.tcpLeoDynamicPreMaxMs.toInt < 2 ^ 32
  drain : 1000 * min net.tcpLeoDynamicDrainMinMs.toInt net.tcpLeoDynamicDrainMaxMs.toInt < 2 ^ 32
  recovery : net.tcpLeoDynamicRecoveryEnable ≠ 0 →
    1000 * min net.tcpLeoDynamicRecoveryMinMs.toInt net.tcpLeoDynamicRecoveryMaxMs.toInt < 2 ^ 32
  guardNonneg : 0 ≤ net.tcpLeoDynamicPredictionGuardMs
  predictionGuard : 1000 * net.tcpLeoDynamicPredictionGuardMs.toInt < 2 ^ 32

end StarlinkTcp.Kernel

namespace StarlinkTcp.Proof
open Kernel Machine

variable {net : Net}

/-! ## Clamped durations -/

theorem clampT_toNat {value lower upper : UInt64} (ordered : lower ≤ upper) :
    (clampT value lower upper).toNat = max lower.toNat (min upper.toNat value.toNat) := by
  rw [UInt64.le_iff_toNat_le] at ordered
  unfold clampT
  split
  · rename_i above
    rw [UInt64.le_iff_toNat_le] at above
    omega
  · rename_i inside
    rw [UInt64.le_iff_toNat_le] at inside
    split
    · rename_i below
      rw [UInt64.le_iff_toNat_le] at below
      omega
    · rename_i above
      rw [UInt64.le_iff_toNat_le] at above
      omega

theorem clampBetween_toNat (value a b : UInt64) :
    (clampBetween value a b).toNat =
      max (min a.toNat b.toNat) (min (max a.toNat b.toNat) value.toNat) := by
  unfold clampBetween
  split
  · rename_i swapped
    rw [clampT_toNat (UInt64.le_of_lt swapped)]
    rw [gt_iff_lt, UInt64.lt_iff_toNat_lt] at swapped
    omega
  · rename_i ordered
    rw [gt_iff_lt, UInt64.not_lt] at ordered
    rw [clampT_toNat ordered]
    rw [UInt64.le_iff_toNat_le] at ordered
    omega

theorem u64OfInt_ms {x : Int32} (nonneg : 0 ≤ x) : (u64OfInt x * 1000).toNat = 1000 * x.toInt.toNat := by
  have small := u64OfInt_toNat_lt nonneg
  rw [UInt64.toNat_mul, u64OfInt_toNat nonneg]
  rw [u64OfInt_toNat nonneg] at small
  have thousand : (1000 : UInt64).toNat = 1000 := rfl
  rw [thousand, Nat.mod_eq_of_lt (by omega), Nat.mul_comm]

theorem atLeastOne_ms {x : Int32} (positive : 1 ≤ x) :
    ((max 1 x.toUInt32).toUInt64 * 1000).toNat = 1000 * x.toInt.toNat := by
  have lower := Int32.le_iff_toInt_le.mp positive
  have upper := x.toInt_lt
  have one : (1 : Int32).toInt = 1 := rfl
  have nonneg : 0 ≤ x := int32_nonneg_iff.mpr (by omega)
  have word : x.toUInt32.toNat = x.toInt.toNat := Int32.toNat_toUInt32_of_le nonneg
  have thousand : (1000 : UInt64).toNat = 1000 := rfl
  rw [UInt64.toNat_mul, UInt32.toNat_toUInt64, UInt32.toNat_max, word, UInt32.toNat_one, thousand,
    Nat.mod_eq_of_lt (by omega)]
  omega

/-- What is left of a duration of `value` microseconds between two bounds in milliseconds. -/
def clampedUs (a b : Int32) (value : Nat) : Nat :=
  max (1000 * min a.toInt.toNat b.toInt.toNat) (min (1000 * max a.toInt.toNat b.toInt.toNat) value)

theorem clampedInt_toNat {a b : Int32} (aNonneg : 0 ≤ a) (bNonneg : 0 ≤ b) (value : UInt64) :
    (clampBetween value (u64OfInt a * 1000) (u64OfInt b * 1000)).toUInt32.toNat =
      clampedUs a b value.toNat % 2 ^ 32 := by
  rw [UInt64.toNat_toUInt32, clampBetween_toNat, u64OfInt_ms aNonneg, u64OfInt_ms bNonneg, clampedUs]
  congr 1
  omega

theorem betweenMs_iff {a b : Int32} (aNonneg : 0 ≤ a) (bNonneg : 0 ≤ b) {duration : UInt32} :
    BetweenMs duration a b ↔ 1000 * min a.toInt.toNat b.toInt.toNat ≤ duration.toNat ∧
      duration.toNat ≤ 1000 * max a.toInt.toNat b.toInt.toNat := by
  rw [int32_nonneg_iff] at aNonneg bNonneg
  unfold BetweenMs
  omega

/-- The narrowing keeps a clamped duration in its bounds exactly when the lower bound fits: a duration cut by
half an RTT always fits. -/
theorem clamped_between_iff {a b : Int32} (aNonneg : 0 ≤ a) (bNonneg : 0 ≤ b) {duration : UInt32} {value : Nat}
    (half : value < 2 ^ 31) (stored : duration.toNat = clampedUs a b value % 2 ^ 32) :
    BetweenMs duration a b ↔ 1000 * min a.toInt b.toInt < 2 ^ 32 := by
  have size := duration.toNat_lt
  rw [betweenMs_iff aNonneg bNonneg]
  rw [int32_nonneg_iff] at aNonneg bNonneg
  unfold clampedUs at stored
  omega

/-! ## The PRE duration -/

/-- The PRE duration before it is narrowed. -/
def preSpanUs (net : Net) (room rate : Nat) : Nat :=
  if room = 0 then 1000 * net.tcpLeoDynamicPreMinMs.toInt.toNat
  else clampedUs net.tcpLeoDynamicPreMinMs net.tcpLeoDynamicPreMaxMs (room * 1000000 / rate)

theorem leoCalcPreUs_toNat (preMin : 1 ≤ net.tcpLeoDynamicPreMinMs) (preMax : 1 ≤ net.tcpLeoDynamicPreMaxMs)
    {startRwnd minRwnd : UInt32} {rateBps : UInt64} (rate : rateBps ≠ 0) :
    (leoCalcPreUs net startRwnd minRwnd rateBps).toNat =
      preSpanUs net (startRwnd.toNat - minRwnd.toNat) rateBps.toNat % 2 ^ 32 := by
  have size := startRwnd.toNat_lt
  unfold leoCalcPreUs preSpanUs
  dsimp only
  split
  · rename_i early
    have none := early.resolve_right rate
    rw [UInt32.le_iff_toNat_le] at none
    rw [if_pos (by omega), UInt64.toNat_toUInt32, atLeastOne_ms preMin]
  · rename_i ramp
    have above := (not_or.mp ramp).1
    rw [UInt32.not_le, UInt32.lt_iff_toNat_lt] at above
    have difference := UInt32.toNat_sub_of_le _ _ (UInt32.le_iff_toNat_le.mpr above.le)
    have million : (1000000 : UInt64).toNat = 1000000 := rfl
    have span : ((startRwnd - minRwnd).toUInt64 * 1000000 / rateBps).toNat =
        (startRwnd.toNat - minRwnd.toNat) * 1000000 / rateBps.toNat := by
      rw [UInt64.toNat_div, UInt64.toNat_mul, UInt32.toNat_toUInt64, difference, million,
        Nat.mod_eq_of_lt (by omega)]
    rw [if_neg (by omega), UInt64.toNat_toUInt32, clampBetween_toNat, atLeastOne_ms preMin, atLeastOne_ms preMax,
      span, clampedUs]
    congr 1
    omega

theorem leoFallbackRateBps_ne_zero : leoFallbackRateBps net ≠ 0 := by
  have size := (max 1 net.tcpLeoDynamicFallbackRateMbps.toUInt32).toNat_lt
  have positive : 1 ≤ (max 1 net.tcpLeoDynamicFallbackRateMbps.toUInt32).toNat := by
    rw [UInt32.toNat_max]
    exact Nat.le_max_left _ _
  have million : (1000000 : UInt64).toNat = 1000000 := rfl
  have eight : (8 : UInt64).toNat = 8 := rfl
  rw [leoFallbackRateBps, ne_eq, ← UInt64.toNat_inj, UInt64.toNat_div, UInt64.toNat_mul, UInt32.toNat_toUInt64,
    million, eight, Nat.mod_eq_of_lt (by omega), UInt64.toNat_zero]
  omega

theorem leoCycleRateBps_ne_zero {st : LeoState} : leoCycleRateBps net st ≠ 0 := by
  unfold leoCycleRateBps
  split
  · assumption
  · exact leoFallbackRateBps_ne_zero

section Frozen

variable (admissible : net.Admissible) (input : FreezeInput)
include admissible

theorem frozenPreUs_toNat : (input.frozen net).frozenPreUs.toNat =
    preSpanUs net (input.frozen net).room (input.frozen net).frozenRecvRateBps.toNat % 2 ^ 32 :=
  leoCalcPreUs_toNat admissible.preMinMs admissible.preMaxMs leoCycleRateBps_ne_zero

omit admissible in
theorem half_lt (rttUs : UInt32) : (rttUs / 2).toUInt64.toNat < 2 ^ 31 := by
  have size := rttUs.toNat_lt
  have two : (2 : UInt32).toNat = 2 := rfl
  rw [UInt32.toNat_toUInt64, UInt32.toNat_div, two]
  omega

theorem frozenDrain_iff :
    BetweenMs (input.frozen net).frozenDrainUs net.tcpLeoDynamicDrainMinMs net.tcpLeoDynamicDrainMaxMs ↔
      1000 * min net.tcpLeoDynamicDrainMinMs.toInt net.tcpLeoDynamicDrainMaxMs.toInt < 2 ^ 32 :=
  clamped_between_iff admissible.drainMinMs admissible.drainMaxMs (half_lt _)
    (clampedInt_toNat admissible.drainMinMs admissible.drainMaxMs _)

theorem frozenRecovery_iff (enabled : net.tcpLeoDynamicRecoveryEnable ≠ 0) :
    BetweenMs (input.frozen net).frozenRecoveryUs net.tcpLeoDynamicRecoveryMinMs net.tcpLeoDynamicRecoveryMaxMs ↔
      1000 * min net.tcpLeoDynamicRecoveryMinMs.toInt net.tcpLeoDynamicRecoveryMaxMs.toInt < 2 ^ 32 := by
  apply clamped_between_iff admissible.recoveryMinMs admissible.recoveryMaxMs
    (half_lt (leoCycleRttUs net input.sk input.st))
  have stored : (input.frozen net).frozenRecoveryUs =
      leoCalcRecoveryUs net (leoCycleRttUs net input.sk input.st) := rfl
  rw [stored, leoCalcRecoveryUs, if_neg enabled]
  exact clampedInt_toNat admissible.recoveryMinMs admissible.recoveryMaxMs _

omit admissible in
theorem frozenOutage_le : (input.frozen net).frozenOutageUs ≤ (input.frozen net).frozenRttHalfUs := by
  have bound (outageUs : UInt64) (rttUs : UInt32) :
      (min outageUs (rttUs / 2).toUInt64).toUInt32 ≤ rttUs / 2 := by
    rw [UInt32.le_iff_toNat_le, UInt64.toNat_toUInt32, UInt64.toNat_min, UInt32.toNat_toUInt64]
    exact (Nat.mod_le _ _).trans (Nat.min_le_right _ _)
  exact bound _ _

omit admissible in
theorem frozenGuard_iff :
    (input.frozen net).frozenPredictionGuardUs.toNat = 1000 * net.tcpLeoDynamicPredictionGuardMs.toInt ↔
      0 ≤ net.tcpLeoDynamicPredictionGuardMs ∧ 1000 * net.tcpLeoDynamicPredictionGuardMs.toInt < 2 ^ 32 := by
  have stored : (input.frozen net).frozenPredictionGuardUs =
      (u64OfInt net.tcpLeoDynamicPredictionGuardMs * 1000).toUInt32 := rfl
  have size := (input.frozen net).frozenPredictionGuardUs.toNat_lt
  rw [stored] at size ⊢
  by_cases nonneg : 0 ≤ net.tcpLeoDynamicPredictionGuardMs
  · rw [UInt64.toNat_toUInt32, u64OfInt_ms nonneg] at size ⊢
    rw [int32_nonneg_iff] at nonneg ⊢
    omega
  · rw [int32_nonneg_iff] at nonneg ⊢
    omega

end Frozen

/-! ## Fitting sysctls -/

theorem preSpanUs_of_ordered (ordered : net.tcpLeoDynamicPreMinMs ≤ net.tcpLeoDynamicPreMaxMs) (room rate : Nat) :
    preSpanUs net room rate =
      clampedUs net.tcpLeoDynamicPreMinMs net.tcpLeoDynamicPreMaxMs (room * 1000000 / rate) := by
  unfold preSpanUs
  split
  · rename_i none
    rw [Int32.le_iff_toInt_le] at ordered
    rw [none, Nat.zero_mul, Nat.zero_div, clampedUs]
    omega
  · rfl

theorem clampedUs_mono {a b : Int32} {value value' : Nat} (le : value ≤ value') :
    clampedUs a b value ≤ clampedUs a b value' :=
  max_le_max_left _ (min_le_min_left _ le)

theorem frozenPreUs_of_fitting (admissible : net.Admissible) (fitting : FittingSysctls net)
    (input : FreezeInput) : (input.frozen net).frozenPreUs.toNat =
      clampedUs net.tcpLeoDynamicPreMinMs net.tcpLeoDynamicPreMaxMs
        ((input.frozen net).room * 1000000 / (input.frozen net).frozenRecvRateBps.toNat) := by
  have ordered := Int32.le_iff_toInt_le.mp fitting.preOrdered
  have fits := fitting.pre
  rw [frozenPreUs_toNat admissible input, preSpanUs_of_ordered fitting.preOrdered]
  apply Nat.mod_eq_of_lt
  unfold clampedUs
  omega

theorem durationsObey_of_fitting (admissible : net.Admissible) (fitting : FittingSysctls net) (input : FreezeInput) :
    DurationsObey net (input.frozen net) where
  pre := by
    have nonneg {x : Int32} (positive : 1 ≤ x) : 0 ≤ x := Int32.le_trans (by decide) positive
    rw [betweenMs_iff (nonneg admissible.preMinMs) (nonneg admissible.preMaxMs),
      frozenPreUs_of_fitting admissible fitting input, clampedUs]
    omega
  drain := (frozenDrain_iff admissible input).mpr fitting.drain
  recovery enabled := (frozenRecovery_iff admissible input enabled).mpr (fitting.recovery enabled)
  predictionGuard := (frozenGuard_iff input).mpr ⟨fitting.guardNonneg, fitting.predictionGuard⟩
  outage := frozenOutage_le input

theorem preMonotone_of_fitting (admissible : net.Admissible) (fitting : FittingSysctls net) :
    PreMonotone net where
  room a b sameRate le := by
    rw [UInt32.le_iff_toNat_le, frozenPreUs_of_fitting admissible fitting,
      frozenPreUs_of_fitting admissible fitting, sameRate]
    exact clampedUs_mono (Nat.div_le_div_right (Nat.mul_le_mul_right _ le))
  rate a b sameRoom le := by
    have positive : 0 < (a.frozen net).frozenRecvRateBps.toNat := by
      have nonzero : (a.frozen net).frozenRecvRateBps ≠ 0 := leoCycleRateBps_ne_zero
      rw [ne_eq, ← UInt64.toNat_inj, UInt64.toNat_zero] at nonzero
      exact Nat.pos_of_ne_zero nonzero
    rw [UInt64.le_iff_toNat_le] at le
    rw [UInt32.le_iff_toNat_le, frozenPreUs_of_fitting admissible fitting,
      frozenPreUs_of_fitting admissible fitting, sameRoom]
    exact clampedUs_mono (Nat.div_le_div_left le positive)

/-! ## Every other net fails -/

/-- A snapshot with the given room and rate. The large window scale keeps the floor away from the end of the
32-bit range. -/
def roomyInput (net : Net) (room : UInt32) (rateBps : UInt64) : FreezeInput :=
  let sk : SockView :=
    { rcvMss := 1, advmss := 1, rcvWscale := ⟨13, by decide⟩, rcvRttUs := 0, rcvNxt := 0, bytesReceived := 0,
      inetSport := 0, inetDport := 0 }
  { sk
    normalWin := leoMinRwnd net sk + room
    nowUs := 0
    st := { tcpLeoDynamicInit with recvRateBpsEwma := rateBps } }

theorem roomyInput_room {room : UInt32} (small : room.toNat ≤ 4295) (rateBps : UInt64) :
    ((roomyInput net room rateBps).frozen net).room = room.toNat := by
  have word := (leoMinRwnd net (roomyInput net room rateBps).sk).toNat_lt
  have grid : 2 ^ 13 ∣ (leoMinRwnd net (roomyInput net room rateBps).sk).toNat :=
    dvd_align _ (by decide : 13 < 32)
  obtain ⟨units, multiple⟩ := grid
  have window : (roomyInput net room rateBps).normalWin.toNat =
      (leoMinRwnd net (roomyInput net room rateBps).sk).toNat + room.toNat := by
    have sum := UInt32.toNat_add (leoMinRwnd net (roomyInput net room rateBps).sk) room
    rwa [Nat.mod_eq_of_lt (by omega)] at sum
  have start : ((roomyInput net room rateBps).frozen net).frozenStartRwnd =
      max (min (roomyInput net room rateBps).normalWin (roomyInput net room rateBps).normalWin)
        (leoMinRwnd net (roomyInput net room rateBps).sk) := rfl
  have floor : ((roomyInput net room rateBps).frozen net).frozenMinRwnd =
      leoMinRwnd net (roomyInput net room rateBps).sk := rfl
  rw [LeoState.room, start, floor, UInt32.toNat_max, UInt32.toNat_min, window]
  omega

theorem roomyInput_rate (room : UInt32) {rateBps : UInt64} (nonzero : rateBps ≠ 0) :
    ((roomyInput net room rateBps).frozen net).frozenRecvRateBps = rateBps :=
  if_pos nonzero

theorem roomyInput_preUs (admissible : net.Admissible) {room : UInt32} (small : room.toNat ≤ 4295)
    {rateBps : UInt64} (nonzero : rateBps ≠ 0) :
    ((roomyInput net room rateBps).frozen net).frozenPreUs.toNat =
      preSpanUs net room.toNat rateBps.toNat % 2 ^ 32 := by
  rw [frozenPreUs_toNat admissible, roomyInput_room small, roomyInput_rate room nonzero]

theorem roomyInput_preUs_le (admissible : net.Admissible) (monotone : PreMonotone net) (room room' : UInt32)
    (rateBps : UInt64) (le : room ≤ room') (small : room'.toNat ≤ 4295) (nonzero : rateBps ≠ 0) :
    preSpanUs net room.toNat rateBps.toNat % 2 ^ 32 ≤ preSpanUs net room'.toNat rateBps.toNat % 2 ^ 32 := by
  rw [UInt32.le_iff_toNat_le] at le
  rw [← roomyInput_preUs admissible (le.trans small) nonzero, ← roomyInput_preUs admissible small nonzero,
    ← UInt32.le_iff_toNat_le]
  apply monotone.room
  · rw [roomyInput_rate room nonzero, roomyInput_rate room' nonzero]
  · rwa [roomyInput_room (le.trans small), roomyInput_room small]

/-- At one byte per second a room of 4294 bytes takes fewer than `2 ^ 32` microseconds, and one byte more does
not. -/
theorem preBounds_fit (admissible : net.Admissible) (obey : ∀ input : FreezeInput, DurationsObey net (input.frozen net))
    (monotone : PreMonotone net) :
    1000 * max net.tcpLeoDynamicPreMinMs.toInt net.tcpLeoDynamicPreMaxMs.toInt < 2 ^ 32 := by
  have lower := (obey (roomyInput net 0 1)).pre.1
  have stored := ((roomyInput net 0 1).frozen net).frozenPreUs.toNat_lt
  have step := roomyInput_preUs_le admissible monotone 4294 4295 1 (by decide) (by decide) (by decide)
  have first : (4294 : UInt32).toNat = 4294 := rfl
  have second : (4295 : UInt32).toNat = 4295 := rfl
  have one : (1 : UInt64).toNat = 1 := rfl
  rw [first, second, one, preSpanUs, if_neg (by decide), preSpanUs, if_neg (by decide)] at step
  generalize before : clampedUs net.tcpLeoDynamicPreMinMs net.tcpLeoDynamicPreMaxMs (4294 * 1000000 / 1) = fits at step
  generalize after : clampedUs net.tcpLeoDynamicPreMinMs net.tcpLeoDynamicPreMaxMs (4295 * 1000000 / 1) = wraps at step
  unfold clampedUs at before after
  have preMin := Int32.le_iff_toInt_le.mp admissible.preMinMs
  have preMax := Int32.le_iff_toInt_le.mp admissible.preMaxMs
  have unit : (1 : Int32).toInt = 1 := rfl
  by_contra long
  rw [Nat.mod_eq_of_lt (by omega : fits < 2 ^ 32), Nat.mod_eq_sub_mod (by omega : wraps ≥ 2 ^ 32),
    Nat.mod_eq_of_lt (by omega : wraps - 2 ^ 32 < 2 ^ 32)] at step
  omega

theorem preBounds_ordered (admissible : net.Admissible) (monotone : PreMonotone net)
    (fit : 1000 * max net.tcpLeoDynamicPreMinMs.toInt net.tcpLeoDynamicPreMaxMs.toInt < 2 ^ 32) :
    net.tcpLeoDynamicPreMinMs ≤ net.tcpLeoDynamicPreMaxMs := by
  have step := roomyInput_preUs_le admissible monotone 0 1 2000000 (by decide) (by decide) (by decide)
  have none : (0 : UInt32).toNat = 0 := rfl
  have one : (1 : UInt32).toNat = 1 := rfl
  have rate : (2000000 : UInt64).toNat = 2000000 := rfl
  -- the early return does not swap the bounds
  rw [none, one, rate, preSpanUs, if_pos rfl, preSpanUs, if_neg (by decide)] at step
  generalize clamped : clampedUs net.tcpLeoDynamicPreMinMs net.tcpLeoDynamicPreMaxMs (1 * 1000000 / 2000000) = swapped
    at step
  unfold clampedUs at clamped
  have preMin := Int32.le_iff_toInt_le.mp admissible.preMinMs
  have preMax := Int32.le_iff_toInt_le.mp admissible.preMaxMs
  have unit : (1 : Int32).toInt = 1 := rfl
  rw [Nat.mod_eq_of_lt (by omega : 1000 * net.tcpLeoDynamicPreMinMs.toInt.toNat < 2 ^ 32),
    Nat.mod_eq_of_lt (by omega : swapped < 2 ^ 32)] at step
  rw [Int32.le_iff_toInt_le]
  omega

theorem frozen_durations_obey_iff (net : Net) (admissible : net.Admissible) :
    ((∀ input : FreezeInput, DurationsObey net (input.frozen net)) ∧ PreMonotone net) ↔ FittingSysctls net := by
  constructor
  · rintro ⟨obey, monotone⟩
    have fit := preBounds_fit admissible obey monotone
    have some_input := obey (roomyInput net 0 1)
    have guards := (frozenGuard_iff _).mp some_input.predictionGuard
    exact {
      preOrdered := preBounds_ordered admissible monotone fit
      pre := by omega
      drain := (frozenDrain_iff admissible _).mp some_input.drain
      recovery := fun enabled => (frozenRecovery_iff admissible _ enabled).mp (some_input.recovery enabled)
      guardNonneg := guards.1
      predictionGuard := guards.2 }
  · intro fitting
    exact ⟨durationsObey_of_fitting admissible fitting, preMonotone_of_fitting admissible fitting⟩

theorem frozen_durations_obey_at_boot :
    ((∀ input : FreezeInput, DurationsObey tcpSkInit (input.frozen tcpSkInit)) ∧ PreMonotone tcpSkInit) ↔
      FittingSysctls tcpSkInit :=
  frozen_durations_obey_iff tcpSkInit tcpSkInit_admissible

def longDrainNet : Net := { tcpSkInit with tcpLeoDynamicDrainMinMs := 4294968, tcpLeoDynamicDrainMaxMs := 4294968 }

def swappedPreNet : Net := { tcpSkInit with tcpLeoDynamicPreMinMs := 200, tcpLeoDynamicPreMaxMs := 100 }

theorem longDrainNet_admissible : longDrainNet.Admissible := by
  constructor
  case allowPorts => exact tcpSkInit_allowPorts
  all_goals decide

/-- A drain of 4294968 ms is stored as 704 us, and with the PRE bounds swapped one byte of room shortens PRE. -/
theorem frozen_durations_disobey :
    ¬ (∀ net : Net, net.Admissible →
      (∀ input : FreezeInput, DurationsObey net (input.frozen net)) ∧ PreMonotone net) ∧
    ((roomyInput longDrainNet 0 1).frozen longDrainNet).frozenDrainUs = 704 ∧
    ((roomyInput swappedPreNet 0 2000000).frozen swappedPreNet).frozenPreUs = 200000 ∧
    ((roomyInput swappedPreNet 1 2000000).frozen swappedPreNet).frozenPreUs = 100000 := by
  refine ⟨fun always => ?_, by decide, by decide, by decide⟩
  have obey := (always longDrainNet longDrainNet_admissible).1 (roomyInput longDrainNet 0 1)
  have fits := (frozenDrain_iff longDrainNet_admissible _).mp obey.drain
  exact absurd fits (by decide)

end StarlinkTcp.Proof

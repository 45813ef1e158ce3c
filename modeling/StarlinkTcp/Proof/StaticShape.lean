import StarlinkTcp.Kernel.Output

/-!
# The shape of the static target

Over one period the static controller holds the window down, raises it, leaves it alone and lowers it again
before the next handover. The sysctls may put the ends of these segments in any order, and the end of the
recovery segment may wrap; the window then skips the segments that are left empty.
-/

namespace StarlinkTcp.Kernel
open Machine

def staticPre (net : Net) : UInt32 :=
  if net.tcpLeoRwndPreMs ≥ net.tcpLeoRwndPeriodMs then net.tcpLeoRwndPeriodMs - 1 else net.tcpLeoRwndPreMs

def staticPreStart (net : Net) : UInt32 := net.tcpLeoRwndPeriodMs - staticPre net

/-! `tcp_leo_rwnd_phase_ms` and `tcp_leo_rwnd_target` once more, with every 64-bit operation checked. -/

def tcpLeoRwndPhaseMsChecked (net : Net) (clk : Clock) : Option UInt32 :=
  let period := net.tcpLeoRwndPeriodMs
  if period = 0 then some 0
  else do
    let nowMs ← divChecked clk.realNs 1000000
    let rem ← modChecked nowMs period.toUInt64
    let rem ← narrowChecked rem
    let offset ← modChecked net.tcpLeoRwndOffsetMs period
    if rem ≥ offset then some (rem - offset) else some (rem + period - offset)

def tcpLeoRwndTargetChecked (net : Net) (clk : Clock) (sk : SockView) (normalWin : UInt32) : Option UInt32 :=
  let period := net.tcpLeoRwndPeriodMs
  let outage := net.tcpLeoRwndOutageMs
  let recovery := net.tcpLeoRwndRecoveryMs
  if net.tcpLeoRwndEnable = 0 then some normalWin
  else if period = 0 then some normalWin
  else
    let pre := staticPre net
    let minWin := tcpLeoRwndMinWindow net sk
    if normalWin ≤ minWin then some normalWin
    else do
      let phase ← tcpLeoRwndPhaseMsChecked net clk
      let preStart := period - pre
      let recoveryEnd := outage + recovery
      let delta := normalWin - minWin
      if pre ≠ 0 ∧ phase ≥ preStart then
        let cut ← scaledChecked delta (phase - preStart) pre
        some (normalWin - cut)
      else if phase < outage then some minWin
      else if recovery ≠ 0 ∧ phase < recoveryEnd then
        if net.tcpLeoRwndFastRecovery ≠ 0 then some normalWin
        else
          let rise ← scaledChecked delta (phase - outage) recovery
          some (minWin + rise)
      else some normalWin

structure StaticShape (net : Net) (sk : SockView) (normalWin : UInt32) : Prop where
  lower : ∀ clk, min (tcpLeoRwndMinWindow net sk) normalWin ≤ tcpLeoRwndTarget net clk sk normalWin
  upper : ∀ clk, tcpLeoRwndTarget net clk sk normalWin ≤ normalWin
  exact : ∀ clk, tcpLeoRwndTargetChecked net clk sk normalWin = some (tcpLeoRwndTarget net clk sk normalWin)
  /-- The phase of a clock lies in the period, and every point of the period is the phase of some clock. -/
  phases : net.tcpLeoRwndPeriodMs ≠ 0 → ∀ phase,
    phase < net.tcpLeoRwndPeriodMs ↔ ∃ clk, tcpLeoRwndPhaseMs net clk = phase
  rising : ∀ clk clk', tcpLeoRwndPhaseMs net clk ≤ tcpLeoRwndPhaseMs net clk' →
    tcpLeoRwndPhaseMs net clk' < staticPreStart net →
      tcpLeoRwndTarget net clk sk normalWin ≤ tcpLeoRwndTarget net clk' sk normalWin
  falling : ∀ clk clk', staticPreStart net ≤ tcpLeoRwndPhaseMs net clk →
    tcpLeoRwndPhaseMs net clk ≤ tcpLeoRwndPhaseMs net clk' →
      tcpLeoRwndTarget net clk' sk normalWin ≤ tcpLeoRwndTarget net clk sk normalWin

end StarlinkTcp.Kernel

namespace StarlinkTcp.Proof
open Kernel Machine

/-! ## The shape over the naturals -/

/-- The target at `phase`, in exact arithmetic. `ends` is the end of the recovery segment as the code has it. -/
def shapeAt (period pre outage recovery ends : Nat) (fast : Bool) (floor top phase : Nat) : Nat :=
  if top ≤ floor then top
  else if period - pre ≤ phase then top - (top - floor) * (phase - (period - pre)) / pre
  else if phase < outage then floor
  else if recovery ≠ 0 ∧ phase < ends then
    if fast then top else floor + (top - floor) * (phase - outage) / recovery
  else top

section Shape

variable {period pre outage recovery ends floor top phase phase' : Nat} {fast : Bool}

theorem recovery_rise_le (below : floor < top) (inside : phase < outage + recovery) :
    floor + (top - floor) * (phase - outage) / recovery ≤ top := by
  have rise := @scaled_le (top - floor) (phase - outage) recovery (by omega)
  omega

theorem shapeAt_le (within : ends ≤ outage + recovery) :
    shapeAt period pre outage recovery ends fast floor top phase ≤ top := by
  unfold shapeAt
  split
  · exact le_rfl
  · rename_i below
    split
    · exact Nat.sub_le _ _
    · split
      · exact (not_le.mp below).le
      · split
        · rename_i segment
          split
          · exact le_rfl
          · exact recovery_rise_le (not_le.mp below) (by omega)
        · exact le_rfl

theorem le_shapeAt (capped : pre ≤ period) (inside : phase < period) :
    min floor top ≤ shapeAt period pre outage recovery ends fast floor top phase := by
  unfold shapeAt
  split
  · exact min_le_right _ _
  · rename_i below
    split
    · have cut := @scaled_le (top - floor) (phase - (period - pre)) pre (by omega)
      omega
    · split
      · exact min_le_left _ _
      · split
        · split
          · exact min_le_right _ _
          · exact (min_le_left _ _).trans (Nat.le_add_right _ _)
        · exact min_le_right _ _

theorem shapeAt_rising (within : ends ≤ outage + recovery) (le : phase ≤ phase')
    (before : phase' < period - pre) :
    shapeAt period pre outage recovery ends fast floor top phase ≤
      shapeAt period pre outage recovery ends fast floor top phase' := by
  unfold shapeAt
  split
  · exact le_rfl
  · rename_i below
    rw [if_neg (not_le.mpr (le.trans_lt before)), if_neg (not_le.mpr before)]
    -- the segments come in this order, whichever of them are empty
    by_cases out : phase < outage
    · rw [if_pos out]
      split
      · exact le_rfl
      · split
        · split
          · exact (not_le.mp below).le
          · exact Nat.le_add_right _ _
        · exact (not_le.mp below).le
    · rw [if_neg out, if_neg (by omega : ¬ phase' < outage)]
      by_cases late : recovery ≠ 0 ∧ phase' < ends
      · rw [if_pos late, if_pos ⟨late.1, by omega⟩]
        split
        · exact le_rfl
        · have steeper : (top - floor) * (phase - outage) ≤ (top - floor) * (phase' - outage) :=
            Nat.mul_le_mul_left _ (by omega)
          have := Nat.div_le_div_right (c := recovery) steeper
          omega
      · rw [if_neg late]
        split
        · split
          · exact le_rfl
          · exact recovery_rise_le (not_le.mp below) (by omega)
        · exact le_rfl

theorem shapeAt_falling (start : period - pre ≤ phase) (le : phase ≤ phase') :
    shapeAt period pre outage recovery ends fast floor top phase' ≤
      shapeAt period pre outage recovery ends fast floor top phase := by
  unfold shapeAt
  split
  · exact le_rfl
  · rw [if_pos (start.trans le)]
    apply Nat.sub_le_sub_left
    apply Nat.div_le_div_right
    exact Nat.mul_le_mul_left _ (Nat.sub_le_sub_right le _)

end Shape

/-! ## The phase -/

variable {net : Net} {clk clk' : Clock} {sk : SockView} {normalWin : UInt32}

def phaseOffset (net : Net) : Nat := net.tcpLeoRwndOffsetMs.toNat % net.tcpLeoRwndPeriodMs.toNat

theorem phase_remainder (period : net.tcpLeoRwndPeriodMs ≠ 0) :
    (clk.realNs / 1000000 % net.tcpLeoRwndPeriodMs.toUInt64).toNat =
      clk.realNs.toNat / 1000000 % net.tcpLeoRwndPeriodMs.toNat ∧
    clk.realNs.toNat / 1000000 % net.tcpLeoRwndPeriodMs.toNat < net.tcpLeoRwndPeriodMs.toNat := by
  refine ⟨?_, Nat.mod_lt _ (toNat_pos period)⟩
  rw [UInt64.toNat_mod, UInt64.toNat_div, UInt32.toNat_toUInt64]
  rfl

theorem phaseMs_toNat (period : net.tcpLeoRwndPeriodMs ≠ 0) :
    (tcpLeoRwndPhaseMs net clk).toNat =
      (clk.realNs.toNat / 1000000 % net.tcpLeoRwndPeriodMs.toNat +
        (net.tcpLeoRwndPeriodMs.toNat - phaseOffset net)) % net.tcpLeoRwndPeriodMs.toNat := by
  obtain ⟨remainder, below⟩ := @phase_remainder net clk period
  have size := net.tcpLeoRwndPeriodMs.toNat_lt
  have rem : (clk.realNs / 1000000 % net.tcpLeoRwndPeriodMs.toUInt64).toUInt32.toNat =
      clk.realNs.toNat / 1000000 % net.tcpLeoRwndPeriodMs.toNat := by
    rw [UInt64.toNat_toUInt32, remainder, Nat.mod_eq_of_lt (below.trans size)]
  have offset : (net.tcpLeoRwndOffsetMs % net.tcpLeoRwndPeriodMs).toNat = phaseOffset net := UInt32.toNat_mod _ _
  have small : phaseOffset net < net.tcpLeoRwndPeriodMs.toNat := Nat.mod_lt _ (toNat_pos period)
  rw [tcpLeoRwndPhaseMs, if_neg period]
  dsimp only
  generalize clk.realNs.toNat / 1000000 % net.tcpLeoRwndPeriodMs.toNat = r at *
  split
  · rename_i past
    rw [ge_iff_le, UInt32.le_iff_toNat_le, rem, offset] at past
    rw [UInt32.toNat_sub_of_le _ _ (by rwa [UInt32.le_iff_toNat_le, rem, offset]), rem, offset]
    have wrapped : r + (net.tcpLeoRwndPeriodMs.toNat - phaseOffset net) =
        r - phaseOffset net + net.tcpLeoRwndPeriodMs.toNat := by omega
    rw [wrapped, Nat.add_mod_right, Nat.mod_eq_of_lt (by omega)]
  · rename_i ahead
    rw [ge_iff_le, UInt32.le_iff_toNat_le, rem, offset] at ahead
    -- the sum may pass the width, and the difference comes back
    rw [Nat.mod_eq_of_lt (by omega), UInt32.toNat_sub, UInt32.toNat_add, rem, offset]
    omega

theorem phaseMs_lt (period : net.tcpLeoRwndPeriodMs ≠ 0) (clk : Clock) :
    (tcpLeoRwndPhaseMs net clk).toNat < net.tcpLeoRwndPeriodMs.toNat := by
  rw [phaseMs_toNat period]
  exact Nat.mod_lt _ (toNat_pos period)

theorem exists_phaseMs (period : net.tcpLeoRwndPeriodMs ≠ 0) {phase : UInt32}
    (inside : phase < net.tcpLeoRwndPeriodMs) : ∃ clk, tcpLeoRwndPhaseMs net clk = phase := by
  rw [UInt32.lt_iff_toNat_lt] at inside
  have size := net.tcpLeoRwndPeriodMs.toNat_lt
  have small : phaseOffset net < net.tcpLeoRwndPeriodMs.toNat := Nat.mod_lt _ (toNat_pos period)
  let ms := (phase.toNat + phaseOffset net) % net.tcpLeoRwndPeriodMs.toNat
  have msLt : ms < net.tcpLeoRwndPeriodMs.toNat := Nat.mod_lt _ (toNat_pos period)
  refine ⟨⟨UInt64.ofNat (ms * 1000000), 0⟩, UInt32.toNat_inj.mp ?_⟩
  rw [phaseMs_toNat period, UInt64.toNat_ofNat_of_lt' (by simp [UInt64.size]; omega),
    Nat.mul_div_cancel _ (by decide), Nat.mod_mod, Nat.mod_add_mod]
  have round : phase.toNat + phaseOffset net + (net.tcpLeoRwndPeriodMs.toNat - phaseOffset net) =
      phase.toNat + net.tcpLeoRwndPeriodMs.toNat := by omega
  rw [round, Nat.add_mod_right, Nat.mod_eq_of_lt inside]

/-! ## The target of the code -/

theorem staticPre_lt (period : net.tcpLeoRwndPeriodMs ≠ 0) :
    (staticPre net).toNat < net.tcpLeoRwndPeriodMs.toNat := by
  have positive := toNat_pos period
  unfold staticPre
  split
  · rw [UInt32.toNat_sub_of_le _ _ (by rwa [UInt32.le_iff_toNat_le]), UInt32.toNat_one]
    omega
  · rename_i short
    rwa [ge_iff_le, UInt32.not_le, UInt32.lt_iff_toNat_lt] at short

theorem staticPreStart_toNat (period : net.tcpLeoRwndPeriodMs ≠ 0) :
    (staticPreStart net).toNat = net.tcpLeoRwndPeriodMs.toNat - (staticPre net).toNat :=
  UInt32.toNat_sub_of_le _ _ (UInt32.le_iff_toNat_le.mpr (staticPre_lt period).le)

/-- Where the recovery segment ends, with the wrap of the 32-bit sum. -/
def recoveryEnds (net : Net) : Nat := (net.tcpLeoRwndOutageMs + net.tcpLeoRwndRecoveryMs).toNat

theorem recoveryEnds_le : recoveryEnds net ≤ net.tcpLeoRwndOutageMs.toNat + net.tcpLeoRwndRecoveryMs.toNat := by
  rw [recoveryEnds, UInt32.toNat_add]
  exact Nat.mod_le _ _

def targetShape (net : Net) (sk : SockView) (normalWin phase : UInt32) : Nat :=
  shapeAt net.tcpLeoRwndPeriodMs.toNat (staticPre net).toNat net.tcpLeoRwndOutageMs.toNat
    net.tcpLeoRwndRecoveryMs.toNat (recoveryEnds net) (net.tcpLeoRwndFastRecovery ≠ 0)
    (tcpLeoRwndMinWindow net sk).toNat normalWin.toNat phase.toNat

theorem phaseMs_checked : tcpLeoRwndPhaseMsChecked net clk = some (tcpLeoRwndPhaseMs net clk) := by
  unfold tcpLeoRwndPhaseMsChecked tcpLeoRwndPhaseMs
  dsimp only
  split
  · rfl
  · rename_i period
    obtain ⟨remainder, below⟩ := @phase_remainder net clk period
    have fits : (clk.realNs / 1000000 % net.tcpLeoRwndPeriodMs.toUInt64).toNat < 2 ^ 32 := by
      rw [remainder]
      exact below.trans net.tcpLeoRwndPeriodMs.toNat_lt
    have million : (1000000 : UInt64) ≠ 0 := by decide
    simp only [divChecked, modChecked, narrowChecked, million, toUInt64_ne_zero period, period, fits, if_true, if_false,
      Option.bind_eq_bind, Option.bind_some]
    split <;> rfl

section Ramp

variable {top floor elapsed span : UInt32} (below : floor ≤ top) (nonzero : span ≠ 0)
  (within : elapsed.toNat ≤ span.toNat)
include below nonzero within

theorem fall_toNat :
    (top - ((top - floor).toUInt64 * elapsed.toUInt64 / span.toUInt64).toUInt32).toNat =
      top.toNat - (top.toNat - floor.toNat) * elapsed.toNat / span.toNat := by
  have delta := UInt32.toNat_sub_of_le _ _ below
  have value := (@scaledChecked_eq (top - floor) _ _ nonzero within).2
  have cut := @scaled_le (top - floor).toNat _ _ within
  rw [UInt32.toNat_sub_of_le _ _ (by rw [UInt32.le_iff_toNat_le, value]; omega), value, delta]

theorem rise_toNat :
    (floor + ((top - floor).toUInt64 * elapsed.toUInt64 / span.toUInt64).toUInt32).toNat =
      floor.toNat + (top.toNat - floor.toNat) * elapsed.toNat / span.toNat := by
  have delta := UInt32.toNat_sub_of_le _ _ below
  have value := (@scaledChecked_eq (top - floor) _ _ nonzero within).2
  have rise := @scaled_le (top - floor).toNat _ _ within
  have fits := top.toNat_lt
  rw [UInt32.le_iff_toNat_le] at below
  rw [UInt32.toNat_add, value, Nat.mod_eq_of_lt (by omega), delta]

end Ramp

section Segments

variable (enabled : net.tcpLeoRwndEnable ≠ 0) (period : net.tcpLeoRwndPeriodMs ≠ 0)
include enabled period

theorem target_shape :
    tcpLeoRwndTargetChecked net clk sk normalWin = some (tcpLeoRwndTarget net clk sk normalWin) ∧
    (tcpLeoRwndTarget net clk sk normalWin).toNat =
      targetShape net sk normalWin (tcpLeoRwndPhaseMs net clk) := by
  have preLt := staticPre_lt period
  have start := staticPreStart_toNat period
  have inside := phaseMs_lt period clk
  have sameStart : net.tcpLeoRwndPeriodMs - staticPre net = staticPreStart net := rfl
  have samePre : (if net.tcpLeoRwndPreMs ≥ net.tcpLeoRwndPeriodMs then net.tcpLeoRwndPeriodMs - 1
      else net.tcpLeoRwndPreMs) = staticPre net := rfl
  unfold tcpLeoRwndTargetChecked tcpLeoRwndTarget targetShape shapeAt
  simp only [if_neg enabled, if_neg period, samePre, sameStart, phaseMs_checked, Option.bind_eq_bind, Option.bind_some]
  rw [← start]
  generalize tcpLeoRwndPhaseMs net clk = phase at inside ⊢
  generalize tcpLeoRwndMinWindow net sk = minWin
  by_cases small : normalWin ≤ minWin
  · rw [if_pos small, if_pos small, if_pos (UInt32.le_iff_toNat_le.mp small)]
    exact ⟨rfl, rfl⟩
  · rw [if_neg small, if_neg small, if_neg (mt UInt32.le_iff_toNat_le.mpr small)]
    have below := UInt32.le_of_lt (UInt32.not_le.mp small)
    by_cases late : staticPreStart net ≤ phase
    · -- PRE_HANDOVER: the segment is not empty, since the phase lies in it
      have late' := UInt32.le_iff_toNat_le.mp late
      have nonzero : staticPre net ≠ 0 := by
        intro zero
        rw [zero, UInt32.toNat_zero] at start
        omega
      have elapsed := UInt32.toNat_sub_of_le _ _ late
      have within : (phase - staticPreStart net).toNat ≤ (staticPre net).toNat := by omega
      rw [if_pos ⟨nonzero, late⟩, if_pos ⟨nonzero, late⟩, if_pos late', (scaledChecked_eq nonzero within).1]
      refine ⟨rfl, ?_⟩
      rw [fall_toNat below nonzero within, elapsed]
    · have late' := mt UInt32.le_iff_toNat_le.mpr late
      have early : ¬ (staticPre net ≠ 0 ∧ phase ≥ staticPreStart net) := fun both => late both.2
      rw [if_neg early, if_neg early, if_neg late']
      by_cases out : phase < net.tcpLeoRwndOutageMs
      · rw [if_pos out, if_pos out, if_pos (UInt32.lt_iff_toNat_lt.mp out)]
        exact ⟨rfl, rfl⟩
      · rw [if_neg out, if_neg out, if_neg (mt UInt32.lt_iff_toNat_lt.mpr out)]
        have past := UInt32.not_lt.mp out
        have elapsed := UInt32.toNat_sub_of_le _ _ past
        have bound := @recoveryEnds_le net
        have segment : net.tcpLeoRwndRecoveryMs ≠ 0 ∧ phase < net.tcpLeoRwndOutageMs + net.tcpLeoRwndRecoveryMs ↔
            net.tcpLeoRwndRecoveryMs.toNat ≠ 0 ∧ phase.toNat < recoveryEnds net := by
          rw [UInt32.lt_iff_toNat_lt, ← recoveryEnds, ne_eq, ne_eq, ← UInt32.toNat_inj, UInt32.toNat_zero]
        by_cases ramp : net.tcpLeoRwndRecoveryMs ≠ 0 ∧ phase < net.tcpLeoRwndOutageMs + net.tcpLeoRwndRecoveryMs
        · rw [if_pos ramp, if_pos ramp, if_pos (segment.mp ramp)]
          by_cases fast : net.tcpLeoRwndFastRecovery ≠ 0
          · rw [if_pos fast, if_pos fast, if_pos (by simpa using fast)]
            exact ⟨rfl, rfl⟩
          · have ends := (segment.mp ramp).2
            have within : (phase - net.tcpLeoRwndOutageMs).toNat ≤ net.tcpLeoRwndRecoveryMs.toNat := by omega
            rw [if_neg fast, if_neg fast, if_neg (by simpa using fast), (scaledChecked_eq ramp.1 within).1]
            refine ⟨rfl, ?_⟩
            rw [rise_toNat below ramp.1 within, elapsed]
        · rw [if_neg ramp, if_neg ramp, if_neg (mt segment.mpr ramp)]
          exact ⟨rfl, rfl⟩

end Segments

/-! ## Where the target lies -/

theorem phase_iff {net : Net} (period : net.tcpLeoRwndPeriodMs ≠ 0) (phase : UInt32) :
    phase < net.tcpLeoRwndPeriodMs ↔ ∃ clk, tcpLeoRwndPhaseMs net clk = phase := by
  constructor
  · exact exists_phaseMs period
  · rintro ⟨clk, rfl⟩
    exact UInt32.lt_iff_toNat_lt.mpr (phaseMs_lt period clk)

/-- Without the controller or without a period the target is the window it is given. -/
theorem target_off {net : Net} {sk : SockView} {normalWin : UInt32}
    (inactive : ¬ (net.tcpLeoRwndEnable ≠ 0 ∧ net.tcpLeoRwndPeriodMs ≠ 0)) (clk : Clock) :
    tcpLeoRwndTargetChecked net clk sk normalWin = some normalWin ∧
      tcpLeoRwndTarget net clk sk normalWin = normalWin := by
  unfold tcpLeoRwndTargetChecked tcpLeoRwndTarget
  dsimp only
  by_cases enabled : net.tcpLeoRwndEnable = 0
  · rw [if_pos enabled, if_pos enabled]
    exact ⟨rfl, rfl⟩
  · have period := not_not.mp fun period => inactive ⟨enabled, period⟩
    rw [if_neg enabled, if_neg enabled, if_pos period, if_pos period]
    exact ⟨rfl, rfl⟩

theorem staticTarget_shape (net : Net) (sk : SockView) (normalWin : UInt32) : StaticShape net sk normalWin := by
  by_cases active : net.tcpLeoRwndEnable ≠ 0 ∧ net.tcpLeoRwndPeriodMs ≠ 0
  · obtain ⟨enabled, period⟩ := active
    have preLt := staticPre_lt period
    have start := staticPreStart_toNat period
    have ends := @recoveryEnds_le net
    have value (clk : Clock) := (@target_shape net clk sk normalWin enabled period).2
    refine ⟨fun clk => ?_, fun clk => ?_, fun clk => (target_shape enabled period).1, phase_iff,
      fun clk clk' le before => ?_, fun clk clk' after le => ?_⟩
    · rw [UInt32.le_iff_toNat_le, UInt32.toNat_min, value]
      exact le_shapeAt preLt.le (phaseMs_lt period clk)
    · rw [UInt32.le_iff_toNat_le, value]
      exact shapeAt_le ends
    · rw [UInt32.le_iff_toNat_le] at le ⊢
      rw [UInt32.lt_iff_toNat_lt, start] at before
      rw [value, value]
      exact shapeAt_rising ends le before
    · rw [UInt32.le_iff_toNat_le] at le ⊢
      rw [UInt32.le_iff_toNat_le, start] at after
      rw [value, value]
      exact shapeAt_falling after le
  · have off (clk : Clock) := @target_off net sk normalWin active clk
    refine ⟨fun clk => ?_, fun clk => ?_, fun clk => ?_, phase_iff, fun clk clk' _ _ => ?_, fun clk clk' _ _ => ?_⟩
    · rw [(off clk).2, UInt32.le_iff_toNat_le, UInt32.toNat_min]
      exact min_le_right _ _
    · rw [(off clk).2]
      exact UInt32.le_refl _
    · rw [(off clk).1, (off clk).2]
    · rw [(off clk).2, (off clk').2]
      exact UInt32.le_refl _
    · rw [(off clk).2, (off clk').2]
      exact UInt32.le_refl _

end StarlinkTcp.Proof

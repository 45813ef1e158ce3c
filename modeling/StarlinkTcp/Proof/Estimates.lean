import StarlinkTcp.Machine.Ewma
import StarlinkTcp.Proof.RateSamples

/-!
# The estimates of the controller

The two averages of the code are one update over the naturals, in words of 32 and of 64 bits. Along a run the
three estimates are averages of a seed and of samples, and they stay between the values they were made from.
-/

namespace StarlinkTcp.Kernel
open Machine

def ewmaShift (shift : UInt32) : Nat := max 1 (min 8 shift.toNat)

/-- The average in words of type `Word`, read as natural numbers by `value`. -/
structure EwmaSound {Word : Type} (value : Word → Nat) (fold : Word → Word → UInt32 → Word) : Prop where
  /-- Nothing wraps: the result is that of exact arithmetic. -/
  exact : ∀ old sample shift, value (fold old sample shift) =
    if value old = 0 then value sample
    else value old - value old / 2 ^ ewmaShift shift + value sample / 2 ^ ewmaShift shift
  between : ∀ old sample shift, value old ≠ 0 →
    min (value old) (value sample) ≤ value (fold old sample shift) ∧
      value (fold old sample shift) ≤ max (value old) (value sample)
  sample_mono : ∀ old sample sample' shift, value sample ≤ value sample' →
    value (fold old sample shift) ≤ value (fold old sample' shift)
  old_mono : ∀ old old' sample shift, value old ≠ 0 → value old ≤ value old' →
    value (fold old sample shift) ≤ value (fold old' sample shift)
  nonzero : ∀ old sample shift, value old ≠ 0 → value (fold old sample shift) ≠ 0
  rises : ∀ old sample shift, value old ≠ 0 → value old ≤ value sample → ∀ n,
    value ((fun x => fold x sample shift)^[n] old) ≤ value ((fun x => fold x sample shift)^[n + 1] old) ∧
      value ((fun x => fold x sample shift)^[n + 1] old) ≤ value sample
  falls : ∀ old sample shift, value old ≠ 0 → value sample ≤ value old → ∀ n,
    value sample ≤ value ((fun x => fold x sample shift)^[n + 1] old) ∧
      value ((fun x => fold x sample shift)^[n + 1] old) ≤ value ((fun x => fold x sample shift)^[n] old)
  settles : ∀ old sample shift, value old ≠ 0 → ∀ n ≥ ((value old : ℤ) - value sample).natAbs,
    (fun x => fold x sample shift)^[n + 1] old = (fun x => fold x sample shift)^[n] old ∧
      ((value ((fun x => fold x sample shift)^[n] old) : ℤ) - value sample).natAbs < 2 ^ ewmaShift shift

structure Estimates where
  recvRateBps : UInt64
  rttBaselineUs : UInt32
  normalRwnd : UInt32

def LeoState.estimates (st : LeoState) : Estimates where
  recvRateBps := st.recvRateBpsEwma
  rttBaselineUs := st.rttBaselineUs
  normalRwnd := st.normalRwndEwma

def Estimates.fold (old sample : Estimates) (shift : UInt32) : Estimates where
  recvRateBps := leoEwmaU64 old.recvRateBps sample.recvRateBps shift
  rttBaselineUs := leoEwmaU32 old.rttBaselineUs sample.rttBaselineUs shift
  normalRwnd := leoEwmaU32 old.normalRwnd sample.normalRwnd shift

structure Spanned (inputs : List Estimates) (estimates : Estimates) : Prop where
  recvRate : Spans (inputs.map fun input => input.recvRateBps.toNat) estimates.recvRateBps.toNat
  rttBaseline : Spans (inputs.map fun input => input.rttBaselineUs.toNat) estimates.rttBaselineUs.toNat
  normalRwnd : Spans (inputs.map fun input => input.normalRwnd.toNat) estimates.normalRwnd.toNat

end StarlinkTcp.Kernel

namespace StarlinkTcp.Proof
open Kernel Machine

/-! ## One update -/

theorem clampShift_toNat (shift : UInt32) : (clampT shift 1 8).toNat = ewmaShift shift := by
  have one : (1 : UInt32).toNat = 1 := rfl
  have eight : (8 : UInt32).toNat = 8 := rfl
  unfold clampT ewmaShift
  split
  · rename_i high
    rw [UInt32.le_iff_toNat_le, eight] at high
    omega
  · rename_i inside
    rw [UInt32.le_iff_toNat_le, eight] at inside
    split
    · rename_i low
      rw [UInt32.le_iff_toNat_le, one] at low
      omega
    · rename_i above
      rw [UInt32.le_iff_toNat_le, one] at above
      omega

theorem ewmaShift_bounds (shift : UInt32) : 1 ≤ ewmaShift shift ∧ ewmaShift shift ≤ 8 := by
  unfold ewmaShift
  omega

theorem two_le_ewmaUnit (shift : UInt32) : 2 ≤ 2 ^ ewmaShift shift :=
  (Nat.pow_le_pow_right (by decide) (ewmaShift_bounds shift).1 : 2 ^ 1 ≤ 2 ^ ewmaShift shift)

theorem ewmaUnit_pos (shift : UInt32) : 0 < 2 ^ ewmaShift shift := Nat.two_pow_pos _

theorem leoEwmaU32_toNat (old sample shift : UInt32) : (leoEwmaU32 old sample shift).toNat =
    if old.toNat = 0 then sample.toNat else ewma (2 ^ ewmaShift shift) old.toNat sample.toNat := by
  unfold leoEwmaU32
  by_cases zero : old = 0
  · rw [if_pos zero, if_pos (by rw [zero]; rfl)]
  · have nonzero : old.toNat ≠ 0 := fun none => zero (UInt32.toNat_inj.mp none)
    rw [if_neg zero, if_neg nonzero]
    have small := (ewmaShift_bounds shift).2
    have part (x : UInt32) : (x >>> clampT shift 1 8).toNat = x.toNat / 2 ^ ewmaShift shift := by
      rw [UInt32.toNat_shiftRight, clampShift_toNat, Nat.mod_eq_of_lt (by omega), Nat.shiftRight_eq_div_pow]
    have within : old >>> clampT shift 1 8 ≤ old := by
      rw [UInt32.le_iff_toNat_le, part]
      exact Nat.div_le_self _ _
    have fits : ewma (2 ^ ewmaShift shift) old.toNat sample.toNat < 2 ^ 32 :=
      (ewma_le (ewmaUnit_pos shift)).trans_lt (max_lt old.toNat_lt sample.toNat_lt)
    dsimp only
    rw [UInt32.toNat_add, UInt32.toNat_sub_of_le _ _ within, part, part]
    exact Nat.mod_eq_of_lt fits

theorem leoEwmaU64_toNat (old sample : UInt64) (shift : UInt32) : (leoEwmaU64 old sample shift).toNat =
    if old.toNat = 0 then sample.toNat else ewma (2 ^ ewmaShift shift) old.toNat sample.toNat := by
  unfold leoEwmaU64
  by_cases zero : old = 0
  · rw [if_pos zero, if_pos (by rw [zero]; rfl)]
  · have nonzero : old.toNat ≠ 0 := fun none => zero (UInt64.toNat_inj.mp none)
    rw [if_neg zero, if_neg nonzero]
    have small := (ewmaShift_bounds shift).2
    have part (x : UInt64) : (x >>> (clampT shift 1 8).toUInt64).toNat = x.toNat / 2 ^ ewmaShift shift := by
      rw [UInt64.toNat_shiftRight, UInt32.toNat_toUInt64, clampShift_toNat, Nat.mod_eq_of_lt (by omega),
        Nat.shiftRight_eq_div_pow]
    have within : old >>> (clampT shift 1 8).toUInt64 ≤ old := by
      rw [UInt64.le_iff_toNat_le, part]
      exact Nat.div_le_self _ _
    have fits : ewma (2 ^ ewmaShift shift) old.toNat sample.toNat < 2 ^ 64 :=
      (ewma_le (ewmaUnit_pos shift)).trans_lt (max_lt old.toNat_lt sample.toNat_lt)
    dsimp only
    rw [UInt64.toNat_add, UInt64.toNat_sub_of_le _ _ within, part, part]
    exact Nat.mod_eq_of_lt fits

section Sound

variable {Word : Type} {value : Word → Nat} {fold : Word → Word → UInt32 → Word}
  (exact : ∀ old sample shift, value (fold old sample shift) =
    if value old = 0 then value sample else ewma (2 ^ ewmaShift shift) (value old) (value sample))
include exact

theorem fold_iterate {old : Word} (sample : Word) (shift : UInt32) (nonzero : value old ≠ 0) (n : Nat) :
    value ((fun x => fold x sample shift)^[n] old) =
      (fun x => ewma (2 ^ ewmaShift shift) x (value sample))^[n] (value old) ∧
    value ((fun x => fold x sample shift)^[n] old) ≠ 0 := by
  induction n with
  | zero => exact ⟨rfl, nonzero⟩
  | succ n ih =>
      obtain ⟨same, alive⟩ := ih
      rw [Function.iterate_succ_apply', Function.iterate_succ_apply', exact, if_neg alive, ← same]
      exact ⟨rfl, ewma_ne_zero (two_le_ewmaUnit shift) alive⟩

theorem ewmaSound_of_exact (injective : Function.Injective value) : EwmaSound value fold where
  exact := exact
  between old sample shift nonzero := by
    rw [exact, if_neg nonzero]
    exact ⟨le_ewma (ewmaUnit_pos shift), ewma_le (ewmaUnit_pos shift)⟩
  sample_mono old sample sample' shift le := by
    rw [exact, exact]
    split
    · exact le
    · exact ewma_mono (ewmaUnit_pos shift) le_rfl le
  old_mono old old' sample shift nonzero le := by
    rw [exact, exact, if_neg nonzero, if_neg (by omega)]
    exact ewma_mono (ewmaUnit_pos shift) le le_rfl
  nonzero old sample shift nonzero := by
    rw [exact, if_neg nonzero]
    exact ewma_ne_zero (two_le_ewmaUnit shift) nonzero
  rises old sample shift nonzero below n := by
    rw [(fold_iterate exact sample shift nonzero n).1, (fold_iterate exact sample shift nonzero (n + 1)).1,
      Function.iterate_succ_apply']
    exact ewma_rises (ewmaUnit_pos shift) _
      ((ewma_iterate_between (ewmaUnit_pos shift) _ _ n).1 below)
  falls old sample shift nonzero above n := by
    rw [(fold_iterate exact sample shift nonzero n).1, (fold_iterate exact sample shift nonzero (n + 1)).1,
      Function.iterate_succ_apply']
    exact ewma_falls (ewmaUnit_pos shift) _
      ((ewma_iterate_between (ewmaUnit_pos shift) _ _ n).2 above)
  settles old sample shift nonzero n enough := by
    constructor
    · apply injective
      rw [(fold_iterate exact sample shift nonzero n).1, (fold_iterate exact sample shift nonzero (n + 1)).1]
      exact ewma_stays (ewmaUnit_pos shift) _ enough
    · rw [(fold_iterate exact sample shift nonzero n).1]
      exact natAbs_lt_of_div_eq (ewmaUnit_pos shift) (ewma_settled (ewmaUnit_pos shift) _ enough)

end Sound

/-! ## One callback -/

theorem spans_fold {Word : Type} {value : Word → Nat} {fold : Word → Word → UInt32 → Word}
    (sound : EwmaSound value fold) {values : List Nat} {old : Word} (spans : Spans values (value old))
    (sample : Word) (shift : UInt32) : Spans (values ++ [value sample]) (value (fold old sample shift)) := by
  by_cases zero : value old = 0
  · rw [sound.exact, if_pos zero]
    exact .of_last _ _
  · obtain ⟨lower, upper⟩ := sound.between old sample shift zero
    obtain ⟨⟨low, inLow, below⟩, high, inHigh, above⟩ := spans
    constructor
    · rcases min_le_iff.mp lower with le | le
      · exact ⟨low, List.mem_append_left _ inLow, below.trans le⟩
      · exact ⟨value sample, by simp, le⟩
    · rcases le_max_iff.mp upper with le | le
      · exact ⟨high, List.mem_append_left _ inHigh, le.trans above⟩
      · exact ⟨value sample, by simp, le⟩

theorem ewmaU32_sound : EwmaSound UInt32.toNat leoEwmaU32 :=
  ewmaSound_of_exact leoEwmaU32_toNat fun _ _ => UInt32.toNat_inj.mp

theorem ewmaU64_sound : EwmaSound UInt64.toNat leoEwmaU64 :=
  ewmaSound_of_exact leoEwmaU64_toNat fun _ _ => UInt64.toNat_inj.mp

theorem spanned_append {inputs more : List Estimates} {estimates : Estimates}
    (spanned : Spanned inputs estimates) : Spanned (inputs ++ more) estimates := by
  constructor
  · simpa only [List.map_append] using spanned.recvRate.append_left
  · simpa only [List.map_append] using spanned.rttBaseline.append_left
  · simpa only [List.map_append] using spanned.normalRwnd.append_left

theorem spanned_seed (inputs : List Estimates) (seed : Estimates) : Spanned (inputs ++ [seed]) seed := by
  constructor
  · simpa using Spans.of_last (inputs.map fun input => input.recvRateBps.toNat) seed.recvRateBps.toNat
  · simpa using Spans.of_last (inputs.map fun input => input.rttBaselineUs.toNat) seed.rttBaselineUs.toNat
  · simpa using Spans.of_last (inputs.map fun input => input.normalRwnd.toNat) seed.normalRwnd.toNat

theorem spanned_fold {inputs : List Estimates} {estimates : Estimates} (spanned : Spanned inputs estimates)
    (sample : Estimates) (shift : UInt32) : Spanned (inputs ++ [sample]) (estimates.fold sample shift) := by
  constructor
  · rw [List.map_append]
    exact spans_fold ewmaU64_sound spanned.recvRate sample.recvRateBps shift
  · rw [List.map_append]
    exact spans_fold ewmaU32_sound spanned.rttBaseline sample.rttBaselineUs shift
  · rw [List.map_append]
    exact spans_fold ewmaU32_sound spanned.normalRwnd sample.normalRwnd shift

namespace Callback

/-- The estimates that a callback on a fresh socket starts from. -/
def seed (c : Callback) : Estimates where
  recvRateBps := leoFallbackRateBps c.net
  rttBaselineUs := leoReadReceiverRttUs c.net c.sk
  normalRwnd := c.normalWin

def sample (c : Callback) (st : LeoState) : Estimates where
  recvRateBps :=
    if c.sk.bytesReceived - (c.ready st).lastBytesReceived ≠ 0 then
      (c.sk.bytesReceived - (c.ready st).lastBytesReceived) * 1000000 /
        (c.monoUs - (c.ready st).lastSampleUs)
    else 0
  rttBaselineUs := leoReadReceiverRttUs c.net c.sk
  normalRwnd := c.normalWin

/-- The seed and the sample that a callback brings in. -/
def brings (c : Callback) (st : LeoState) : List Estimates :=
  (if c.runs = true ∧ st.initialized = false then [c.seed] else []) ++
    if c.foldsRate st then [c.sample st] else []

variable {c : Callback} {st : LeoState}

theorem ready_estimates :
    (c.ready st).estimates = if st.initialized = false then c.seed else st.estimates := by
  unfold ready leoEnsureInitialized
  split
  · rename_i fresh
    simp only [leoUpdateMeasurements, fresh, if_true]
    rfl
  · rfl

theorem estimates_of_measurements {st' : LeoState} (same : st.measurements = st'.measurements) :
    st.estimates = st'.estimates := by
  simp only [LeoState.measurements, LeoMeasurements.mk.injEq] at same
  simp only [LeoState.estimates, same]

theorem updated_estimates {net : Net} {sk : SockView} {normalWin : UInt32} {nowUs : UInt64} {phase : TcpLeoPhase}
    (initialized : st.initialized = true)
    (due : (max 1 net.tcpLeoDynamicSampleMs.toUInt32).toUInt64 * 1000 ≤ nowUs - st.lastSampleUs) :
    (leoUpdateMeasurements net sk normalWin nowUs phase st).estimates =
      if phase = .normal then
        st.estimates.fold
          { recvRateBps :=
              if sk.bytesReceived - st.lastBytesReceived ≠ 0 then
                (sk.bytesReceived - st.lastBytesReceived) * 1000000 / (nowUs - st.lastSampleUs) else 0
            rttBaselineUs := leoReadReceiverRttUs net sk
            normalRwnd := normalWin } net.tcpLeoDynamicEwmaShift.toUInt32
      else st.estimates := by
  unfold leoUpdateMeasurements
  dsimp only
  rw [if_neg (by simp [initialized]), if_neg (UInt64.not_lt.mpr due)]
  split
  · rfl
  · rfl

theorem report_estimates (runs : c.runs = true) : (c.report st).state.estimates =
    if c.foldsRate st then
      (c.ready st).estimates.fold (c.sample st) c.net.tcpLeoDynamicEwmaShift.toUInt32
    else (c.ready st).estimates := by
  rw [estimates_of_measurements (report_measurements runs)]
  have same := @phased_measurements c st
  have phased := estimates_of_measurements same
  simp only [LeoState.measurements, LeoMeasurements.mk.injEq] at same
  by_cases due : c.sampleUs ≤ c.monoUs - (c.ready st).lastSampleUs
  · have sampled := @updated_estimates _ c.net c.sk c.normalWin c.monoUs (c.phase st)
      (@phased_initialized c st) (by rw [same.1]; exact due)
    rw [same.1, same.2.1, phased] at sampled
    refine sampled.trans ?_
    simp only [foldsRate, takesSample, runs, due, true_and, decide_true, decide_eq_true_eq]
    rfl
  · rw [if_neg (by simp [foldsRate, takesSample, due])]
    exact estimates_of_measurements (measured_early due)

theorem step_spanned {inputs : List Estimates}
    (spanned : st = tcpLeoDynamicInit ∨ st.initialized = true ∧ Spanned inputs st.estimates) :
    step st c = tcpLeoDynamicInit ∨
      (step st c).initialized = true ∧ Spanned (inputs ++ c.brings st) (step st c).estimates := by
  cases runs : c.runs
  · rw [step_of_not_runs runs]
    exact spanned.imp id fun after => ⟨after.1, spanned_append after.2⟩
  · right
    rw [step_of_runs runs]
    refine ⟨report_initialized runs st, ?_⟩
    -- a fresh socket takes the seed first
    have ready : Spanned (inputs ++ if c.runs = true ∧ st.initialized = false then [c.seed] else [])
        (c.ready st).estimates := by
      rw [ready_estimates, runs]
      rcases spanned with rfl | ⟨initialized, spanned⟩
      · exact spanned_seed _ _
      · simpa [initialized] using spanned
    rw [report_estimates runs, brings, ← List.append_assoc]
    by_cases folds : c.foldsRate st = true
    · rw [if_pos folds, if_pos folds]
      exact spanned_fold ready _ _
    · rw [if_neg folds, if_neg folds]
      exact spanned_append ready

end Callback

/-! ## Runs -/

/-- The seed and the samples of the first `n` callbacks. -/
def broughtIn (callbacks : Nat → Callback) : Nat → List Estimates
  | 0 => []
  | n + 1 => broughtIn callbacks n ++ (callbacks n).brings (controllerRun callbacks n)

theorem controllerRun_spanned (callbacks : Nat → Callback) (n : Nat) :
    controllerRun callbacks n = tcpLeoDynamicInit ∨
      (controllerRun callbacks n).initialized = true ∧
        Spanned (broughtIn callbacks n) (controllerRun callbacks n).estimates := by
  induction n with
  | zero => exact .inl rfl
  | succ n ih => exact Callback.step_spanned ih

theorem ewma_estimates_sound :
    EwmaSound UInt32.toNat leoEwmaU32 ∧ EwmaSound UInt64.toNat leoEwmaU64 ∧
      ∀ (callbacks : Nat → Callback) (n : Nat), controllerRun callbacks n = tcpLeoDynamicInit ∨
        Spanned (broughtIn callbacks n) (controllerRun callbacks n).estimates :=
  ⟨ewmaU32_sound, ewmaU64_sound, fun callbacks n => (controllerRun_spanned callbacks n).imp id And.right⟩

end StarlinkTcp.Proof

import StarlinkTcp.Proof.Estimates

/-!
# The rate estimate and the link

Each rate sample divides the bytes since the last sample by the time since the last sample, and both ends
are one callback of the run. If the stream grows at the rates of the link between any two callbacks, every
sample is such a rate, and the estimate and the rate of every snapshot stay among them.
-/

namespace StarlinkTcp.Proof
open Kernel Machine

/-- Between two callbacks at different times the stream grows by `low` to `high` bytes a second, and no
fallback rate lies outside. -/
structure LinkRate (callbacks : Nat → Callback) (low high : Nat) : Prop where
  clock : ∀ n, (callbacks n).clk.monoNs ≤ (callbacks (n + 1)).clk.monoNs
  stream : ∀ n, (callbacks n).sk.bytesReceived ≤ (callbacks (n + 1)).sk.bytesReceived
  grows : ∀ m n, m < n → (callbacks m).monoUs < (callbacks n).monoUs →
    low * ((callbacks n).monoUs.toNat - (callbacks m).monoUs.toNat) ≤
        ((callbacks n).sk.bytesReceived.toNat - (callbacks m).sk.bytesReceived.toNat) * 1000000 ∧
      ((callbacks n).sk.bytesReceived.toNat - (callbacks m).sk.bytesReceived.toNat) * 1000000 ≤
        high * ((callbacks n).monoUs.toNat - (callbacks m).monoUs.toNat)
  fallback : ∀ n, low ≤ (leoFallbackRateBps (callbacks n).net).toNat ∧
    (leoFallbackRateBps (callbacks n).net).toNat ≤ high
  small : ∀ n, (callbacks n).sk.bytesReceived.toNat < 2 ^ 44

/-- The last sample was taken, or the socket set up, by callback `m`. -/
def SampledAt (callbacks : Nat → Callback) (m : Nat) (st : LeoState) : Prop :=
  st.lastSampleUs = (callbacks m).monoUs ∧ st.lastBytesReceived = (callbacks m).sk.bytesReceived

namespace Callback

variable {c : Callback} {st : LeoState}

theorem sampleUs_pos (c : Callback) : 0 < c.sampleUs.toNat := by
  have positive : 1 ≤ (max 1 c.net.tcpLeoDynamicSampleMs.toUInt32).toNat := by
    rw [UInt32.toNat_max]
    exact Nat.le_max_left _ _
  unfold sampleUs
  generalize max 1 c.net.tcpLeoDynamicSampleMs.toUInt32 = sampleMs at positive ⊢
  have bound := sampleMs.toNat_lt
  simp only [UInt64.toNat_mul, UInt32.toNat_toUInt64, UInt64.reduceToNat]
  rw [Nat.mod_eq_of_lt (by omega)]
  exact Nat.mul_pos positive (by decide)

theorem report_lastBytesReceived (runs : c.runs = true) :
    (c.report st).state.lastBytesReceived =
      if c.takesSample st then c.sk.bytesReceived else (c.ready st).lastBytesReceived := by
  have kept := congrArg LeoMeasurements.lastBytesReceived (@report_measurements c st runs)
  change (c.report st).state.lastBytesReceived = (c.measured st).lastBytesReceived at kept
  have same := congrArg LeoMeasurements.lastSampleUs (@phased_measurements c st)
  change (leoPhase c.net c.nowUs (c.decided st)).2.2.lastSampleUs = (c.ready st).lastSampleUs at same
  rw [kept]
  by_cases due : c.sampleUs ≤ c.monoUs - (c.ready st).lastSampleUs
  · rw [if_pos (by simp [takesSample, runs, due])]
    exact (leoUpdateMeasurements_due phased_initialized (by rw [same]; exact due)).2
  · rw [if_neg (by simp [takesSample, due])]
    exact congrArg LeoMeasurements.lastBytesReceived (measured_early due)

theorem ready_sampledAt {callbacks : Nat → Callback} {n : Nat} {st : LeoState}
    (sampled : st.initialized = true → ∃ m < n, SampledAt callbacks m st) :
    ∃ m ≤ n, SampledAt callbacks m ((callbacks n).ready st) ∧ (m < n ∨ st.initialized = false) := by
  cases initialized : st.initialized
  · refine ⟨n, le_rfl, ⟨ready_lastSampleUs_of_fresh initialized, ?_⟩, .inr rfl⟩
    simp [ready, leoEnsureInitialized, leoUpdateMeasurements, initialized]
  · obtain ⟨m, lt, at_m⟩ := sampled initialized
    rw [ready_of_initialized initialized]
    exact ⟨m, lt.le, at_m, .inl lt⟩

end Callback

theorem controllerRun_sampledAt (callbacks : Nat → Callback) (n : Nat) :
    (controllerRun callbacks n).initialized = true → ∃ m < n, SampledAt callbacks m (controllerRun callbacks n) := by
  induction n with
  | zero => simp [controllerRun, runState, tcpLeoDynamicInit]
  | succ n ih =>
      intro initialized
      cases runs : (callbacks n).runs
      · rw [controllerRun_of_not_runs runs] at initialized ⊢
        obtain ⟨m, lt, sampled⟩ := ih initialized
        exact ⟨m, Nat.lt_succ_of_lt lt, sampled⟩
      · rw [controllerRun_of_runs runs]
        obtain ⟨m, le, sampled, -⟩ := Callback.ready_sampledAt ih
        by_cases takes : (callbacks n).takesSample (controllerRun callbacks n) = true
        · refine ⟨n, Nat.lt_succ_self n, ?_, ?_⟩
          · rw [Callback.report_lastSampleUs runs, if_pos takes]
          · rw [Callback.report_lastBytesReceived runs, if_pos takes]
        · refine ⟨m, Nat.lt_succ_of_le le, ?_, ?_⟩
          · rw [Callback.report_lastSampleUs runs, if_neg takes]
            exact sampled.1
          · rw [Callback.report_lastBytesReceived runs, if_neg takes]
            exact sampled.2

section Link

variable {callbacks : Nat → Callback} {low high : Nat} (link : LinkRate callbacks low high)
include link

theorem bytesReceived_le {m n : Nat} (le : m ≤ n) :
    (callbacks m).sk.bytesReceived.toNat ≤ (callbacks n).sk.bytesReceived.toNat :=
  monotone_nat_of_le_succ (f := fun n => (callbacks n).sk.bytesReceived.toNat)
    (fun n => UInt64.le_iff_toNat_le.mp (link.stream n)) le

/-- A sample that is folded in is a rate of the link. -/
theorem sample_within {n : Nat} (folds : (callbacks n).foldsRate (controllerRun callbacks n) = true) :
    low ≤ ((callbacks n).sample (controllerRun callbacks n)).recvRateBps.toNat ∧
      ((callbacks n).sample (controllerRun callbacks n)).recvRateBps.toNat ≤ high := by
  have due := (Callback.takesSample_iff.mp (Callback.foldsRate_iff.mp folds).1).2
  have positive := Callback.sampleUs_pos (callbacks n)
  obtain ⟨m, le, ⟨time, bytes⟩, -⟩ := Callback.ready_sampledAt (controllerRun_sampledAt callbacks n)
  have order := monoUs_mono link.clock le
  have grown := bytesReceived_le link le
  rw [UInt64.le_iff_toNat_le, time, UInt64.toNat_sub_of_le _ _ order] at due
  rw [UInt64.le_iff_toNat_le] at order
  have lt : m < n := by
    rcases Nat.eq_or_lt_of_le le with rfl | lt
    · omega
    · exact lt
  have later : (callbacks m).monoUs < (callbacks n).monoUs := by
    rw [UInt64.lt_iff_toNat_lt]
    omega
  obtain ⟨lower, upper⟩ := link.grows m n lt later
  have elapsed : 0 < (callbacks n).monoUs.toNat - (callbacks m).monoUs.toNat := by omega
  have value : ((callbacks n).sample (controllerRun callbacks n)).recvRateBps.toNat =
      ((callbacks n).sk.bytesReceived.toNat - (callbacks m).sk.bytesReceived.toNat) * 1000000 /
        ((callbacks n).monoUs.toNat - (callbacks m).monoUs.toNat) := by
    have delta : ((callbacks n).sk.bytesReceived - (callbacks m).sk.bytesReceived).toNat =
        (callbacks n).sk.bytesReceived.toNat - (callbacks m).sk.bytesReceived.toNat :=
      UInt64.toNat_sub_of_le _ _ (UInt64.le_iff_toNat_le.mpr grown)
    simp only [Callback.sample, time, bytes]
    split
    · rw [UInt64.toNat_div, UInt64.toNat_mul, delta, UInt64.toNat_sub_of_le _ _ (UInt64.le_iff_toNat_le.mpr order)]
      have fits : ((callbacks n).sk.bytesReceived.toNat - (callbacks m).sk.bytesReceived.toNat) * 1000000 <
          2 ^ 64 := by
        have small := link.small n
        omega
      exact congrArg (· / _) (Nat.mod_eq_of_lt fits)
    · rename_i none
      rw [not_not, ← UInt64.toNat_inj, delta] at none
      simp [none]
  rw [value]
  exact ⟨(Nat.le_div_iff_mul_le elapsed).mpr lower, Nat.div_le_of_le_mul (upper.trans_eq (Nat.mul_comm _ _))⟩

theorem broughtIn_within {n : Nat} {input : Estimates} (member : input ∈ broughtIn callbacks n) :
    low ≤ input.recvRateBps.toNat ∧ input.recvRateBps.toNat ≤ high := by
  induction n with
  | zero => cases member
  | succ n ih =>
      rw [broughtIn, List.mem_append] at member
      rcases member with before | now
      · exact ih before
      · rw [Callback.brings, List.mem_append] at now
        rcases now with seed | sample
        · split at seed
          · rw [List.mem_singleton.mp seed]
            exact link.fallback n
          · cases seed
        · split at sample
          · rename_i folds
            rw [List.mem_singleton.mp sample]
            exact sample_within link folds
          · cases sample

theorem estimate_within (n : Nat) (initialized : (controllerRun callbacks n).initialized = true) :
    low ≤ (controllerRun callbacks n).recvRateBpsEwma.toNat ∧
      (controllerRun callbacks n).recvRateBpsEwma.toNat ≤ high := by
  rcases controllerRun_spanned callbacks n with fresh | ⟨-, spanned⟩
  · rw [fresh] at initialized
    cases initialized
  · obtain ⟨⟨least, inLeast, below⟩, most, inMost, above⟩ := spanned.recvRate
    obtain ⟨first, memberLeast, rfl⟩ := List.mem_map.mp inLeast
    obtain ⟨last, memberMost, rfl⟩ := List.mem_map.mp inMost
    exact ⟨(broughtIn_within link memberLeast).1.trans below, above.trans (broughtIn_within link memberMost).2⟩

theorem ready_within (n : Nat) :
    low ≤ ((callbacks n).ready (controllerRun callbacks n)).recvRateBpsEwma.toNat ∧
      ((callbacks n).ready (controllerRun callbacks n)).recvRateBpsEwma.toNat ≤ high := by
  have same : ((callbacks n).ready (controllerRun callbacks n)).recvRateBpsEwma = _ :=
    congrArg Estimates.recvRateBps (@Callback.ready_estimates (callbacks n) (controllerRun callbacks n))
  rw [same]
  split
  · exact link.fallback n
  · rename_i initialized
    rw [Bool.not_eq_false] at initialized
    exact estimate_within link n initialized

theorem frozenRate_within {n : Nat} (frozen : (controllerRun callbacks n).frozen = true) :
    low ≤ (controllerRun callbacks n).frozenRecvRateBps.toNat ∧
      (controllerRun callbacks n).frozenRecvRateBps.toNat ≤ high := by
  obtain ⟨i, lt, held⟩ := heldFrom_of_frozen frozen
  have runs := freezes_runs held.1
  have snapshot := (held.snapshot_eq lt).trans
    ((congrArg LeoState.snapshot (controllerRun_of_runs runs)).trans
      (Callback.report_snapshot runs (controllerRun callbacks i)))
  have same : (controllerRun callbacks n).frozenRecvRateBps = _ := congrArg LeoSnapshot.recvRateBps snapshot
  rcases Callback.decided_cases runs (controllerRun callbacks i) with ⟨-, froze⟩ | ⟨idle, -⟩ | ⟨idle, -⟩
  · have kept := congrArg LeoMeasurements.recvRateBpsEwma (@leoRelease_measurements (callbacks i).net
      (callbacks i).nowUs ((callbacks i).ready (controllerRun callbacks i)))
    simp only [LeoState.measurements] at kept
    rw [same, froze]
    simp only [leoFreezeParameters, LeoState.snapshot, leoCycleRateBps, kept]
    split
    · exact ready_within link i
    · exact link.fallback i
  · simp [held.1] at idle
  · simp [held.1] at idle

end Link

/-- On a link whose rate stays between two bounds, and with fallback rates between them, the estimate of
every run and the rate frozen into every snapshot lie between them too. The product of a sample stays
within 64 bits because the socket has received fewer than 2^44 bytes, over 17 TB. -/
theorem rate_within_link (callbacks : Nat → Callback) (low high : Nat) (link : LinkRate callbacks low high)
    (n : Nat) :
    ((controllerRun callbacks n).initialized = true →
      low ≤ (controllerRun callbacks n).recvRateBpsEwma.toNat ∧
        (controllerRun callbacks n).recvRateBpsEwma.toNat ≤ high) ∧
    ((controllerRun callbacks n).frozen = true →
      low ≤ (controllerRun callbacks n).frozenRecvRateBps.toNat ∧
        (controllerRun callbacks n).frozenRecvRateBps.toNat ≤ high) ∧
    ((callbacks n).foldsRate (controllerRun callbacks n) = true →
      low ≤ ((callbacks n).sample (controllerRun callbacks n)).recvRateBps.toNat ∧
        ((callbacks n).sample (controllerRun callbacks n)).recvRateBps.toNat ≤ high) :=
  ⟨estimate_within link n, frozenRate_within link, sample_within link⟩

/-- Ten megabytes a second: one sample after 100 ms. -/
def steadyCallbacks : Nat → Callback
  | 0 => ⟨tcpSkInit, ⟨20000000000, 0⟩, downloadView 0 7, 1000000⟩
  | _ + 1 => ⟨tcpSkInit, ⟨20100000000, 100000000⟩, downloadView 1000000 7, 1000000⟩

theorem steadyCallbacks_later (n : Nat) : steadyCallbacks (n + 1) = steadyCallbacks 1 := rfl

theorem steadyCallbacks_link : LinkRate steadyCallbacks 10000000 31250000 where
  clock n := by
    cases n with
    | zero => decide
    | succ n => exact UInt64.le_refl _
  stream n := by
    cases n with
    | zero => decide
    | succ n => exact UInt64.le_refl _
  grows m n lt later := by
    obtain ⟨n, rfl⟩ := Nat.exists_eq_add_one_of_ne_zero (Nat.ne_of_gt (Nat.zero_lt_of_lt lt))
    cases m with
    | zero =>
        rw [steadyCallbacks_later]
        decide
    | succ m => exact absurd later (UInt64.lt_irrefl _)
  fallback n := by
    cases n with
    | zero => decide
    | succ n =>
        rw [steadyCallbacks_later]
        decide
  small n := by
    cases n with
    | zero => decide
    | succ n =>
        rw [steadyCallbacks_later]
        decide

theorem rate_within_link_steady :
    (steadyCallbacks 1).foldsRate (controllerRun steadyCallbacks 1) = true ∧
    10000000 ≤ (controllerRun steadyCallbacks 2).recvRateBpsEwma.toNat := by
  have within := rate_within_link steadyCallbacks 10000000 31250000 steadyCallbacks_link 2
  exact ⟨by decide, (within.1 (by decide)).1⟩

end StarlinkTcp.Proof

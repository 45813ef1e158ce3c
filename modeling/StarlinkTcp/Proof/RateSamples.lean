import StarlinkTcp.Proof.PhaseOrder

/-!
# What a rate sample averages over

`leo_update_measurements` averages the bytes received since `last_sample_us`, and it asks for the phase
of the callback that takes the sample only. A callback in a controlled phase that comes too early for a
sample leaves `last_sample_us` behind itself, so the next sample covers it.
-/

namespace StarlinkTcp.Proof
open Kernel Machine

namespace Callback

def monoUs (c : Callback) : UInt64 := leoNowMonoUs c.clk

def sampleUs (c : Callback) : UInt64 := (max 1 c.net.tcpLeoDynamicSampleMs.toUInt32).toUInt64 * 1000

def takesSample (c : Callback) (st : LeoState) : Bool :=
  c.runs ∧ c.sampleUs ≤ c.monoUs - (c.ready st).lastSampleUs

def phase (c : Callback) (st : LeoState) : TcpLeoPhase := (c.report st).phase

def foldsRate (c : Callback) (st : LeoState) : Bool := c.takesSample st ∧ c.phase st = .normal

/-- A controlled callback that comes after the last sample and too early for the next. -/
def hidesControl (c : Callback) (st : LeoState) : Bool :=
  c.runs ∧ c.phase st ≠ .normal ∧ (c.ready st).lastSampleUs < c.monoUs ∧ c.takesSample st = false

end Callback

/-! ## One callback -/

section Measure

variable {net : Net} {sk : SockView} {normalWin : UInt32} {nowUs : UInt64} {phase : TcpLeoPhase} {st : LeoState}

theorem leoRelease_measurements : (leoRelease net nowUs st).measurements = st.measurements := by
  unfold leoRelease
  split <;> rfl

theorem leoMaybeFreeze_measurements :
    (leoMaybeFreeze net sk normalWin nowUs st).measurements = st.measurements := by
  unfold leoMaybeFreeze
  dsimp only
  split_ifs
  · rfl
  · exact leoRelease_measurements
  · exact leoRelease_measurements

theorem leoUpdateMeasurements_early (initialized : st.initialized = true)
    (early : nowUs - st.lastSampleUs < (max 1 net.tcpLeoDynamicSampleMs.toUInt32).toUInt64 * 1000) :
    leoUpdateMeasurements net sk normalWin nowUs phase st = st := by
  unfold leoUpdateMeasurements
  dsimp only
  rw [if_neg (by simp [initialized]), if_pos early]

theorem leoUpdateMeasurements_due (initialized : st.initialized = true)
    (due : (max 1 net.tcpLeoDynamicSampleMs.toUInt32).toUInt64 * 1000 ≤ nowUs - st.lastSampleUs) :
    (leoUpdateMeasurements net sk normalWin nowUs phase st).lastSampleUs = nowUs ∧
    (leoUpdateMeasurements net sk normalWin nowUs phase st).lastBytesReceived = sk.bytesReceived := by
  unfold leoUpdateMeasurements
  dsimp only
  rw [if_neg (by simp [initialized]), if_neg (UInt64.not_lt.mpr due)]
  split
  · exact ⟨rfl, rfl⟩
  · exact ⟨rfl, rfl⟩

end Measure

namespace Callback

variable {c : Callback} {st : LeoState}

theorem takesSample_iff :
    c.takesSample st = true ↔ c.runs = true ∧ c.sampleUs ≤ c.monoUs - (c.ready st).lastSampleUs := by
  simp [takesSample]

theorem foldsRate_iff : c.foldsRate st = true ↔ c.takesSample st = true ∧ c.phase st = .normal := by
  simp [foldsRate]

theorem hidesControl_iff : c.hidesControl st = true ↔ c.runs = true ∧ c.phase st ≠ .normal ∧
    (c.ready st).lastSampleUs < c.monoUs ∧ c.takesSample st = false := by
  simp [hidesControl]

theorem phased_measurements :
    (leoPhase c.net c.nowUs (c.decided st)).2.2.measurements = (c.ready st).measurements :=
  leoPhase_frame.2.2.1.trans leoMaybeFreeze_measurements

theorem phased_initialized : (leoPhase c.net c.nowUs (c.decided st)).2.2.initialized = true := by
  rw [leoPhase_frame.2.2.2]
  exact decided_initialized

theorem report_measurements (runs : c.runs = true) :
    (c.report st).state.measurements = (c.measured st).measurements := by
  rw [report_state runs st]
  split <;> rfl

theorem measured_early (early : ¬ c.sampleUs ≤ c.monoUs - (c.ready st).lastSampleUs) :
    (c.measured st).measurements = (c.ready st).measurements := by
  have same := congrArg LeoMeasurements.lastSampleUs (@phased_measurements c st)
  change (leoPhase c.net c.nowUs (c.decided st)).2.2.lastSampleUs = (c.ready st).lastSampleUs at same
  rw [← phased_measurements, measured, leoUpdateMeasurements_early phased_initialized]
  rw [same]
  exact UInt64.not_le.mp early

theorem report_lastSampleUs (runs : c.runs = true) :
    (c.report st).state.lastSampleUs = if c.takesSample st then c.monoUs else (c.ready st).lastSampleUs := by
  have kept := congrArg LeoMeasurements.lastSampleUs (@report_measurements c st runs)
  change (c.report st).state.lastSampleUs = (c.measured st).lastSampleUs at kept
  have same := congrArg LeoMeasurements.lastSampleUs (@phased_measurements c st)
  change (leoPhase c.net c.nowUs (c.decided st)).2.2.lastSampleUs = (c.ready st).lastSampleUs at same
  rw [kept]
  by_cases due : c.sampleUs ≤ c.monoUs - (c.ready st).lastSampleUs
  · rw [if_pos (by simp [takesSample, runs, due])]
    exact (leoUpdateMeasurements_due phased_initialized (by rw [same]; exact due)).1
  · rw [if_neg (by simp [takesSample, due])]
    exact congrArg LeoMeasurements.lastSampleUs (measured_early due)

theorem ready_lastSampleUs_of_fresh (fresh : st.initialized = false) :
    (c.ready st).lastSampleUs = c.monoUs := by
  simp [ready, leoEnsureInitialized, leoUpdateMeasurements, fresh, monoUs]

end Callback

/-! ## Runs -/

/-- Every callback after the last sample and up to one that folds a sample was in NORMAL. -/
def RateOfNormal (callbacks : Nat → Callback) : Prop :=
  ∀ n, (callbacks n).foldsRate (controllerRun callbacks n) = true → ∀ k ≤ n, (callbacks k).runs = true →
    (controllerRun callbacks n).lastSampleUs < (callbacks k).monoUs →
    (callbacks k).phase (controllerRun callbacks k) = .normal

/-- The first sample after a controlled callback that took none is taken in a controlled phase again. -/
def ControlSampled (callbacks : Nat → Callback) : Prop :=
  ∀ k n, k < n → (callbacks k).hidesControl (controllerRun callbacks k) = true →
    (callbacks n).takesSample (controllerRun callbacks n) = true →
    (∀ j, k < j → j < n → (callbacks j).takesSample (controllerRun callbacks j) = false) →
    (callbacks n).phase (controllerRun callbacks n) ≠ .normal

section Runs

variable {callbacks : Nat → Callback}

theorem monoUs_mono (clock : ∀ n, (callbacks n).clk.monoNs ≤ (callbacks (n + 1)).clk.monoNs) {m n : Nat}
    (le : m ≤ n) : (callbacks m).monoUs ≤ (callbacks n).monoUs := by
  have ticks : Monotone fun n => (callbacks n).clk.monoNs.toNat :=
    monotone_nat_of_le_succ fun n => UInt64.le_iff_toNat_le.mp (clock n)
  rw [UInt64.le_iff_toNat_le, Callback.monoUs, Callback.monoUs, leoNowMonoUs, leoNowMonoUs, UInt64.toNat_div,
    UInt64.toNat_div]
  exact Nat.div_le_div_right (ticks le)

theorem initialized_of_ran {k n : Nat} (runs : (callbacks k).runs = true) (lt : k < n) :
    (controllerRun callbacks n).initialized = true := by
  induction n, lt using Nat.le_induction with
  | base =>
      rw [controllerRun_of_runs runs]
      exact Callback.report_initialized runs _
  | succ n _ ih =>
      cases again : (callbacks n).runs
      · rw [controllerRun_of_not_runs again]
        exact ih
      · rw [controllerRun_of_runs again]
        exact Callback.report_initialized again _

theorem lastSampleUs_step {n : Nat} (initialized : (controllerRun callbacks n).initialized = true) :
    (controllerRun callbacks (n + 1)).lastSampleUs =
      if (callbacks n).takesSample (controllerRun callbacks n) then (callbacks n).monoUs
      else (controllerRun callbacks n).lastSampleUs := by
  cases runs : (callbacks n).runs
  · rw [controllerRun_of_not_runs runs, if_neg (by simp [Callback.takesSample, runs])]
  · rw [controllerRun_of_runs runs, Callback.report_lastSampleUs runs, Callback.ready_of_initialized initialized]

theorem monoUs_le_lastSampleUs (clock : ∀ n, (callbacks n).clk.monoNs ≤ (callbacks (n + 1)).clk.monoNs)
    {k n : Nat} (runs : (callbacks k).runs = true) (lt : k < n)
    (sampled : (callbacks k).takesSample (controllerRun callbacks k) = true ∨
      (controllerRun callbacks k).initialized = false) :
    (callbacks k).monoUs ≤ (controllerRun callbacks n).lastSampleUs := by
  induction n, lt using Nat.le_induction with
  | base =>
      rw [controllerRun_of_runs runs, Callback.report_lastSampleUs runs]
      split
      · exact UInt64.le_refl _
      · rename_i early
        rw [Callback.ready_lastSampleUs_of_fresh (sampled.resolve_left early)]
        exact UInt64.le_refl _
  | succ n before ih =>
      rw [lastSampleUs_step (initialized_of_ran runs before)]
      split
      · exact monoUs_mono clock (by omega)
      · exact ih

theorem lastSampleUs_kept {k n : Nat} (runs : (callbacks k).runs = true) (lt : k < n)
    (initialized : (controllerRun callbacks k).initialized = true)
    (none : ∀ j, k ≤ j → j < n → (callbacks j).takesSample (controllerRun callbacks j) = false) :
    (controllerRun callbacks n).lastSampleUs = (controllerRun callbacks k).lastSampleUs := by
  induction n, lt using Nat.le_induction with
  | base => rw [lastSampleUs_step initialized, if_neg (by simp [none k (le_refl k) (Nat.lt_succ_self k)])]
  | succ n before ih =>
      have quiet := none n (by omega) (Nat.lt_succ_self n)
      rw [lastSampleUs_step (initialized_of_ran runs before), if_neg (by simp [quiet])]
      exact ih fun j lower upper => none j lower (by omega)

end Runs

/-- The rate is learned from NORMAL alone exactly when no controlled callback goes unsampled before a
sample in NORMAL. -/
theorem rate_of_normal_iff (callbacks : Nat → Callback)
    (clock : ∀ n, (callbacks n).clk.monoNs ≤ (callbacks (n + 1)).clk.monoNs) :
    RateOfNormal callbacks ↔ ControlSampled callbacks := by
  constructor
  · intro learned k n before hides samples between normal
    obtain ⟨runs, controlled, later, unsampled⟩ := Callback.hidesControl_iff.mp hides
    have initialized : (controllerRun callbacks k).initialized = true := by
      by_contra fresh
      rw [Callback.ready_lastSampleUs_of_fresh (Bool.eq_false_of_not_eq_true fresh)] at later
      exact UInt64.lt_irrefl _ later
    have quiet : ∀ j, k ≤ j → j < n → (callbacks j).takesSample (controllerRun callbacks j) = false := by
      intro j lower upper
      rcases Nat.eq_or_lt_of_le lower with rfl | after
      · exact unsampled
      · exact between j after upper
    refine controlled (learned n ?_ k before.le runs ?_)
    · exact Callback.foldsRate_iff.mpr ⟨samples, normal⟩
    · rw [lastSampleUs_kept runs before initialized quiet]
      rwa [Callback.ready_of_initialized initialized] at later
  · intro sampled n folds k le runs after
    obtain ⟨samples, normal⟩ := Callback.foldsRate_iff.mp folds
    rcases Nat.eq_or_lt_of_le le with rfl | before
    · exact normal
    · -- a sample from callback `k` on would have moved `last_sample_us` past it
      have quiet : ∀ j, k ≤ j → j < n → (callbacks j).takesSample (controllerRun callbacks j) = false := by
        intro j lower upper
        by_contra taken
        rw [Bool.not_eq_false] at taken
        have runsJ := (Callback.takesSample_iff.mp taken).1
        have moved := monoUs_le_lastSampleUs clock runsJ upper (.inl taken)
        exact UInt64.not_lt.mpr (UInt64.le_trans (monoUs_mono clock lower) moved) after
      have initialized : (controllerRun callbacks k).initialized = true := by
        by_contra fresh
        exact UInt64.not_lt.mpr
          (monoUs_le_lastSampleUs clock runs before (.inr (Bool.eq_false_of_not_eq_true fresh))) after
      by_contra controlled
      refine sampled k n before ?_ samples (fun j lower upper => quiet j (Nat.le_of_lt lower) upper) normal
      rw [lastSampleUs_kept runs before initialized quiet] at after
      apply Callback.hidesControl_iff.mpr
      rw [Callback.ready_of_initialized initialized]
      exact ⟨runs, controlled, after, quiet k (le_refl k) before⟩

def download (realNs monoNs : UInt64) : Callback where
  net := tcpSkInit
  clk := ⟨realNs, monoNs⟩
  sk := downloadView 0 7
  normalWin := 1000000

def spacedCallbacks : Nat → Callback
  | 0 => download 26900000000 900000000
  | 1 => download 27010000000 1010000000
  | _ => download 27100000000 1100000000

theorem spacedCallbacks_clock (n : Nat) :
    (spacedCallbacks n).clk.monoNs ≤ (spacedCallbacks (n + 1)).clk.monoNs := by
  match n with
  | 0 => decide
  | 1 => decide
  | _ + 2 => exact UInt64.le_refl _

theorem spacedCallbacks_lastSampleUs (n : Nat) : (controllerRun spacedCallbacks (n + 3)).lastSampleUs = 1100000 := by
  induction n with
  | zero => decide
  | succ n ih =>
      have initialized := @initialized_of_ran spacedCallbacks 0 (n + 3) (by decide) (by omega)
      rw [show n + 1 + 3 = n + 3 + 1 from rfl, lastSampleUs_step initialized, ih]
      split
      · change (download 27100000000 1100000000).monoUs = 1100000
        decide
      · rfl

theorem spacedCallbacks_sampled : ControlSampled spacedCallbacks := by
  intro k n _ hides
  rcases k with _ | _ | _ | k
  · exact absurd hides (by decide)
  · exact absurd hides (by decide)
  · exact absurd hides (by decide)
  · have initialized := @initialized_of_ran spacedCallbacks 0 (k + 3) (by decide) (by omega)
    have later := (Callback.hidesControl_iff.mp hides).2.2.1
    rw [Callback.ready_of_initialized initialized, spacedCallbacks_lastSampleUs] at later
    exact absurd later (by decide : ¬ (1100000 : UInt64) < (download 27100000000 1100000000).monoUs)

theorem rate_of_normal_spaced :
    RateOfNormal spacedCallbacks ∧
    (spacedCallbacks 1).phase (controllerRun spacedCallbacks 1) = .recovery ∧
    (spacedCallbacks 2).foldsRate (controllerRun spacedCallbacks 2) = true :=
  ⟨(rate_of_normal_iff spacedCallbacks spacedCallbacks_clock).mpr spacedCallbacks_sampled, by decide, by decide⟩

def rampCallbacks : Nat → Callback
  | 0 => download 26900000000 900000000
  | 1 => download 27010000000 1010000000
  | 2 => download 27020000000 1020000000
  | _ => download 27100000000 1100000000

/-- The callback 10 ms into RECOVERY takes no sample. The one after the ramp averages over it. -/
theorem recovery_inside_sample :
    (rampCallbacks 2).phase (controllerRun rampCallbacks 2) = .recovery ∧
    (rampCallbacks 3).foldsRate (controllerRun rampCallbacks 3) = true ∧
    (controllerRun rampCallbacks 3).lastSampleUs < (rampCallbacks 2).monoUs ∧
    ¬ RateOfNormal rampCallbacks := by
  refine ⟨by decide, by decide, by decide, fun learned => ?_⟩
  have normal := learned 3 (by decide) 2 (by decide) (by decide) (by decide)
  exact absurd normal (by decide)

end StarlinkTcp.Proof

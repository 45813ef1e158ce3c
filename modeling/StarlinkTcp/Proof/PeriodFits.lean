import StarlinkTcp.Proof.Coupling
import StarlinkTcp.Proof.Statistics

/-!
# Fits of a period

`score_period` passes over the intervals with a candidate, refines the candidate to the median of the
normalised inliers and passes over them again. The fit it returns describes one of the two passes only,
the one with the period it returns. `estimate_period` returns a fit of one of its candidates.
-/

namespace StarlinkTcp.Proof
open Machine Monitor

def inlierOf (period dt : ℚ) : Inlier :=
  let k := max 1 (roundHalfEven (dt / period))
  ⟨|dt - k * period|, k, dt / k⟩

variable {intervals : List ℚ} {period toleranceS skipPenalty : ℚ} {maxMultiple : ℤ}

theorem periodInliers_of_nonpos (nonpos : period ≤ 0) :
    periodInliers intervals period toleranceS maxMultiple = [] := by
  unfold periodInliers
  rw [List.filterMap_eq_nil_iff]
  intro dt _
  rw [latticeResidual, if_pos nonpos]

theorem periodInliers_of_pos (positive : 0 < period) :
    periodInliers intervals period toleranceS maxMultiple =
      (intervals.map (inlierOf period)).filter fun inlier =>
        inlier.multiple ≤ maxMultiple ∧ inlier.residual ≤ toleranceS := by
  unfold periodInliers
  rw [← List.filterMap_eq_filter, List.filterMap_map]
  apply List.filterMap_congr
  intro dt _
  rw [latticeResidual, if_neg (not_le.mpr positive), Function.comp_apply, Option.guard]
  by_cases near : (inlierOf period dt).multiple ≤ maxMultiple ∧ (inlierOf period dt).residual ≤ toleranceS
  · exact (if_pos near).trans (if_pos (decide_eq_true near)).symm
  · exact (if_neg near).trans (if_neg fun holds => near (of_decide_eq_true holds)).symm

theorem pos_of_periodInliers (some_inlier : periodInliers intervals period toleranceS maxMultiple ≠ []) :
    0 < period := by
  by_contra nonpos
  exact some_inlier (periodInliers_of_nonpos (not_lt.mp nonpos))

theorem length_periodInliers_le :
    (periodInliers intervals period toleranceS maxMultiple).length ≤ intervals.length :=
  List.length_filterMap_le _ _

theorem mem_periodInliers {inlier : Inlier}
    (member : inlier ∈ periodInliers intervals period toleranceS maxMultiple) :
    ∃ dt ∈ intervals, inlier = inlierOf period dt ∧ inlier.multiple ≤ maxMultiple ∧
      inlier.residual ≤ toleranceS := by
  have positive := pos_of_periodInliers (List.ne_nil_of_mem member)
  rw [periodInliers_of_pos positive] at member
  obtain ⟨among, near⟩ := List.mem_filter.mp member
  obtain ⟨dt, source, rfl⟩ := List.mem_map.mp among
  rw [decide_eq_true_eq] at near
  exact ⟨dt, source, rfl, near⟩

theorem one_le_multiple (dt : ℚ) : 1 ≤ (inlierOf period dt).multiple := le_max_left _ _

/-! ## One pass -/

/-- Everything a fit says is measured with its own period. -/
structure PassOf (intervals : List ℚ) (toleranceS : ℚ) (maxMultiple : ℤ) (skipPenalty : ℚ) (fit : PeriodFit) :
    Prop where
  nonempty : periodInliers intervals fit.periodS toleranceS maxMultiple ≠ []
  score : fit.score = fitScore intervals (periodInliers intervals fit.periodS toleranceS maxMultiple) skipPenalty
  fitRatio : fit.fitRatio = fitRatio intervals (periodInliers intervals fit.periodS toleranceS maxMultiple)
  oneCycleRatio : fit.oneCycleRatio = oneCycleRatio (periodInliers intervals fit.periodS toleranceS maxMultiple)
  medianResidual : median ((periodInliers intervals fit.periodS toleranceS maxMultiple).map Inlier.residual) =
    some fit.medianResidualS
  p95Residual : percentile ((periodInliers intervals fit.periodS toleranceS maxMultiple).map Inlier.residual) 95 =
    some fit.p95ResidualS
  inliers : fit.inliers = (periodInliers intervals fit.periodS toleranceS maxMultiple).length
  intervals : fit.intervals = intervals.length

theorem refinePeriod_inliers (refined : ℚ) :
    (refinePeriod intervals period toleranceS maxMultiple
      (periodInliers intervals period toleranceS maxMultiple) refined).2 =
    periodInliers intervals (refinePeriod intervals period toleranceS maxMultiple
      (periodInliers intervals period toleranceS maxMultiple) refined).1 toleranceS maxMultiple := by
  unfold refinePeriod
  split
  · split
    · rfl
    · rfl
  · rfl

theorem refinePeriod_ne_nil (refined : ℚ)
    (first : periodInliers intervals period toleranceS maxMultiple ≠ []) :
    (refinePeriod intervals period toleranceS maxMultiple
      (periodInliers intervals period toleranceS maxMultiple) refined).2 ≠ [] := by
  unfold refinePeriod
  split
  · split
    · exact first
    · rename_i some_second
      exact some_second
  · exact first

theorem refinePeriod_period (refined : ℚ) (inliers : List Inlier) :
    (refinePeriod intervals period toleranceS maxMultiple inliers refined).1 = period ∨
      (refinePeriod intervals period toleranceS maxMultiple inliers refined).1 = refined := by
  unfold refinePeriod
  split
  · split
    · exact .inl rfl
    · exact .inr rfl
  · exact .inl rfl

theorem scorePeriod_pass {fit : PeriodFit}
    (scored : scorePeriod intervals period toleranceS maxMultiple skipPenalty = some fit) :
    PassOf intervals toleranceS maxMultiple skipPenalty fit ∧
    ∃ refined, median ((periodInliers intervals period toleranceS maxMultiple).map Inlier.normalized) = some refined ∧
      fit.periodS = (refinePeriod intervals period toleranceS maxMultiple
        (periodInliers intervals period toleranceS maxMultiple) refined).1 := by
  unfold scorePeriod at scored
  dsimp only at scored
  split at scored
  · cases scored
  · rename_i some_inlier
    simp only [Option.bind_eq_bind, Option.bind_eq_some_iff] at scored
    obtain ⟨refined, middle, med, medFound, p95, p95Found, built⟩ := scored
    have nonempty := refinePeriod_ne_nil refined fun none => some_inlier (List.isEmpty_iff.mpr none)
    rw [refinePeriod_inliers] at medFound p95Found nonempty
    cases built
    rw [refinePeriod_inliers]
    exact ⟨⟨nonempty, rfl, rfl, rfl, medFound, p95Found, rfl, rfl⟩, refined, middle, rfl⟩

theorem exists_scorePeriod (first : periodInliers intervals period toleranceS maxMultiple ≠ []) :
    ∃ fit, scorePeriod intervals period toleranceS maxMultiple skipPenalty = some fit := by
  obtain ⟨refined, middle⟩ := exists_median (fun none => first (List.map_eq_nil_iff.mp none) :
    (periodInliers intervals period toleranceS maxMultiple).map Inlier.normalized ≠ [])
  have second := refinePeriod_ne_nil refined first
  obtain ⟨med, medFound⟩ := exists_median (fun none => second (List.map_eq_nil_iff.mp none) :
    (refinePeriod intervals period toleranceS maxMultiple _ refined).2.map Inlier.residual ≠ [])
  obtain ⟨p95, p95Found⟩ := @exists_percentile _ 95 (fun none => second (List.map_eq_nil_iff.mp none) :
    (refinePeriod intervals period toleranceS maxMultiple _ refined).2.map Inlier.residual ≠ [])
  unfold scorePeriod
  dsimp only
  rw [if_neg fun none => first (List.isEmpty_iff.mp none), middle]
  simp only [Option.bind_eq_bind, Option.bind_some, medFound, p95Found]
  exact ⟨_, rfl⟩

/-! ## The quality of a fit -/

structure BoundedFit (toleranceS : ℚ) (fit : PeriodFit) : Prop where
  period_pos : 0 < fit.periodS
  one_le_inliers : 1 ≤ fit.inliers
  inliers_le : fit.inliers ≤ fit.intervals
  score_pos : 0 < fit.score
  score_le : fit.score ≤ fit.fitRatio
  fitRatio_le : fit.fitRatio ≤ 1
  oneCycleRatio_nonneg : 0 ≤ fit.oneCycleRatio
  oneCycleRatio_le : fit.oneCycleRatio ≤ 1
  medianResidual_nonneg : 0 ≤ fit.medianResidualS
  medianResidual_le : fit.medianResidualS ≤ fit.p95ResidualS
  p95Residual_le : fit.p95ResidualS ≤ toleranceS

theorem fitRatio_bounds (some_inlier : periodInliers intervals period toleranceS maxMultiple ≠ []) :
    0 < fitRatio intervals (periodInliers intervals period toleranceS maxMultiple) ∧
      fitRatio intervals (periodInliers intervals period toleranceS maxMultiple) ≤ 1 := by
  have inliers := List.length_pos_iff.mpr some_inlier
  have within := @length_periodInliers_le intervals period toleranceS maxMultiple
  have total : (0 : ℚ) < intervals.length := by exact_mod_cast inliers.trans_le within
  unfold fitRatio
  constructor
  · exact div_pos (by exact_mod_cast inliers) total
  · rw [div_le_one total]
    exact_mod_cast within

theorem oneCycleRatio_bounds {inliers : List Inlier} (some_inlier : inliers ≠ []) :
    0 ≤ oneCycleRatio inliers ∧ oneCycleRatio inliers ≤ 1 := by
  have total : (0 : ℚ) < inliers.length := by exact_mod_cast List.length_pos_iff.mpr some_inlier
  unfold oneCycleRatio
  constructor
  · exact div_nonneg (Nat.cast_nonneg _) total.le
  · rw [div_le_one total]
    exact_mod_cast List.length_filter_le _ _

theorem one_le_complexityPenalty {inliers : List Inlier} (penalty : 0 ≤ skipPenalty) :
    1 ≤ complexityPenalty inliers skipPenalty :=
  le_add_of_nonneg_right (mul_nonneg penalty (le_max_left _ _))

theorem fitScore_bounds (penalty : 0 ≤ skipPenalty)
    (some_inlier : periodInliers intervals period toleranceS maxMultiple ≠ []) :
    0 < fitScore intervals (periodInliers intervals period toleranceS maxMultiple) skipPenalty ∧
      fitScore intervals (periodInliers intervals period toleranceS maxMultiple) skipPenalty ≤
        fitRatio intervals (periodInliers intervals period toleranceS maxMultiple) := by
  have ratio := (fitRatio_bounds some_inlier).1
  have complexity := @one_le_complexityPenalty skipPenalty
    (periodInliers intervals period toleranceS maxMultiple) penalty
  unfold fitScore
  constructor
  · exact div_pos ratio (by linarith)
  · exact div_le_self ratio.le complexity

theorem residual_bounds {residual : ℚ}
    (member : residual ∈ (periodInliers intervals period toleranceS maxMultiple).map Inlier.residual) :
    0 ≤ residual ∧ residual ≤ toleranceS := by
  obtain ⟨inlier, among, rfl⟩ := List.mem_map.mp member
  obtain ⟨dt, -, rfl, -, near⟩ := mem_periodInliers among
  exact ⟨abs_nonneg _, near⟩

theorem PassOf.p95_le {fit : PeriodFit} (pass : PassOf intervals toleranceS maxMultiple skipPenalty fit) :
    fit.p95ResidualS ≤ toleranceS :=
  percentile_le (by norm_num) (by norm_num) (fun _ member => (residual_bounds member).2) pass.p95Residual

theorem PassOf.bounded {fit : PeriodFit} (pass : PassOf intervals toleranceS maxMultiple skipPenalty fit)
    (penalty : 0 ≤ skipPenalty) : BoundedFit toleranceS fit where
  period_pos := pos_of_periodInliers pass.nonempty
  one_le_inliers := by
    rw [pass.inliers]
    exact List.length_pos_iff.mpr pass.nonempty
  inliers_le := by
    rw [pass.inliers, pass.intervals]
    exact length_periodInliers_le
  score_pos := by
    rw [pass.score]
    exact (fitScore_bounds penalty pass.nonempty).1
  score_le := by
    rw [pass.score, pass.fitRatio]
    exact (fitScore_bounds penalty pass.nonempty).2
  fitRatio_le := by
    rw [pass.fitRatio]
    exact (fitRatio_bounds pass.nonempty).2
  oneCycleRatio_nonneg := by
    rw [pass.oneCycleRatio]
    exact (oneCycleRatio_bounds pass.nonempty).1
  oneCycleRatio_le := by
    rw [pass.oneCycleRatio]
    exact (oneCycleRatio_bounds pass.nonempty).2
  medianResidual_nonneg := (median_mem_bounds pass.medianResidual fun _ member => residual_bounds member).1
  medianResidual_le := median_le_percentile pass.medianResidual pass.p95Residual
  p95Residual_le := pass.p95_le

/-! ## Candidates -/

section Estimate

variable {order : SetOrder} {events : List ℚ} {minPeriodS maxPeriodS : ℚ} {fit : PeriodFit}

theorem betterFit_eq (best : Option PeriodFit) (fit : PeriodFit) :
    betterFit best fit = fit ∨ best = some (betterFit best fit) := by
  unfold betterFit
  split
  · exact .inl rfl
  · split
    · exact .inl rfl
    · split
      · exact .inl rfl
      · exact .inr rfl

theorem estimatePeriod_scored
    (estimated : estimatePeriod order events minPeriodS maxPeriodS toleranceS maxMultiple skipPenalty = some fit) :
    ∃ candidate ∈ periodCandidates (eventIntervals events) minPeriodS maxPeriodS maxMultiple,
      scorePeriod (eventIntervals events) candidate toleranceS maxMultiple skipPenalty = some fit := by
  unfold estimatePeriod at estimated
  dsimp only at estimated
  split at estimated
  · cases estimated
  · refine List.foldlRecOn (motive := fun best => ∀ fit : PeriodFit, best = some fit →
      ∃ candidate ∈ periodCandidates (eventIntervals events) minPeriodS maxPeriodS maxMultiple,
        scorePeriod (eventIntervals events) candidate toleranceS maxMultiple skipPenalty = some fit)
      _ _ ?_ ?_ fit estimated
    · intro fit none
      cases none
    · intro best earlier candidate enumerated
      cases scored : scorePeriod (eventIntervals events) candidate toleranceS maxMultiple skipPenalty with
      | none => exact earlier
      | some found =>
          rintro _ ⟨⟩
          rcases betterFit_eq best found with new | old
          · rw [new]
            exact ⟨candidate, (order.perm _).mem_iff.mp enumerated, scored⟩
          · exact earlier _ old

theorem observedFit_pass {setup : Setup} {reading : Reading} {commonTimes : List ℚ}
    (observed : MonitorState.observedFit setup reading commonTimes = some fit) :
    PassOf (eventIntervals commonTimes) (setup.args.periodToleranceMs / 1000) setup.args.maxMultiple
      setup.args.skipPenalty fit := by
  unfold MonitorState.observedFit at observed
  split at observed
  · obtain ⟨candidate, -, scored⟩ := estimatePeriod_scored observed
    exact (scorePeriod_pass scored).1
  · cases observed

end Estimate

/-- Every fit of a pass is within its bounds and speaks of one period only, so the residual is no obstacle
for a fit of the main loop. -/
theorem fit_quality_bounds :
    (∀ (intervals : List ℚ) (period toleranceS skipPenalty : ℚ) (maxMultiple : ℤ) (fit : PeriodFit),
      0 ≤ skipPenalty → scorePeriod intervals period toleranceS maxMultiple skipPenalty = some fit →
        BoundedFit toleranceS fit ∧ PassOf intervals toleranceS maxMultiple skipPenalty fit) ∧
    ∀ (setup : Setup) (reading : Reading) (commonTimes : List ℚ) (fit : PeriodFit),
      MonitorState.observedFit setup reading commonTimes = some fit →
        fit.p95ResidualS ≤ setup.args.periodToleranceMs / 1000 ∧
        (MonitorState.learningFitGood setup fit = true ↔
          setup.args.minScore ≤ fit.score ∧ setup.args.minFitRatio ≤ fit.fitRatio) ∧
        (MonitorState.activeStructureGood setup fit = true ↔ setup.args.minFitRatio ≤ fit.fitRatio) := by
  constructor
  · intro intervals period toleranceS skipPenalty maxMultiple fit penalty scored
    obtain ⟨pass, -⟩ := scorePeriod_pass scored
    exact ⟨pass.bounded penalty, pass⟩
  · intro setup reading commonTimes fit observed
    have residual := (observedFit_pass observed).p95_le
    refine ⟨residual, ?_, ?_⟩
    · simp only [MonitorState.learningFitGood, MonitorState.activeStructureGood, decide_eq_true_eq, residual,
        and_true, ge_iff_le]
    · simp only [MonitorState.activeStructureGood, decide_eq_true_eq, residual, and_true, ge_iff_le]

def jitteredIntervals : List ℚ := [15, 15 + 1 / 50, 30 + 1 / 20, 15 - 1 / 100]

def skippingTimes : List ℚ := [0, 15, 30 + 1 / 50, 60 + 7 / 100, 75 + 6 / 100, 90]

def defaultSetup : Setup := Setup.ofArgs Args.default ["1.1.1.1", "8.8.8.8"]

/-- One interval skips an event. The candidate of 15 s is refined, in the pass and in the main loop. -/
theorem fit_quality_bounds_jittered :
    (0 ≤ (3 / 10 : ℚ) ∧ ∃ fit, scorePeriod jitteredIntervals 15 (18 / 100) 6 (3 / 10) = some fit ∧
      fit.periodS = 15 + 1 / 100 ∧
      BoundedFit (18 / 100) fit ∧ PassOf jitteredIntervals (18 / 100) 6 (3 / 10) fit) ∧
    ∃ fit, MonitorState.observedFit defaultSetup periodicReading skippingTimes = some fit ∧
      fit.p95ResidualS ≤ 18 / 100 ∧ MonitorState.learningFitGood defaultSetup fit = true := by
  refine ⟨⟨by norm_num, (scorePeriod jitteredIntervals 15 (18 / 100) 6 (3 / 10)).get (by decide +kernel),
    (Option.some_get _).symm, by decide +kernel, ?_⟩,
    (MonitorState.observedFit defaultSetup periodicReading skippingTimes).get (by decide +kernel),
    (Option.some_get _).symm, ?_, by decide +kernel⟩
  · exact fit_quality_bounds.1 _ _ _ _ _ _ (by norm_num) (Option.some_get _).symm
  · apply le_trans (fit_quality_bounds.2 defaultSetup periodicReading skippingTimes _ (Option.some_get _).symm).1
    decide +kernel

/-! ## The range of the period -/

section Range

theorem scorePeriod_near {fit : PeriodFit}
    (scored : scorePeriod intervals period toleranceS maxMultiple skipPenalty = some fit) :
    period - toleranceS ≤ fit.periodS ∧ fit.periodS ≤ period + toleranceS := by
  obtain ⟨-, refined, middle, eq⟩ := scorePeriod_pass scored
  have some_inlier := ne_nil_of_median middle
  have normalized : ∀ x ∈ (periodInliers intervals period toleranceS maxMultiple).map Inlier.normalized,
      period - toleranceS ≤ x ∧ x ≤ period + toleranceS := by
    intro x member
    obtain ⟨inlier, among, rfl⟩ := List.mem_map.mp member
    obtain ⟨dt, -, rfl, -, near⟩ := mem_periodInliers among
    have multiple : (1 : ℚ) ≤ (inlierOf period dt).multiple := by exact_mod_cast one_le_multiple dt
    have positive : (0 : ℚ) < (inlierOf period dt).multiple := by linarith
    -- the residual is divided by the multiple
    have moved : |dt / (inlierOf period dt).multiple - period| ≤ toleranceS := by
      have scaled : dt / (inlierOf period dt).multiple - period =
          (dt - (inlierOf period dt).multiple * period) / (inlierOf period dt).multiple := by
        rw [sub_div, mul_div_cancel_left₀ _ positive.ne']
      rw [scaled, abs_div, abs_of_pos positive]
      exact (div_le_self (abs_nonneg _) multiple).trans near
    obtain ⟨below, above⟩ := abs_le.mp moved
    change period - toleranceS ≤ dt / (inlierOf period dt).multiple ∧
      dt / (inlierOf period dt).multiple ≤ period + toleranceS
    constructor <;> linarith
  have tolerance : 0 ≤ toleranceS := by
    obtain ⟨x, member⟩ := List.exists_mem_of_ne_nil _ some_inlier
    obtain ⟨below, above⟩ := normalized x member
    linarith
  rw [eq]
  rcases refinePeriod_period refined (periodInliers intervals period toleranceS maxMultiple) with same | moved
  · rw [same]
    constructor <;> linarith
  · rw [moved]
    exact median_mem_bounds middle normalized

theorem mem_periodCandidates {minPeriodS maxPeriodS candidate : ℚ} :
    candidate ∈ periodCandidates intervals minPeriodS maxPeriodS maxMultiple ↔
      ∃ dt ∈ intervals, ∃ k < maxMultiple.toNat, minPeriodS ≤ dt / ((k : ℚ) + 1) ∧
        dt / ((k : ℚ) + 1) ≤ maxPeriodS ∧
        candidate = (roundHalfEven (dt / ((k : ℚ) + 1) * 1000) / 1000 : ℚ) := by
  simp only [periodCandidates, List.mem_dedup, List.mem_flatMap, List.mem_filterMap,
    Option.ite_none_right_eq_some, Option.some.injEq, List.bind_eq_flatMap, List.pure_def,
    List.mem_range, List.mem_singleton]
  constructor
  · rintro ⟨dt, source, _, ⟨k, ranged, rfl⟩, ⟨low, high⟩, rfl⟩
    exact ⟨dt, source, k, ranged, low, high, rfl⟩
  · rintro ⟨dt, source, k, ranged, low, high, rfl⟩
    exact ⟨dt, source, k, ⟨k, ranged, rfl⟩, ⟨low, high⟩, rfl⟩

theorem periodCandidates_range {candidate : ℚ} {low high : ℤ}
    (member : candidate ∈ periodCandidates intervals (low / 1000) (high / 1000) maxMultiple) :
    (low / 1000 : ℚ) ≤ candidate ∧ candidate ≤ high / 1000 := by
  obtain ⟨dt, -, k, -, above, below, rfl⟩ := mem_periodCandidates.mp member
  constructor
  · apply div_le_div_of_nonneg_right _ (by norm_num)
    exact_mod_cast le_roundHalfEven ((div_le_iff₀ (by norm_num)).mp above)
  · apply div_le_div_of_nonneg_right _ (by norm_num)
    exact_mod_cast roundHalfEven_le ((le_div_iff₀ (by norm_num)).mp below)

/-- The range holds for the candidates, and the fit of a candidate is at most the tolerance away. -/
theorem estimated_period_near_range (order : SetOrder) (events : List ℚ) (low high : ℤ)
    (toleranceS skipPenalty : ℚ) (maxMultiple : ℤ) (fit : PeriodFit)
    (estimated : estimatePeriod order events (low / 1000) (high / 1000) toleranceS maxMultiple skipPenalty =
      some fit) :
    (∃ candidate, (low / 1000 : ℚ) ≤ candidate ∧ candidate ≤ high / 1000 ∧
      |fit.periodS - candidate| ≤ toleranceS) ∧
    low / 1000 - toleranceS ≤ fit.periodS ∧ fit.periodS ≤ high / 1000 + toleranceS := by
  obtain ⟨candidate, among, scored⟩ := estimatePeriod_scored estimated
  obtain ⟨above, below⟩ := periodCandidates_range among
  obtain ⟨lower, upper⟩ := scorePeriod_near scored
  refine ⟨⟨candidate, above, below, ?_⟩, ?_, ?_⟩
  · rw [abs_le]
    constructor <;> linarith
  · linarith
  · linarith

def shortenedTimes : List ℚ := [0, 5, 982 / 100, 1464 / 100]

theorem estimated_period_near_range_shortened :
    ∃ fit, estimatePeriod periodicReading.order shortenedTimes ((5000 : ℤ) / 1000) ((30000 : ℤ) / 1000)
        (18 / 100) 6 (3 / 10) = some fit ∧
      ((5000 : ℤ) / 1000 : ℚ) - 18 / 100 ≤ fit.periodS := by
  refine ⟨(estimatePeriod periodicReading.order shortenedTimes ((5000 : ℤ) / 1000) ((30000 : ℤ) / 1000)
    (18 / 100) 6 (3 / 10)).get (by decide +kernel), (Option.some_get _).symm, ?_⟩
  exact (estimated_period_near_range periodicReading.order shortenedTimes 5000 30000 (18 / 100) (3 / 10) 6 _
    (Option.some_get _).symm).2.1

/-- The only candidate is 5 s, the shortest period allowed; its refinement is 4.82 s. -/
theorem refined_period_below_range :
    (estimatePeriod periodicReading.order shortenedTimes 5 30 (18 / 100) 6 (3 / 10)).map PeriodFit.periodS =
      some (482 / 100) ∧
    ¬ ∀ fit, estimatePeriod periodicReading.order shortenedTimes 5 30 (18 / 100) 6 (3 / 10) = some fit →
      5 ≤ fit.periodS ∧ fit.periodS ≤ 30 := by
  have refined : (estimatePeriod periodicReading.order shortenedTimes 5 30 (18 / 100) 6 (3 / 10)).map
      PeriodFit.periodS = some (482 / 100) := by decide +kernel
  refine ⟨refined, fun inRange => ?_⟩
  obtain ⟨fit, found, period⟩ := Option.map_eq_some_iff.mp refined
  obtain ⟨above, -⟩ := inRange fit found
  rw [period] at above
  norm_num at above

end Range

end StarlinkTcp.Proof

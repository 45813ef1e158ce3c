import Mathlib.Algebra.Order.BigOperators.Group.List
import StarlinkTcp.Proof.PeriodFits

/-!
# The fundamental period

Events that repeat with a jittered period are explained by the period and by its divisors. Around the
period every interval is one cycle, and the score is one. Around a divisor every interval is two cycles
or more, and the skip penalty takes the score far enough below one for the tie window not to matter.
-/

namespace StarlinkTcp.Proof
open Machine Monitor

/-- Every interval is a period `T` up to the jitter, which the tolerance covers. -/
structure Jittered (T delta toleranceS : ℚ) (intervals : List ℚ) : Prop where
  jitter_nonneg : 0 ≤ delta
  covers : 2 * delta + 1 / 2000 ≤ toleranceS
  narrow : toleranceS ≤ T / 10
  near : ∀ dt ∈ intervals, |dt - T| ≤ delta

variable {T delta toleranceS skipPenalty : ℚ} {intervals : List ℚ} {maxMultiple : ℤ}

/-! ## Periods around the fundamental -/

section Around

variable {period : ℚ}

theorem inlierOf_single {dt : ℚ} (large : 9 / 10 * T ≤ period) (positive : 0 < T)
    (close : |dt - period| ≤ T / 10) : inlierOf period dt = ⟨|dt - period|, 1, dt⟩ := by
  have period_pos : 0 < period := by linarith
  have single : roundHalfEven (dt / period) = 1 := by
    apply roundHalfEven_eq
    have relative : dt / period - (1 : ℤ) = (dt - period) / period := by
      rw [sub_div, div_self period_pos.ne', Int.cast_one]
    rw [relative, abs_div, abs_of_pos period_pos, div_lt_iff₀ period_pos]
    linarith
  simp [inlierOf, single]

theorem periodInliers_single (positive : 0 < T) (narrow : toleranceS ≤ T / 10) (atLeastOne : 1 ≤ maxMultiple)
    (large : 9 / 10 * T ≤ period) (close : ∀ dt ∈ intervals, |dt - period| ≤ toleranceS) :
    periodInliers intervals period toleranceS maxMultiple =
      intervals.map fun dt => ⟨|dt - period|, 1, dt⟩ := by
  have each : intervals.map (inlierOf period) = intervals.map fun dt => ⟨|dt - period|, 1, dt⟩ := by
    apply List.map_congr_left
    intro dt member
    exact inlierOf_single large positive ((close dt member).trans narrow)
  rw [periodInliers_of_pos (by linarith), each, List.filter_eq_self]
  intro inlier member
  obtain ⟨dt, source, rfl⟩ := List.mem_map.mp member
  exact decide_eq_true ⟨atLeastOne, close dt source⟩

/-- What the estimate is to return: the period up to the jitter, with every interval one cycle. -/
structure FundamentalFit (T delta : ℚ) (intervals : List ℚ) (fit : PeriodFit) : Prop where
  score : fit.score = 1
  fitRatio : fit.fitRatio = 1
  inliers : fit.inliers = intervals.length
  intervals : fit.intervals = intervals.length
  period : |fit.periodS - T| ≤ delta + 1 / 10 ^ 9

theorem PassOf.fundamental {fit : PeriodFit} (pass : PassOf intervals toleranceS maxMultiple skipPenalty fit)
    (single : periodInliers intervals fit.periodS toleranceS maxMultiple =
      intervals.map fun dt => ⟨|dt - fit.periodS|, 1, dt⟩)
    (period : |fit.periodS - T| ≤ delta + 1 / 10 ^ 9) : FundamentalFit T delta intervals fit := by
  have some_interval : intervals ≠ [] := by
    rintro rfl
    exact pass.nonempty single
  have total : (intervals.length : ℚ) ≠ 0 := by
    exact_mod_cast fun none => some_interval (List.length_eq_zero_iff.mp none)
  have ratio : Monitor.fitRatio intervals (intervals.map fun dt => ⟨|dt - fit.periodS|, 1, dt⟩) = 1 := by
    rw [Monitor.fitRatio, List.length_map, div_self total]
  have mean : meanMultiple (intervals.map fun dt => ⟨|dt - fit.periodS|, 1, dt⟩) = 1 := by
    simp [meanMultiple, Function.comp_def, total]
  constructor
  · rw [pass.score, single, fitScore, complexityPenalty, ratio, mean]
    simp
  · rw [pass.fitRatio, single, ratio]
  · rw [pass.inliers, single, List.length_map]
  · exact pass.intervals
  · exact period

theorem Jittered.fundamental_of_near (jittered : Jittered T delta toleranceS intervals) (positive : 0 < T)
    (atLeastOne : 1 ≤ maxMultiple) (some_interval : intervals ≠ []) (near : |period - T| ≤ delta + 1 / 2000) :
    ∃ fit, scorePeriod intervals period toleranceS maxMultiple skipPenalty = some fit ∧
      FundamentalFit T delta intervals fit := by
  obtain ⟨jitter, covers, narrow, intervals_near⟩ := jittered
  obtain ⟨below, above⟩ := abs_le.mp near
  have close {candidate : ℚ} (around : |candidate - T| ≤ delta + 1 / 2000) :
      9 / 10 * T ≤ candidate ∧ ∀ dt ∈ intervals, |dt - candidate| ≤ toleranceS := by
    obtain ⟨lower, upper⟩ := abs_le.mp around
    refine ⟨by linarith, fun dt member => ?_⟩
    obtain ⟨less, more⟩ := abs_le.mp (intervals_near dt member)
    rw [abs_le]
    constructor <;> linarith
  obtain ⟨large, all_close⟩ := close near
  have first := @periodInliers_single T toleranceS intervals maxMultiple period positive narrow atLeastOne large
    all_close
  have some_inlier : periodInliers intervals period toleranceS maxMultiple ≠ [] := by
    rw [first]
    exact fun none => some_interval (List.map_eq_nil_iff.mp none)
  obtain ⟨fit, scored⟩ := @exists_scorePeriod intervals period toleranceS skipPenalty maxMultiple some_inlier
  obtain ⟨pass, refined, middle, chosen⟩ := scorePeriod_pass scored
  have refined_near : |refined - T| ≤ delta := by
    have normalized : ∀ x ∈ (periodInliers intervals period toleranceS maxMultiple).map Inlier.normalized,
        T - delta ≤ x ∧ x ≤ T + delta := by
      rw [first, List.map_map]
      intro x member
      obtain ⟨dt, source, rfl⟩ := List.mem_map.mp member
      obtain ⟨less, more⟩ := abs_le.mp (intervals_near dt source)
      change T - delta ≤ dt ∧ dt ≤ T + delta
      constructor <;> linarith
    obtain ⟨less, more⟩ := median_mem_bounds middle normalized
    rw [abs_le]
    constructor <;> linarith
  have fit_near : |fit.periodS - T| ≤ delta + 1 / 10 ^ 9 ∧ |fit.periodS - T| ≤ delta + 1 / 2000 := by
    obtain ⟨less, more⟩ := abs_le.mp refined_near
    have second := @periodInliers_single T toleranceS intervals maxMultiple refined positive narrow atLeastOne
      (close (refined_near.trans (by linarith))).1 (close (refined_near.trans (by linarith))).2
    rw [chosen, refinePeriod]
    split
    · -- the second pass has every interval, so the refined period is taken
      split
      · rename_i empty
        rw [second] at empty
        exact absurd (List.map_eq_nil_iff.mp empty) some_interval
      · exact ⟨refined_near.trans (by norm_num), refined_near.trans (by norm_num)⟩
    · rename_i unmoved
      obtain ⟨left, right⟩ := abs_le.mp (not_lt.mp unmoved)
      refine ⟨?_, near⟩
      rw [abs_le]
      constructor <;> linarith
  refine ⟨fit, scored, pass.fundamental ?_ fit_near.1⟩
  exact periodInliers_single positive narrow atLeastOne (close fit_near.2).1 (close fit_near.2).2

end Around

/-! ## Divisors -/

section Divisors

variable {period : ℚ}

theorem two_le_multiple {dt : ℚ} (positive : 0 < period) (small : 3 / 2 * period < dt) :
    2 ≤ (inlierOf period dt).multiple := by
  have rounded : 1 < roundHalfEven (dt / period) := by
    apply lt_roundHalfEven
    rw [lt_div_iff₀ positive]
    push_cast
    linarith
  exact le_max_of_le_right rounded

theorem two_le_meanMultiple {inliers : List Inlier} (some_inlier : inliers ≠ [])
    (skips : ∀ inlier ∈ inliers, 2 ≤ inlier.multiple) : 2 ≤ meanMultiple inliers := by
  have total : (0 : ℚ) < inliers.length := by exact_mod_cast List.length_pos_iff.mpr some_inlier
  unfold meanMultiple
  rw [le_div_iff₀ total]
  have sum := List.card_nsmul_le_sum (inliers.map fun inlier => (inlier.multiple : ℚ)) 2 (by
    intro x member
    obtain ⟨inlier, among, rfl⟩ := List.mem_map.mp member
    exact_mod_cast skips inlier among)
  rw [List.length_map, nsmul_eq_mul] at sum
  linarith

theorem PassOf.score_lt {fit : PeriodFit} (pass : PassOf intervals toleranceS maxMultiple skipPenalty fit)
    (penalty : 1 / 10 ^ 6 ≤ skipPenalty)
    (skips : ∀ inlier ∈ periodInliers intervals fit.periodS toleranceS maxMultiple, 2 ≤ inlier.multiple) :
    fit.score < 1 - 1 / 10 ^ 9 := by
  have ratio := fitRatio_bounds pass.nonempty
  have mean := two_le_meanMultiple pass.nonempty skips
  have complexity : 1 + 1 / 10 ^ 6 ≤ 1 + skipPenalty *
      max 0 (meanMultiple (periodInliers intervals fit.periodS toleranceS maxMultiple) - 1) := by
    have skipped : 1 ≤ max 0 (meanMultiple (periodInliers intervals fit.periodS toleranceS maxMultiple) - 1) :=
      le_max_of_le_right (by linarith)
    nlinarith
  rw [pass.score, fitScore, complexityPenalty, div_lt_iff₀ (by linarith)]
  nlinarith

theorem Jittered.score_lt_of_small (jittered : Jittered T delta toleranceS intervals)
    (penalty : 1 / 10 ^ 6 ≤ skipPenalty) (small : period ≤ 3 / 5 * T) {fit : PeriodFit}
    (scored : scorePeriod intervals period toleranceS maxMultiple skipPenalty = some fit) :
    fit.score < 1 - 1 / 10 ^ 9 := by
  obtain ⟨jitter, covers, narrow, intervals_near⟩ := jittered
  have positive : 0 < T := by linarith
  have skips {candidate : ℚ} (below : candidate ≤ 3 / 5 * T) :
      ∀ inlier ∈ periodInliers intervals candidate toleranceS maxMultiple, ∃ dt ∈ intervals,
        2 ≤ inlier.multiple ∧ inlier.normalized = dt / inlier.multiple := by
    intro inlier member
    have candidate_pos := pos_of_periodInliers (List.ne_nil_of_mem member)
    obtain ⟨dt, source, rfl, -⟩ := mem_periodInliers member
    obtain ⟨less, -⟩ := abs_le.mp (intervals_near dt source)
    exact ⟨dt, source, two_le_multiple candidate_pos (by linarith), rfl⟩
  obtain ⟨pass, refined, middle, chosen⟩ := scorePeriod_pass scored
  have refined_small : refined ≤ 3 / 5 * T := by
    have normalized : ∀ x ∈ (periodInliers intervals period toleranceS maxMultiple).map Inlier.normalized,
        0 ≤ x ∧ x ≤ 3 / 5 * T := by
      intro x member
      obtain ⟨inlier, among, rfl⟩ := List.mem_map.mp member
      obtain ⟨dt, source, double, eq⟩ := skips small inlier among
      obtain ⟨less, more⟩ := abs_le.mp (intervals_near dt source)
      have cycles : (2 : ℚ) ≤ inlier.multiple := by exact_mod_cast double
      rw [eq]
      constructor
      · exact div_nonneg (by linarith) (by linarith)
      · rw [div_le_iff₀ (by linarith)]
        nlinarith
    exact (median_mem_bounds middle normalized).2
  have fit_small : fit.periodS ≤ 3 / 5 * T := by
    rw [chosen]
    rcases refinePeriod_period refined (periodInliers intervals period toleranceS maxMultiple) with same | moved
    · rw [same]
      exact small
    · rw [moved]
      exact refined_small
  refine pass.score_lt penalty fun inlier member => ?_
  obtain ⟨-, -, double, -⟩ := skips fit_small inlier member
  exact double

end Divisors

/-! ## Candidates -/

theorem Jittered.candidate_cases (jittered : Jittered T delta toleranceS intervals) {candidate : ℚ}
    {minPeriodS maxPeriodS : ℚ}
    (member : candidate ∈ periodCandidates intervals minPeriodS maxPeriodS maxMultiple) :
    |candidate - T| ≤ delta + 1 / 2000 ∨ candidate ≤ 3 / 5 * T := by
  obtain ⟨jitter, covers, narrow, intervals_near⟩ := jittered
  obtain ⟨dt, source, k, -, -, -, rfl⟩ := mem_periodCandidates.mp member
  obtain ⟨less, more⟩ := abs_le.mp (intervals_near dt source)
  obtain ⟨down, up⟩ := abs_le.mp (abs_sub_roundHalfEven_le (dt / ((k : ℚ) + 1) * 1000))
  cases k with
  | zero =>
      apply Or.inl
      rw [Nat.cast_zero, zero_add, div_one] at down up ⊢
      rw [abs_le]
      constructor <;> linarith
  | succ k =>
      apply Or.inr
      have half : dt / (((k + 1 : ℕ) : ℚ) + 1) ≤ dt / 2 := by
        apply div_le_div_of_nonneg_left (by linarith) (by norm_num)
        push_cast
        linarith [(Nat.cast_nonneg k : (0 : ℚ) ≤ k)]
      linarith

theorem Jittered.exists_near_candidate (jittered : Jittered T delta toleranceS intervals)
    (atLeastOne : 1 ≤ maxMultiple) (some_interval : intervals ≠ []) {minPeriodS maxPeriodS : ℚ}
    (low : minPeriodS ≤ T - delta) (high : T + delta ≤ maxPeriodS) :
    ∃ candidate ∈ periodCandidates intervals minPeriodS maxPeriodS maxMultiple,
      |candidate - T| ≤ delta + 1 / 2000 := by
  obtain ⟨dt, source⟩ := List.exists_mem_of_ne_nil _ some_interval
  obtain ⟨less, more⟩ := abs_le.mp (jittered.near dt source)
  obtain ⟨down, up⟩ := abs_le.mp (abs_sub_roundHalfEven_le (dt * 1000))
  refine ⟨roundHalfEven (dt * 1000) / 1000, ?_, ?_⟩
  · refine mem_periodCandidates.mpr ⟨dt, source, 0, by omega, ?_⟩
    rw [Nat.cast_zero, zero_add, div_one]
    exact ⟨by linarith, by linarith, rfl⟩
  · rw [abs_le]
    constructor <;> linarith

/-! ## The best fit -/

section Best

theorem betterFit_keeps {best fit : PeriodFit} (top : best.score = 1) (lower : fit.score < 1 - 1 / 10 ^ 9) :
    betterFit (some best) fit = best := by
  have not_above : ¬ fit.score > best.score := by
    rw [top]
    intro above
    have small : (0 : ℚ) < 1 / 10 ^ 9 := by norm_num
    linarith
  have not_tied : ¬ |fit.score - best.score| < 1 / 10 ^ 9 := by
    rw [top]
    intro tied
    linarith [(abs_lt.mp tied).1]
  unfold betterFit
  dsimp only
  rw [if_neg not_above, if_neg fun tie => not_tied tie.1]

theorem betterFit_takes {best : Option PeriodFit} {fit : PeriodFit} (top : fit.score = 1)
    (lower : ∀ other ∈ best, other.score < 1 - 1 / 10 ^ 9) : betterFit best fit = fit := by
  unfold betterFit
  split
  · rfl
  · rename_i other
    have above : fit.score > other.score := by
      have small : (0 : ℚ) < 1 / 10 ^ 9 := by norm_num
      rw [top]
      linarith [lower other rfl]
    rw [if_pos above]

def keepBetter (intervals : List ℚ) (toleranceS : ℚ) (maxMultiple : ℤ) (skipPenalty : ℚ)
    (best : Option PeriodFit) (candidate : ℚ) : Option PeriodFit :=
  match scorePeriod intervals candidate toleranceS maxMultiple skipPenalty with
  | none => best
  | some fit => some (betterFit best fit)

/-- Once a candidate near the period was seen, no later candidate takes its place except another such. -/
theorem Jittered.fold_fundamental (jittered : Jittered T delta toleranceS intervals) (positive : 0 < T)
    (atLeastOne : 1 ≤ maxMultiple) (penalty : 1 / 10 ^ 6 ≤ skipPenalty) (some_interval : intervals ≠ [])
    (candidates : List ℚ) (best : Option PeriodFit)
    (cases : ∀ candidate ∈ candidates, |candidate - T| ≤ delta + 1 / 2000 ∨ candidate ≤ 3 / 5 * T)
    (seen : (∃ fit, best = some fit ∧ FundamentalFit T delta intervals fit) ∨
      (∀ other ∈ best, other.score < 1 - 1 / 10 ^ 9) ∧
        ∃ candidate ∈ candidates, |candidate - T| ≤ delta + 1 / 2000) :
    ∃ fit, candidates.foldl (keepBetter intervals toleranceS maxMultiple skipPenalty) best = some fit ∧
      FundamentalFit T delta intervals fit := by
  induction candidates generalizing best with
  | nil =>
      rcases seen with found | ⟨-, candidate, member, -⟩
      · exact found
      · cases member
  | cons candidate rest ih =>
      have rest_cases := fun later member => cases later (List.mem_cons_of_mem candidate member)
      rw [List.foldl_cons]
      by_cases near : |candidate - T| ≤ delta + 1 / 2000
      · obtain ⟨fit, scored, fundamental⟩ :=
          @Jittered.fundamental_of_near T delta toleranceS skipPenalty intervals maxMultiple candidate jittered
            positive atLeastOne some_interval near
        refine ih _ rest_cases (.inl ?_)
        rw [keepBetter, scored]
        refine ⟨_, rfl, ?_⟩
        rcases seen with ⟨earlier, rfl, known⟩ | ⟨lower, -⟩
        · rcases betterFit_eq (some earlier) fit with new | old
          · rw [new]
            exact fundamental
          · rw [← Option.some.inj old]
            exact known
        · rw [betterFit_takes fundamental.score lower]
          exact fundamental
      · have small := (cases candidate List.mem_cons_self).resolve_left near
        have later : (∃ found ∈ candidate :: rest, |found - T| ≤ delta + 1 / 2000) →
            ∃ found ∈ rest, |found - T| ≤ delta + 1 / 2000 := by
          rintro ⟨found, member, close⟩
          rcases List.mem_cons.mp member with rfl | after
          · exact absurd close near
          · exact ⟨found, after, close⟩
        refine ih _ rest_cases ?_
        cases scored : scorePeriod intervals candidate toleranceS maxMultiple skipPenalty with
        | none =>
            rw [keepBetter, scored]
            exact seen.imp_right fun ⟨lower, coming⟩ => ⟨lower, later coming⟩
        | some fit =>
            have minor := jittered.score_lt_of_small penalty small scored
            rw [keepBetter, scored]
            rcases seen with ⟨earlier, rfl, known⟩ | ⟨lower, coming⟩
            · exact .inl ⟨earlier, congrArg some (betterFit_keeps known.score minor), known⟩
            · refine .inr ⟨?_, later coming⟩
              rintro _ ⟨⟩
              rcases betterFit_eq best fit with new | old
              · rw [new]
                exact minor
              · exact lower _ old

end Best

theorem eventIntervals_eq (events : List ℚ) (increasing : ∀ pair ∈ events.zip events.tail, pair.1 < pair.2) :
    eventIntervals events = (events.zip events.tail).map fun pair => pair.2 - pair.1 := by
  unfold eventIntervals
  rw [← List.filterMap_eq_map]
  apply List.filterMap_congr
  intro pair member
  exact if_pos (increasing pair member)

theorem jittered_eventIntervals {events : List ℚ} (jitter : 0 ≤ delta) (covers : 2 * delta + 1 / 2000 ≤ toleranceS)
    (narrow : toleranceS ≤ T / 10) (near : ∀ pair ∈ events.zip events.tail, |pair.2 - pair.1 - T| ≤ delta) :
    Jittered T delta toleranceS (eventIntervals events) ∧
      (eventIntervals events).length = events.length - 1 := by
  have increasing : ∀ pair ∈ events.zip events.tail, pair.1 < pair.2 := by
    intro pair member
    linarith [(abs_le.mp (near pair member)).1]
  rw [eventIntervals_eq events increasing]
  constructor
  · refine ⟨jitter, covers, narrow, fun dt member => ?_⟩
    obtain ⟨pair, adjacent, rfl⟩ := List.mem_map.mp member
    exact near pair adjacent
  · simp

/-- The estimate finds the period of jittered events, not a divisor or a multiple of it, in whatever order
the candidates are tried. -/
theorem fundamental_recovered (order : SetOrder) (events : List ℚ) (T delta : ℚ)
    (minPeriodS maxPeriodS toleranceS : ℚ) (maxMultiple : ℤ) (skipPenalty : ℚ)
    (positive : 0 < T) (jitter : 0 ≤ delta) (enough : 3 ≤ events.length)
    (near : ∀ pair ∈ events.zip events.tail, |pair.2 - pair.1 - T| ≤ delta)
    (covers : 2 * delta + 1 / 2000 ≤ toleranceS) (narrow : toleranceS ≤ T / 10)
    (low : minPeriodS ≤ T - delta) (high : T + delta ≤ maxPeriodS) (atLeastOne : 1 ≤ maxMultiple)
    (penalty : 1 / 10 ^ 6 ≤ skipPenalty) :
    ∃ fit, estimatePeriod order events minPeriodS maxPeriodS toleranceS maxMultiple skipPenalty = some fit ∧
      fit.score = 1 ∧ fit.fitRatio = 1 ∧ fit.inliers = events.length - 1 ∧ fit.intervals = events.length - 1 ∧
      |fit.periodS - T| ≤ delta + 1 / 10 ^ 9 ∧
      ∀ k : ℕ, 2 ≤ k → fit.periodS ≠ T / k ∧ fit.periodS ≠ k * T := by
  obtain ⟨jittered, count⟩ := jittered_eventIntervals jitter covers narrow near
  have some_interval : eventIntervals events ≠ [] := by
    rw [← List.length_pos_iff, count]
    omega
  obtain ⟨fit, best, fundamental⟩ := jittered.fold_fundamental positive atLeastOne penalty some_interval
    (order.enumerate (periodCandidates (eventIntervals events) minPeriodS maxPeriodS maxMultiple)) none
    (fun candidate member => jittered.candidate_cases ((order.perm _).mem_iff.mp member)) (.inr ⟨by simp, by
      obtain ⟨candidate, member, close⟩ := jittered.exists_near_candidate atLeastOne some_interval low high
      exact ⟨candidate, (order.perm _).mem_iff.mpr member, close⟩⟩)
  refine ⟨fit, ?_, fundamental.score, fundamental.fitRatio, fundamental.inliers.trans count,
    fundamental.intervals.trans count, fundamental.period, fun k multiple => ?_⟩
  · unfold estimatePeriod
    dsimp only
    rw [if_neg (by omega)]
    exact best
  · have double : (2 : ℚ) ≤ k := by exact_mod_cast multiple
    obtain ⟨below, above⟩ := abs_le.mp fundamental.period
    constructor
    · intro divisor
      have half : T / k ≤ T / 2 := div_le_div_of_nonneg_left positive.le (by norm_num) double
      linarith
    · intro multipleOf
      nlinarith

def wobblingTimes : List ℚ := [0, 15, 30 + 1 / 100, 45 - 1 / 100, 60]

theorem fundamental_recovered_wobbling :
    ∃ fit, estimatePeriod periodicReading.order wobblingTimes 5 30 (18 / 100) 6 (3 / 10) = some fit ∧
      fit.score = 1 ∧ |fit.periodS - 15| ≤ 1 / 50 + 1 / 10 ^ 9 := by
  obtain ⟨fit, estimated, score, -, -, -, period, -⟩ := fundamental_recovered periodicReading.order wobblingTimes
    15 (1 / 50) 5 30 (18 / 100) 6 (3 / 10) (by norm_num) (by norm_num) (by decide) (by decide +kernel)
    (by norm_num) (by norm_num) (by norm_num) (by norm_num) (by norm_num) (by norm_num)
  exact ⟨fit, estimated, score, period⟩

end StarlinkTcp.Proof

import StarlinkTcp.Machine.Rounding
import Mathlib.Data.List.GetD
import Mathlib.Data.List.Sort
import Mathlib.Data.List.Dedup

/-!
# Period estimation

The statistics of `redhat_auto_monitor.py` and the search for the fundamental period of a list of
event times. Times are exact rationals. The infinite residual of a period that is not positive and
the missing median of an empty list are `none`.
-/

namespace StarlinkTcp.Monitor
open Machine

/-- `statistics.median`, which raises on an empty list. -/
def median (xs : List ℚ) : Option ℚ :=
  let data := xs.insertionSort (· ≤ ·)
  let n := data.length
  if n = 0 then none
  else if n % 2 = 1 then some (data.getD (n / 2) 0)
  else some ((data.getD (n / 2 - 1) 0 + data.getD (n / 2) 0) / 2)

def mad (xs : List ℚ) (med : ℚ) : ℚ := (median (xs.map fun x => |x - med|)).getD 0

/-- `percentile`, interpolating linearly; `nan` on an empty list. -/
def percentile (values : List ℚ) (p : ℚ) : Option ℚ :=
  let vals := values.insertionSort (· ≤ ·)
  if vals.length = 0 then none
  else if vals.length = 1 then some (vals.getD 0 0)
  else
    let pos := (vals.length - 1 : ℚ) * p / 100
    let lo := ⌊pos⌋.toNat
    let hi := ⌈pos⌉.toNat
    if lo = hi then some (vals.getD lo 0)
    else
      let frac := pos - lo
      some (vals.getD lo 0 * (1 - frac) + vals.getD hi 0 * frac)

theorem getD_insertionSort_mem {xs : List ℚ} {n : Nat} (lt : n < (xs.insertionSort (· ≤ ·)).length) :
    (xs.insertionSort (· ≤ ·)).getD n 0 ∈ xs := by
  rw [List.getD_eq_getElem _ _ lt]
  exact (List.perm_insertionSort _ _).mem_iff.mp (List.getElem_mem lt)

def latticeResidual (dt period : ℚ) : Option ℚ × ℤ :=
  if period ≤ 0 then (none, 0)
  else
    let k := max 1 (roundHalfEven (dt / period))
    (some |dt - k * period|, k)

structure PeriodFit where
  periodS : ℚ
  score : ℚ
  fitRatio : ℚ
  oneCycleRatio : ℚ
  medianResidualS : ℚ
  p95ResidualS : ℚ
  inliers : Nat
  intervals : Nat
deriving DecidableEq, Repr

structure Inlier where
  residual : ℚ
  multiple : ℤ
  normalized : ℚ

def periodInliers (intervals : List ℚ) (period toleranceS : ℚ) (maxMultiple : ℤ) : List Inlier :=
  intervals.filterMap fun dt =>
    match latticeResidual dt period with
    | (some residual, k) =>
        if k ≤ maxMultiple ∧ residual ≤ toleranceS then some ⟨residual, k, dt / k⟩ else none
    | (none, _) => none

def fitRatio (intervals : List ℚ) (inliers : List Inlier) : ℚ := inliers.length / intervals.length

def oneCycleRatio (inliers : List Inlier) : ℚ :=
  (inliers.filter fun inlier => inlier.multiple = 1).length / inliers.length

def meanMultiple (inliers : List Inlier) : ℚ :=
  (inliers.map fun inlier => (inlier.multiple : ℚ)).sum / inliers.length

def complexityPenalty (inliers : List Inlier) (skipPenalty : ℚ) : ℚ :=
  1 + skipPenalty * max 0 (meanMultiple inliers - 1)

/-- Zero where `score_period` divides by a zero penalty; `scoreRaises` tells when that is. -/
def fitScore (intervals : List ℚ) (inliers : List Inlier) (skipPenalty : ℚ) : ℚ :=
  fitRatio intervals inliers / complexityPenalty inliers skipPenalty

def refinePeriod (intervals : List ℚ) (period toleranceS : ℚ) (maxMultiple : ℤ) (inliers : List Inlier)
    (refined : ℚ) : ℚ × List Inlier :=
  if |refined - period| > 1 / 10 ^ 9 then
    match periodInliers intervals refined toleranceS maxMultiple with
    | [] => (period, inliers)
    | second => (refined, second)
  else (period, inliers)

def scorePeriod (intervals : List ℚ) (period toleranceS : ℚ) (maxMultiple : ℤ) (skipPenalty : ℚ) :
    Option PeriodFit :=
  let first := periodInliers intervals period toleranceS maxMultiple
  if first.isEmpty then none
  else do
    -- the three lists below are not empty, so the medians and the percentile exist
    let refined ← median (first.map Inlier.normalized)
    let (period, inliers) := refinePeriod intervals period toleranceS maxMultiple first refined
    let medianResidualS ← median (inliers.map Inlier.residual)
    let p95ResidualS ← percentile (inliers.map Inlier.residual) 95
    return {
      periodS := period
      score := fitScore intervals inliers skipPenalty
      fitRatio := fitRatio intervals inliers
      oneCycleRatio := oneCycleRatio inliers
      medianResidualS
      p95ResidualS
      inliers := inliers.length
      intervals := intervals.length }

/-- `score_period` divides by the penalty of its first pass, and by that of a refinement with inliers. Only a
negative `skip_penalty` can make one of them zero. -/
def scoreRaises (intervals : List ℚ) (period toleranceS : ℚ) (maxMultiple : ℤ) (skipPenalty : ℚ) : Bool :=
  let first := periodInliers intervals period toleranceS maxMultiple
  first.isEmpty = false ∧
    (complexityPenalty first skipPenalty = 0 ∨
      ∃ refined ∈ median (first.map Inlier.normalized),
        complexityPenalty (refinePeriod intervals period toleranceS maxMultiple first refined).2 skipPenalty = 0)

/-- The order in which a Python set of numbers is enumerated is not specified. -/
structure SetOrder where
  enumerate : List ℚ → List ℚ
  perm : ∀ xs, (enumerate xs).Perm xs

def eventIntervals (events : List ℚ) : List ℚ :=
  (events.zip events.tail).filterMap fun (a, b) => if b > a then some (b - a) else none

def periodCandidates (intervals : List ℚ) (minPeriodS maxPeriodS : ℚ) (maxMultiple : ℤ) : List ℚ :=
  (intervals.flatMap fun dt =>
    (List.range maxMultiple.toNat).filterMap fun k =>
      let p := dt / ((k : ℚ) + 1)
      if minPeriodS ≤ p ∧ p ≤ maxPeriodS then some (roundHalfEven (p * 1000) / 1000 : ℚ) else none).dedup

def betterFit (best : Option PeriodFit) (fit : PeriodFit) : PeriodFit :=
  match best with
  | none => fit
  | some best =>
      if fit.score > best.score then fit
      else if |fit.score - best.score| < 1 / 10 ^ 9 ∧ fit.periodS > best.periodS then fit
      else best

def estimatePeriod (order : SetOrder) (events : List ℚ) (minPeriodS maxPeriodS toleranceS : ℚ)
    (maxMultiple : ℤ) (skipPenalty : ℚ) : Option PeriodFit :=
  let intervals := eventIntervals events
  if events.length < 3 ∨ intervals.length < 2 then none
  else
    let candidates := periodCandidates intervals minPeriodS maxPeriodS maxMultiple
    (order.enumerate candidates).foldl (fun best candidate =>
      match scorePeriod intervals candidate toleranceS maxMultiple skipPenalty with
      | none => best
      | some fit => some (betterFit best fit)) none

/-- `estimate_period` raises with the first candidate that does, whatever the order. -/
def estimateRaises (events : List ℚ) (minPeriodS maxPeriodS toleranceS : ℚ) (maxMultiple : ℤ)
    (skipPenalty : ℚ) : Bool :=
  let intervals := eventIntervals events
  ¬ (events.length < 3 ∨ intervals.length < 2) ∧
    ∃ candidate ∈ periodCandidates intervals minPeriodS maxPeriodS maxMultiple,
      scoreRaises intervals candidate toleranceS maxMultiple skipPenalty

end StarlinkTcp.Monitor

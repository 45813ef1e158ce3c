import StarlinkTcp.Machine.Rounding

/-!
# Handover peaks and the samples around them, `cdf.py`

`local_peak_indices`, `pair_by_index` and the two `extract_handover_*` functions. A file is the series that was
parsed from it, and a double is the rational it stands for. The command line and the plots are left out.
-/

namespace StarlinkTcp.Graph
open Machine

/-- `np.percentile`, and the double that an exact result is rounded to. -/
structure Numerics where
  percentile : List ℚ → ℚ → ℚ
  rounded : ℚ → ℚ

/-- `int(x)`: truncation toward zero. -/
def int (x : ℚ) : ℤ := if 0 ≤ x then ⌊x⌋ else ⌈x⌉

def valueAt (values : List ℚ) (idx : Nat) : ℚ := values.getD idx 0

/-- `np.argmax`: the first index of a largest entry. -/
def argmax (xs : List ℚ) : Nat := xs.findIdx fun x => xs.all fun y => y ≤ x

/-- A bound of the slice `xs[start:stop]`: one below zero counts from the end. -/
def sliceBound (length : Nat) (bound : ℤ) : Nat :=
  if bound < 0 then (bound + length).toNat else min bound.toNat length

def slice {α : Type*} (xs : List α) (start stop : ℤ) : List α :=
  (xs.take (sliceBound xs.length stop)).drop (sliceBound xs.length start)

/-! ## `local_peak_indices` -/

/-- `np.where(values >= threshold)[0]`. -/
def candidatesOf (values : List ℚ) (threshold : ℚ) : List Nat :=
  (List.range values.length).filter fun idx => threshold ≤ valueAt values idx

def runPeak (values : List ℚ) (run : List Nat) : Nat := run.getD (argmax (run.map (valueAt values))) 0

structure Collapse where
  peaks : List Nat
  run : List Nat
deriving DecidableEq, Repr

def collapseStep (values : List ℚ) (loop : Collapse) (idx : Nat) : Collapse :=
  if idx = loop.run.getLastD 0 + 1 then { loop with run := loop.run ++ [idx] }
  else { peaks := loop.peaks ++ [runPeak values loop.run], run := [idx] }

/-- The peaks of the runs of consecutive candidates; the last run is flushed after the loop. -/
def collapse (values : List ℚ) : List Nat → List Nat
  | [] => []
  | first :: rest =>
      let loop := rest.foldl (collapseStep values) { peaks := [], run := [first] }
      loop.peaks ++ [runPeak values loop.run]

def mergeStep (values : List ℚ) (minGap : ℤ) (merged : List Nat) (p : Nat) : List Nat :=
  match merged.getLast? with
  | none => merged ++ [p]
  | some last =>
      if (p : ℤ) - last ≤ minGap then
        -- keep the larger peak
        if valueAt values last < valueAt values p then merged.dropLast ++ [p] else merged
      else merged ++ [p]

def localPeakIndices (np : Numerics) (values : List ℚ) (percentile : ℚ) (minGap : ℤ) : List Nat :=
  if values.length = 0 then []
  else
    let threshold := np.percentile values percentile
    let candidates := candidatesOf values threshold
    if candidates.length = 0 then []
    else (collapse values candidates).foldl (mergeStep values minGap) []

/-! ## Samples around the peaks -/

def pairByIndex {α β : Type*} (filesA : List α) (filesB : List β) : List (α × β) :=
  let n := min filesA.length filesB.length
  (filesA.take n).zip (filesB.take n)

structure HandoverSettings where
  peakPercentile : ℚ
  windowSec : ℚ
  intervalHz : ℤ
  minGapSec : ℚ
deriving DecidableEq, Repr

def HandoverSettings.minGap (settings : HandoverSettings) (np : Numerics) : ℤ :=
  max 1 (int (np.rounded (settings.minGapSec * settings.intervalHz)))

/-- `int(round(window_sec * hz))`, for the rate of the sampled series. -/
def HandoverSettings.halfWindow (settings : HandoverSettings) (np : Numerics) (hz : ℤ) : ℤ :=
  roundHalfEven (np.rounded (settings.windowSec * hz))

/-- The place in a series of `samples` entries of an index into a series of `intervals` entries. -/
def mappedIdx (np : Numerics) (intervals samples peakIdx : Nat) : ℤ :=
  let ratio := np.rounded (peakIdx / (max (intervals - 1 : ℤ) 1 : ℤ))
  int (np.rounded (ratio * (samples - 1 : ℤ)))

/-- What both extractions collect from one run. -/
def collectRun {α : Type*} (np : Numerics) (settings : HandoverSettings) (hz : ℤ)
    (intervals : List ℚ) (samples : List α) : List α :=
  if intervals.length = 0 ∨ samples.length = 0 then []
  else
    let peaks := localPeakIndices np intervals settings.peakPercentile (settings.minGap np)
    peaks.flatMap fun peakIdx =>
      let idx := mappedIdx np intervals.length samples.length peakIdx
      let halfWindow := settings.halfWindow np hz
      let start := max 0 (idx - halfWindow)
      let stop := min (samples.length : ℤ) (idx + halfWindow + 1)
      slice samples start stop

def extractHandoverThroughput (np : Numerics) (settings : HandoverSettings) (flowHz : ℤ)
    (intervalFiles flowFiles : List (List ℚ)) : List ℚ :=
  (pairByIndex intervalFiles flowFiles).flatMap fun run => collectRun np settings flowHz run.1 run.2

def extractHandoverRtt (np : Numerics) (settings : HandoverSettings) (pingHz : ℤ)
    (intervalFiles pingFiles : List (List ℚ)) : List ℚ :=
  (pairByIndex intervalFiles pingFiles).flatMap fun run => collectRun np settings pingHz run.1 run.2

end StarlinkTcp.Graph

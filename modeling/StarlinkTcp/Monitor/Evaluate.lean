import StarlinkTcp.Monitor.State

/-!
# The evaluation of a monitor log

The rows of the CSV file as `redhat_auto_evaluate.py` loads them, and its `summarize`. A cell that is
empty and a number that is `nan` are `none`. The columns that `summarize` does not read are left out.
-/

namespace StarlinkTcp.Monitor
open Machine

structure CsvRow where
  wallTime : ℚ
  record : String
  target : Option String
  eventEpoch : Option ℚ
  gapMs : Option ℚ
  thresholdMs : Option ℚ
  periodS : Option ℚ
  score : Option ℚ
  fitRatio : Option ℚ
  p95ResidualMs : Option ℚ
  state : String
deriving DecidableEq, Repr

/-- A number written with `digits` decimals. -/
def decimals (digits : Nat) (x : ℚ) : ℚ := roundHalfEven (x * 10 ^ digits) / 10 ^ digits

def stateLabel (active : Bool) : String := if active then "ACTIVE" else "LEARNING"

def SessionSource.label : SessionSource → String
  | .confirm => "confirm"
  | .validation => "validation"

namespace LogRow

/-- `log_simple`, in the columns that are read. -/
def simple (row : LogRow) (record : String) : CsvRow where
  wallTime := row.wallTime
  record := record
  target := none
  eventEpoch := none
  gapMs := none
  thresholdMs := none
  periodS := none
  score := none
  fitRatio := none
  p95ResidualMs := none
  state := stateLabel row.active

/-- The row of the file. Nine decimals give back a time of the size of an epoch exactly. -/
def csv (row : LogRow) : CsvRow :=
  match row.record with
  | .start => { row.simple "start" with state := "LEARNING" }
  | .candidate target event gap threshold =>
      { row.simple "candidate" with
        target := some target
        eventEpoch := some event
        gapMs := some (decimals 3 (gap * 1000))
        thresholdMs := some (decimals 3 (threshold * 1000)) }
  | .common event =>
      { row.simple "common" with
        target := some (",".intercalate event.supporters)
        eventEpoch := some event.time }
  | .fit fit =>
      { row.simple "fit" with
        periodS := some (decimals 9 fit.periodS)
        score := some (decimals 6 fit.score)
        fitRatio := some (decimals 6 fit.fitRatio)
        p95ResidualMs := some (decimals 3 (fit.p95ResidualS * 1000)) }
  | .activate anchor fit _ =>
      { row.simple "activate" with
        eventEpoch := some anchor
        periodS := row.lockedPeriod.map (decimals 9)
        score := some (decimals 6 fit.score)
        fitRatio := some (decimals 6 fit.fitRatio)
        p95ResidualMs := some (decimals 3 (fit.p95ResidualS * 1000))
        state := "ACTIVE" }
  | .phaseCheck event fit _ _ _ _ =>
      { row.simple "phase_check" with
        eventEpoch := some event
        periodS := row.lockedPeriod.map (decimals 9)
        score := fit.map fun fit => decimals 6 fit.score
        fitRatio := fit.map fun fit => decimals 6 fit.fitRatio
        p95ResidualMs := fit.map fun fit => decimals 3 (fit.p95ResidualS * 1000)
        state := "ACTIVE" }
  | .relearn _ => row.simple "relearn"
  | .sessionSuccess source => row.simple (source.label ++ "_success")
  | .probeSleep _ => row.simple "probe_sleep"
  | .validationStart => row.simple "validation_start"

end LogRow

/-! ## Reference events

The log of `pop_interval.sh` has a line for each reply: when it came, and how long after the one before. -/

-- the first two words of a line; `float` is the parser of Python, which refuses the rest of a word
def popIntervalRow (float : String → Option ℚ) (words : List String) : Option (ℚ × ℚ) :=
  match words with
  | first :: second :: _ => do
      let ts ← float first
      let interval ← float second
      return (ts, interval)
  | _ => none

def mergeEvent (mergeGapS : ℚ) (out : List ℚ) (t : ℚ) : List ℚ :=
  match out.getLast? with
  | none => [t]
  | some last => if t - last > mergeGapS then out ++ [t] else out

/-- The replies that came late, each moved to where a reply was due after the one before. -/
def popIntervalEvents (rows : List (ℚ × ℚ)) (threshold normalMed : ℚ) : List ℚ :=
  (rows.filter fun row => threshold ≤ row.2).map fun row => row.1 - row.2 + normalMed

structure PopInterval where
  threshold : ℚ
  normalMed : ℚ
deriving DecidableEq, Repr

/-- What counts as late and as normal; there is neither in an empty log. -/
def popIntervalLevels (rows : List (ℚ × ℚ)) (rank minThresholdMs : ℚ) : Option PopInterval := do
  let ints := rows.map Prod.snd
  let high ← percentile ints rank
  let threshold := max high (minThresholdMs / 1000)
  let normal := ints.filter fun interval => interval < threshold
  let normalMed ← median (if normal.length ≠ 0 then normal else ints)
  return ⟨threshold, normalMed⟩

def parsePopInterval (float : String → Option ℚ) (lines : List (List String))
    (rank minThresholdMs mergeGapMs : ℚ) : List ℚ :=
  let rows := lines.filterMap (popIntervalRow float)
  match popIntervalLevels rows rank minThresholdMs with
  | none => []
  | some levels =>
      (popIntervalEvents rows levels.threshold levels.normalMed).foldl (mergeEvent (mergeGapMs / 1000)) []

/-! ## Matching events

`argmin` and `unique` are those of NumPy. -/

-- the first position of a smallest value
def argmin (xs : List ℚ) : Nat := xs.findIdx fun x => xs.all fun y => x ≤ y

def unique (xs : List ℚ) : List ℚ := (xs.insertionSort (· ≤ ·)).dedup

structure Matches where
  errors : List ℚ
  matchedRef : List Nat
  tp : ℤ
deriving DecidableEq, Repr

def matchEvent (refEvents : List ℚ) (tolS : ℚ) (found : Matches) (t : ℚ) : Matches :=
  let j := argmin (refEvents.map fun ref => |ref - t|)
  let e := t - refEvents.getD j 0
  if |e| ≤ tolS ∧ j ∉ found.matchedRef then
    { errors := found.errors ++ [e], matchedRef := found.matchedRef ++ [j], tp := found.tp + 1 }
  else found

structure NearestErrors where
  errors : List ℚ
  tp : ℤ
  fp : ℤ
  fn : ℤ
deriving DecidableEq, Repr

def nearestErrors (testEvents refEvents : List ℚ) (tolS : ℚ) : NearestErrors :=
  if testEvents.length = 0 ∨ refEvents.length = 0 then ⟨[], 0, 0, 0⟩
  else
    let found := testEvents.foldl (matchEvent refEvents tolS) ⟨[], [], 0⟩
    { errors := found.errors
      tp := found.tp
      fp := testEvents.length - found.tp
      fn := refEvents.length - found.tp }

structure EventEval where
  detectedControlEvents : Nat
  referenceEvents : Nat
  tp : ℤ
  fp : ℤ
  fn : ℤ
  precision : Option ℚ
  -- `recall` is a keyword
  recallRatio : Option ℚ
  f1 : Option ℚ
  phaseErrorMedianMs : Option ℚ
  phaseAbsErrorMedianMs : Option ℚ
  phaseAbsErrorP95Ms : Option ℚ
deriving DecidableEq, Repr

def ratio (part whole : ℤ) : Option ℚ := if whole = 0 then none else some (part / whole)

def f1Score (precision recallRatio : Option ℚ) : Option ℚ :=
  match precision, recallRatio with
  | some precision, some recallRatio =>
      if precision + recallRatio = 0 then none else some (2 * precision * recallRatio / (precision + recallRatio))
  | _, _ => none

def evaluateEvents (detEvents refEvents : List ℚ) (matchTolMs : ℚ) : EventEval :=
  let result := nearestErrors detEvents refEvents (matchTolMs / 1000)
  let precision := ratio result.tp (result.tp + result.fp)
  let recallRatio := ratio result.tp (result.tp + result.fn)
  { detectedControlEvents := detEvents.length
    referenceEvents := refEvents.length
    tp := result.tp
    fp := result.fp
    fn := result.fn
    precision
    recallRatio
    f1 := f1Score precision recallRatio
    phaseErrorMedianMs := (median result.errors).map fun error => error * 1000
    phaseAbsErrorMedianMs := (median (result.errors.map fun error => |error|)).map fun error => error * 1000
    phaseAbsErrorP95Ms := percentile (result.errors.map fun error => |error| * 1000) 95 }

/-! ## The summary -/

structure FitSummary where
  finalFitPeriodS : Option ℚ
  medianFitPeriodS : Option ℚ
  -- the square of `std_fit_period_ms`
  varFitPeriodMs : Option ℚ
  finalScore : Option ℚ
  medianScore : Option ℚ
  finalFitRatio : Option ℚ
  medianFitRatio : Option ℚ
  finalP95ResidualMs : Option ℚ
  medianP95ResidualMs : Option ℚ
deriving DecidableEq, Repr

def variance (xs : List ℚ) : Option ℚ :=
  if xs.length = 0 then none
  else
    let mean := xs.sum / xs.length
    some ((xs.map fun x => (x - mean) ^ 2).sum / xs.length)

def fitSummary (fits : List CsvRow) : FitSummary :=
  let periods := fits.filterMap CsvRow.periodS
  let scores := fits.filterMap CsvRow.score
  let ratios := fits.filterMap CsvRow.fitRatio
  let residuals := fits.filterMap CsvRow.p95ResidualMs
  { finalFitPeriodS := periods.getLast?
    medianFitPeriodS := median periods
    varFitPeriodMs := (variance periods).map fun var => var * 1000 ^ 2
    finalScore := scores.getLast?
    medianScore := median scores
    finalFitRatio := ratios.getLast?
    medianFitRatio := median ratios
    finalP95ResidualMs := residuals.getLast?
    medianP95ResidualMs := median residuals }

structure PeriodErrors where
  periodAbsErrorMedianMs : Option ℚ
  periodAbsErrorP95Ms : Option ℚ
  finalPeriodErrorMs : Option ℚ
deriving DecidableEq, Repr

def periodErrors (fits : List CsvRow) (referencePeriod : ℚ) : PeriodErrors :=
  let errMs := (fits.filterMap CsvRow.periodS).map fun period => (period - referencePeriod) * 1000
  let absErrMs := errMs.map fun error => |error|
  { periodAbsErrorMedianMs := median absErrMs
    periodAbsErrorP95Ms := percentile absErrMs 95
    finalPeriodErrorMs := errMs.getLast? }

structure TargetSummary where
  target : Option String
  candidates : Nat
  medianGapMs : Option ℚ
  p95GapMs : Option ℚ
  medianThresholdMs : Option ℚ
deriving DecidableEq, Repr

def targetSummary (candidates : List CsvRow) (target : Option String) : TargetSummary :=
  let group := candidates.filter fun row => row.target = target
  { target
    candidates := group.length
    medianGapMs := median (group.filterMap CsvRow.gapMs)
    p95GapMs := percentile (group.filterMap CsvRow.gapMs) 95
    medianThresholdMs := median (group.filterMap CsvRow.thresholdMs) }

/-- The groups in the order of their targets; a missing target comes last. -/
def perTargetSummary (candidates : List CsvRow) : List TargetSummary :=
  let named := ((candidates.filterMap CsvRow.target).insertionSort (· ≤ ·)).dedup
  let unnamed := if candidates.any fun row => row.target = none then [none] else []
  (named.map some ++ unnamed).map (targetSummary candidates)

structure Summary where
  durationS : ℚ
  candidateCount : Nat
  fitCount : Nat
  activateCount : Nat
  resyncCount : Nat
  disableCount : Nat
  finalState : String
  activationDelayS : Option ℚ
  fits : Option FitSummary
  periodErrors : Option PeriodErrors
  eventEval : Option EventEval
deriving DecidableEq, Repr

def recordsOf (record : String) (rows : List CsvRow) : List CsvRow :=
  rows.filter fun row => row.record = record

/-- `summarize`, which raises on an empty log. -/
def summarize (rows : List CsvRow) (referencePeriod : Option ℚ) (refEvents : Option (List ℚ)) (matchTolMs : ℚ) :
    Option (Summary × List TargetSummary) := do
  let start ← (rows.map CsvRow.wallTime).min?
  let finish ← (rows.map CsvRow.wallTime).max?
  let last ← rows.getLast?
  let candidates := recordsOf "candidate" rows
  let fits := recordsOf "fit" rows
  let activ := recordsOf "activate" rows
  let resync := recordsOf "resync" rows
  let disab := recordsOf "disable" rows
  let summary : Summary := {
    durationS := finish - start
    candidateCount := candidates.length
    fitCount := fits.length
    activateCount := activ.length
    resyncCount := resync.length
    disableCount := disab.length
    finalState := last.state
    activationDelayS := activ.head?.map fun row => row.wallTime - start
    fits := if fits.isEmpty then none else some (fitSummary fits)
    periodErrors := if fits.isEmpty then none else referencePeriod.map (periodErrors fits)
    eventEval := (refEvents.filter fun refEvents => refEvents.length ≠ 0).map fun refEvents =>
      evaluateEvents (unique ((activ ++ resync).filterMap CsvRow.eventEpoch)) refEvents matchTolMs }
  return (summary, perTargetSummary candidates)

example : nearestErrors [10, 20, 21] [10, 20] 1 = ⟨[0, 0], 2, 1, 0⟩ := by decide +kernel

end StarlinkTcp.Monitor

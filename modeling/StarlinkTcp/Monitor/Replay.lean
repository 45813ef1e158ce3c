import StarlinkTcp.Monitor.Evaluate
import StarlinkTcp.Monitor.Loop

/-!
# The log as a journal

Every decision of the monitor leaves a row in its log. `replay` reads the rows in order and keeps what the
monitor keeps: the lattice it has locked, the fits and phase errors it goes by, the session it is in and the
evidence of each target. Replies that are no candidates, the monotonic clock, the running pings and the count
of period mismatches leave no rows. The rows are the records that are handed to the writer; in the file their
periods, scores and errors are cut to a few decimals, which `LogRow.written` does.
-/

namespace StarlinkTcp.Monitor
open Machine

/-- What the log says of a target. -/
structure TargetRecord where
  events : List ℚ
  candidateCount : Nat
  commonSupportCount : Nat
  recentCommonSupport : List Nat
deriving DecidableEq, Repr

structure Control where
  active : Bool
  probeMode : ProbeMode
  lockedPeriod : Option ℚ
  phaseAnchor : Option ℚ
  lastValidEvent : Option ℚ
  lastProgrammed : Option (ℤ × ℤ)
  lastKernelResyncTime : Option ℚ
  activeSince : Option ℚ
  lastDisableTime : Option ℚ
  lastDisabledPeriod : Option ℚ
  recentGoodPeriodFits : List ℚ
  phaseErrorHistory : List ℚ
  phaseAbsErrorHistory : List ℚ
  lastPredictionGuardMs : Option ℤ
  sessionStartedWall : Option ℚ
  sessionValidEvents : ℤ
  loggedCommonEvents : List ℤ
  learningStartedWall : ℚ
  currentTargets : List String
  targets : String → TargetRecord

def TargetState.record (st : TargetState) : TargetRecord where
  events := st.events
  candidateCount := st.candidateCount
  commonSupportCount := st.commonSupportCount
  recentCommonSupport := st.recentCommonSupport

def MonitorState.control (s : MonitorState) : Control where
  active := s.active
  probeMode := s.probeMode
  lockedPeriod := s.lockedPeriod
  phaseAnchor := s.phaseAnchor
  lastValidEvent := s.lastValidEvent
  lastProgrammed := s.lastProgrammed
  lastKernelResyncTime := s.lastKernelResyncTime
  activeSince := s.activeSince
  lastDisableTime := s.lastDisableTime
  lastDisabledPeriod := s.lastDisabledPeriod
  recentGoodPeriodFits := s.recentGoodPeriodFits
  phaseErrorHistory := s.phaseErrorHistory
  phaseAbsErrorHistory := s.phaseAbsErrorHistory
  lastPredictionGuardMs := s.lastPredictionGuardMs
  sessionStartedWall := s.sessionStartedWall
  sessionValidEvents := s.sessionValidEvents
  loggedCommonEvents := s.loggedCommonEvents
  learningStartedWall := s.learningStartedWall
  currentTargets := s.currentTargets
  targets := fun target => (s.states target).record

namespace TargetRecord

def state (record : TargetRecord) : TargetState :=
  { TargetState.fresh with
    events := record.events
    candidateCount := record.candidateCount
    commonSupportCount := record.commonSupportCount
    recentCommonSupport := record.recentCommonSupport }

def noteCandidate (event : ℚ) (record : TargetRecord) : TargetRecord :=
  { record with
    events := dequeAppend 2048 record.events event
    candidateCount := record.candidateCount + 1 }

def noteSupport (participated : Bool) (record : TargetRecord) : TargetRecord :=
  { record with
    recentCommonSupport := dequeAppend 32 record.recentCommonSupport (if participated then 1 else 0)
    commonSupportCount := if participated then record.commonSupportCount + 1 else record.commonSupportCount }

end TargetRecord

namespace Control

variable (setup : Setup)

/-- Before the first row. -/
def blank : Control where
  active := false
  probeMode := .learning
  lockedPeriod := none
  phaseAnchor := none
  lastValidEvent := none
  lastProgrammed := none
  lastKernelResyncTime := none
  activeSince := none
  lastDisableTime := none
  lastDisabledPeriod := none
  recentGoodPeriodFits := []
  phaseErrorHistory := []
  phaseAbsErrorHistory := []
  lastPredictionGuardMs := none
  sessionStartedWall := none
  sessionValidEvents := 0
  loggedCommonEvents := []
  learningStartedWall := 0
  currentTargets := setup.targets
  targets := fun _ => TargetState.fresh.record

def noteCommon (event : CommonEvent) (control : Control) : Control :=
  { control with
    loggedCommonEvents := control.loggedCommonEvents ++ [MonitorState.eventKey event]
    targets := fun target =>
      if control.active = true ∨ target ∉ setup.targets then control.targets target
      else (control.targets target).noteSupport (target ∈ event.supporters) }

def noteFit (fit : PeriodFit) (control : Control) : Control :=
  { control with
    recentGoodPeriodFits :=
      if control.active = false ∧ MonitorState.learningFitGood setup fit then
        dequeAppend (max 1 setup.args.periodLockWindow).toNat control.recentGoodPeriodFits fit.periodS
      else control.recentGoodPeriodFits }

def activeTargets (control : Control) : List String :=
  let selected := chooseActiveTargets (fun target => (control.targets target).state) setup.targets
    setup.args.bootstrap setup.args.activeTargets setup.args.activeMinParticipation
  if (selected.length : ℤ) ≥ setup.args.minTargets then selected else setup.targets

def noteActivate (wallTime : ℚ) (lockedPeriod : Option ℚ) (anchor : ℚ) (programmed : Option (ℤ × ℤ))
    (control : Control) : Control :=
  { control with
    active := true
    probeMode := .activeConfirm
    lockedPeriod
    phaseAnchor := some anchor
    lastValidEvent := some anchor
    lastProgrammed := programmed
    lastKernelResyncTime := some wallTime
    activeSince := some wallTime
    phaseErrorHistory := []
    phaseAbsErrorHistory := []
    sessionStartedWall := some wallTime
    sessionValidEvents := 0
    currentTargets := control.activeTargets setup }

/-- The guard that is wanted after a phase check; it is not logged, but the errors it rests on are. -/
def nextPredictionGuard (absErrors : List ℚ) (last : Option ℤ) : Option ℤ :=
  let desired := computePredictionGuardMs absErrors setup.args.predictionGuardSafetyMs
    setup.args.predictionGuardMinMs setup.args.predictionGuardMaxMs
  if (setup.args.autoPredictionGuard ∧ absErrors.length ≥ 5) ∧
      ∀ before ∈ last, |desired - before| ≥ setup.args.predictionGuardUpdateStepMs then some desired
  else last

def notePhaseCheck (wallTime event : ℚ) (programmed : Option (ℤ × ℤ)) (phaseErrorMs : ℚ) (action : PhaseAction)
    (control : Control) : Control :=
  let errors := dequeAppend (max 1 setup.args.phaseConsensusWindow).toNat control.phaseErrorHistory
    (phaseErrorMs / 1000)
  let absErrors := dequeAppend (max 1 setup.args.predictionGuardWindow).toNat control.phaseAbsErrorHistory
    |phaseErrorMs|
  let noted := { control with
    lastValidEvent := some event
    lastProgrammed := programmed
    phaseErrorHistory := errors
    phaseAbsErrorHistory := absErrors
    lastPredictionGuardMs := nextPredictionGuard setup absErrors control.lastPredictionGuardMs
    sessionValidEvents := control.sessionValidEvents + 1 }
  match action with
  | .none => noted
  -- by how much is not logged either, but it is the median of the errors since the last correction
  | .resync =>
      { noted with
        phaseAnchor := do
          let anchor ← control.phaseAnchor
          let consensus ← median errors
          return anchor + consensus * min 1 (max 0 setup.args.phaseResyncAlpha)
        lastKernelResyncTime := some wallTime
        phaseErrorHistory := [] }

def noteRelearn (wallTime : ℚ) (previousPeriod : Option ℚ) (control : Control) : Control :=
  { blank setup with
    lastDisableTime := if previousPeriod.isSome then some wallTime else control.lastDisableTime
    lastDisabledPeriod := if previousPeriod.isSome then previousPeriod else control.lastDisabledPeriod
    loggedCommonEvents := control.loggedCommonEvents
    learningStartedWall := wallTime
    targets := fun target => { control.targets target with commonSupportCount := 0, recentCommonSupport := [] } }

def note (control : Control) (row : LogRow) : Control :=
  match row.record with
  | .start => { control with learningStartedWall := row.wallTime }
  | .candidate target event _ _ =>
      { control with
        targets := Function.update control.targets target ((control.targets target).noteCandidate event) }
  | .common event => control.noteCommon setup event
  | .fit fit => control.noteFit setup fit
  | .activate anchor _ programmed => control.noteActivate setup row.wallTime row.lockedPeriod anchor programmed
  | .phaseCheck event _ programmed _ phaseErrorMs action =>
      control.notePhaseCheck setup row.wallTime event programmed phaseErrorMs action
  | .relearn _ => control.noteRelearn setup row.wallTime row.lockedPeriod
  | .sessionSuccess _ => control
  | .probeSleep _ =>
      { control with probeMode := .activeSleep, sessionStartedWall := none, sessionValidEvents := 0 }
  | .validationStart =>
      { control with
        probeMode := .activeValidate
        sessionStartedWall := some row.wallTime
        sessionValidEvents := 0
        phaseErrorHistory := []
        phaseAbsErrorHistory := [] }

end Control

def PeriodFit.written (fit : PeriodFit) : PeriodFit :=
  { fit with
    periodS := decimals 9 fit.periodS
    score := decimals 6 fit.score
    fitRatio := decimals 6 fit.fitRatio
    p95ResidualS := decimals 3 (fit.p95ResidualS * 1000) / 1000 }

def LogRecord.written : LogRecord → LogRecord
  | .candidate target event gap threshold =>
      .candidate target event (decimals 3 (gap * 1000) / 1000) (decimals 3 (threshold * 1000) / 1000)
  | .fit found => .fit found.written
  | .activate anchor found programmed => .activate anchor found.written programmed
  | .phaseCheck event found programmed predicted phaseErrorMs action =>
      .phaseCheck event (found.map PeriodFit.written) programmed predicted (decimals 3 phaseErrorMs) action
  | record => record

/-- A row with the decimals of the file. A time of the size of an epoch keeps its value with nine of them. -/
def LogRow.written (row : LogRow) : LogRow :=
  { row with
    record := row.record.written
    lockedPeriod := row.lockedPeriod.map (decimals 9) }

end StarlinkTcp.Monitor

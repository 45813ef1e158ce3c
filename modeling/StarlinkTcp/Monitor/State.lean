import StarlinkTcp.Monitor.Detector
import StarlinkTcp.Monitor.Program

/-!
# The state of the monitor

The variables of `main` in `redhat_auto_monitor.py` with the kernel namespace it writes to, the log it
keeps, and its three closures `enter_learning`, `enter_sleep` and `start_validation`. An uncaught
exception, from an empty median or a refused sysctl write, ends the monitor. Whether a ping starts is
up to the system and is given to every transition that starts some.
-/

namespace StarlinkTcp.Monitor
open Kernel Machine

structure Args where
  bootstrap : List String
  minBaselineSamples : ℤ
  minGapMs : ℚ
  gapFactor : ℚ
  madSigma : ℚ
  eventMergeMs : ℚ
  crossTargetMs : ℚ
  minTargets : ℤ
  periodMin : ℚ
  periodMax : ℚ
  periodToleranceMs : ℚ
  maxMultiple : ℤ
  skipPenalty : ℚ
  minEvents : ℤ
  minScore : ℚ
  minFitRatio : ℚ
  learnSeconds : ℚ
  analysisWindow : ℚ
  analysisEvery : ℚ
  periodLockWindow : ℤ
  periodLockMinFits : ℤ
  phaseResyncThresholdMs : ℚ
  phaseResyncMinCycles : ℚ
  phaseResyncAlpha : ℚ
  periodRelearnThresholdMs : ℚ
  periodRelearnCount : ℤ
  reactivationCooldownCycles : ℚ
  phaseConsensusWindow : ℤ
  phaseConsensusMinEvents : ℤ
  phaseConsensusSignRatio : ℚ
  autoPredictionGuard : Bool
  predictionGuardWindow : ℤ
  predictionGuardSafetyMs : ℚ
  predictionGuardMinMs : ℤ
  predictionGuardMaxMs : ℤ
  predictionGuardUpdateStepMs : ℤ
  activeTargets : ℤ
  activeMinParticipation : ℚ
  activeConfirmCycles : ℚ
  activeConfirmMinEvents : ℤ
  validationIntervalMin : ℚ
  validationCycles : ℚ
  validationMinEvents : ℤ
  manageEnable : Bool
  dryRun : Bool

def Args.default : Args where
  bootstrap := ["1.1.1.1", "8.8.8.8"]
  minBaselineSamples := 100
  minGapMs := 50
  gapFactor := 23 / 10
  madSigma := 7
  eventMergeMs := 500
  crossTargetMs := 100
  minTargets := 2
  periodMin := 5
  periodMax := 30
  periodToleranceMs := 180
  maxMultiple := 6
  skipPenalty := 3 / 10
  minEvents := 6
  minScore := 7 / 10
  minFitRatio := 7 / 10
  learnSeconds := 120
  analysisWindow := 300
  analysisEvery := 5
  periodLockWindow := 8
  periodLockMinFits := 3
  phaseResyncThresholdMs := 40
  phaseResyncMinCycles := 3
  phaseResyncAlpha := 1
  periodRelearnThresholdMs := 100
  periodRelearnCount := 5
  reactivationCooldownCycles := 2
  phaseConsensusWindow := 5
  phaseConsensusMinEvents := 3
  phaseConsensusSignRatio := 8 / 10
  autoPredictionGuard := false
  predictionGuardWindow := 12
  predictionGuardSafetyMs := 15
  predictionGuardMinMs := 20
  predictionGuardMaxMs := 120
  predictionGuardUpdateStepMs := 10
  activeTargets := 3
  activeMinParticipation := 7 / 10
  activeConfirmCycles := 5
  activeConfirmMinEvents := 2
  validationIntervalMin := 30
  validationCycles := 5
  validationMinEvents := 3
  manageEnable := false
  dryRun := false

def Args.normalize (args : Args) : Args :=
  let minTargets := max 1 args.minTargets
  let periodLockMinFits := max 1 args.periodLockMinFits
  let phaseConsensusMinEvents := max 1 args.phaseConsensusMinEvents
  { args with
    minTargets
    activeTargets := max minTargets args.activeTargets
    periodLockMinFits
    periodLockWindow := max periodLockMinFits args.periodLockWindow
    phaseConsensusMinEvents
    phaseConsensusWindow := max phaseConsensusMinEvents args.phaseConsensusWindow
    activeConfirmCycles := max 1 args.activeConfirmCycles
    validationCycles := max 1 args.validationCycles
    activeConfirmMinEvents := max 1 args.activeConfirmMinEvents
    validationMinEvents := max 1 args.validationMinEvents
    validationIntervalMin := max (1 / 10) args.validationIntervalMin }

/-- `main` lowers the cross-target requirement to the number of targets there are. -/
def Args.forTargets (args : Args) (targets : List String) : Args :=
  let minTargets := if args.minTargets > targets.length then (targets.length : ℤ) else args.minTargets
  { args with minTargets, activeTargets := max minTargets args.activeTargets }

def Args.gapSettings (args : Args) : TargetState.GapSettings where
  minBaselineSamples := args.minBaselineSamples
  minGapMs := args.minGapMs
  gapFactor := args.gapFactor
  madSigma := args.madSigma
  mergeGapS := args.eventMergeMs / 1000

inductive ProbeMode where
  | learning | activeConfirm | activeSleep | activeValidate
deriving DecidableEq, Repr

inductive SessionSource where
  | confirm | validation
deriving DecidableEq, Repr

inductive RelearnReason where
  | validationWithoutPeriod
  | validationProbeStartFailure
  | periodMismatch
  | sessionFailed (source : SessionSource)
  | insufficientProbeProcesses
deriving DecidableEq, Repr

inductive PhaseAction where
  | none | resync
deriving DecidableEq, Repr

inductive LogRecord where
  | start
  | candidate (target : String) (event gap threshold : ℚ)
  | common (event : CommonEvent)
  | fit (fit : PeriodFit)
  | activate (anchor : ℚ) (fit : PeriodFit) (programmed : Option (ℤ × ℤ))
  | phaseCheck (event : ℚ) (fit : Option PeriodFit) (programmed : Option (ℤ × ℤ))
      (predicted phaseErrorMs : ℚ) (action : PhaseAction)
  | relearn (reason : RelearnReason)
  | sessionSuccess (source : SessionSource)
  | probeSleep (source : SessionSource)
  | validationStart
deriving DecidableEq, Repr

structure LogRow where
  wallTime : ℚ
  record : LogRecord
  active : Bool
  lockedPeriod : Option ℚ
  probeMode : ProbeMode
deriving DecidableEq, Repr

structure MonitorState where
  net : Net
  active : Bool
  probeMode : ProbeMode
  lockedPeriod : Option ℚ
  phaseAnchor : Option ℚ
  lastValidEvent : Option ℚ
  lastProgrammed : Option (ℤ × ℤ)
  lastKernelResyncTime : Option ℚ
  activeSince : Option ℚ
  lastDisableTime : Option ℚ
  lastDisabledPeriod : Option ℚ
  recentGoodPeriodFits : List ℚ
  phaseErrorHistory : List ℚ
  phaseAbsErrorHistory : List ℚ
  lastPredictionGuardMs : Option ℤ
  periodMismatchCount : ℤ
  sessionStartedWall : Option ℚ
  sessionDeadlineMono : Option ℚ
  sessionValidEvents : ℤ
  nextValidationMono : Option ℚ
  loggedCommonEvents : List ℤ
  nextAnalysis : ℚ
  learningStartedWall : ℚ
  currentTargets : List String
  states : String → TargetState
  -- the targets with a running ping
  procs : List String
  log : List LogRow

structure Setup where
  args : Args
  targets : List String

def Setup.ofArgs (args : Args) (targets : List String) : Setup where
  args := args.normalize.forTargets targets
  targets := targets

-- which pings start
abbrev Starts := String → Bool

def resetProbeSession (states : String → TargetState) (targets : List String) : String → TargetState :=
  fun target =>
    if target ∈ targets then { states target with lastReplyTs := none } else states target

def startProbeProcesses (starts : Starts) (targets procs : List String) : List String :=
  procs ++ targets.filter fun target => target ∉ procs ∧ starts target

def resetLearningTargetStats (states : String → TargetState) : String → TargetState :=
  fun target => { states target with commonSupportCount := 0, recentCommonSupport := [] }

namespace MonitorState

def row (s : MonitorState) (wallTime : ℚ) (record : LogRecord) : LogRow where
  wallTime := wallTime
  record := record
  active := s.active
  lockedPeriod := s.lockedPeriod
  probeMode := s.probeMode

def logged (s : MonitorState) (wallTime : ℚ) (record : LogRecord) : MonitorState :=
  { s with log := s.log ++ [s.row wallTime record] }

def sysctlWrites (setup : Setup) (writes : List SysctlWrite) (s : MonitorState) :
    Except MonitorError MonitorState :=
  if setup.args.dryRun then .ok s
  else
    match s.net.writes writes with
    | none => .error .sysctl
    | some net => .ok { s with net }

def managedWrites (setup : Setup) (writes : List SysctlWrite) (s : MonitorState) :
    Except MonitorError MonitorState :=
  if setup.args.manageEnable then s.sysctlWrites setup writes else .ok s

def enterLearning (setup : Setup) (nowWall nowMono : ℚ) (starts : Starts) (reason : RelearnReason)
    (s : MonitorState) : Except MonitorError MonitorState := do
  let previousPeriod := s.lockedPeriod
  let s ← s.managedWrites setup disableRedhat
  let s := { s with
    active := false
    probeMode := .learning
    lockedPeriod := none
    phaseAnchor := none
    lastValidEvent := none
    lastProgrammed := none
    lastKernelResyncTime := none
    activeSince := none
    periodMismatchCount := 0
    phaseErrorHistory := []
    phaseAbsErrorHistory := []
    recentGoodPeriodFits := []
    lastPredictionGuardMs := none
    currentTargets := setup.targets
    sessionStartedWall := none
    sessionDeadlineMono := none
    sessionValidEvents := 0
    nextValidationMono := none
    learningStartedWall := nowWall
    lastDisableTime := if previousPeriod.isSome then some nowWall else s.lastDisableTime
    lastDisabledPeriod := if previousPeriod.isSome then previousPeriod else s.lastDisabledPeriod
    states := resetProbeSession (resetLearningTargetStats s.states) setup.targets
    procs := startProbeProcesses starts setup.targets []
    nextAnalysis := nowMono + setup.args.analysisEvery }
  -- this row carries the period that was given up
  return { s with log := s.log ++ [{ s.row nowWall (.relearn reason) with lockedPeriod := previousPeriod }] }

def enterSleep (setup : Setup) (nowWall nowMono : ℚ) (source : SessionSource) (s : MonitorState) :
    MonitorState :=
  { s with
    procs := []
    probeMode := .activeSleep
    sessionStartedWall := none
    sessionDeadlineMono := none
    sessionValidEvents := 0
    nextValidationMono := some (nowMono + setup.args.validationIntervalMin * 60) }.logged nowWall
      (.probeSleep source)

/-- `start_validation`; `starts` are the pings of the validation, `learningStarts` those of the relearn
it may end in. -/
def startValidation (setup : Setup) (nowWall nowMono : ℚ) (starts learningStarts : Starts)
    (s : MonitorState) : Except MonitorError MonitorState :=
  match s.lockedPeriod with
  | none => s.enterLearning setup nowWall nowMono learningStarts .validationWithoutPeriod
  | some lockedPeriod =>
      let s := { s with
        states := resetProbeSession s.states s.currentTargets
        procs := startProbeProcesses starts s.currentTargets [] }
      if (s.procs.length : ℤ) < setup.args.minTargets then
        s.enterLearning setup nowWall nowMono learningStarts .validationProbeStartFailure
      else
        .ok ({ s with
          probeMode := .activeValidate
          sessionStartedWall := some nowWall
          sessionDeadlineMono := some (nowMono + setup.args.validationCycles * lockedPeriod)
          sessionValidEvents := 0
          phaseErrorHistory := []
          phaseAbsErrorHistory := []
          nextAnalysis := nowMono + min setup.args.analysisEvery 1 }.logged nowWall .validationStart)

end MonitorState

end StarlinkTcp.Monitor

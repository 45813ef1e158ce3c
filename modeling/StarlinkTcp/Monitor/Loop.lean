import StarlinkTcp.Monitor.State

/-!
# The main loop of the monitor

One iteration of `while not stop`: wake for a scheduled validation, read the probes, then either
nothing while asleep, a deadline check between two analyses, or an analysis. What the iteration reads
from outside (clocks, probe output, started pings, the enumeration order of a set) is a `Reading`.
-/

namespace StarlinkTcp.Monitor
open Kernel Machine

inductive ProbeOutput where
  | reply (ts wall : ℚ)
  | noise
  | closed
deriving DecidableEq, Repr

structure ProbeEvent where
  target : String
  output : ProbeOutput
deriving DecidableEq, Repr

structure Reading where
  monoPre : ℚ
  wallPre : ℚ
  validationStarts : Starts
  wakeStarts : Starts
  events : List ProbeEvent
  mono : ℚ
  wall : ℚ
  order : SetOrder
  learningStarts : Starts

namespace MonitorState

def wake (setup : Setup) (reading : Reading) (s : MonitorState) : Except MonitorError MonitorState :=
  if s.active ∧ s.probeMode = .activeSleep ∧ ∃ due ∈ s.nextValidationMono, reading.monoPre ≥ due then
    s.startValidation setup reading.wallPre reading.monoPre reading.validationStarts reading.wakeStarts
  else .ok s

/-- One ready pipe. Only running probes are registered. -/
def readProbe (setup : Setup) (s : MonitorState) (event : ProbeEvent) : Except MonitorError MonitorState :=
  if event.target ∉ s.procs then .ok s
  else
    match event.output with
    | .closed => .ok { s with procs := s.procs.erase event.target }
    | .noise => .ok s
    | .reply ts wall => do
        let (st, candidate) ← (s.states event.target).addReply setup.args.gapSettings ts
        let s := { s with states := Function.update s.states event.target st }
        match candidate with
        | none => return s
        | some (ev, dt, threshold) => return s.logged wall (.candidate event.target ev dt threshold)

def readProbes (setup : Setup) (events : List ProbeEvent) (s : MonitorState) :
    Except MonitorError MonitorState :=
  events.foldlM (readProbe setup) s

/-! ## Sessions -/

def sessionDue (nowMono : ℚ) (s : MonitorState) : Bool :=
  (s.probeMode = .activeConfirm ∨ s.probeMode = .activeValidate) ∧
    ∃ deadline ∈ s.sessionDeadlineMono, nowMono ≥ deadline

def sessionSource (s : MonitorState) : SessionSource :=
  if s.probeMode = .activeConfirm then .confirm else .validation

def sessionNeeded (setup : Setup) (s : MonitorState) : ℤ :=
  if s.probeMode = .activeConfirm then setup.args.activeConfirmMinEvents else setup.args.validationMinEvents

def resolveSession (setup : Setup) (reading : Reading) (s : MonitorState) :
    Except MonitorError MonitorState :=
  let source := s.sessionSource
  if s.sessionValidEvents ≥ s.sessionNeeded setup then
    .ok ((s.logged reading.wall (.sessionSuccess source)).enterSleep setup reading.wall reading.mono source)
  else
    s.enterLearning setup reading.wall reading.mono reading.learningStarts (.sessionFailed source)

/-! ## Analysis -/

def commonEvents (setup : Setup) (reading : Reading) (s : MonitorState) : List CommonEvent :=
  clusterCommonEvents s.states s.currentTargets reading.wall setup.args.analysisWindow
    (setup.args.crossTargetMs / 1000) setup.args.minTargets

def recordParticipation (setup : Setup) (supporters : List String) (states : String → TargetState) :
    String → TargetState :=
  fun target =>
    if target ∉ setup.targets then states target
    else
      let st := states target
      let participated := target ∈ supporters
      { st with
        recentCommonSupport := dequeAppend 32 st.recentCommonSupport (if participated then 1 else 0)
        commonSupportCount := if participated then st.commonSupportCount + 1 else st.commonSupportCount }

def eventKey (event : CommonEvent) : ℤ := roundHalfEven (event.time * 1000)

def recordCommon (setup : Setup) (reading : Reading) (s : MonitorState) (event : CommonEvent) : MonitorState :=
  if eventKey event ∈ s.loggedCommonEvents then s
  else
    { s with
      loggedCommonEvents := s.loggedCommonEvents ++ [eventKey event]
      states := if s.active then s.states
        else recordParticipation setup event.supporters s.states }.logged reading.wall (.common event)

def observedFit (setup : Setup) (reading : Reading) (commonTimes : List ℚ) : Option PeriodFit :=
  if (commonTimes.length : ℤ) ≥ setup.args.minEvents then
    estimatePeriod reading.order commonTimes setup.args.periodMin setup.args.periodMax
      (setup.args.periodToleranceMs / 1000) setup.args.maxMultiple setup.args.skipPenalty
  else none

def fitRaises (setup : Setup) (commonTimes : List ℚ) : Bool :=
  (commonTimes.length : ℤ) ≥ setup.args.minEvents ∧
    estimateRaises commonTimes setup.args.periodMin setup.args.periodMax (setup.args.periodToleranceMs / 1000)
      setup.args.maxMultiple setup.args.skipPenalty

def recordFit (reading : Reading) (fit : Option PeriodFit) (s : MonitorState) : MonitorState :=
  match fit with
  | none => s
  | some fit => s.logged reading.wall (.fit fit)

def activeStructureGood (setup : Setup) (fit : PeriodFit) : Bool :=
  fit.fitRatio ≥ setup.args.minFitRatio ∧ fit.p95ResidualS ≤ setup.args.periodToleranceMs / 1000

def learningFitGood (setup : Setup) (fit : PeriodFit) : Bool :=
  fit.score ≥ setup.args.minScore ∧ activeStructureGood setup fit

def collectFit (setup : Setup) (fit : Option PeriodFit) (s : MonitorState) : MonitorState :=
  match fit with
  | none => s
  | some fit =>
      if s.active = false ∧ learningFitGood setup fit then
        { s with
          recentGoodPeriodFits :=
            dequeAppend (max 1 setup.args.periodLockWindow).toNat s.recentGoodPeriodFits fit.periodS }
      else s

def reactivationAllowed (setup : Setup) (nowWall : ℚ) (s : MonitorState) : Bool :=
  match s.lastDisableTime, s.lastDisabledPeriod with
  | some time, some period =>
      setup.args.reactivationCooldownCycles ≤ 0 ∨
        nowWall - time ≥ setup.args.reactivationCooldownCycles * period
  | _, _ => true

def goodFit (setup : Setup) (reading : Reading) (fit : PeriodFit) (s : MonitorState) : Bool :=
  s.active = false ∧ learningFitGood setup fit ∧
    reading.wall - s.learningStartedWall ≥ setup.args.learnSeconds ∧
    s.reactivationAllowed setup reading.wall ∧
    (s.recentGoodPeriodFits.length : ℤ) ≥ setup.args.periodLockMinFits

def lockCandidate (setup : Setup) (commonTimes : List ℚ) (s : MonitorState) :
    Except MonitorError (Option (ℚ × ℚ)) :=
  let toleranceS := setup.args.periodToleranceMs / 1000
  match median s.recentGoodPeriodFits with
  | none => .error .statistics
  | some period =>
      .ok (do
        let latticeAnchor ← chooseInitialAnchor commonTimes period toleranceS
        let anchor ← newestPhaseConsistentEvent commonTimes latticeAnchor period toleranceS
        return (period, anchor))

def activate (setup : Setup) (reading : Reading) (fit : PeriodFit) (period anchor : ℚ) (s : MonitorState) :
    Except MonitorError MonitorState := do
  let selected := chooseActiveTargets s.states setup.targets setup.args.bootstrap setup.args.activeTargets
    setup.args.activeMinParticipation
  let s := { s with
    active := true
    probeMode := .activeConfirm
    lockedPeriod := some period
    phaseAnchor := some anchor
    lastValidEvent := some anchor
    activeSince := some reading.wall
    lastKernelResyncTime := some reading.wall
    periodMismatchCount := 0
    phaseErrorHistory := []
    phaseAbsErrorHistory := []
    currentTargets := if (selected.length : ℤ) ≥ setup.args.minTargets then selected else setup.targets }
  let (writes, programmed) := programRedhat period anchor
  let s ← s.managedWrites setup writes
  let s := { s with
    lastProgrammed := if setup.args.manageEnable then some programmed else s.lastProgrammed
    sessionStartedWall := some reading.wall
    sessionDeadlineMono := some (reading.mono + setup.args.activeConfirmCycles * period)
    sessionValidEvents := 0
    nextValidationMono := none }
  return s.logged reading.wall (.activate anchor fit s.lastProgrammed)

/-! ## Maintenance while ACTIVE -/

def countMismatch (setup : Setup) (fit : Option PeriodFit) (period : ℚ) (s : MonitorState) : MonitorState :=
  match fit with
  | none => s
  | some fit =>
      if activeStructureGood setup fit then
        let periodErrorMs := (fit.periodS - period) * 1000
        { s with
          periodMismatchCount :=
            if |periodErrorMs| ≥ setup.args.periodRelearnThresholdMs then s.periodMismatchCount + 1 else 0 }
      else s

def validEvents (setup : Setup) (commonTimes : List ℚ) (period anchor : ℚ) (s : MonitorState) : List ℚ :=
  commonTimes.filter fun e =>
    onLattice anchor period (setup.args.periodToleranceMs / 1000) e ∧
      ∀ last ∈ s.lastValidEvent, e > last + 1 / 10 ^ 6

def consensusError (setup : Setup) (history : List ℚ) : Option ℚ :=
  if (history.length : ℤ) < setup.args.phaseConsensusMinEvents then none
  else
    -- the history is not empty: an error was appended just now
    match median history with
    | none => none
    | some consensus =>
        let sameSign :=
          if consensus > 0 then (history.filter fun e => e > 0).length
          else if consensus < 0 then (history.filter fun e => e < 0).length
          else 0
        let signRatio : ℚ := sameSign / history.length
        if |consensus| * 1000 ≥ setup.args.phaseResyncThresholdMs ∧
            signRatio ≥ setup.args.phaseConsensusSignRatio then some consensus
        else none

def cooldownElapsed (setup : Setup) (nowWall period : ℚ) (s : MonitorState) : Bool :=
  ∀ last ∈ s.lastKernelResyncTime, nowWall - last ≥ setup.args.phaseResyncMinCycles * period

def resync (setup : Setup) (nowWall period anchor consensus : ℚ) (s : MonitorState) :
    Except MonitorError MonitorState := do
  let alpha := min 1 (max 0 setup.args.phaseResyncAlpha)
  let correctedAnchor := anchor + consensus * alpha
  let (writes, newOffset) := programRedhatPhaseOnly period correctedAnchor
  let s ← s.managedWrites setup writes
  return { s with
    lastProgrammed :=
      if setup.args.manageEnable then s.lastProgrammed.map fun last => (last.1, newOffset)
      else s.lastProgrammed
    phaseAnchor := some correctedAnchor
    lastKernelResyncTime := some nowWall
    phaseErrorHistory := [] }

def maybeResync (setup : Setup) (nowWall period anchor : ℚ) (s : MonitorState) :
    Except MonitorError (MonitorState × PhaseAction) :=
  match consensusError setup s.phaseErrorHistory with
  | none => .ok (s, .none)
  | some consensus =>
      if s.cooldownElapsed setup nowWall period then do
        let s ← s.resync setup nowWall period anchor consensus
        return (s, .resync)
      else .ok (s, .none)

def updatePredictionGuard (setup : Setup) (s : MonitorState) : Except MonitorError MonitorState :=
  if setup.args.autoPredictionGuard ∧ s.phaseAbsErrorHistory.length ≥ 5 then
    let desired := computePredictionGuardMs s.phaseAbsErrorHistory setup.args.predictionGuardSafetyMs
      setup.args.predictionGuardMinMs setup.args.predictionGuardMaxMs
    if ∀ last ∈ s.lastPredictionGuardMs, |desired - last| ≥ setup.args.predictionGuardUpdateStepMs then do
      let s ← s.managedWrites setup [⟨.tcpLeoDynamicPredictionGuardMs, desired⟩]
      return { s with lastPredictionGuardMs := some desired }
    else .ok s
  else .ok s

def notePhase (setup : Setup) (newest phaseErrorS : ℚ) (s : MonitorState) : MonitorState :=
  { s with
    phaseErrorHistory :=
      dequeAppend (max 1 setup.args.phaseConsensusWindow).toNat s.phaseErrorHistory phaseErrorS
    phaseAbsErrorHistory :=
      dequeAppend (max 1 setup.args.predictionGuardWindow).toNat s.phaseAbsErrorHistory |phaseErrorS * 1000|
    lastValidEvent := some newest
    sessionValidEvents := s.sessionValidEvents + 1 }

def checkPhase (setup : Setup) (reading : Reading) (fit : Option PeriodFit) (commonTimes : List ℚ)
    (period anchor : ℚ) (s : MonitorState) : Except MonitorError MonitorState :=
  match (s.validEvents setup commonTimes period anchor).max? with
  | none => .ok s
  | some newest =>
      match signedPhaseError newest anchor period with
      -- not reached: a valid event has a finite residual, so the period is positive
      | none => .ok s
      | some (phaseErrorS, predicted) => do
          let s := s.notePhase setup newest phaseErrorS
          let (s, action) ← s.maybeResync setup reading.wall period anchor
          let s ← s.updatePredictionGuard setup
          return s.logged reading.wall
            (.phaseCheck newest fit s.lastProgrammed predicted (phaseErrorS * 1000) action)

def enoughProbes (setup : Setup) (s : MonitorState) : Bool :=
  ((s.currentTargets.filter fun target => target ∈ s.procs).length : ℤ) ≥ setup.args.minTargets

def maintain (setup : Setup) (reading : Reading) (fit : Option PeriodFit) (commonTimes : List ℚ)
    (period anchor : ℚ) (s : MonitorState) : Except MonitorError MonitorState :=
  let s := s.countMismatch setup fit period
  if s.periodMismatchCount ≥ setup.args.periodRelearnCount then
    s.enterLearning setup reading.wall reading.mono reading.learningStarts .periodMismatch
  else do
    let s ← s.checkPhase setup reading fit commonTimes period anchor
    if s.sessionDue reading.mono then s.resolveSession setup reading
    else if s.enoughProbes setup then return s
    else
      s.enterLearning setup reading.wall reading.mono reading.learningStarts .insufficientProbeProcesses

def actOnFit (setup : Setup) (reading : Reading) (fit : Option PeriodFit) (commonTimes : List ℚ)
    (s : MonitorState) : Except MonitorError MonitorState :=
  match fit.filter fun fit => s.goodFit setup reading fit with
  | some fit => do
      match ← s.lockCandidate setup commonTimes with
      | some (period, anchor) => s.activate setup reading fit period anchor
      | none => return s
  | none =>
      match s.active, s.lockedPeriod, s.phaseAnchor with
      | true, some period, some anchor => s.maintain setup reading fit commonTimes period anchor
      | _, _, _ => .ok s

def analyse (setup : Setup) (reading : Reading) (s : MonitorState) : Except MonitorError MonitorState :=
  let s := { s with nextAnalysis := reading.mono + setup.args.analysisEvery }
  let common := s.commonEvents setup reading
  let commonTimes := common.map CommonEvent.time
  let s := common.foldl (recordCommon setup reading) s
  if fitRaises setup commonTimes then .error .zeroDivision
  else
    let fit := observedFit setup reading commonTimes
    let s := (s.recordFit reading fit).collectFit setup fit
    s.actOnFit setup reading fit commonTimes

def iteration (setup : Setup) (reading : Reading) (s : MonitorState) : Except MonitorError MonitorState := do
  let s ← s.wake setup reading
  let s ← s.readProbes setup reading.events
  -- sleeping skips all stale-fit and disable logic
  if s.active ∧ s.probeMode = .activeSleep then return s
  else if reading.mono < s.nextAnalysis then
    -- session deadlines are enforced between analyses too
    if s.active ∧ s.sessionDue reading.mono then s.resolveSession setup reading else return s
  else s.analyse setup reading

end MonitorState

def initialState (setup : Setup) (net : Net) (startWall startMono : ℚ) (starts : Starts) : MonitorState :=
  let s : MonitorState := {
    net
    active := false
    probeMode := .learning
    lockedPeriod := none
    phaseAnchor := none
    lastValidEvent := none
    lastProgrammed := none
    lastKernelResyncTime := none
    activeSince := none
    lastDisableTime := none
    lastDisabledPeriod := none
    recentGoodPeriodFits := []
    phaseErrorHistory := []
    phaseAbsErrorHistory := []
    lastPredictionGuardMs := none
    periodMismatchCount := 0
    sessionStartedWall := none
    sessionDeadlineMono := none
    sessionValidEvents := 0
    nextValidationMono := none
    loggedCommonEvents := []
    nextAnalysis := startMono + setup.args.analysisEvery
    learningStartedWall := startWall
    currentTargets := setup.targets
    states := fun _ => .fresh
    procs := startProbeProcesses starts setup.targets []
    log := [] }
  s.logged startWall .start

/-- `main` up to the loop: both enables are cleared first when they are managed, and the loop is not
entered without a running ping. -/
def start (setup : Setup) (net : Net) (startWall startMono : ℚ) (starts : Starts) :
    Except MonitorError (Option MonitorState) := do
  let s ← (initialState setup net startWall startMono starts).managedWrites setup disableRedhat
  return if s.procs.isEmpty then none else some s

end StarlinkTcp.Monitor

import Mathlib.Logic.Relation
import StarlinkTcp.Machine.Fallible
import StarlinkTcp.Monitor.Loop

/-!
# The moments of an iteration

An iteration of the monitor's loop is cut into the moments at which its state changes, each with the
guards under which the loop reaches it. What holds at the start of a run and is kept by every moment
holds throughout the run, between two statements of an iteration as well as between two iterations.
-/

namespace StarlinkTcp.Monitor
open Kernel Machine

namespace MonitorState

variable (setup : Setup) (reading : Reading) (s : MonitorState)

/-- The state once the iteration has woken up and read its probes. -/
def observed : Except MonitorError MonitorState :=
  s.wake setup reading >>= fun s => s.readProbes setup reading.events

def conclude : Except MonitorError MonitorState :=
  if s.active ∧ s.probeMode = .activeSleep then return s
  else if reading.mono < s.nextAnalysis then
    if s.active ∧ s.sessionDue reading.mono then s.resolveSession setup reading else return s
  else s.analyse setup reading

/-- The iteration goes on to an analysis. -/
def analyses : Bool := ¬ (s.active ∧ s.probeMode = .activeSleep) ∧ ¬ reading.mono < s.nextAnalysis

def commonTimes : List ℚ := (s.commonEvents setup reading).map CommonEvent.time

def fit : Option PeriodFit := observedFit setup reading (s.commonTimes setup reading)

def scheduled : MonitorState := { s with nextAnalysis := reading.mono + setup.args.analysisEvery }

def fitted (fit : Option PeriodFit) : MonitorState := (s.recordFit reading fit).collectFit setup fit

/-- The state on which the analysis acts: the common events are logged and the fit is collected. -/
def prepared : MonitorState :=
  ((s.commonEvents setup reading).foldl (recordCommon setup reading) (s.scheduled setup reading)).fitted setup
    reading (s.fit setup reading)

def restarted : MonitorState :=
  { s with
    states := resetProbeSession s.states s.currentTargets
    procs := startProbeProcesses reading.validationStarts s.currentTargets [] }

def validated (lockedPeriod : ℚ) : MonitorState :=
  { s with
    probeMode := .activeValidate
    sessionStartedWall := some reading.wallPre
    sessionDeadlineMono := some (reading.monoPre + setup.args.validationCycles * lockedPeriod)
    sessionValidEvents := 0
    phaseErrorHistory := []
    phaseAbsErrorHistory := []
    nextAnalysis := reading.monoPre + min setup.args.analysisEvery 1 }.logged reading.wallPre .validationStart

def slept : MonitorState :=
  (s.logged reading.wall (.sessionSuccess s.sessionSource)).enterSleep setup reading.wall reading.mono
    s.sessionSource

end MonitorState

/-- The moments that log no common event. `observation` is the state that the iteration analyses. -/
inductive Turn (setup : Setup) (reading : Reading) (observation : MonitorState) :
    MonitorState → MonitorState → Prop
  | restart {s : MonitorState} : Turn setup reading observation s (s.restarted reading)
  | validate {s : MonitorState} {lockedPeriod : ℚ} (active : s.active = true)
      (asleep : s.probeMode = .activeSleep) (due : ∃ due ∈ s.nextValidationMono, reading.monoPre ≥ due)
      (locked : s.lockedPeriod = some lockedPeriod) (enough : setup.args.minTargets ≤ s.procs.length) :
      Turn setup reading observation s (s.validated setup reading lockedPeriod)
  | readProbe {s s' : MonitorState} {event : ProbeEvent} (ok : s.readProbe setup event = .ok s') :
      Turn setup reading observation s s'
  | schedule {s : MonitorState} : Turn setup reading observation s (s.scheduled setup reading)
  | fit {s : MonitorState} :
      Turn setup reading observation s (s.fitted setup reading (observation.fit setup reading))
  | activate {s s' : MonitorState} {fit : PeriodFit} {period anchor : ℚ}
      (prepared : s = observation.prepared setup reading) (good : s.goodFit setup reading fit = true)
      (candidate : s.lockCandidate setup (observation.commonTimes setup reading) = .ok (some (period, anchor)))
      (ok : s.activate setup reading fit period anchor = .ok s') : Turn setup reading observation s s'
  | countMismatch {s : MonitorState} {period : ℚ} :
      Turn setup reading observation s (s.countMismatch setup (observation.fit setup reading) period)
  | checkPhase {s s' : MonitorState} {period anchor : ℚ} (analyses : observation.analyses reading = true)
      (prepared : s = (observation.prepared setup reading).countMismatch setup (observation.fit setup reading) period)
      (active : s.active = true) (locked : s.lockedPeriod = some period) (anchored : s.phaseAnchor = some anchor)
      (ok : s.checkPhase setup reading (observation.fit setup reading) (observation.commonTimes setup reading)
        period anchor = .ok s') : Turn setup reading observation s s'
  | relearn {s s' : MonitorState} {nowWall nowMono : ℚ} {starts : Starts} {reason : RelearnReason}
      (ok : s.enterLearning setup nowWall nowMono starts reason = .ok s') : Turn setup reading observation s s'
  | sleep {s : MonitorState} (active : s.active = true) (due : s.sessionDue reading.mono = true)
      (enough : s.sessionNeeded setup ≤ s.sessionValidEvents) :
      Turn setup reading observation s (s.slept setup reading)

inductive Moment (setup : Setup) (reading : Reading) (observation : MonitorState) :
    MonitorState → MonitorState → Prop
  | recordCommon {s : MonitorState} {event : CommonEvent} (common : event ∈ observation.commonEvents setup reading) :
      Moment setup reading observation s (s.recordCommon setup reading event)
  | turn {s s' : MonitorState} (turn : Turn setup reading observation s s') :
      Moment setup reading observation s s'

/-- The row says nothing about the lattice in force or the phase errors. -/
def LogRecord.isNote : LogRecord → Bool
  | .activate _ _ _ => false
  | .phaseCheck _ _ _ _ _ _ => false
  | .relearn _ => false
  | .validationStart => false
  | _ => true

end StarlinkTcp.Monitor

namespace StarlinkTcp.Proof
open Kernel Machine Monitor Relation

abbrev Turns (setup : Setup) (reading : Reading) (observation : MonitorState) :
    MonitorState → MonitorState → Prop :=
  ReflTransGen (Turn setup reading observation)

abbrev Passes (setup : Setup) (reading : Reading) (observation : MonitorState) :
    MonitorState → MonitorState → Prop :=
  ReflTransGen (Moment setup reading observation)

inductive Visits (setup : Setup) (first : MonitorState) : MonitorState → Prop
  | start : Visits setup first first
  | moment {reading : Reading} {observation s s' : MonitorState} (visited : Visits setup first s)
      (moment : Moment setup reading observation s s') : Visits setup first s'

variable {setup : Setup} {reading : Reading} {observation s s' : MonitorState}

theorem iteration_eq_conclude :
    s.iteration setup reading = s.observed setup reading >>= fun s => s.conclude setup reading := by
  unfold MonitorState.iteration MonitorState.observed
  cases s.wake setup reading <;> rfl

theorem turns_passes (turns : Turns setup reading observation s s') : Passes setup reading observation s s' :=
  ReflTransGen.mono (fun _ _ turn => .turn turn) _ _ turns

theorem relearn_turns {nowWall nowMono : ℚ} {starts : Starts} {reason : RelearnReason}
    (ok : s.enterLearning setup nowWall nowMono starts reason = .ok s') :
    Turns setup reading observation s s' :=
  .single (.relearn ok)

theorem wake_turns (ok : s.wake setup reading = .ok s') : Turns setup reading observation s s' := by
  unfold MonitorState.wake at ok
  split at ok
  · rename_i asleep
    obtain ⟨active, mode, due⟩ := asleep
    unfold MonitorState.startValidation at ok
    split at ok
    · exact relearn_turns ok
    · rename_i lockedPeriod locked
      have restarted : Turns setup reading observation s (s.restarted reading) := .single .restart
      dsimp only at ok
      split at ok
      · exact restarted.trans (relearn_turns ok)
      · rename_i enough
        cases ok
        exact restarted.tail (.validate active mode due locked (not_lt.mp enough))
  · cases ok
    exact .refl

theorem readProbes_turns {events : List ProbeEvent} (ok : s.readProbes setup events = .ok s') :
    Turns setup reading observation s s' :=
  foldlM_related (fun _ => .refl) ReflTransGen.trans (fun ok => .single (.readProbe ok)) ok

theorem prepared_passes : Passes setup reading observation observation (observation.prepared setup reading) := by
  have logged (events : List CommonEvent) (s : MonitorState)
      (common : ∀ event ∈ events, event ∈ observation.commonEvents setup reading) :
      Passes setup reading observation s (events.foldl (MonitorState.recordCommon setup reading) s) := by
    induction events generalizing s with
    | nil => exact .refl
    | cons event events ih =>
        have first : Passes setup reading observation s (s.recordCommon setup reading event) :=
          .single (.recordCommon (common event (by simp)))
        exact first.trans (ih _ fun event member => common event (List.mem_cons_of_mem _ member))
  refine .tail (.trans (.single (.turn .schedule)) (logged _ _ fun _ member => member)) ?_
  exact .turn .fit

theorem resolveSession_turns (active : s.active = true) (due : s.sessionDue reading.mono = true)
    (ok : s.resolveSession setup reading = .ok s') : Turns setup reading observation s s' := by
  unfold MonitorState.resolveSession at ok
  dsimp only at ok
  split at ok
  · rename_i enough
    cases ok
    exact .single (.sleep active due enough)
  · exact relearn_turns ok

/-! ## What the transitions with effects on the kernel do to the monitor -/

theorem managedWrites_shape {writes : List SysctlWrite} (ok : s.managedWrites setup writes = .ok s') :
    ∃ net, s' = { s with net } := by
  unfold MonitorState.managedWrites MonitorState.sysctlWrites at ok
  split at ok
  · split at ok
    · cases ok
      exact ⟨_, rfl⟩
    · split at ok
      · cases ok
      · cases ok
        exact ⟨_, rfl⟩
  · cases ok
    exact ⟨_, rfl⟩

theorem start_shape {net : Net} {startWall startMono : ℚ} {starts : Starts} {first : MonitorState}
    (started : start setup net startWall startMono starts = .ok (some first)) :
    ∃ after, first = { initialState setup net startWall startMono starts with net := after } := by
  obtain ⟨written, writes, ok⟩ := bind_eq_ok.mp started
  obtain ⟨after, rfl⟩ := managedWrites_shape writes
  change Except.ok _ = Except.ok (some first) at ok
  rw [Except.ok.injEq] at ok
  split at ok
  · cases ok
  · cases ok
    exact ⟨after, rfl⟩

theorem maybeResync_cases {nowWall period anchor : ℚ} {action : PhaseAction}
    (ok : s.maybeResync setup nowWall period anchor = .ok (s', action)) :
    action = .none ∧ s' = s ∨
    action = .resync ∧ ∃ consensus net lastProgrammed,
      MonitorState.consensusError setup s.phaseErrorHistory = some consensus ∧
      s.cooldownElapsed setup nowWall period = true ∧
      s' = { s with
        net, lastProgrammed
        phaseAnchor := some (anchor + consensus * min 1 (max 0 setup.args.phaseResyncAlpha))
        lastKernelResyncTime := some nowWall
        phaseErrorHistory := [] } := by
  unfold MonitorState.maybeResync at ok
  split at ok
  · cases ok
    exact .inl ⟨rfl, rfl⟩
  · rename_i consensus crossed
    split at ok
    · rename_i elapsed
      obtain ⟨synced, resync, ok⟩ := bind_eq_ok.mp ok
      cases ok
      obtain ⟨written, writes, resync⟩ := bind_eq_ok.mp resync
      obtain ⟨net, rfl⟩ := managedWrites_shape writes
      cases resync
      exact .inr ⟨rfl, consensus, net, _, crossed, elapsed, rfl⟩
    · cases ok
      exact .inl ⟨rfl, rfl⟩

theorem updatePredictionGuard_shape (ok : s.updatePredictionGuard setup = .ok s') :
    ∃ net lastPredictionGuardMs, s' = { s with net, lastPredictionGuardMs } := by
  unfold MonitorState.updatePredictionGuard at ok
  dsimp only at ok
  split at ok
  · split at ok
    · obtain ⟨written, writes, ok⟩ := bind_eq_ok.mp ok
      obtain ⟨net, rfl⟩ := managedWrites_shape writes
      cases ok
      exact ⟨_, _, rfl⟩
    · cases ok
      exact ⟨_, _, rfl⟩
  · cases ok
    exact ⟨_, _, rfl⟩

theorem checkPhase_cases {fit : Option PeriodFit} {commonTimes : List ℚ} {period anchor : ℚ}
    (ok : s.checkPhase setup reading fit commonTimes period anchor = .ok s') :
    s' = s ∨ ∃ newest phaseErrorS predicted synced action net lastPredictionGuardMs,
      (s.validEvents setup commonTimes period anchor).max? = some newest ∧
      signedPhaseError newest anchor period = some (phaseErrorS, predicted) ∧
      (s.notePhase setup newest phaseErrorS).maybeResync setup reading.wall period anchor = .ok (synced, action) ∧
      s' = { synced with net, lastPredictionGuardMs }.logged reading.wall
        (.phaseCheck newest fit synced.lastProgrammed predicted (phaseErrorS * 1000) action) := by
  unfold MonitorState.checkPhase at ok
  split at ok
  · cases ok
    exact .inl rfl
  · rename_i newest valid
    split at ok
    · cases ok
      exact .inl rfl
    · rename_i phaseErrorS predicted error
      obtain ⟨⟨synced, action⟩, resync, ok⟩ := bind_eq_ok.mp ok
      obtain ⟨guarded, guard, ok⟩ := bind_eq_ok.mp ok
      obtain ⟨net, lastPredictionGuardMs, rfl⟩ := updatePredictionGuard_shape guard
      cases ok
      exact .inr ⟨newest, phaseErrorS, predicted, synced, action, net, lastPredictionGuardMs, valid, error,
        resync, rfl⟩

theorem checkPhase_shape {fit : Option PeriodFit} {commonTimes : List ℚ} {period anchor : ℚ}
    (anchored : s.phaseAnchor = some anchor)
    (ok : s.checkPhase setup reading fit commonTimes period anchor = .ok s') :
    s' = s ∨ ∃ newest corrected predicted phaseErrorMs action, ∃ t : MonitorState,
      (s.validEvents setup commonTimes period anchor).max? = some newest ∧
      s' = { s with
        net := t.net
        phaseAnchor := some corrected
        lastValidEvent := some newest
        lastProgrammed := t.lastProgrammed
        lastKernelResyncTime := t.lastKernelResyncTime
        phaseErrorHistory := t.phaseErrorHistory
        phaseAbsErrorHistory := t.phaseAbsErrorHistory
        lastPredictionGuardMs := t.lastPredictionGuardMs
        sessionValidEvents := s.sessionValidEvents + 1 }.logged reading.wall
          (.phaseCheck newest fit t.lastProgrammed predicted phaseErrorMs action) := by
  rcases checkPhase_cases ok with rfl | ⟨newest, phaseErrorS, predicted, synced, action, net,
    lastPredictionGuardMs, valid, -, resync, rfl⟩
  · exact .inl rfl
  · right
    let t : MonitorState := { synced with net, lastPredictionGuardMs }
    rcases maybeResync_cases resync with ⟨rfl, kept⟩ | ⟨rfl, consensus, _, _, -, -, moved⟩
    · refine ⟨newest, anchor, predicted, phaseErrorS * 1000, .none, t, valid, ?_⟩
      rw [← anchored]
      simp only [t, kept]
      rfl
    · refine ⟨newest, anchor + consensus * min 1 (max 0 setup.args.phaseResyncAlpha), predicted,
        phaseErrorS * 1000, .resync, t, valid, ?_⟩
      simp only [t, moved]
      rfl

theorem countMismatch_shape {fit : Option PeriodFit} {period : ℚ} :
    ∃ periodMismatchCount, s.countMismatch setup fit period = { s with periodMismatchCount } := by
  unfold MonitorState.countMismatch
  split
  · exact ⟨_, rfl⟩
  · dsimp only
    split
    · exact ⟨_, rfl⟩
    · exact ⟨_, rfl⟩

theorem readProbe_shape {event : ProbeEvent} (ok : s.readProbe setup event = .ok s') :
    ∃ states procs rows, s' = { s with states, procs, log := s.log ++ rows } ∧
      ∀ row ∈ rows, ∃ target event gap threshold, row.record = .candidate target event gap threshold := by
  unfold MonitorState.readProbe at ok
  split at ok
  · cases ok
    exact ⟨s.states, s.procs, [], by simp, by simp⟩
  · cases output : event.output with
    | closed =>
        rw [output] at ok
        cases ok
        exact ⟨s.states, s.procs.erase event.target, [], by simp, by simp⟩
    | noise =>
        rw [output] at ok
        cases ok
        exact ⟨s.states, s.procs, [], by simp, by simp⟩
    | reply ts wall =>
        rw [output] at ok
        obtain ⟨⟨st, candidate⟩, -, ok⟩ := bind_eq_ok.mp ok
        cases candidate with
        | none =>
            cases ok
            exact ⟨_, s.procs, [], by simp; rfl, by simp⟩
        | some found =>
            obtain ⟨ev, dt, threshold⟩ := found
            cases ok
            refine ⟨_, s.procs, [_], rfl, fun row member => ?_⟩
            rw [List.mem_singleton.mp member]
            exact ⟨_, _, _, _, rfl⟩

theorem recordCommon_shape {event : CommonEvent} :
    MonitorState.eventKey event ∈ s.loggedCommonEvents ∧ s.recordCommon setup reading event = s ∨
    MonitorState.eventKey event ∉ s.loggedCommonEvents ∧ ∃ states, s.recordCommon setup reading event = { s with
      states
      loggedCommonEvents := s.loggedCommonEvents ++ [MonitorState.eventKey event]
      log := s.log ++ [s.row reading.wall (.common event)] } := by
  unfold MonitorState.recordCommon
  split
  · rename_i known
    exact .inl ⟨known, rfl⟩
  · rename_i unknown
    exact .inr ⟨unknown, _, rfl⟩

theorem fitted_shape {fit : PeriodFit} :
    s.fitted setup reading (some fit) = { s with
      recentGoodPeriodFits :=
        if s.active = false ∧ MonitorState.learningFitGood setup fit then
          dequeAppend (max 1 setup.args.periodLockWindow).toNat s.recentGoodPeriodFits fit.periodS
        else s.recentGoodPeriodFits
      log := s.log ++ [s.row reading.wall (.fit fit)] } := by
  by_cases good : s.active = false ∧ MonitorState.learningFitGood setup fit
  · rw [if_pos good]
    exact if_pos good
  · rw [if_neg good]
    exact if_neg good

structure Forgets (nowWall : ℚ) (reason : RelearnReason) (s s' : MonitorState) : Prop where
  active : s'.active = false
  probeMode : s'.probeMode = .learning
  lockedPeriod : s'.lockedPeriod = none
  phaseErrorHistory : s'.phaseErrorHistory = []
  recentGoodPeriodFits : s'.recentGoodPeriodFits = []
  learningStartedWall : s'.learningStartedWall = nowWall
  lastDisableTime : s'.lastDisableTime = if s.lockedPeriod.isSome then some nowWall else s.lastDisableTime
  lastDisabledPeriod : s'.lastDisabledPeriod = if s.lockedPeriod.isSome then s.lockedPeriod else s.lastDisabledPeriod
  loggedCommonEvents : s'.loggedCommonEvents = s.loggedCommonEvents
  log : s'.log = s.log ++ [⟨nowWall, .relearn reason, false, s.lockedPeriod, .learning⟩]

theorem enterLearning_forgets {nowWall nowMono : ℚ} {starts : Starts} {reason : RelearnReason}
    (ok : s.enterLearning setup nowWall nowMono starts reason = .ok s') : Forgets nowWall reason s s' := by
  rw [MonitorState.enterLearning, bind_eq_ok] at ok
  obtain ⟨written, writes, ok⟩ := ok
  obtain ⟨net, rfl⟩ := managedWrites_shape writes
  cases ok
  constructor <;> rfl

structure Locks (setup : Setup) (reading : Reading) (fit : PeriodFit) (period anchor : ℚ)
    (s s' : MonitorState) : Prop where
  active : s'.active = true
  probeMode : s'.probeMode = .activeConfirm
  lockedPeriod : s'.lockedPeriod = some period
  phaseAnchor : s'.phaseAnchor = some anchor
  lastValidEvent : s'.lastValidEvent = some anchor
  lastKernelResyncTime : s'.lastKernelResyncTime = some reading.wall
  phaseErrorHistory : s'.phaseErrorHistory = []
  sessionStartedWall : s'.sessionStartedWall = some reading.wall
  sessionDeadlineMono :
    s'.sessionDeadlineMono = some (reading.mono + setup.args.activeConfirmCycles * period)
  sessionValidEvents : s'.sessionValidEvents = 0
  states : s'.states = s.states
  loggedCommonEvents : s'.loggedCommonEvents = s.loggedCommonEvents
  log : ∃ programmed,
    s'.log = s.log ++ [⟨reading.wall, .activate anchor fit programmed, true, some period, .activeConfirm⟩]

theorem activate_locks {fit : PeriodFit} {period anchor : ℚ}
    (ok : s.activate setup reading fit period anchor = .ok s') : Locks setup reading fit period anchor s s' := by
  unfold MonitorState.activate at ok
  dsimp only at ok
  obtain ⟨written, writes, ok⟩ := bind_eq_ok.mp ok
  obtain ⟨net, rfl⟩ := managedWrites_shape writes
  cases ok
  constructor
  case log => exact ⟨_, rfl⟩
  all_goals rfl

/-! ## Iterations are sequences of moments -/

theorem maintain_turns {period anchor : ℚ} (analyses : s.analyses reading = true)
    (active : (s.prepared setup reading).active = true)
    (locked : (s.prepared setup reading).lockedPeriod = some period)
    (anchored : (s.prepared setup reading).phaseAnchor = some anchor)
    (ok : (s.prepared setup reading).maintain setup reading (s.fit setup reading) (s.commonTimes setup reading)
      period anchor = .ok s') : Turns setup reading s (s.prepared setup reading) s' := by
  unfold MonitorState.maintain at ok
  dsimp only at ok
  have counted : Turns setup reading s (s.prepared setup reading)
      ((s.prepared setup reading).countMismatch setup (s.fit setup reading) period) :=
    .single .countMismatch
  obtain ⟨mismatches, same⟩ : ∃ periodMismatchCount, (s.prepared setup reading).countMismatch setup
      (s.fit setup reading) period = { s.prepared setup reading with periodMismatchCount } := countMismatch_shape
  split at ok
  · exact counted.trans (relearn_turns ok)
  · obtain ⟨checked, phase, ok⟩ := bind_eq_ok.mp ok
    have checks := counted.tail (.checkPhase analyses rfl (by rw [same]; exact active) (by rw [same]; exact locked)
      (by rw [same]; exact anchored) phase)
    have stillActive : checked.active = true := by
      rw [← active]
      rcases checkPhase_shape (by rw [same]; exact anchored) phase with rfl | ⟨_, _, _, _, _, _, -, rfl⟩
      · rw [same]
      · rw [same]
        rfl
    split at ok
    · rename_i due
      exact checks.trans (resolveSession_turns stillActive due ok)
    · split at ok
      · cases ok
        exact checks
      · exact checks.trans (relearn_turns ok)

theorem actOnFit_turns (analyses : s.analyses reading = true)
    (ok : (s.prepared setup reading).actOnFit setup reading (s.fit setup reading)
      (s.commonTimes setup reading) = .ok s') : Turns setup reading s (s.prepared setup reading) s' := by
  unfold MonitorState.actOnFit at ok
  split at ok
  · rename_i fit found
    obtain ⟨candidate, chosen, ok⟩ := bind_eq_ok.mp ok
    cases candidate with
    | none =>
        cases ok
        exact .refl
    | some lattice =>
        have good := (Option.filter_eq_some_iff.mp found).2
        exact .single (.activate rfl good chosen ok)
  · split at ok
    · rename_i active locked anchored
      exact maintain_turns analyses active locked anchored ok
    · cases ok
      exact .refl

/-- An analysis whose fit raises nothing acts on what it has prepared. -/
theorem analyse_of_fits (fits : MonitorState.fitRaises setup (s.commonTimes setup reading) = false) :
    s.analyse setup reading =
      (s.prepared setup reading).actOnFit setup reading (s.fit setup reading) (s.commonTimes setup reading) := by
  unfold MonitorState.analyse
  exact if_neg ((Bool.not_eq_true _).mpr fits)

theorem analyse_of_raises (raises : MonitorState.fitRaises setup (s.commonTimes setup reading) = true) :
    s.analyse setup reading = .error .zeroDivision := by
  unfold MonitorState.analyse
  exact if_pos raises

theorem analyse_ok (ok : s.analyse setup reading = .ok s') :
    (s.prepared setup reading).actOnFit setup reading (s.fit setup reading) (s.commonTimes setup reading) =
      .ok s' := by
  cases raises : MonitorState.fitRaises setup (s.commonTimes setup reading)
  · rwa [analyse_of_fits raises] at ok
  · rw [analyse_of_raises raises] at ok
    cases ok

theorem conclude_passes (ok : s.conclude setup reading = .ok s') : Passes setup reading s s s' := by
  unfold MonitorState.conclude at ok
  split at ok
  · cases ok
    exact .refl
  · rename_i awake
    split at ok
    · split at ok
      · rename_i due
        exact turns_passes (resolveSession_turns due.1 due.2 ok)
      · cases ok
        exact .refl
    · rename_i due
      have analyses : s.analyses reading = true := decide_eq_true ⟨awake, due⟩
      exact prepared_passes.trans (turns_passes (actOnFit_turns analyses (analyse_ok ok)))

theorem observed_turns (ok : s.observed setup reading = .ok s') : Turns setup reading observation s s' := by
  obtain ⟨woken, wake, probes⟩ := bind_eq_ok.mp ok
  exact (wake_turns wake).trans (readProbes_turns probes)

theorem iteration_passes (ok : s.iteration setup reading = .ok s') :
    ∃ observation, s.observed setup reading = .ok observation ∧ Passes setup reading observation s s' := by
  rw [iteration_eq_conclude, bind_eq_ok] at ok
  obtain ⟨observation, observed, conclude⟩ := ok
  exact ⟨observation, observed, (turns_passes (observed_turns observed)).trans (conclude_passes conclude)⟩

theorem Visits.passes {first : MonitorState} (visited : Visits setup first s)
    (passes : Passes setup reading observation s s') : Visits setup first s' := by
  induction passes with
  | refl => exact visited
  | tail _ moment ih => exact ih.moment moment

theorem visits_of_reaches {first : MonitorState} (reached : Reaches (MonitorState.iteration setup) first s) :
    Visits setup first s := by
  induction reached with
  | refl => exact .start
  | tail _ ok ih =>
      obtain ⟨observation, -, passes⟩ := iteration_passes ok
      exact ih.passes passes

/-! ## What the moments do to the lattice in force -/

structure Keeps (s s' : MonitorState) : Prop where
  active : s'.active = s.active
  lockedPeriod : s'.lockedPeriod = s.lockedPeriod
  phaseAnchor : s'.phaseAnchor = s.phaseAnchor
  lastKernelResyncTime : s'.lastKernelResyncTime = s.lastKernelResyncTime
  phaseErrorHistory : s'.phaseErrorHistory = s.phaseErrorHistory
  phaseAbsErrorHistory : s'.phaseAbsErrorHistory = s.phaseAbsErrorHistory
  log : ∃ rows, s'.log = s.log ++ rows ∧ ∀ row ∈ rows, row.record.isNote = true

/-- Validations, activations, phase checks and relearns act on the lattice in force and on the phase errors.
All other moments keep them. -/
inductive Shift (setup : Setup) (reading : Reading) (observation : MonitorState) :
    MonitorState → MonitorState → Prop
  | keep {s s' : MonitorState} (keeps : Keeps s s') : Shift setup reading observation s s'
  | validate {s : MonitorState} {lockedPeriod : ℚ} :
      Shift setup reading observation s (s.validated setup reading lockedPeriod)
  | activate {s s' : MonitorState} {fit : PeriodFit} {period anchor : ℚ} (inactive : s.active = false)
      (ok : s.activate setup reading fit period anchor = .ok s') : Shift setup reading observation s s'
  | checkPhase {s s' : MonitorState} {period anchor : ℚ} (active : s.active = true)
      (locked : s.lockedPeriod = some period) (anchored : s.phaseAnchor = some anchor)
      (ok : s.checkPhase setup reading (observation.fit setup reading) (observation.commonTimes setup reading)
        period anchor = .ok s') : Shift setup reading observation s s'
  | relearn {s s' : MonitorState} {nowWall nowMono : ℚ} {starts : Starts} {reason : RelearnReason}
      (ok : s.enterLearning setup nowWall nowMono starts reason = .ok s') : Shift setup reading observation s s'

theorem fitted_keeps (fit : Option PeriodFit) : Keeps s (s.fitted setup reading fit) := by
  cases fit with
  | none => exact ⟨rfl, rfl, rfl, rfl, rfl, rfl, [], (List.append_nil _).symm, by simp⟩
  | some fit =>
      rw [fitted_shape]
      exact ⟨rfl, rfl, rfl, rfl, rfl, rfl, _, rfl, List.forall_mem_singleton.mpr rfl⟩

theorem turn_shift (turn : Turn setup reading observation s s') : Shift setup reading observation s s' := by
  cases turn with
  | validate => exact .validate
  | readProbe ok =>
      obtain ⟨states, procs, rows, rfl, candidates⟩ := readProbe_shape ok
      refine .keep ⟨rfl, rfl, rfl, rfl, rfl, rfl, rows, rfl, fun row member => ?_⟩
      obtain ⟨target, event, gap, threshold, record⟩ := candidates row member
      rw [record]
      rfl
  | fit => exact .keep (fitted_keeps _)
  | activate _ good _ ok => exact .activate (of_decide_eq_true good).1 ok
  | countMismatch =>
      obtain ⟨mismatches, same⟩ := countMismatch_shape
      rw [same]
      exact .keep ⟨rfl, rfl, rfl, rfl, rfl, rfl, [], (List.append_nil _).symm, by simp⟩
  | checkPhase _ _ active locked anchored ok => exact .checkPhase active locked anchored ok
  | relearn ok => exact .relearn ok
  | sleep =>
      refine .keep ⟨rfl, rfl, rfl, rfl, rfl, rfl, _, List.append_assoc _ _ _, fun row member => ?_⟩
      simp only [List.cons_append, List.nil_append, List.mem_cons, List.not_mem_nil, or_false] at member
      rcases member with rfl | rfl <;> rfl
  | _ => exact .keep ⟨rfl, rfl, rfl, rfl, rfl, rfl, [], (List.append_nil _).symm, by simp⟩

theorem moment_shift (moment : Moment setup reading observation s s') : Shift setup reading observation s s' := by
  cases moment with
  | recordCommon common =>
      rcases recordCommon_shape with ⟨-, same⟩ | ⟨-, states, same⟩
      · rw [same]
        exact .keep ⟨rfl, rfl, rfl, rfl, rfl, rfl, [], (List.append_nil _).symm, by simp⟩
      · rw [same]
        exact .keep ⟨rfl, rfl, rfl, rfl, rfl, rfl, _, rfl, List.forall_mem_singleton.mpr rfl⟩
  | turn turn => exact turn_shift turn

end StarlinkTcp.Proof

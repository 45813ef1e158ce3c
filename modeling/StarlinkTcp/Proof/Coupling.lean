import StarlinkTcp.Machine.Fallible
import StarlinkTcp.Monitor.Loop

/-!
# Kernel and monitor stay coupled

The sysctls the monitor manages and the variables that say what it has programmed are written in
different places of the loop. `Coupled` is what they must satisfy together. Every transition of the
loop is a `Transition`: it keeps `Coupled`, and it leaves the locked period alone unless it activates.
Transitions compose, so whole iterations and whole runs are transitions too.
-/

namespace StarlinkTcp.Monitor
open Kernel Machine

structure Coupling where
  enable : UInt32
  dynamicEnable : Int32
  periodMs : UInt32
  offsetMs : UInt32
  active : Bool
  probeMode : ProbeMode
  lockedPeriod : Option ℚ
  phaseAnchor : Option ℚ
  lastProgrammed : Option (ℤ × ℤ)
  sessionDeadlineMono : Option ℚ
  nextValidationMono : Option ℚ

namespace MonitorState

def coupling (s : MonitorState) : Coupling where
  enable := s.net.tcpLeoRwndEnable
  dynamicEnable := s.net.tcpLeoDynamicEnable
  periodMs := s.net.tcpLeoRwndPeriodMs
  offsetMs := s.net.tcpLeoRwndOffsetMs
  active := s.active
  probeMode := s.probeMode
  lockedPeriod := s.lockedPeriod
  phaseAnchor := s.phaseAnchor
  lastProgrammed := s.lastProgrammed
  sessionDeadlineMono := s.sessionDeadlineMono
  nextValidationMono := s.nextValidationMono

end MonitorState

def LogRecord.isActivate : LogRecord → Bool
  | .activate _ _ _ => true
  | _ => false

def MonitorState.activations (s : MonitorState) : Nat :=
  (s.log.filter fun row => row.record.isActivate).length

end StarlinkTcp.Monitor

namespace StarlinkTcp.Proof
open Kernel Machine Monitor

def Programmed (c : Coupling) : Prop :=
  c.enable = 1 ∧ c.dynamicEnable = 1 ∧
  ∃ period anchor, c.lockedPeriod = some period ∧ c.phaseAnchor = some anchor ∧
    (c.periodMs.toNat : ℤ) = periodMs period ∧ (c.offsetMs.toNat : ℤ) = offsetMs period anchor ∧
    c.lastProgrammed = some (periodMs period, offsetMs period anchor)

structure Coupled (s : MonitorState) : Prop where
  learning_iff : s.coupling.active = false ↔ s.coupling.probeMode = .learning
  disabled : s.coupling.active = false → s.coupling.enable = 0 ∧ s.coupling.dynamicEnable = 0
  programmed : s.coupling.active = true → Programmed s.coupling
  asleep : s.coupling.probeMode = .activeSleep → s.procs = [] ∧ s.coupling.nextValidationMono.isSome
  session : s.coupling.probeMode = .activeConfirm ∨ s.coupling.probeMode = .activeValidate →
    s.coupling.sessionDeadlineMono.isSome
  period_known : ∀ row ∈ s.log, row.record ≠ .relearn .validationWithoutPeriod

structure Transition (s s' : MonitorState) : Prop where
  coupled : Coupled s → Coupled s'
  activations_le : s.activations ≤ s'.activations
  episode : s'.activations = s.activations → s'.active = true →
    s.active = true ∧ s'.lockedPeriod = s.lockedPeriod ∧
      s'.net.tcpLeoRwndPeriodMs = s.net.tcpLeoRwndPeriodMs

namespace Transition

theorem refl (s : MonitorState) : Transition s s where
  coupled := id
  activations_le := le_rfl
  episode _ active := ⟨active, rfl, rfl⟩

theorem trans {s t u : MonitorState} (first : Transition s t) (second : Transition t u) : Transition s u where
  coupled := second.coupled ∘ first.coupled
  activations_le := first.activations_le.trans second.activations_le
  episode same active := by
    have lower := first.activations_le
    have upper := second.activations_le
    obtain ⟨activeT, periodT, msT⟩ := second.episode (by omega) active
    obtain ⟨activeS, periodS, msS⟩ := first.episode (by omega) activeT
    exact ⟨activeS, periodT.trans periodS, msT.trans msS⟩

end Transition

/-- A step that leaves the coupled variables alone and logs nothing of note. -/
structure Quiet (s s' : MonitorState) : Prop where
  coupling : s'.coupling = s.coupling
  procs : s.procs = [] → s'.procs = []
  log : ∃ rows, s'.log = s.log ++ rows ∧
    ∀ row ∈ rows, row.record.isActivate = false ∧ row.record ≠ .relearn .validationWithoutPeriod

theorem Quiet.of_silent {s s' : MonitorState} (coupling : s'.coupling = s.coupling)
    (procs : s'.procs = s.procs) (log : s'.log = s.log) : Quiet s s' where
  coupling := coupling
  procs none := procs.trans none
  log := ⟨[], by rw [log, List.append_nil], by simp⟩

theorem activations_append {s s' : MonitorState} {rows : List LogRow} (log : s'.log = s.log ++ rows)
    (plain : ∀ row ∈ rows, row.record.isActivate = false) : s'.activations = s.activations := by
  have none : rows.filter (fun row => row.record.isActivate) = [] := by
    rw [List.filter_eq_nil_iff]
    intro row member
    simp [plain row member]
  simp only [MonitorState.activations, log, List.filter_append, none, List.append_nil]

theorem Quiet.transition {s s' : MonitorState} (quiet : Quiet s s') : Transition s s' := by
  obtain ⟨coupling, procs, rows, log, plain⟩ := quiet
  have same : s'.activations = s.activations := activations_append log fun row member => (plain row member).1
  refine ⟨fun coupled => ?_, same.ge, fun _ active => ?_⟩
  · constructor
    · rw [coupling]
      exact coupled.learning_iff
    · rw [coupling]
      exact coupled.disabled
    · rw [coupling]
      exact coupled.programmed
    · rw [coupling]
      intro asleep
      exact ⟨procs (coupled.asleep asleep).1, (coupled.asleep asleep).2⟩
    · rw [coupling]
      exact coupled.session
    · intro row member
      rw [log, List.mem_append] at member
      rcases member with old | new
      · exact coupled.period_known row old
      · exact (plain row new).2
  · exact ⟨(congrArg Coupling.active coupling).symm.trans active, congrArg Coupling.lockedPeriod coupling,
      congrArg Coupling.periodMs coupling⟩

/-! ## The closures -/

section Managed

variable {setup : Setup} {s s' : MonitorState}

theorem managedWrites_ok (managed : setup.args.manageEnable = true) (live : setup.args.dryRun = false)
    {writes : List SysctlWrite} (ok : s.managedWrites setup writes = .ok s') :
    ∃ net, s.net.writes writes = some net ∧ s' = { s with net } := by
  simp only [MonitorState.managedWrites, managed, if_true, MonitorState.sysctlWrites, live, Bool.false_eq_true,
    if_false] at ok
  cases written : s.net.writes writes with
  | none => simp [written] at ok
  | some net =>
      simp only [written, Except.ok.injEq] at ok
      exact ⟨net, rfl, ok.symm⟩

structure Relearned (log : List LogRow) (reason : RelearnReason) (s' : MonitorState) : Prop where
  active : s'.active = false
  probeMode : s'.probeMode = .learning
  enable : s'.net.tcpLeoRwndEnable = 0
  dynamicEnable : s'.net.tcpLeoDynamicEnable = 0
  log : ∃ row : LogRow, row.record = .relearn reason ∧ s'.log = log ++ [row]

theorem enterLearning_relearned (managed : setup.args.manageEnable = true) (live : setup.args.dryRun = false)
    {nowWall nowMono : ℚ} {starts : Starts} {reason : RelearnReason}
    (ok : s.enterLearning setup nowWall nowMono starts reason = .ok s') : Relearned s.log reason s' := by
  rw [MonitorState.enterLearning, bind_eq_ok] at ok
  obtain ⟨written, writes, ok⟩ := ok
  obtain ⟨net, stored, rfl⟩ := managedWrites_ok managed live writes
  obtain ⟨enable, dynamicEnable⟩ := disableRedhat_written stored
  cases ok
  exact ⟨rfl, rfl, enable, dynamicEnable, _, rfl, rfl⟩

theorem Relearned.transition {reason : RelearnReason} (relearned : Relearned s.log reason s')
    (known : Coupled s → reason ≠ .validationWithoutPeriod) : Transition s s' := by
  obtain ⟨active, probeMode, enable, dynamicEnable, row, record, log⟩ := relearned
  have same : s'.activations = s.activations := by
    apply activations_append log
    intro other member
    rw [List.mem_singleton.mp member, record]
    rfl
  refine ⟨fun coupled => ?_, same.ge, fun _ again => ?_⟩
  · constructor
    · exact ⟨fun _ => probeMode, fun _ => active⟩
    · exact fun _ => ⟨enable, dynamicEnable⟩
    · intro again
      exact absurd (active.symm.trans again) (by simp)
    · intro asleep
      exact absurd (probeMode.symm.trans asleep) (by simp)
    · rintro (confirm | validate)
      · exact absurd (probeMode.symm.trans confirm) (by simp)
      · exact absurd (probeMode.symm.trans validate) (by simp)
    · intro other member
      rw [log, List.mem_append, List.mem_singleton] at member
      rcases member with old | rfl
      · exact coupled.period_known other old
      · rw [record]
        simpa using known coupled
  · exact absurd (active.symm.trans again) (by simp)

theorem enterLearning_transition (managed : setup.args.manageEnable = true) (live : setup.args.dryRun = false)
    {nowWall nowMono : ℚ} {starts : Starts} {reason : RelearnReason}
    (known : reason ≠ .validationWithoutPeriod)
    (ok : s.enterLearning setup nowWall nowMono starts reason = .ok s') : Transition s s' :=
  (enterLearning_relearned managed live ok).transition fun _ => known

theorem logged_quiet {wall : ℚ} {record : LogRecord} (plain : record.isActivate = false)
    (known : record ≠ .relearn .validationWithoutPeriod) : Quiet s (s.logged wall record) where
  coupling := rfl
  procs := id
  log := ⟨[s.row wall record], rfl, fun row member => by
    rw [List.mem_singleton.mp member]
    exact ⟨plain, known⟩⟩

theorem Coupled.active_of_mode (coupled : Coupled s) (mode : s.probeMode ≠ .learning) : s.active = true := by
  rw [← Bool.not_eq_false]
  intro inactive
  exact mode (coupled.learning_iff.mp inactive)

theorem transition_of_mode {row : LogRow} (mode : s.probeMode ≠ .learning)
    (coupling : s'.coupling = { s.coupling with
      probeMode := s'.probeMode
      sessionDeadlineMono := s'.sessionDeadlineMono
      nextValidationMono := s'.nextValidationMono })
    (mode' : s'.probeMode ≠ .learning)
    (asleep : s'.probeMode = .activeSleep → s'.procs = [] ∧ s'.nextValidationMono.isSome)
    (session : s'.probeMode = .activeConfirm ∨ s'.probeMode = .activeValidate → s'.sessionDeadlineMono.isSome)
    (log : s'.log = s.log ++ [row]) (plain : row.record.isActivate = false)
    (known : row.record ≠ .relearn .validationWithoutPeriod) : Transition s s' := by
  have same : s'.activations = s.activations := by
    apply activations_append log
    intro other member
    rw [List.mem_singleton.mp member]
    exact plain
  have sameActive : s'.coupling.active = s.active := congrArg Coupling.active coupling
  refine ⟨fun coupled => ?_, same.ge, fun _ active => ?_⟩
  · have active := coupled.active_of_mode mode
    constructor
    · rw [sameActive, active]
      exact ⟨fun off => (by cases off), fun off => absurd off mode'⟩
    · intro inactive
      rw [sameActive, active] at inactive
      cases inactive
    · intro _
      have programmed := coupled.programmed active
      rw [coupling]
      exact programmed
    · exact asleep
    · exact session
    · intro other member
      rw [log, List.mem_append, List.mem_singleton] at member
      rcases member with old | rfl
      · exact coupled.period_known other old
      · exact known
  · exact ⟨sameActive.symm.trans active, congrArg Coupling.lockedPeriod coupling,
      congrArg Coupling.periodMs coupling⟩

theorem enterSleep_transition {nowWall nowMono : ℚ} {source : SessionSource} (mode : s.probeMode ≠ .learning) :
    Transition s (s.enterSleep setup nowWall nowMono source) := by
  apply transition_of_mode mode
  · rfl
  · simp [MonitorState.enterSleep, MonitorState.logged]
  · exact fun _ => ⟨rfl, rfl⟩
  · simp [MonitorState.enterSleep, MonitorState.logged]
  · rfl
  · rfl
  · simp [MonitorState.row]

theorem startValidation_transition (managed : setup.args.manageEnable = true)
    (live : setup.args.dryRun = false) {nowWall nowMono : ℚ} {starts learningStarts : Starts}
    (mode : s.probeMode ≠ .learning)
    (ok : s.startValidation setup nowWall nowMono starts learningStarts = .ok s') : Transition s s' := by
  unfold MonitorState.startValidation at ok
  cases period : s.lockedPeriod with
  | none =>
      rw [period] at ok
      refine (enterLearning_relearned managed live ok).transition fun coupled => ?_
      obtain ⟨-, -, locked, -, some, -⟩ := coupled.programmed (coupled.active_of_mode mode)
      simp [MonitorState.coupling, period] at some
  | some lockedPeriod =>
      simp only [period] at ok
      split at ok
      · have relearned := enterLearning_relearned managed live ok
        exact Relearned.transition relearned fun _ => by simp
      · cases ok
        apply transition_of_mode mode
        · rw [← period]
          rfl
        · simp [MonitorState.logged]
        · simp [MonitorState.logged]
        · exact fun _ => rfl
        · rfl
        · rfl
        · simp [MonitorState.row]

/-! ## The steps of an iteration -/

theorem wake_transition (managed : setup.args.manageEnable = true) (live : setup.args.dryRun = false)
    {reading : Reading} (ok : s.wake setup reading = .ok s') : Transition s s' := by
  unfold MonitorState.wake at ok
  split at ok
  · rename_i due
    exact startValidation_transition managed live (by simp [due.2.1]) ok
  · cases ok
    exact .refl s

theorem readProbe_quiet {event : ProbeEvent} (ok : s.readProbe setup event = .ok s') : Quiet s s' := by
  unfold MonitorState.readProbe at ok
  split at ok
  · cases ok
    exact .of_silent rfl rfl rfl
  · rename_i running
    cases output : event.output with
    | closed =>
        rw [output] at ok
        cases ok
        refine ⟨rfl, fun none => ?_, [], (List.append_nil _).symm, by simp⟩
        simp [none] at running
    | noise =>
        rw [output] at ok
        cases ok
        exact .of_silent rfl rfl rfl
    | reply ts wall =>
        rw [output] at ok
        obtain ⟨⟨st, candidate⟩, -, ok⟩ := bind_eq_ok.mp ok
        cases candidate with
        | none =>
            cases ok
            exact .of_silent rfl rfl rfl
        | some found =>
            obtain ⟨ev, dt, threshold⟩ := found
            cases ok
            exact ⟨rfl, id, [_], rfl, fun row member => by
              rw [List.mem_singleton.mp member]
              exact ⟨rfl, by simp [MonitorState.row]⟩⟩

theorem readProbes_transition {events : List ProbeEvent} (ok : s.readProbes setup events = .ok s') :
    Transition s s' :=
  foldlM_related Transition.refl Transition.trans (fun ok => (readProbe_quiet ok).transition) ok

theorem mode_of_sessionDue {nowMono : ℚ} (due : s.sessionDue nowMono = true) : s.probeMode ≠ .learning := by
  simp only [MonitorState.sessionDue, decide_eq_true_eq] at due
  rcases due.1 with confirm | validate
  · simp [confirm]
  · simp [validate]

theorem resolveSession_transition (managed : setup.args.manageEnable = true)
    (live : setup.args.dryRun = false) {reading : Reading} (mode : s.probeMode ≠ .learning)
    (ok : s.resolveSession setup reading = .ok s') : Transition s s' := by
  unfold MonitorState.resolveSession at ok
  dsimp only at ok
  split at ok
  · cases ok
    exact (logged_quiet rfl (by simp)).transition.trans (enterSleep_transition mode)
  · exact enterLearning_transition managed live (by simp) ok

theorem recordCommon_quiet (reading : Reading) (s : MonitorState) (event : CommonEvent) :
    Quiet s (s.recordCommon setup reading event) := by
  unfold MonitorState.recordCommon
  split
  · exact .of_silent rfl rfl rfl
  · exact ⟨rfl, id, [_], rfl, fun row member => by
      rw [List.mem_singleton.mp member]
      exact ⟨rfl, by simp [MonitorState.row]⟩⟩

theorem recordFit_quiet (reading : Reading) (fit : Option PeriodFit) (s : MonitorState) :
    Quiet s (s.recordFit reading fit) := by
  cases fit with
  | none => exact .of_silent rfl rfl rfl
  | some fit => exact logged_quiet rfl (by simp)

theorem collectFit_quiet (fit : Option PeriodFit) (s : MonitorState) : Quiet s (s.collectFit setup fit) := by
  unfold MonitorState.collectFit
  split
  · exact .of_silent rfl rfl rfl
  · split <;> exact .of_silent rfl rfl rfl

theorem countMismatch_quiet (fit : Option PeriodFit) (period : ℚ) (s : MonitorState) :
    Quiet s (s.countMismatch setup fit period) := by
  unfold MonitorState.countMismatch
  split
  · exact .of_silent rfl rfl rfl
  · split <;> exact .of_silent rfl rfl rfl

structure Activated (log : List LogRow) (s' : MonitorState) : Prop where
  active : s'.active = true
  probeMode : s'.probeMode = .activeConfirm
  programmed : Programmed s'.coupling
  deadline : s'.sessionDeadlineMono.isSome
  log : ∃ row : LogRow, row.record.isActivate = true ∧ s'.log = log ++ [row]

theorem activate_activated (managed : setup.args.manageEnable = true) (live : setup.args.dryRun = false)
    {reading : Reading} {fit : PeriodFit} {period anchor : ℚ}
    (ok : s.activate setup reading fit period anchor = .ok s') : Activated s.log s' := by
  unfold MonitorState.activate at ok
  dsimp only at ok
  obtain ⟨written, writes, ok⟩ := bind_eq_ok.mp ok
  obtain ⟨net, stored, rfl⟩ := managedWrites_ok managed live writes
  obtain ⟨periodWritten, offsetWritten, enable, dynamicEnable⟩ := programRedhat_written stored
  simp only [managed, if_true] at ok
  cases ok
  exact ⟨rfl, rfl, ⟨enable, dynamicEnable, period, anchor, rfl, rfl, periodWritten, offsetWritten, rfl⟩, rfl,
    _, rfl, rfl⟩

theorem Activated.transition (activated : Activated s.log s') : Transition s s' := by
  obtain ⟨active, probeMode, programmed, deadline, row, record, log⟩ := activated
  have grown : s'.activations = s.activations + 1 := by
    simp [MonitorState.activations, log, List.filter_append, record]
  refine ⟨fun coupled => ?_, by omega, fun same => by omega⟩
  constructor
  · constructor
    · intro inactive
      exact absurd (active.symm.trans inactive) (by simp)
    · intro learning
      exact absurd (probeMode.symm.trans learning) (by simp)
  · intro inactive
    exact absurd (active.symm.trans inactive) (by simp)
  · exact fun _ => programmed
  · intro asleep
    exact absurd (probeMode.symm.trans asleep) (by simp)
  · exact fun _ => deadline
  · intro other member
    rw [log, List.mem_append, List.mem_singleton] at member
    rcases member with old | rfl
    · exact coupled.period_known other old
    · intro relearn
      rw [relearn] at record
      cases record

/-! ## Maintenance -/

theorem resync_transition (managed : setup.args.manageEnable = true) (live : setup.args.dryRun = false)
    {nowWall period anchor consensus : ℚ} (locked : s.lockedPeriod = some period)
    (ok : s.resync setup nowWall period anchor consensus = .ok s') :
    Transition s s' ∧ s'.lockedPeriod = some period := by
  unfold MonitorState.resync at ok
  dsimp only at ok
  obtain ⟨written, writes, ok⟩ := bind_eq_ok.mp ok
  obtain ⟨net, stored, rfl⟩ := managedWrites_ok managed live writes
  obtain ⟨offset, samePeriod, enable, dynamicEnable⟩ := programRedhatPhaseOnly_written stored
  simp only [managed, if_true] at ok
  cases ok
  refine ⟨⟨fun coupled => ?_, le_rfl, fun _ active => ⟨active, rfl, samePeriod⟩⟩, locked⟩
  constructor
  · exact coupled.learning_iff
  · intro inactive
    obtain ⟨off, dynamicOff⟩ := coupled.disabled inactive
    exact ⟨enable.trans off, dynamicEnable.trans dynamicOff⟩
  · intro active
    obtain ⟨on, dynamicOn, lockedPeriod, oldAnchor, lock, -, periodProgrammed, -, last⟩ :=
      coupled.programmed active
    obtain rfl : lockedPeriod = period := by
      have both := lock.symm.trans locked
      exact Option.some.inj both
    have last : s.lastProgrammed = some (periodMs lockedPeriod, offsetMs lockedPeriod oldAnchor) := last
    refine ⟨enable.trans on, dynamicEnable.trans dynamicOn, lockedPeriod, _, locked, rfl, ?_, offset, ?_⟩
    · rw [← periodProgrammed]
      exact congrArg (fun word : UInt32 => (word.toNat : ℤ)) samePeriod
    · simp only [MonitorState.coupling, last, Option.map_some]
      rfl
  · exact coupled.asleep
  · exact coupled.session
  · exact coupled.period_known

theorem maybeResync_transition (managed : setup.args.manageEnable = true) (live : setup.args.dryRun = false)
    {nowWall period anchor : ℚ} {action : PhaseAction} (locked : s.lockedPeriod = some period)
    (ok : s.maybeResync setup nowWall period anchor = .ok (s', action)) : Transition s s' := by
  unfold MonitorState.maybeResync at ok
  split at ok
  · cases ok
    exact .refl s
  · split at ok
    · obtain ⟨synced, resync, ok⟩ := bind_eq_ok.mp ok
      cases ok
      exact (resync_transition managed live locked resync).1
    · cases ok
      exact .refl s

theorem updatePredictionGuard_transition (managed : setup.args.manageEnable = true)
    (live : setup.args.dryRun = false) (ok : s.updatePredictionGuard setup = .ok s') : Transition s s' := by
  unfold MonitorState.updatePredictionGuard at ok
  dsimp only at ok
  split at ok
  · split at ok
    · obtain ⟨written, writes, ok⟩ := bind_eq_ok.mp ok
      obtain ⟨net, stored, rfl⟩ := managedWrites_ok managed live writes
      rw [Net.writes_cons_eq_some] at stored
      obtain ⟨-, shape⟩ := stored
      cases Option.some.inj shape
      cases ok
      exact Quiet.transition (.of_silent rfl rfl rfl)
    · cases ok
      exact .refl s
  · cases ok
    exact .refl s

theorem checkPhase_transition (managed : setup.args.manageEnable = true) (live : setup.args.dryRun = false)
    {reading : Reading} {fit : Option PeriodFit} {commonTimes : List ℚ} {period anchor : ℚ}
    (locked : s.lockedPeriod = some period)
    (ok : s.checkPhase setup reading fit commonTimes period anchor = .ok s') : Transition s s' := by
  unfold MonitorState.checkPhase at ok
  split at ok
  · cases ok
    exact .refl s
  · rename_i newest _
    split at ok
    · cases ok
      exact .refl s
    · rename_i phaseErrorS predicted _
      have noted : Transition s (s.notePhase setup newest phaseErrorS) :=
        Quiet.transition (.of_silent rfl rfl rfl)
      obtain ⟨⟨synced, action⟩, resync, ok⟩ := bind_eq_ok.mp ok
      obtain ⟨guarded, guard, ok⟩ := bind_eq_ok.mp ok
      cases ok
      have lockedNoted : (s.notePhase setup newest phaseErrorS).lockedPeriod = some period := locked
      exact noted.trans ((maybeResync_transition managed live lockedNoted resync).trans
        ((updatePredictionGuard_transition managed live guard).trans
          (logged_quiet rfl (by simp)).transition))

theorem maintain_transition (managed : setup.args.manageEnable = true) (live : setup.args.dryRun = false)
    {reading : Reading} {fit : Option PeriodFit} {commonTimes : List ℚ} {period anchor : ℚ}
    (locked : s.lockedPeriod = some period)
    (ok : s.maintain setup reading fit commonTimes period anchor = .ok s') : Transition s s' := by
  unfold MonitorState.maintain at ok
  dsimp only at ok
  have quiet : Quiet s (s.countMismatch setup fit period) := countMismatch_quiet fit period s
  have counted := quiet.transition
  have lockedCounted : (s.countMismatch setup fit period).lockedPeriod = some period :=
    (congrArg Coupling.lockedPeriod quiet.coupling).trans locked
  split at ok
  · exact counted.trans (enterLearning_transition managed live (by simp) ok)
  · obtain ⟨checked, phase, ok⟩ := bind_eq_ok.mp ok
    have before := counted.trans (checkPhase_transition managed live lockedCounted phase)
    split at ok
    · rename_i due
      exact before.trans (resolveSession_transition managed live (mode_of_sessionDue due) ok)
    · split at ok
      · cases ok
        exact before
      · exact before.trans (enterLearning_transition managed live (by simp) ok)

theorem actOnFit_transition (managed : setup.args.manageEnable = true) (live : setup.args.dryRun = false)
    {reading : Reading} {fit : Option PeriodFit} {commonTimes : List ℚ}
    (ok : s.actOnFit setup reading fit commonTimes = .ok s') : Transition s s' := by
  unfold MonitorState.actOnFit at ok
  split at ok
  · obtain ⟨candidate, -, ok⟩ := bind_eq_ok.mp ok
    cases candidate with
    | none =>
        cases ok
        exact .refl s
    | some lattice => exact (activate_activated managed live ok).transition
  · split at ok
    · rename_i locked _
      exact maintain_transition managed live locked ok
    · cases ok
      exact .refl s

theorem analyse_transition (managed : setup.args.manageEnable = true) (live : setup.args.dryRun = false)
    {reading : Reading} (ok : s.analyse setup reading = .ok s') : Transition s s' := by
  unfold MonitorState.analyse at ok
  dsimp only at ok
  split at ok
  · cases ok
  refine Transition.trans ?_ (actOnFit_transition managed live ok)
  refine Transition.trans ?_ (collectFit_quiet _ _).transition
  refine Transition.trans ?_ (recordFit_quiet _ _ _).transition
  refine Transition.trans ?_ (foldl_related Transition.refl Transition.trans
    (fun state event => (recordCommon_quiet reading state event).transition) _ _)
  exact Quiet.transition (.of_silent rfl rfl rfl)

theorem iteration_transition (managed : setup.args.manageEnable = true) (live : setup.args.dryRun = false)
    {reading : Reading} (ok : s.iteration setup reading = .ok s') : Transition s s' := by
  unfold MonitorState.iteration at ok
  obtain ⟨woken, wake, ok⟩ := bind_eq_ok.mp ok
  obtain ⟨read, probes, ok⟩ := bind_eq_ok.mp ok
  have before := (wake_transition managed live wake).trans (readProbes_transition probes)
  split at ok
  · cases ok
    exact before
  · split at ok
    · split at ok
      · rename_i due
        exact before.trans (resolveSession_transition managed live (mode_of_sessionDue due.2) ok)
      · cases ok
        exact before
    · exact before.trans (analyse_transition managed live ok)

/-! ## Runs of the monitor -/

theorem start_coupled (managed : setup.args.manageEnable = true) (live : setup.args.dryRun = false)
    {net : Net} {startWall startMono : ℚ} {starts : Starts}
    (ok : start setup net startWall startMono starts = .ok (some s)) : Coupled s := by
  unfold start at ok
  obtain ⟨written, writes, ok⟩ := bind_eq_ok.mp ok
  obtain ⟨after, stored, rfl⟩ := managedWrites_ok managed live writes
  obtain ⟨enable, dynamicEnable⟩ := disableRedhat_written stored
  change Except.ok _ = Except.ok (some s) at ok
  rw [Except.ok.injEq] at ok
  split at ok
  · cases ok
  · cases ok
    constructor
    · exact ⟨fun _ => rfl, fun _ => rfl⟩
    · exact fun _ => ⟨enable, dynamicEnable⟩
    · intro active
      cases active
    · intro asleep
      cases asleep
    · rintro (confirm | validate)
      · cases confirm
      · cases validate
    · intro row member
      rw [List.mem_singleton.mp member]
      simp [MonitorState.row]

theorem reaches_transition (managed : setup.args.manageEnable = true) (live : setup.args.dryRun = false)
    (reached : Reaches (MonitorState.iteration setup) s s') : Transition s s' :=
  reaches_related Transition.refl Transition.trans (fun ok => iteration_transition managed live ok) reached

end Managed

/-- After every iteration of every run of a monitor that manages the kernel, the kernel runs what the
monitor has locked and nothing else; the locked period stays within an episode; and each mode has the
probes and deadlines it needs. -/
theorem monitor_kernel_coupled (setup : Setup) (managed : setup.args.manageEnable = true)
    (live : setup.args.dryRun = false) (net : Net) (startWall startMono : ℚ) (starts : Starts)
    (first s : MonitorState) (started : start setup net startWall startMono starts = .ok (some first))
    (reached : Reaches (MonitorState.iteration setup) first s) :
    (s.active = false ↔ s.probeMode = .learning) ∧
    (s.active = false ↔ s.net.tcpLeoRwndEnable = 0 ∧ s.net.tcpLeoDynamicEnable = 0) ∧
    (s.active = true →
      s.net.tcpLeoRwndEnable = 1 ∧ s.net.tcpLeoDynamicEnable = 1 ∧
      ∃ period anchor, s.lockedPeriod = some period ∧ s.phaseAnchor = some anchor ∧
        (s.net.tcpLeoRwndPeriodMs.toNat : ℤ) = max 1 (roundHalfEven (period * 1000)) ∧
        (s.net.tcpLeoRwndOffsetMs.toNat : ℤ) =
          roundHalfEven (anchor * 1000) % (s.net.tcpLeoRwndPeriodMs.toNat : ℤ) ∧
        s.lastProgrammed =
          some ((s.net.tcpLeoRwndPeriodMs.toNat : ℤ), (s.net.tcpLeoRwndOffsetMs.toNat : ℤ))) ∧
    (∀ later, Reaches (MonitorState.iteration setup) s later → later.active = true →
      later.activations = s.activations →
      s.active = true ∧ later.lockedPeriod = s.lockedPeriod ∧
        later.net.tcpLeoRwndPeriodMs = s.net.tcpLeoRwndPeriodMs) ∧
    (s.probeMode = .activeSleep → s.procs = [] ∧ s.nextValidationMono.isSome) ∧
    (s.probeMode = .activeConfirm ∨ s.probeMode = .activeValidate → s.sessionDeadlineMono.isSome) ∧
    (∀ row ∈ s.log, row.record ≠ .relearn .validationWithoutPeriod) := by
  have coupled := (reaches_transition managed live reached).coupled (start_coupled managed live started)
  refine ⟨coupled.learning_iff, ⟨coupled.disabled, ?_⟩, ?_, ?_, coupled.asleep, coupled.session,
    coupled.period_known⟩
  · rintro ⟨off, -⟩
    rw [← Bool.not_eq_true]
    intro active
    have on := (coupled.programmed active).1
    exact absurd (on.symm.trans off) (by decide)
  · intro active
    obtain ⟨on, dynamicOn, period, anchor, locked, anchored, periodWritten, offsetWritten, last⟩ :=
      coupled.programmed active
    have periodWord : (s.net.tcpLeoRwndPeriodMs.toNat : ℤ) = periodMs period := periodWritten
    have offsetWord : (s.net.tcpLeoRwndOffsetMs.toNat : ℤ) = offsetMs period anchor := offsetWritten
    refine ⟨on, dynamicOn, period, anchor, locked, anchored, periodWord, ?_, ?_⟩
    · rw [offsetWord, periodWord]
      rfl
    · rw [offsetWord, periodWord]
      exact last
  · intro later afterwards active same
    exact (reaches_transition managed live afterwards).episode same active

def eagerSetup : Setup :=
  .ofArgs
    { Args.default with
      minBaselineSamples := 1
      minTargets := 1
      minEvents := 3
      learnSeconds := 0
      periodLockMinFits := 1
      manageEnable := true }
    ["1.1.1.1"]

def periodicReading : Reading where
  monoPre := 15
  wallPre := 15
  validationStarts := fun _ => true
  wakeStarts := fun _ => true
  events := [0, 1, 4, 5, 6, 9, 10, 11, 14].map fun ts => ⟨"1.1.1.1", .reply ts 15⟩
  mono := 15
  wall := 15
  order := ⟨id, fun _ => .refl _⟩
  learningStarts := fun _ => true

def readingAt (seconds : ℚ) (events : List ProbeEvent) : Reading :=
  { periodicReading with monoPre := seconds, wallPre := seconds, events, mono := seconds, wall := seconds }

def eagerStart : MonitorState :=
  { initialState eagerSetup tcpSkInit 0 0 (fun _ => true) with
    net := { tcpSkInit with tcpLeoRwndEnable := 0, tcpLeoDynamicEnable := 0 } }

theorem eagerStart_started : start eagerSetup tcpSkInit 0 0 (fun _ => true) = .ok (some eagerStart) := rfl

theorem eagerStart_activates : ∃ s, eagerStart.iteration eagerSetup periodicReading = .ok s ∧ s.active = true := by
  exact exists_ok_of_succeedsWith (by decide +kernel : succeedsWith MonitorState.active
    (eagerStart.iteration eagerSetup periodicReading) = true)

theorem monitor_kernel_coupled_after_activation :
    ∃ s, Reaches (MonitorState.iteration eagerSetup) eagerStart s ∧ s.active = true ∧
      s.net.tcpLeoRwndEnable = 1 ∧ s.net.tcpLeoDynamicEnable = 1 := by
  obtain ⟨s, ok, active⟩ := eagerStart_activates
  have reached : Reaches (MonitorState.iteration eagerSetup) eagerStart s := .tail .refl ok
  have coupled := (monitor_kernel_coupled eagerSetup rfl rfl tcpSkInit 0 0 (fun _ => true) eagerStart s
    eagerStart_started reached).2.2.1 active
  exact ⟨s, reached, active, coupled.1, coupled.2.1⟩

def replies (target : String) (times : List ℚ) : List ProbeEvent :=
  times.map fun ts => ⟨target, .reply ts ts⟩

def guardSetup : Setup :=
  .ofArgs
    { Args.default with
      minBaselineSamples := 1
      minTargets := 1
      minEvents := 3
      learnSeconds := 0
      periodLockMinFits := 1
      autoPredictionGuard := true }
    ["1.1.1.1"]

def guardStart : MonitorState := initialState guardSetup tcpSkInit 0 0 fun _ => true

theorem guardStart_started : start guardSetup tcpSkInit 0 0 (fun _ => true) = .ok (some guardStart) := rfl

/-- Replies of one target, the last one after a gap of three seconds. -/
def gapAfter (seconds last : ℚ) : Reading := readingAt seconds (replies "1.1.1.1" [last - 1, last, last + 3])

def earlyChecks (first second third fourth : ℚ) : List Reading :=
  [periodicReading, gapAfter 20 first, gapAfter 25 second, gapAfter 30 third, gapAfter 35 fourth]

end StarlinkTcp.Proof

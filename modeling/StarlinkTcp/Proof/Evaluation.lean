import StarlinkTcp.Monitor.Evaluate
import StarlinkTcp.Proof.PredictionGuard

/-!
# What the evaluator makes of a log

The monitor writes a resynchronisation as the action of a `phase_check` row and a return to LEARNING as a
`relearn` row. The evaluator looks for `resync` and `disable` rows, which no run writes. Its summary is
right exactly for the runs that do neither.
-/

namespace StarlinkTcp.Monitor
open Machine

/-- What a run has done to the controller: the anchors it activated it with, the events it resynchronised
it at, and how often it gave it up. -/
structure Tally where
  activations : List (Option ℚ)
  resyncs : List ℚ
  disables : Nat
deriving DecidableEq, Repr

def LogRow.activation (row : LogRow) : Option ℚ :=
  match row.record with
  | .activate anchor _ _ => some anchor
  | _ => none

def LogRow.resync (row : LogRow) : Option ℚ :=
  match row.record with
  | .phaseCheck event _ _ _ _ .resync => some event
  | _ => none

namespace Tally

-- the switches are those of the state; a resynchronisation is a phase check with that action
def note (s s' : MonitorState) (tally : Tally) : Tally where
  activations :=
    if s.active = false ∧ s'.active = true then tally.activations ++ [s'.phaseAnchor] else tally.activations
  resyncs := tally.resyncs ++ (s'.log.drop s.log.length).filterMap LogRow.resync
  disables := if s.active = true ∧ s'.active = false then tally.disables + 1 else tally.disables

def controlEvents (tally : Tally) : List ℚ := unique (tally.activations.filterMap id ++ tally.resyncs)

end Tally

def Reports (log : List LogRow) (tally : Tally) : Prop :=
  ∀ (referencePeriod : Option ℚ) (refEvents : Option (List ℚ)) (matchTolMs : ℚ),
    ∃ (summary : Summary) (perTarget : List TargetSummary),
      summarize (log.map LogRow.csv) referencePeriod refEvents matchTolMs = some (summary, perTarget) ∧
      summary.activateCount = tally.activations.length ∧
      summary.resyncCount = tally.resyncs.length ∧
      summary.disableCount = tally.disables ∧
      summary.eventEval = (refEvents.filter fun refEvents => refEvents.length ≠ 0).map fun refEvents =>
        evaluateEvents tally.controlEvents refEvents matchTolMs

end StarlinkTcp.Monitor

namespace StarlinkTcp.Proof
open Kernel Machine Monitor

variable {setup : Setup} {reading : Reading} {observation first s s' : MonitorState} {tally : Tally}

/-! ## Reading the log back -/

def writtenRecords : List String :=
  ["start", "candidate", "common", "fit", "activate", "phase_check", "relearn", "confirm_success",
    "validation_success", "probe_sleep", "validation_start"]

theorem csv_record_mem (row : LogRow) : row.csv.record ∈ writtenRecords := by
  obtain ⟨wallTime, record, active, lockedPeriod, probeMode⟩ := row
  cases record with
  | sessionSuccess source =>
      cases source <;> simp [LogRow.csv, LogRow.simple, SessionSource.label, writtenRecords]
  | _ => simp [LogRow.csv, LogRow.simple, writtenRecords]

theorem recordsOf_unwritten {record : String} (unwritten : record ∉ writtenRecords) (log : List LogRow) :
    recordsOf record (log.map LogRow.csv) = [] := by
  apply List.filter_eq_nil_iff.mpr
  intro row member
  obtain ⟨row, -, rfl⟩ := List.mem_map.mp member
  simp only [decide_eq_true_eq]
  intro same
  rw [← same] at unwritten
  exact unwritten (csv_record_mem row)

theorem csv_activate (row : LogRow) :
    row.csv.record = "activate" ∧ row.csv.eventEpoch = row.activation ∧ row.activation.isSome = true ∨
      row.csv.record ≠ "activate" ∧ row.activation = none := by
  obtain ⟨wallTime, record, active, lockedPeriod, probeMode⟩ := row
  cases record with
  | activate => exact .inl ⟨rfl, rfl, rfl⟩
  | sessionSuccess source =>
      right
      cases source <;> simp [LogRow.csv, LogRow.simple, SessionSource.label, LogRow.activation]
  | _ => simp [LogRow.csv, LogRow.simple, LogRow.activation]

theorem recordsOf_activate (log : List LogRow) :
    (recordsOf "activate" (log.map LogRow.csv)).map CsvRow.eventEpoch = (log.filterMap LogRow.activation).map some := by
  induction log with
  | nil => rfl
  | cons row log ih =>
      rw [recordsOf] at ih
      rw [recordsOf, List.map_cons]
      rcases csv_activate row with ⟨record, epoch, activated⟩ | ⟨record, other⟩
      · obtain ⟨anchor, found⟩ := Option.isSome_iff_exists.mp activated
        rw [List.filter_cons_of_pos (by simpa using record), List.filterMap_cons_some found, List.map_cons,
          List.map_cons, ih, epoch, found]
      · rw [List.filter_cons_of_neg (by simpa using record), List.filterMap_cons_none other]
        exact ih

theorem recordsOf_activate_events (log : List LogRow) :
    (recordsOf "activate" (log.map LogRow.csv)).filterMap CsvRow.eventEpoch = log.filterMap LogRow.activation := by
  have epochs := congrArg (List.filterMap id) (recordsOf_activate log)
  simpa [List.filterMap_map, Function.comp_def] using epochs

theorem summarize_log {log : List LogRow} (written : log ≠ []) (referencePeriod : Option ℚ)
    (refEvents : Option (List ℚ)) (matchTolMs : ℚ) :
    ∃ (summary : Summary) (perTarget : List TargetSummary),
      summarize (log.map LogRow.csv) referencePeriod refEvents matchTolMs = some (summary, perTarget) ∧
      summary.activateCount = (log.filterMap LogRow.activation).length ∧
      summary.resyncCount = 0 ∧ summary.disableCount = 0 ∧
      summary.eventEval = (refEvents.filter fun refEvents => refEvents.length ≠ 0).map fun refEvents =>
        evaluateEvents (unique (log.filterMap LogRow.activation)) refEvents matchTolMs := by
  obtain ⟨start, started⟩ : ∃ start, ((log.map LogRow.csv).map CsvRow.wallTime).min? = some start := by
    apply Option.isSome_iff_exists.mp
    simpa using written
  obtain ⟨finish, finished⟩ : ∃ finish, ((log.map LogRow.csv).map CsvRow.wallTime).max? = some finish := by
    apply Option.isSome_iff_exists.mp
    simpa using written
  obtain ⟨last, ends⟩ : ∃ last, (log.map LogRow.csv).getLast? = some last := by
    apply Option.isSome_iff_exists.mp
    simpa using written
  have resync : recordsOf "resync" (log.map LogRow.csv) = [] := recordsOf_unwritten (by decide) log
  have disable : recordsOf "disable" (log.map LogRow.csv) = [] := recordsOf_unwritten (by decide) log
  have activations : (recordsOf "activate" (log.map LogRow.csv)).length = (log.filterMap LogRow.activation).length := by
    simpa using congrArg List.length (recordsOf_activate log)
  unfold summarize
  rw [started, finished, ends, resync, disable]
  refine ⟨_, _, rfl, activations, rfl, rfl, ?_⟩
  rw [List.append_nil, recordsOf_activate_events]

/-! ## The tally of a run -/

/-- A run up to some moment, also in the middle of an iteration that an exception then ends. -/
inductive Tallies (setup : Setup) (first : MonitorState) : MonitorState → Tally → Prop
  | start : Tallies setup first first ⟨[], [], 0⟩
  | moment {reading : Reading} {observation s s' : MonitorState} {tally : Tally} (tallied : Tallies setup first s tally)
      (moment : Moment setup reading observation s s') : Tallies setup first s' (tally.note s s')

theorem Visits.tallies (visited : Visits setup first s) : ∃ tally, Tallies setup first s tally := by
  induction visited with
  | start => exact ⟨_, .start⟩
  | moment _ moment ih =>
      obtain ⟨tally, tallied⟩ := ih
      exact ⟨_, tallied.moment moment⟩

def loggedActivations (log : List LogRow) : List (Option ℚ) := (log.filterMap LogRow.activation).map some

def LogsSwitch (s s' : MonitorState) : Prop :=
  loggedActivations s'.log =
    if s.active = false ∧ s'.active = true then loggedActivations s.log ++ [s'.phaseAnchor] else loggedActivations s.log

theorem logsSwitch_of_plain {rows : List LogRow} (stays : s'.active = true → s.active = true)
    (log : s'.log = s.log ++ rows) (plain : ∀ row ∈ rows, row.activation = none) : LogsSwitch s s' := by
  have none : rows.filterMap LogRow.activation = [] := List.filterMap_eq_nil_iff.mpr plain
  have off : ¬ (s.active = false ∧ s'.active = true) := by
    rintro ⟨inactive, active⟩
    rw [stays active] at inactive
    cases inactive
  rw [LogsSwitch, if_neg off, loggedActivations, log, List.filterMap_append, none, List.append_nil]
  rfl

theorem activation_of_isNote {row : LogRow} (note : row.record.isNote = true) : row.activation = none := by
  cases record : row.record with
  | activate =>
      rw [record] at note
      cases note
  | _ => rw [LogRow.activation, record]

theorem moment_logsSwitch (moment : Moment setup reading observation s s') : LogsSwitch s s' := by
  cases moment_shift moment with
  | keep keeps =>
      obtain ⟨rows, log, notes⟩ := keeps.log
      exact logsSwitch_of_plain keeps.active.symm.trans log fun row member => activation_of_isNote (notes row member)
  | validate => exact logsSwitch_of_plain id rfl (List.forall_mem_singleton.mpr rfl)
  | activate inactive ok =>
      have locks := activate_locks ok
      obtain ⟨programmed, log⟩ := locks.log
      rw [LogsSwitch, if_pos ⟨inactive, locks.active⟩, loggedActivations, log, locks.phaseAnchor,
        List.filterMap_append, List.map_append]
      rfl
  | checkPhase _ _ anchored ok =>
      rcases checkPhase_shape anchored ok with rfl | ⟨_, _, _, _, _, _, -, rfl⟩
      · exact logsSwitch_of_plain id (List.append_nil _).symm (by simp)
      · exact logsSwitch_of_plain id rfl (List.forall_mem_singleton.mpr rfl)
  | relearn ok =>
      have forgets := enterLearning_forgets ok
      refine logsSwitch_of_plain (fun active => ?_) forgets.log (List.forall_mem_singleton.mpr rfl)
      rw [forgets.active] at active
      cases active

section Started

variable {net : Net} {startWall startMono : ℚ} {starts : Starts}
  (started : Monitor.start setup net startWall startMono starts = .ok (some first))

include started

theorem start_log : first.active = false ∧ ∃ row : LogRow, first.log = [row] ∧ row.record = .start := by
  obtain ⟨after, rfl⟩ := start_shape started
  exact ⟨rfl, _, rfl, rfl⟩

theorem Tallies.written (tallied : Tallies setup first s tally) : s.log ≠ [] := by
  induction tallied with
  | start =>
      obtain ⟨-, row, log, -⟩ := start_log started
      rw [log]
      exact List.cons_ne_nil _ _
  | moment _ moment ih =>
      obtain ⟨rows, log⟩ := moment_log moment
      rw [log]
      exact List.append_ne_nil_of_left_ne_nil ih _

theorem Tallies.activations (tallied : Tallies setup first s tally) :
    tally.activations = loggedActivations s.log := by
  induction tallied with
  | start =>
      obtain ⟨-, row, log, record⟩ := start_log started
      simp [loggedActivations, log, LogRow.activation, record]
  | moment _ moment ih =>
      rw [moment_logsSwitch moment, Tally.note, ih]

theorem Tallies.resyncs (tallied : Tallies setup first s tally) : tally.resyncs = s.log.filterMap LogRow.resync := by
  induction tallied with
  | start =>
      obtain ⟨-, row, log, record⟩ := start_log started
      simp [log, LogRow.resync, record]
  | moment _ moment ih =>
      obtain ⟨rows, log⟩ := moment_log moment
      rw [Tally.note, ih, log, List.drop_left, List.filterMap_append]

theorem Tallies.balance (tallied : Tallies setup first s tally) :
    tally.activations.length = tally.disables + if s.active then 1 else 0 := by
  induction tallied with
  | start =>
      rw [(start_log started).1]
      rfl
  | @moment _ _ s s' _ _ _ ih =>
      cases before : s.active <;> cases after : s'.active <;>
        simpa [Tally.note, before, after] using ih

theorem Tallies.eq_of_log (tallied : Tallies setup first s tally) :
    tally = ⟨loggedActivations s.log, s.log.filterMap LogRow.resync,
      (loggedActivations s.log).length - if s.active then 1 else 0⟩ := by
  have activations := tallied.activations started
  have balance := tallied.balance started
  rw [← activations, ← tallied.resyncs started, balance, Nat.add_sub_cancel]

end Started

/-- The evaluator reports a run as it was exactly if the run has not resynchronised the phase and has not
gone back from ACTIVE to LEARNING. -/
theorem evaluator_reports_iff (setup : Setup) (net : Net) (startWall startMono : ℚ) (starts : Starts)
    (first s : MonitorState) (tally : Tally) (started : start setup net startWall startMono starts = .ok (some first))
    (tallied : Tallies setup first s tally) : Reports s.log tally ↔ tally.resyncs = [] ∧ tally.disables = 0 := by
  have activations := tallied.activations started
  have summarized := summarize_log (tallied.written started)
  constructor
  · intro reports
    obtain ⟨summary, perTarget, ok, -, resyncs, disables, -⟩ := reports none none 0
    obtain ⟨_, _, same, -, noResync, noDisable, -⟩ := summarized none none 0
    cases ok.symm.trans same
    rw [noResync] at resyncs
    exact ⟨List.length_eq_zero_iff.mp resyncs.symm, disables.symm.trans noDisable⟩
  · rintro ⟨resyncs, disables⟩ referencePeriod refEvents matchTolMs
    obtain ⟨summary, perTarget, ok, activate, resync, disable, eval⟩ := summarized referencePeriod refEvents matchTolMs
    have events : tally.controlEvents = unique (s.log.filterMap LogRow.activation) := by
      rw [Tally.controlEvents, resyncs, activations, loggedActivations, List.append_nil]
      simp [List.filterMap_map]
    refine ⟨summary, perTarget, ok, ?_, ?_, ?_, ?_⟩
    · rw [activate, activations, loggedActivations, List.length_map]
    · rw [resync, resyncs]
      rfl
    · rw [disable, disables]
    · rw [eval, events]

theorem eager_activation_reported :
    ∃ (s : MonitorState) (tally : Tally), Reaches (MonitorState.iteration eagerSetup) eagerStart s ∧
      Tallies eagerSetup eagerStart s tally ∧ tally = ⟨[some 12], [], 0⟩ ∧ Reports s.log tally := by
  obtain ⟨s, ok, facts⟩ := exists_ok_of_succeedsWith (by decide +kernel : succeedsWith (fun s : MonitorState =>
    decide (s.active = true ∧ s.log.filterMap LogRow.activation = [12] ∧ s.log.filterMap LogRow.resync = []))
      (eagerStart.iteration eagerSetup periodicReading) = true)
  obtain ⟨active, anchors, resyncs⟩ := of_decide_eq_true facts
  have reached : Reaches (MonitorState.iteration eagerSetup) eagerStart s := .tail .refl ok
  obtain ⟨tally, tallied⟩ := (visits_of_reaches reached).tallies
  have counted : tally = ⟨[some 12], [], 0⟩ := by
    rw [tallied.eq_of_log eagerStart_started, loggedActivations, anchors, resyncs, active]
    rfl
  refine ⟨s, tally, reached, tallied, counted, ?_⟩
  apply (evaluator_reports_iff eagerSetup tcpSkInit 0 0 (fun _ => true) eagerStart s tally eagerStart_started
    tallied).mpr
  rw [counted]
  exact ⟨rfl, rfl⟩

/-- Three checks with the anchor off by more than 40 ms, then the only ping ends. -/
def givenUp : List Reading :=
  [periodicReading, gapAfter 20 (1606 / 100), gapAfter 25 (2107 / 100), gapAfter 30 (2608 / 100),
    readingAt 35 [⟨"1.1.1.1", .closed⟩]]

/-- The run resynchronises once and relearns once. The evaluator sees neither, and misses the event of the
resynchronisation. -/
theorem resync_and_relearn_unseen :
    start guardSetup tcpSkInit 0 0 (fun _ => true) = .ok (some guardStart) ∧
    ∃ (s : MonitorState) (tally : Tally) (summary : Summary) (perTarget : List TargetSummary),
      Reaches (MonitorState.iteration guardSetup) guardStart s ∧ Tallies guardSetup guardStart s tally ∧
      tally = ⟨[some 12], [2708 / 100], 1⟩ ∧
      summarize (s.log.map LogRow.csv) none (some [12, 2708 / 100]) 200 = some (summary, perTarget) ∧
      summary.activateCount = 1 ∧ summary.resyncCount = 0 ∧ summary.disableCount = 0 ∧
      summary.eventEval = some (evaluateEvents [12] [12, 2708 / 100] 200) ∧
      (evaluateEvents [12] [12, 2708 / 100] 200).fn = 1 ∧
      ¬ Reports s.log tally := by
  refine ⟨guardStart_started, ?_⟩
  obtain ⟨s, ok, facts⟩ := exists_ok_of_succeedsWith (by decide +kernel : succeedsWith (fun s : MonitorState =>
    decide (s.active = false ∧ s.log.filterMap LogRow.activation = [12] ∧
      s.log.filterMap LogRow.resync = [2708 / 100]))
      (givenUp.foldlM (fun s reading => MonitorState.iteration guardSetup reading s) guardStart) = true)
  obtain ⟨inactive, anchors, resyncs⟩ := of_decide_eq_true facts
  have reached : Reaches (MonitorState.iteration guardSetup) guardStart s := reaches_of_foldlM _ ok
  obtain ⟨tally, tallied⟩ := (visits_of_reaches reached).tallies
  have counted : tally = ⟨[some 12], [2708 / 100], 1⟩ := by
    rw [tallied.eq_of_log guardStart_started, loggedActivations, anchors, resyncs, inactive]
    rfl
  obtain ⟨summary, perTarget, summarized, activate, resync, disable, eval⟩ :=
    summarize_log (tallied.written guardStart_started) none (some [12, 2708 / 100]) 200
  rw [anchors] at activate eval
  refine ⟨s, tally, summary, perTarget, reached, tallied, counted, summarized, activate, resync, disable, eval,
    by decide +kernel, fun reports => ?_⟩
  obtain ⟨reported, _, again, -, -, disables, -⟩ := reports none (some [12, 2708 / 100]) 200
  cases summarized.symm.trans again
  rw [disable, counted] at disables
  cases disables

end StarlinkTcp.Proof

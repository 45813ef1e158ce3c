import StarlinkTcp.Proof.Coupling
import StarlinkTcp.Proof.Moments

/-!
# The points behind the log

A common event is the median of a cluster of candidate points, and the loop keeps only the median. A
traced run keeps, for every row of the log, the points of the cluster whose event the row is about, as
the analysis that wrote the row clustered them.
-/

namespace StarlinkTcp.Monitor
open Machine

structure CommonCluster where
  event : CommonEvent
  points : List Point
deriving DecidableEq

def commonClusters (states : String → TargetState) (targets : List String) (now windowS toleranceS : ℚ)
    (minTargets : ℤ) : List CommonCluster :=
  match windowPoints states targets now windowS with
  | [] => []
  | first :: rest =>
      (clusterRuns toleranceS [first] rest).filterMap fun points =>
        (commonEvent minTargets points).map fun event => ⟨event, points⟩

def LogRecord.isCommon : LogRecord → Bool
  | .common _ => true
  | _ => false

def LogRecord.eventTime : LogRecord → Option ℚ
  | .common event => some event.time
  | .activate anchor _ _ => some anchor
  | .phaseCheck event _ _ _ _ _ => some event
  | _ => none

structure Entry where
  row : LogRow
  points : List Point

namespace MonitorState

def clusters (setup : Setup) (reading : Reading) (s : MonitorState) : List CommonCluster :=
  commonClusters s.states s.currentTargets reading.wall setup.args.analysisWindow
    (setup.args.crossTargetMs / 1000) setup.args.minTargets

/-- The points of the first cluster with the time of the row's event. -/
def entry (setup : Setup) (reading : Reading) (s : MonitorState) (row : LogRow) : Entry where
  row := row
  points :=
    match row.record.eventTime.bind fun time => (s.clusters setup reading).find? fun c => c.event.time = time with
    | some cluster => cluster.points
    | none => []

end MonitorState

structure Traced where
  state : MonitorState
  journal : List Entry

namespace Traced

def extend (entry : LogRow → Entry) (t : Traced) (state : MonitorState) : Traced where
  state := state
  journal := t.journal ++ (state.log.drop t.state.log.length).map entry

def step (setup : Setup) (reading : Reading) (t : Traced) : Except MonitorError Traced := do
  let observation ← t.state.observed setup reading
  let state ← t.state.iteration setup reading
  return t.extend (observation.entry setup reading) state

def start (first : MonitorState) : Traced where
  state := first
  journal := first.log.map fun row => ⟨row, []⟩

end Traced

end StarlinkTcp.Monitor

namespace StarlinkTcp.Proof
open Kernel Machine Monitor Relation

variable {setup : Setup} {reading : Reading} {observation s s' : MonitorState} {t t' : Traced}

theorem clusters_events :
    (s.clusters setup reading).map CommonCluster.event = s.commonEvents setup reading := by
  unfold MonitorState.clusters commonClusters MonitorState.commonEvents clusterCommonEvents
  cases windowPoints s.states s.currentTargets reading.wall setup.args.analysisWindow with
  | nil => rfl
  | cons first rest => simp [List.map_filterMap, Function.comp_def]

theorem entry_points {row : LogRow} {time : ℚ} (about : row.record.eventTime = some time)
    (common : time ∈ s.commonTimes setup reading) :
    ∃ cluster ∈ s.clusters setup reading, cluster.event.time = time ∧
      (s.entry setup reading row).points = cluster.points := by
  obtain ⟨event, member, atTime⟩ := List.mem_map.mp common
  rw [← clusters_events] at member
  obtain ⟨cluster, among, same⟩ := List.mem_map.mp member
  have found : ((s.clusters setup reading).find? fun c => c.event.time = time).isSome := by
    rw [List.find?_isSome]
    exact ⟨cluster, among, by simp [same, atTime]⟩
  obtain ⟨first, first_eq⟩ := Option.isSome_iff_exists.mp found
  refine ⟨first, List.mem_of_find?_eq_some first_eq, by simpa using List.find?_some first_eq, ?_⟩
  simp only [MonitorState.entry, about, Option.bind_some, first_eq]

/-! ## Logs only grow -/

theorem turn_log (turn : Turn setup reading observation s s') :
    ∃ rows, s'.log = s.log ++ rows ∧ (∀ row ∈ rows, row.record.isCommon = false) ∧
      s'.loggedCommonEvents = s.loggedCommonEvents := by
  cases turn with
  | validate => exact ⟨[_], rfl, List.forall_mem_singleton.mpr rfl, rfl⟩
  | readProbe ok =>
      obtain ⟨states, procs, rows, rfl, candidates⟩ := readProbe_shape ok
      refine ⟨rows, rfl, fun row member => ?_, rfl⟩
      obtain ⟨target, event, gap, threshold, record⟩ := candidates row member
      rw [record]
      rfl
  | fit =>
      cases found : observation.fit setup reading with
      | none => exact ⟨[], (List.append_nil _).symm, by simp, rfl⟩
      | some fit =>
          rw [fitted_shape]
          exact ⟨[_], rfl, List.forall_mem_singleton.mpr rfl, rfl⟩
  | activate _ _ _ ok =>
      have locks := activate_locks ok
      obtain ⟨programmed, log⟩ := locks.log
      exact ⟨_, log, List.forall_mem_singleton.mpr rfl, locks.loggedCommonEvents⟩
  | countMismatch =>
      obtain ⟨mismatches, same⟩ := countMismatch_shape
      rw [same]
      exact ⟨[], (List.append_nil _).symm, by simp, rfl⟩
  | checkPhase _ _ _ _ anchored ok =>
      rcases checkPhase_shape anchored ok with rfl | ⟨_, _, _, _, _, _, -, rfl⟩
      · exact ⟨[], (List.append_nil _).symm, by simp, rfl⟩
      · exact ⟨[_], rfl, List.forall_mem_singleton.mpr rfl, rfl⟩
  | relearn ok =>
      have forgets := enterLearning_forgets ok
      exact ⟨_, forgets.log, List.forall_mem_singleton.mpr rfl, forgets.loggedCommonEvents⟩
  | sleep =>
      refine ⟨[s.row reading.wall (.sessionSuccess s.sessionSource), { s.row reading.wall
        (.probeSleep s.sessionSource) with probeMode := .activeSleep }], List.append_assoc _ _ _,
        fun row member => ?_, rfl⟩
      simp only [List.mem_cons, List.not_mem_nil, or_false] at member
      rcases member with rfl | rfl <;> rfl
  | _ => exact ⟨[], (List.append_nil _).symm, by simp, rfl⟩

theorem moment_log (moment : Moment setup reading observation s s') : ∃ rows, s'.log = s.log ++ rows := by
  cases moment with
  | recordCommon common =>
      rcases recordCommon_shape with ⟨-, same⟩ | ⟨-, states, same⟩
      · exact ⟨[], by rw [same, List.append_nil]⟩
      · exact ⟨[_], by rw [same]⟩
  | turn turn =>
      obtain ⟨rows, log, -⟩ := turn_log turn
      exact ⟨rows, log⟩

theorem passes_log (passes : Passes setup reading observation s s') : ∃ rows, s'.log = s.log ++ rows := by
  induction passes with
  | refl => exact ⟨[], (List.append_nil _).symm⟩
  | tail _ moment ih =>
      obtain ⟨before, first⟩ := ih
      obtain ⟨rows, last⟩ := moment_log moment
      exact ⟨before ++ rows, by rw [last, first, List.append_assoc]⟩

theorem turns_log (turns : Turns setup reading observation s s') :
    ∃ rows, s'.log = s.log ++ rows ∧ (∀ row ∈ rows, row.record.isCommon = false) ∧
      s'.loggedCommonEvents = s.loggedCommonEvents := by
  induction turns with
  | refl => exact ⟨[], (List.append_nil _).symm, by simp, rfl⟩
  | tail _ turn ih =>
      obtain ⟨before, first, plain, same⟩ := ih
      obtain ⟨rows, last, quiet, kept⟩ := turn_log turn
      refine ⟨before ++ rows, by rw [last, first, List.append_assoc], fun row member => ?_, kept.trans same⟩
      rcases List.mem_append.mp member with old | new
      · exact plain row old
      · exact quiet row new

/-! ## Traced runs are runs -/

theorem extend_journal {entry : LogRow → Entry} {rows : List LogRow} (log : s.log = t.state.log ++ rows) :
    (t.extend entry s).journal = t.journal ++ rows.map entry := by
  rw [Traced.extend, log, List.drop_left]

theorem extend_append {entry : LogRow → Entry} {before rows : List LogRow}
    (grown : s.log = t.state.log ++ before) (log : s'.log = s.log ++ rows) :
    (t.extend entry s').journal = (t.extend entry s).journal ++ rows.map entry := by
  have both : s'.log = t.state.log ++ (before ++ rows) := by rw [log, grown, List.append_assoc]
  rw [extend_journal both, extend_journal grown, List.map_append, List.append_assoc]

theorem step_cases (ok : t.step setup reading = .ok t') :
    ∃ observation, t.state.observed setup reading = .ok observation ∧
      t.state.iteration setup reading = .ok t'.state ∧
      t' = t.extend (observation.entry setup reading) t'.state := by
  obtain ⟨observation, observed, ok⟩ := bind_eq_ok.mp ok
  obtain ⟨state, iterated, ok⟩ := bind_eq_ok.mp ok
  cases ok
  exact ⟨observation, observed, iterated, rfl⟩

theorem traced_reaches {first : MonitorState} (reached : Reaches (Traced.step setup) (.start first) t) :
    Reaches (MonitorState.iteration setup) first t.state ∧ t.journal.map Entry.row = t.state.log := by
  induction reached with
  | refl => exact ⟨.refl, by simp [Traced.start, Function.comp_def]⟩
  | @tail reading state next _ ok ih =>
      obtain ⟨observation, observed, iterated, shape⟩ := step_cases ok
      refine ⟨ih.1.tail iterated, ?_⟩
      obtain ⟨o, -, passes⟩ := iteration_passes iterated
      obtain ⟨rows, log⟩ := passes_log passes
      rw [shape, extend_journal log, List.map_append, ih.2, List.map_map]
      change _ = next.state.log
      rw [log]
      simp [Function.comp_def, MonitorState.entry]

end StarlinkTcp.Proof

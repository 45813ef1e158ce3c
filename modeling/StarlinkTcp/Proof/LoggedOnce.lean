import StarlinkTcp.Proof.Participation

/-!
# Logging a common event once

The monitor knows a common event again by the rounded millisecond of its median, which moves while late
targets report. No point supports two logged events exactly as long as every cluster with a point that
is behind the log already rounds to a millisecond that is known.
-/

namespace StarlinkTcp.Proof
open Kernel Machine Monitor Relation

def shares (p q : List Point) : Bool := p.any fun point => point ∈ q

/-- The points behind the common events in the log, one list for each event. -/
def commonEvidence (journal : List Entry) : List (List Point) :=
  (journal.filter fun entry => entry.row.record.isCommon).map Entry.points

def LoggedOnce (journal : List Entry) : Prop :=
  (commonEvidence journal).Pairwise fun p q => shares p q = false

instance (journal : List Entry) : Decidable (LoggedOnce journal) :=
  inferInstanceAs (Decidable (List.Pairwise _ _))

def clusterKey (cluster : CommonCluster) : ℤ := MonitorState.eventKey cluster.event

/-- The loop over the common events of an analysis: `logged` are the keys it knows when it comes to a
cluster, and `evidence` the points behind the log at that moment. -/
def Recognises (logged : List ℤ) (evidence : List (List Point)) : List CommonCluster → Prop
  | [] => True
  | cluster :: rest =>
      ((∃ points ∈ evidence, shares points cluster.points = true) → clusterKey cluster ∈ logged) ∧
      if clusterKey cluster ∈ logged then Recognises logged evidence rest
      else Recognises (logged ++ [clusterKey cluster]) (evidence ++ [cluster.points]) rest

def freshClusters (logged : List ℤ) : List CommonCluster → List CommonCluster
  | [] => []
  | cluster :: rest =>
      if clusterKey cluster ∈ logged then freshClusters logged rest
      else cluster :: freshClusters (logged ++ [clusterKey cluster]) rest

theorem recognises_iff (logged : List ℤ) (evidence : List (List Point)) (clusters : List CommonCluster) :
    (evidence ++ (freshClusters logged clusters).map CommonCluster.points).Pairwise
        (fun p q => shares p q = false) ↔
      evidence.Pairwise (fun p q => shares p q = false) ∧ Recognises logged evidence clusters := by
  induction clusters generalizing logged evidence with
  | nil => simp [freshClusters, Recognises]
  | cons cluster rest ih =>
      simp only [freshClusters, Recognises]
      split
      · rename_i known
        rw [ih]
        simp only [known, implies_true, true_and]
      · rename_i unknown
        have appended : (evidence ++ [cluster.points]).Pairwise (fun p q => shares p q = false) ↔
            evidence.Pairwise (fun p q => shares p q = false) ∧
              ∀ points ∈ evidence, shares points cluster.points = false := by
          simp [List.pairwise_append]
        have unshared : ((∃ points ∈ evidence, shares points cluster.points = true) →
            clusterKey cluster ∈ logged) ↔ ∀ points ∈ evidence, shares points cluster.points = false := by
          simp [unknown]
        rw [List.map_cons, List.append_cons, ih, appended, unshared, and_assoc]

theorem clusterKey_notMem {logged : List ℤ} {clusters : List CommonCluster} {cluster : CommonCluster}
    (fresh : cluster ∈ freshClusters logged clusters) : clusterKey cluster ∉ logged := by
  induction clusters generalizing logged with
  | nil => simp [freshClusters] at fresh
  | cons first rest ih =>
      simp only [freshClusters] at fresh
      split at fresh
      · exact ih fresh
      · rename_i unknown
        rcases List.mem_cons.mp fresh with rfl | later
        · exact unknown
        · exact fun member => ih later (List.mem_append_left _ member)

theorem mem_of_mem_freshClusters {logged : List ℤ} {clusters : List CommonCluster} {cluster : CommonCluster}
    (fresh : cluster ∈ freshClusters logged clusters) : cluster ∈ clusters := by
  induction clusters generalizing logged with
  | nil => simp [freshClusters] at fresh
  | cons first rest ih =>
      simp only [freshClusters] at fresh
      split at fresh
      · exact List.mem_cons_of_mem _ (ih fresh)
      · rcases List.mem_cons.mp fresh with rfl | later
        · exact List.mem_cons_self
        · exact List.mem_cons_of_mem _ (ih later)

/-- A logged cluster is the first of its analysis with its time. -/
theorem find_fresh {logged : List ℤ} {clusters : List CommonCluster} {cluster : CommonCluster}
    (fresh : cluster ∈ freshClusters logged clusters) :
    clusters.find? (fun c => c.event.time = cluster.event.time) = some cluster := by
  induction clusters generalizing logged with
  | nil => simp [freshClusters] at fresh
  | cons first rest ih =>
      have sameKey (same : first.event.time = cluster.event.time) : clusterKey first = clusterKey cluster := by
        simp only [clusterKey, MonitorState.eventKey, same]
      simp only [freshClusters] at fresh
      split at fresh
      · rename_i known
        have differs : first.event.time ≠ cluster.event.time := by
          intro same
          rw [sameKey same] at known
          exact clusterKey_notMem fresh known
        rw [List.find?_cons_of_neg (by simpa using differs)]
        exact ih fresh
      · rcases List.mem_cons.mp fresh with rfl | later
        · rw [List.find?_cons_of_pos (by simp)]
        · have differs : first.event.time ≠ cluster.event.time := by
            intro same
            rw [sameKey same] at later
            exact clusterKey_notMem later (by simp)
          rw [List.find?_cons_of_neg (by simpa using differs)]
          exact ih later

variable {setup : Setup} {reading : Reading} {s s' : MonitorState} {t t' : Traced}

theorem recordCommon_fold (clusters : List CommonCluster) (s : MonitorState) :
    ((clusters.map CommonCluster.event).foldl (MonitorState.recordCommon setup reading) s).log =
      s.log ++ (freshClusters s.loggedCommonEvents clusters).map
        fun cluster => s.row reading.wall (.common cluster.event) := by
  induction clusters generalizing s with
  | nil => simp [freshClusters]
  | cons cluster rest ih =>
      rw [List.map_cons, List.foldl_cons, ih]
      rcases @recordCommon_shape setup reading s cluster.event with ⟨known, same⟩ | ⟨unknown, states, same⟩
      · have skipped : freshClusters s.loggedCommonEvents (cluster :: rest) =
            freshClusters s.loggedCommonEvents rest := if_pos known
        rw [same, skipped]
      · have taken : freshClusters s.loggedCommonEvents (cluster :: rest) =
            cluster :: freshClusters (s.loggedCommonEvents ++ [clusterKey cluster]) rest := if_neg unknown
        rw [same, taken, List.map_cons]
        exact List.append_assoc _ [_] _

/-- The common events an iteration logs once it has observed `s`. -/
def freshRows (setup : Setup) (reading : Reading) (s : MonitorState) : List CommonCluster :=
  if s.analyses reading then freshClusters s.loggedCommonEvents (s.clusters setup reading) else []

theorem prepared_log (setup : Setup) (reading : Reading) (s : MonitorState) : ∃ rows, (s.prepared setup reading).log =
    s.log ++ (freshClusters s.loggedCommonEvents (s.clusters setup reading)).map
      (fun cluster => s.row reading.wall (.common cluster.event)) ++ rows ∧
    ∀ row ∈ rows, row.record.isCommon = false := by
  have fitted : Turn setup reading s ((s.commonEvents setup reading).foldl
      (MonitorState.recordCommon setup reading) (s.scheduled setup reading)) (s.prepared setup reading) := .fit
  obtain ⟨rows, log, plain, -⟩ := turn_log fitted
  refine ⟨rows, ?_, plain⟩
  rw [log, ← clusters_events, recordCommon_fold]
  rfl

theorem conclude_log (ok : s.conclude setup reading = .ok s') :
    ∃ rows, s'.log = s.log ++ (freshRows setup reading s).map
        (fun cluster => s.row reading.wall (.common cluster.event)) ++ rows ∧
      ∀ row ∈ rows, row.record.isCommon = false := by
  unfold MonitorState.conclude at ok
  split at ok
  · rename_i asleep
    cases ok
    exact ⟨[], by simp [freshRows, MonitorState.analyses, asleep], by simp⟩
  · rename_i awake
    split at ok
    · rename_i between
      have none : freshRows setup reading s = [] := by simp [freshRows, MonitorState.analyses, between]
      rw [none]
      split at ok
      · rename_i due
        obtain ⟨rows, log, plain, -⟩ := turns_log (resolveSession_turns due.1 due.2 ok : Turns setup reading s s s')
        exact ⟨rows, by simpa using log, plain⟩
      · cases ok
        exact ⟨[], by simp, by simp⟩
    · rename_i due
      have analyses : s.analyses reading = true := by
        simp only [MonitorState.analyses, awake, due, not_false_eq_true, and_self, decide_true]
      rw [freshRows, if_pos analyses]
      obtain ⟨before, first, quiet⟩ := prepared_log setup reading s
      obtain ⟨rows, log, plain, -⟩ :=
        turns_log (actOnFit_turns analyses (analyse_ok ok) : Turns setup reading s (s.prepared setup reading) s')
      refine ⟨before ++ rows, by rw [log, first, List.append_assoc _ before], fun row member => ?_⟩
      rcases List.mem_append.mp member with old | new
      · exact quiet row old
      · exact plain row new

/-! ## The evidence an iteration adds -/

theorem commonEvidence_append (first second : List Entry) :
    commonEvidence (first ++ second) = commonEvidence first ++ commonEvidence second := by
  simp [commonEvidence]

theorem commonEvidence_quiet {rows : List LogRow} (plain : ∀ row ∈ rows, row.record.isCommon = false) :
    commonEvidence (rows.map (s.entry setup reading)) = [] := by
  simp only [commonEvidence, List.map_eq_nil_iff, List.filter_eq_nil_iff, List.mem_map, forall_exists_index, and_imp]
  rintro _ row member rfl
  simpa [MonitorState.entry] using plain row member

def commonEntry (reading : Reading) (s : MonitorState) (cluster : CommonCluster) : Entry where
  row := s.row reading.wall (.common cluster.event)
  points := cluster.points

theorem entries_fresh :
    ((freshRows setup reading s).map fun cluster => s.row reading.wall (.common cluster.event)).map
      (s.entry setup reading) = (freshRows setup reading s).map (commonEntry reading s) := by
  rw [List.map_map]
  apply List.map_congr_left
  intro cluster fresh
  unfold freshRows at fresh
  split at fresh
  · have found := find_fresh fresh
    simp only [Function.comp_apply, commonEntry, MonitorState.entry, MonitorState.row, LogRecord.eventTime,
      Option.bind_some, found]
  · cases fresh

theorem commonEvidence_fresh (clusters : List CommonCluster) :
    commonEvidence (clusters.map (commonEntry reading s)) = clusters.map CommonCluster.points := by
  induction clusters with
  | nil => rfl
  | cons cluster rest ih => exact congrArg (List.cons _) ih

theorem step_journal (ok : t.step setup reading = .ok t') :
    ∃ (observation : MonitorState) (before after : List LogRow), t.state.observed setup reading = .ok observation ∧
      t'.journal = t.journal ++ before.map (observation.entry setup reading) ++
        (freshRows setup reading observation).map (commonEntry reading observation) ++
          after.map (observation.entry setup reading) ∧
      (∀ row ∈ before, row.record.isCommon = false) ∧ ∀ row ∈ after, row.record.isCommon = false := by
  obtain ⟨observation, observed, iterated, shape⟩ := step_cases ok
  rw [iteration_eq_conclude, observed] at iterated
  obtain ⟨before, first, quiet, -⟩ := turns_log (observed_turns observed : Turns setup reading observation _ _)
  obtain ⟨after, log, plain⟩ := conclude_log iterated
  refine ⟨observation, before, after, observed, ?_, quiet, plain⟩
  rw [first, List.append_assoc, List.append_assoc] at log
  rw [shape, extend_journal log, List.map_append, List.map_append, entries_fresh, List.append_assoc,
    List.append_assoc]

theorem step_evidence (ok : t.step setup reading = .ok t') :
    ∃ observation, t.state.observed setup reading = .ok observation ∧
      commonEvidence t'.journal =
        commonEvidence t.journal ++ (freshRows setup reading observation).map CommonCluster.points := by
  obtain ⟨observation, before, after, observed, journal, quiet, plain⟩ := step_journal ok
  refine ⟨observation, observed, ?_⟩
  rw [journal]
  simp only [commonEvidence_append, commonEvidence_quiet quiet, commonEvidence_quiet plain, commonEvidence_fresh,
    List.append_nil]

/-- The supporters of a logged event are the targets of the points behind it. -/
def SupportedByPoints (entry : Entry) : Prop :=
  ∀ event, entry.row.record = .common event →
    ∀ target, target ∈ event.supporters ↔ ∃ point ∈ entry.points, point.target = target

theorem supportedByPoints_quiet {rows : List LogRow} (plain : ∀ row ∈ rows, row.record.isCommon = false)
    {entry : Entry} (member : entry ∈ rows.map (s.entry setup reading)) : SupportedByPoints entry := by
  obtain ⟨row, among, rfl⟩ := List.mem_map.mp member
  intro event common
  have quiet := plain row among
  rw [show row.record = .common event from common] at quiet
  cases quiet

theorem supportedByPoints_fresh {entry : Entry}
    (member : entry ∈ (freshRows setup reading s).map (commonEntry reading s)) : SupportedByPoints entry := by
  obtain ⟨cluster, fresh, rfl⟩ := List.mem_map.mp member
  intro event common target
  cases common
  apply clusters_supporters
  unfold freshRows at fresh
  split at fresh
  · exact mem_of_mem_freshClusters fresh
  · cases fresh

theorem step_supportedByPoints (ok : t.step setup reading = .ok t')
    (supported : ∀ entry ∈ t.journal, SupportedByPoints entry) : ∀ entry ∈ t'.journal, SupportedByPoints entry := by
  obtain ⟨observation, before, after, -, journal, quiet, plain⟩ := step_journal ok
  intro entry member
  simp only [journal, List.mem_append] at member
  rcases member with ((old | early) | fresh) | late
  · exact supported entry old
  · exact supportedByPoints_quiet quiet early
  · exact supportedByPoints_fresh fresh
  · exact supportedByPoints_quiet plain late

/-- Every cluster of the analysis with a point behind the log has a key that is known. -/
def Recognising (setup : Setup) (reading : Reading) (t : Traced) : Prop :=
  ∀ observation, t.state.observed setup reading = .ok observation → observation.analyses reading = true →
    Recognises observation.loggedCommonEvents (commonEvidence t.journal) (observation.clusters setup reading)

theorem step_loggedOnce (ok : t.step setup reading = .ok t') :
    LoggedOnce t'.journal ↔ LoggedOnce t.journal ∧ Recognising setup reading t := by
  obtain ⟨observation, observed, evidence⟩ := step_evidence ok
  have only : Recognising setup reading t ↔ (observation.analyses reading = true →
      Recognises observation.loggedCommonEvents (commonEvidence t.journal) (observation.clusters setup reading)) := by
    simp [Recognising, observed]
  rw [only, LoggedOnce, LoggedOnce, evidence, freshRows]
  split
  · rename_i analyses
    rw [recognises_iff]
    simp only [analyses, true_implies]
  · rename_i idle
    simp [idle]

theorem start_loggedOnce (first : MonitorState) : LoggedOnce (Traced.start first).journal := by
  unfold LoggedOnce commonEvidence
  apply List.pairwise_of_forall_mem_list
  intro p member q _
  obtain ⟨entry, among, rfl⟩ := List.mem_map.mp member
  obtain ⟨row, -, rfl⟩ := List.mem_map.mp (List.mem_of_mem_filter among)
  rfl

theorem start_supportedByPoints {net : Net} {startWall startMono : ℚ} {starts : Starts}
    (started : start setup net startWall startMono starts = .ok (some s)) :
    ∀ entry ∈ (Traced.start s).journal, SupportedByPoints entry := by
  obtain ⟨after, rfl⟩ := start_shape started
  exact List.forall_mem_singleton.mpr fun event common => (by cases common)

/-- In every run no point is behind two logged common events exactly when every analysis recognises the
clusters with points behind the log. The counters of a target have one flag for each event logged in
LEARNING since it was last entered, set when a point of the target is behind the event. -/
theorem logged_once_iff (setup : Setup) (net : Net) (startWall startMono : ℚ) (starts : Starts)
    (first : MonitorState) (t : Traced) (started : start setup net startWall startMono starts = .ok (some first))
    (reached : Reaches (Traced.step setup) (.start first) t) :
    (LoggedOnce t.journal ↔ ReachesWhile (Traced.step setup) (Recognising setup) (.start first) t) ∧
    (∀ entry ∈ t.journal, SupportedByPoints entry) ∧
    ∀ target ∈ setup.targets,
      (t.state.states target).commonSupportCount = (participation target (t.journal.map Entry.row)).sum ∧
      (t.state.states target).recentCommonSupport = (participation target (t.journal.map Entry.row)).rtake 32 := by
  refine ⟨?_, ?_, ?_⟩
  · exact reachesWhile_iff (fun t => LoggedOnce t.journal) (start_loggedOnce first) (fun ok => step_loggedOnce ok)
      reached
  · induction reached with
    | refl => exact start_supportedByPoints started
    | tail _ ok ih => exact step_supportedByPoints ok ih
  · obtain ⟨run, rows⟩ := traced_reaches reached
    have tallied := visits_tallied (start_tallied started) (visits_of_reaches run)
    intro target known
    rw [rows]
    exact Prod.mk.inj (tallied target known)

def threeTargets : List String := ["1.1.1.1", "8.8.8.8", "9.9.9.9"]

def threeTargetSetup : Setup :=
  .ofArgs
    { Args.default with
      minBaselineSamples := 1
      minEvents := 3
      learnSeconds := 0
      periodLockMinFits := 1
      activeConfirmCycles := 3 }
    threeTargets

def threeTargetStart : MonitorState := initialState threeTargetSetup tcpSkInit 0 0 fun _ => true

theorem threeTargetStart_started :
    start threeTargetSetup tcpSkInit 0 0 (fun _ => true) = .ok (some threeTargetStart) := rfl

def firstReport : Reading :=
  readingAt 5 (replies "1.1.1.1" [0, 1, 4] ++ replies "8.8.8.8" [2 / 100, 102 / 100, 402 / 100])

def lateReport : Reading := readingAt 10 (replies "9.9.9.9" [5 / 100, 105 / 100, 405 / 100])

theorem repeated_analysis_recognises :
    ∃ t, Reaches (Traced.step threeTargetSetup) (.start threeTargetStart) t ∧
      ReachesWhile (Traced.step threeTargetSetup) (Recognising threeTargetSetup) (.start threeTargetStart) t ∧
      (commonEvidence t.journal).length = 1 := by
  obtain ⟨t, ok, checked⟩ := exists_ok_of_succeedsWith (by decide +kernel : succeedsWith (fun t : Traced =>
      decide (LoggedOnce t.journal ∧ (commonEvidence t.journal).length = 1))
    ([firstReport, readingAt 10 []].foldlM (fun t reading => Traced.step threeTargetSetup reading t)
      (.start threeTargetStart)) = true)
  obtain ⟨once, one⟩ := of_decide_eq_true checked
  have reached := reaches_of_foldlM _ ok
  exact ⟨t, reached, (logged_once_iff threeTargetSetup tcpSkInit 0 0 (fun _ => true) threeTargetStart t
    threeTargetStart_started reached).1.mp once, one⟩

/-- The third target reports late and moves the median from 2.01 s to 2.02 s. -/
theorem late_report_logged_twice :
    start threeTargetSetup tcpSkInit 0 0 (fun _ => true) = .ok (some threeTargetStart) ∧
    ∃ t, Reaches (Traced.step threeTargetSetup) (.start threeTargetStart) t ∧ ¬ LoggedOnce t.journal := by
  obtain ⟨t, ok, twice⟩ := exists_ok_of_succeedsWith (by decide +kernel : succeedsWith (fun t : Traced =>
      decide (¬ LoggedOnce t.journal))
    ([firstReport, lateReport].foldlM (fun t reading => Traced.step threeTargetSetup reading t)
      (.start threeTargetStart)) = true)
  exact ⟨threeTargetStart_started, t, reaches_of_foldlM _ ok, of_decide_eq_true twice⟩

end StarlinkTcp.Proof

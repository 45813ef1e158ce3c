import StarlinkTcp.Machine.Journal
import StarlinkTcp.Proof.LoggedOnce
import StarlinkTcp.Proof.Sessions

/-!
# Sessions and fresh evidence

A session counts an event when its time lies past the event counted last. That tells events apart only
while the clusters they come from stay where they were. The journal of a traced run says which clusters a
session has counted; as long as the comparison refuses used and early clusters, a session that succeeds
has counted different ones.
-/

namespace StarlinkTcp.Monitor

def LogRecord.isSession : LogRecord → Bool
  | .activate _ _ _ | .validationStart | .phaseCheck _ _ _ _ _ _ | .sessionSuccess _ => true
  | _ => false

end StarlinkTcp.Monitor

namespace StarlinkTcp.Proof
open Kernel Machine Monitor Relation

/-! ## What the journal says about a session -/

structure Counted where
  time : ℚ
  points : List Point

/-- `last` gave `last_valid_event`, and `base` gave it when the session started. -/
structure SessionAccount where
  last : Counted
  base : Counted
  startedWall : ℚ
  counted : List Counted

def SessionAccount.note (account : SessionAccount) (entry : Entry) : SessionAccount :=
  match entry.row.record with
  | .activate anchor _ _ => ⟨⟨anchor, entry.points⟩, ⟨anchor, entry.points⟩, entry.row.wallTime, []⟩
  | .validationStart => { account with base := account.last, startedWall := entry.row.wallTime, counted := [] }
  | .phaseCheck event _ _ _ _ _ =>
      { account with
        last := ⟨event, entry.points⟩
        counted := account.counted ++ [⟨event, entry.points⟩] }
  | _ => account

def sessionAccount (journal : List Entry) : SessionAccount :=
  journal.foldl SessionAccount.note ⟨⟨0, []⟩, ⟨0, []⟩, 0, []⟩

structure Genuine (account : SessionAccount) : Prop where
  distinct : account.counted.Pairwise fun c d => shares c.points d.points = false
  fresh : ∀ c ∈ account.counted, shares account.base.points c.points = false
  since : ∀ c ∈ account.counted, account.startedWall ≤ c.time

instance (account : SessionAccount) : Decidable (Genuine account) :=
  decidable_of_iff (account.counted.Pairwise (fun c d => shares c.points d.points = false) ∧
      (∀ c ∈ account.counted, shares account.base.points c.points = false) ∧
      ∀ c ∈ account.counted, account.startedWall ≤ c.time)
    ⟨fun ⟨distinct, fresh, since⟩ => ⟨distinct, fresh, since⟩, fun g => ⟨g.distinct, g.fresh, g.since⟩⟩

def neededEvents (setup : Setup) : SessionSource → ℤ
  | .confirm => setup.args.activeConfirmMinEvents
  | .validation => setup.args.validationMinEvents

/-- A session that succeeds has counted enough different clusters since it began. -/
def Supported (setup : Setup) (before : List Entry) (entry : Entry) : Prop :=
  ∀ source, entry.row.record = .sessionSuccess source →
    Genuine (sessionAccount before) ∧
    neededEvents setup source ≤ ((sessionAccount before).counted.length : ℤ)

/-- A cluster near the lattice that has a point of the base cluster or of a counted one, or lies before
the session, is refused by the comparison with `last_valid_event` or overtaken by a newer one. -/
def Refuses (setup : Setup) (reading : Reading) (account : SessionAccount) (s : MonitorState) : Prop :=
  ∀ period ∈ s.lockedPeriod, ∀ anchor ∈ s.phaseAnchor, ∀ last ∈ s.lastValidEvent,
    ∀ cluster ∈ s.clusters setup reading,
      onLattice anchor period (setup.args.periodToleranceMs / 1000) cluster.event.time = true →
      ((∃ c ∈ account.base :: account.counted, shares c.points cluster.points = true) ∨
        (∃ started ∈ s.sessionStartedWall, cluster.event.time < started)) →
      cluster.event.time ≤ last + 1 / 10 ^ 6 ∨
        ∃ newer ∈ s.commonTimes setup reading,
          onLattice anchor period (setup.args.periodToleranceMs / 1000) newer = true ∧ cluster.event.time < newer

instance (setup : Setup) (reading : Reading) (account : SessionAccount) (s : MonitorState) :
    Decidable (Refuses setup reading account s) :=
  inferInstanceAs (Decidable (∀ period ∈ s.lockedPeriod, ∀ anchor ∈ s.phaseAnchor, ∀ last ∈ s.lastValidEvent,
    ∀ cluster ∈ s.clusters setup reading, _ → _ → _))

/-- The journal when the iteration from `t` is in state `s`. -/
abbrev journalAt (setup : Setup) (reading : Reading) (observation : MonitorState) (t : Traced)
    (s : MonitorState) : List Entry :=
  (t.extend (observation.entry setup reading) s).journal

def Refusing (setup : Setup) (reading : Reading) (t : Traced) : Prop :=
  ∀ observation, t.state.observed setup reading = .ok observation → observation.analyses reading = true →
    Refuses setup reading (sessionAccount (journalAt setup reading observation t observation)) observation

/-! ## The account along a run -/

section Account

variable {setup : Setup} {reading : Reading} {observation s s' : MonitorState} {journal : List Entry}

theorem sessionAccount_concat (entry : Entry) :
    sessionAccount (journal ++ [entry]) = (sessionAccount journal).note entry := by
  rw [sessionAccount, List.foldl_append]
  rfl

def InSession (s : MonitorState) : Prop := s.probeMode = .activeConfirm ∨ s.probeMode = .activeValidate

structure Accounted (setup : Setup) (s : MonitorState) (journal : List Entry) : Prop where
  last : s.active = true → s.lastValidEvent = some (sessionAccount journal).last.time
  started : InSession s → s.sessionStartedWall = some (sessionAccount journal).startedWall
  counts : InSession s → s.sessionValidEvents = ((sessionAccount journal).counted.length : ℤ)
  genuine : InSession s → Genuine (sessionAccount journal)
  supported : Along (Supported setup) journal

theorem note_silent {row : LogRow} {points : List Point} (silent : row.record.isSession = false)
    (account : SessionAccount) : account.note ⟨row, points⟩ = account := by
  unfold SessionAccount.note
  dsimp only
  cases record : row.record with
  | activate => simp [record, LogRecord.isSession] at silent
  | validationStart => simp [record, LogRecord.isSession] at silent
  | phaseCheck => simp [record, LogRecord.isSession] at silent
  | _ => rfl

theorem sessionAccount_silent {rows : List LogRow} (silent : ∀ row ∈ rows, row.record.isSession = false) :
    sessionAccount (journal ++ rows.map (observation.entry setup reading)) = sessionAccount journal := by
  apply foldl_append_unchanged
  intro entry member account
  obtain ⟨row, among, rfl⟩ := List.mem_map.mp member
  exact note_silent (silent row among) account

theorem along_silent {rows : List LogRow} (supported : Along (Supported setup) journal)
    (silent : ∀ row ∈ rows, row.record.isSession = false) :
    Along (Supported setup) (journal ++ rows.map (observation.entry setup reading)) := by
  refine along_append supported fun entry member before source success => ?_
  obtain ⟨row, among, rfl⟩ := List.mem_map.mp member
  have quiet := silent row among
  rw [show row.record = .sessionSuccess source from success] at quiet
  cases quiet

theorem Accounted.of_rows {rows : List LogRow} (accounted : Accounted setup s journal)
    (session : s'.session = s.session) (silent : ∀ row ∈ rows, row.record.isSession = false) :
    Accounted setup s' (journal ++ rows.map (observation.entry setup reading)) := by
  have active : s'.active = s.active := congrArg SessionView.active session
  have lastValidEvent : s'.lastValidEvent = s.lastValidEvent := congrArg SessionView.lastValidEvent session
  have mode : s'.probeMode = s.probeMode := congrArg SessionView.probeMode session
  have startedWall : s'.sessionStartedWall = s.sessionStartedWall := congrArg SessionView.sessionStartedWall session
  have validEvents : s'.sessionValidEvents = s.sessionValidEvents := congrArg SessionView.sessionValidEvents session
  have unchanged : sessionAccount (journal ++ rows.map (observation.entry setup reading)) =
    sessionAccount journal := sessionAccount_silent silent
  constructor
  · rw [unchanged, active, lastValidEvent]
    exact accounted.last
  · rw [unchanged, startedWall, InSession, mode]
    exact accounted.started
  · rw [unchanged, validEvents, InSession, mode]
    exact accounted.counts
  · rw [unchanged, InSession, mode]
    exact accounted.genuine
  · exact along_silent accounted.supported silent

theorem newest_unused {account : SessionAccount} {period anchor last newest : ℚ} {cluster : CommonCluster}
    (refuses : Refuses setup reading account observation) (locked : observation.lockedPeriod = some period)
    (anchored : observation.phaseAnchor = some anchor) (before : observation.lastValidEvent = some last)
    (valid : (observation.validEvents setup (observation.commonTimes setup reading) period anchor).max? =
      some newest)
    (member : cluster ∈ observation.clusters setup reading) (centred : cluster.event.time = newest) :
    (∀ c ∈ account.base :: account.counted, shares c.points cluster.points = false) ∧
      ∀ started ∈ observation.sessionStartedWall, started ≤ newest := by
  obtain ⟨found, greatest⟩ := List.max?_eq_some_iff.mp valid
  have accepted := List.mem_filter.mp found
  simp only [before, Option.mem_def, Option.some.injEq, forall_eq', decide_eq_true_eq] at accepted
  obtain ⟨-, near, past⟩ := accepted
  have unused : ¬ ((∃ c ∈ account.base :: account.counted, shares c.points cluster.points = true) ∨
      ∃ started ∈ observation.sessionStartedWall, cluster.event.time < started) := by
    intro used
    rcases refuses period locked anchor anchored last before cluster member (centred ▸ near) used with
      refused | ⟨newer, common, nearer, later⟩
    · rw [centred] at refused
      exact absurd past (not_lt.mpr refused)
    · rw [centred] at later
      have alsoValid : newer ∈
          observation.validEvents setup (observation.commonTimes setup reading) period anchor := by
        simp only [MonitorState.validEvents, before, Option.mem_def, Option.some.injEq, forall_eq',
          List.mem_filter, decide_eq_true_eq]
        exact ⟨common, nearer, lt_trans past later⟩
      exact absurd later (not_lt.mpr (greatest newer alsoValid))
  rw [not_or] at unused
  constructor
  · intro c among
    rw [← Bool.not_eq_true]
    exact fun shared => unused.1 ⟨c, among, shared⟩
  · intro started among
    rw [← centred, ← not_lt]
    exact fun early => unused.2 ⟨started, among, early⟩

theorem Genuine.count {account : SessionAccount} {c : Counted} (genuine : Genuine account)
    (unused : ∀ d ∈ account.base :: account.counted, shares d.points c.points = false)
    (since : account.startedWall ≤ c.time) :
    Genuine { account with last := c, counted := account.counted ++ [c] } := by
  constructor
  · rw [List.pairwise_append]
    refine ⟨genuine.distinct, List.pairwise_singleton _ _, fun d among e member => ?_⟩
    rw [List.mem_singleton.mp member]
    exact unused d (List.mem_cons_of_mem _ among)
  · intro d among
    rcases List.mem_append.mp among with old | new
    · exact genuine.fresh d old
    · rw [List.mem_singleton.mp new]
      exact unused _ List.mem_cons_self
  · intro d among
    rcases List.mem_append.mp among with old | new
    · exact genuine.since d old
    · rw [List.mem_singleton.mp new]
      exact since

theorem genuine_nil {account : SessionAccount} (none : account.counted = []) : Genuine account := by
  constructor <;> simp [none]

/-! ## What each moment does to the account -/

abbrev Continues (setup : Setup) (reading : Reading) (observation s s' : MonitorState)
    (journal : List Entry) : Prop :=
  ∃ rows, s'.log = s.log ++ rows ∧ Accounted setup s' (journal ++ rows.map (observation.entry setup reading))

theorem Accounted.unlogged (accounted : Accounted setup s journal) (log : s'.log = s.log)
    (session : s'.session = s.session) : Continues setup reading observation s s' journal :=
  ⟨[], by rw [log, List.append_nil], accounted.of_rows session (by simp)⟩

theorem fitted_silent (fit : Option PeriodFit) :
    ∃ rows, (s.fitted setup reading fit).log = s.log ++ rows ∧ ∀ row ∈ rows, row.record.isSession = false := by
  cases fit with
  | none => exact ⟨[], (List.append_nil _).symm, by simp⟩
  | some fit =>
      rw [fitted_shape]
      exact ⟨[_], rfl, List.forall_mem_singleton.mpr rfl⟩

theorem prepared_silent {fit : Option PeriodFit} {period : ℚ} :
    ∃ rows, ((s.prepared setup reading).countMismatch setup fit period).log = s.log ++ rows ∧
      ∀ row ∈ rows, row.record.isSession = false := by
  have common : ((s.commonEvents setup reading).foldl (MonitorState.recordCommon setup reading)
      (s.scheduled setup reading)).log = s.log ++ (freshClusters s.loggedCommonEvents
        (s.clusters setup reading)).map fun cluster => s.row reading.wall (.common cluster.event) := by
    rw [← clusters_events, recordCommon_fold]
    rfl
  obtain ⟨rows, log, silent⟩ : ∃ rows, (s.prepared setup reading).log =
    ((s.commonEvents setup reading).foldl _ (s.scheduled setup reading)).log ++ rows ∧
      ∀ row ∈ rows, row.record.isSession = false := fitted_silent (s.fit setup reading)
  obtain ⟨mismatches, same⟩ : ∃ periodMismatchCount, (s.prepared setup reading).countMismatch setup fit period =
    { s.prepared setup reading with periodMismatchCount } := countMismatch_shape
  rw [common, List.append_assoc] at log
  rw [same]
  refine ⟨_, log, fun row member => ?_⟩
  rcases List.mem_append.mp member with event | fit
  · obtain ⟨cluster, -, rfl⟩ := List.mem_map.mp event
    rfl
  · exact silent row fit

theorem Accounted.count {row : LogRow} {newest predicted phaseErrorMs : ℚ} {fit : Option PeriodFit}
    {programmed : Option (Int × Int)} {action : PhaseAction} (accounted : Accounted setup s journal)
    (record : row.record = .phaseCheck newest fit programmed predicted phaseErrorMs action)
    (mode : s'.probeMode = s.probeMode) (lastValidEvent : s'.lastValidEvent = some newest)
    (startedWall : s'.sessionStartedWall = s.sessionStartedWall)
    (validEvents : s'.sessionValidEvents = s.sessionValidEvents + 1)
    (unused : ∀ c ∈ (sessionAccount journal).base :: (sessionAccount journal).counted,
      shares c.points (observation.entry setup reading row).points = false)
    (since : ∀ started ∈ s.sessionStartedWall, started ≤ newest) :
    Accounted setup s' (journal ++ [observation.entry setup reading row]) := by
  have noted : sessionAccount (journal ++ [observation.entry setup reading row]) =
      { sessionAccount journal with
        last := ⟨newest, (observation.entry setup reading row).points⟩
        counted := (sessionAccount journal).counted ++
          [⟨newest, (observation.entry setup reading row).points⟩] } := by
    rw [sessionAccount_concat]
    simp only [SessionAccount.note, MonitorState.entry, record]
  constructor
  · intro _
    rw [noted]
    exact lastValidEvent
  · rw [noted, startedWall, InSession, mode]
    exact accounted.started
  · intro session
    rw [InSession, mode] at session
    rw [noted, validEvents, accounted.counts session, List.length_append, Nat.cast_add]
    rfl
  · intro session
    rw [InSession, mode] at session
    rw [noted]
    exact (accounted.genuine session).count unused (since _ (accounted.started session))
  · rw [along_concat]
    refine ⟨accounted.supported, fun source success => ?_⟩
    simp [MonitorState.entry, record] at success

theorem Accounted.checkPhase {fit : Option PeriodFit} {period anchor : ℚ}
    (accounted : Accounted setup s journal)
    (refuses : Refuses setup reading (sessionAccount journal) observation)
    (same : s.session = observation.session) (active : s.active = true)
    (locked : s.lockedPeriod = some period) (anchored : s.phaseAnchor = some anchor)
    (ok : s.checkPhase setup reading fit (observation.commonTimes setup reading) period anchor = .ok s') :
    Continues setup reading observation s s' journal := by
  rcases checkPhase_shape anchored ok with rfl | ⟨newest, corrected, predicted, phaseErrorMs, action, t,
    valid, rfl⟩
  · exact accounted.unlogged rfl rfl
  · have lastValidEvent : s.lastValidEvent = observation.lastValidEvent :=
      congrArg SessionView.lastValidEvent same
    have startedWall : s.sessionStartedWall = observation.sessionStartedWall :=
      congrArg SessionView.sessionStartedWall same
    have sameEvents : s.validEvents setup (observation.commonTimes setup reading) period anchor =
        observation.validEvents setup (observation.commonTimes setup reading) period anchor := by
      simp only [MonitorState.validEvents, lastValidEvent]
    have common : newest ∈ observation.commonTimes setup reading :=
      (List.mem_filter.mp (List.max?_mem valid)).1
    let row : LogRow := s.row reading.wall (.phaseCheck newest fit t.lastProgrammed predicted phaseErrorMs action)
    obtain ⟨cluster, member, centred, points⟩ := entry_points (rfl : row.record.eventTime = some newest) common
    rw [sameEvents] at valid
    obtain ⟨unused, since⟩ := newest_unused refuses ((congrArg SessionView.lockedPeriod same).symm.trans locked)
      ((congrArg SessionView.phaseAnchor same).symm.trans anchored)
      (lastValidEvent.symm.trans (accounted.last active)) valid member centred
    rw [← points] at unused
    rw [← startedWall] at since
    exact ⟨[row], rfl, accounted.count rfl rfl rfl rfl rfl unused since⟩

theorem Accounted.validate {lockedPeriod : ℚ} (accounted : Accounted setup s journal) :
    Continues setup reading observation s (s.validated setup reading lockedPeriod) journal := by
  refine ⟨[_], rfl, ?_⟩
  rw [List.map_singleton]
  constructor
  · rw [sessionAccount_concat]
    exact accounted.last
  · rw [sessionAccount_concat]
    exact fun _ => rfl
  · rw [sessionAccount_concat]
    exact fun _ => rfl
  · rw [sessionAccount_concat]
    exact fun _ => genuine_nil rfl
  · rw [along_concat]
    exact ⟨accounted.supported, fun _ success => (by cases success)⟩

theorem Accounted.activate {fit : PeriodFit} {period anchor : ℚ} (accounted : Accounted setup s journal)
    (locks : Locks setup reading fit period anchor s s') :
    Continues setup reading observation s s' journal := by
  obtain ⟨programmed, log⟩ := locks.log
  refine ⟨_, log, ?_⟩
  rw [List.map_singleton]
  constructor
  · rw [sessionAccount_concat]
    exact fun _ => locks.lastValidEvent
  · rw [sessionAccount_concat]
    exact fun _ => locks.sessionStartedWall
  · rw [sessionAccount_concat]
    exact fun _ => locks.sessionValidEvents
  · rw [sessionAccount_concat]
    exact fun _ => genuine_nil rfl
  · rw [along_concat]
    exact ⟨accounted.supported, fun _ success => (by cases success)⟩

theorem Accounted.relearn {nowWall : ℚ} {reason : RelearnReason} (accounted : Accounted setup s journal)
    (forgets : Forgets nowWall reason s s') : Continues setup reading observation s s' journal := by
  have ended : ¬ InSession s' := by simp [InSession, forgets.probeMode]
  refine ⟨_, forgets.log, ?_⟩
  constructor
  · rw [forgets.active]
    exact fun active => (by cases active)
  · exact fun session => absurd session ended
  · exact fun session => absurd session ended
  · exact fun session => absurd session ended
  · exact along_silent accounted.supported (List.forall_mem_singleton.mpr rfl)

theorem Accounted.sleep (accounted : Accounted setup s journal) (due : s.sessionDue reading.mono = true)
    (enough : s.sessionNeeded setup ≤ s.sessionValidEvents) :
    Continues setup reading observation s (s.slept setup reading) journal := by
  simp only [MonitorState.sessionDue, decide_eq_true_eq] at due
  have session : InSession s := due.1
  have needed : neededEvents setup s.sessionSource ≤ ((sessionAccount journal).counted.length : ℤ) := by
    rw [← accounted.counts session]
    rcases session with confirm | validate
    · simpa [neededEvents, MonitorState.sessionSource, MonitorState.sessionNeeded, confirm] using enough
    · simpa [neededEvents, MonitorState.sessionSource, MonitorState.sessionNeeded, validate] using enough
  have ended : ¬ InSession (s.slept setup reading) := by
    simp [InSession, MonitorState.slept, MonitorState.enterSleep, MonitorState.logged]
  let success : LogRow := s.row reading.wall (.sessionSuccess s.sessionSource)
  let suspended : LogRow := { s.row reading.wall (.probeSleep s.sessionSource) with probeMode := .activeSleep }
  have unchanged : sessionAccount (journal ++ [success, suspended].map (observation.entry setup reading)) =
      sessionAccount journal := by
    apply foldl_append_unchanged
    intro entry member account
    simp only [List.map_cons, List.map_nil, List.mem_cons, List.not_mem_nil, or_false] at member
    rcases member with rfl | rfl <;> rfl
  refine ⟨[success, suspended], List.append_assoc _ _ _, ?_⟩
  constructor
  · rw [unchanged]
    exact accounted.last
  · exact fun session => absurd session ended
  · exact fun session => absurd session ended
  · exact fun session => absurd session ended
  · rw [List.map_cons, List.append_cons]
    apply along_silent (along_concat.mpr ⟨accounted.supported, fun source verdict => ?_⟩)
    · exact List.forall_mem_singleton.mpr rfl
    · cases verdict
      exact ⟨accounted.genuine session, needed⟩

theorem Accounted.turn (accounted : Accounted setup s journal)
    (refuses : ∀ period, s = (observation.prepared setup reading).countMismatch setup
      (observation.fit setup reading) period → observation.analyses reading = true →
      Refuses setup reading (sessionAccount journal) observation)
    (turn : Turn setup reading observation s s') : Continues setup reading observation s s' journal := by
  cases turn with
  | restart => exact accounted.unlogged rfl rfl
  | validate => exact accounted.validate
  | readProbe ok =>
      obtain ⟨states, procs, rows, rfl, candidates⟩ := readProbe_shape ok
      refine ⟨rows, rfl, accounted.of_rows rfl fun row member => ?_⟩
      obtain ⟨target, event, gap, threshold, record⟩ := candidates row member
      rw [record]
      rfl
  | schedule => exact accounted.unlogged rfl rfl
  | fit =>
      obtain ⟨rows, log, silent⟩ := fitted_silent (observation.fit setup reading)
      exact ⟨rows, log, accounted.of_rows (fitted_session _) silent⟩
  | activate _ _ _ ok => exact accounted.activate (activate_locks ok)
  | countMismatch =>
      obtain ⟨mismatches, same⟩ := countMismatch_shape
      rw [same]
      exact accounted.unlogged rfl rfl
  | checkPhase analyses prepared active locked anchored ok =>
      have same : s.session = observation.session := by
        rw [prepared]
        exact countMismatch_session.trans prepared_session
      exact accounted.checkPhase (refuses _ prepared analyses) same active locked anchored ok
  | relearn ok => exact accounted.relearn (enterLearning_forgets ok)
  | sleep _ due enough => exact accounted.sleep due enough

theorem Accounted.moment (accounted : Accounted setup s journal)
    (refuses : ∀ period, s = (observation.prepared setup reading).countMismatch setup
      (observation.fit setup reading) period → observation.analyses reading = true →
      Refuses setup reading (sessionAccount journal) observation)
    (moment : Moment setup reading observation s s') : Continues setup reading observation s s' journal := by
  cases moment with
  | @recordCommon event common =>
      rcases @recordCommon_shape setup reading s event with ⟨-, same⟩ | ⟨-, states, same⟩
      · rw [same]
        exact accounted.unlogged rfl rfl
      · rw [same]
        exact ⟨[_], rfl, accounted.of_rows rfl (List.forall_mem_singleton.mpr rfl)⟩
  | turn turn => exact accounted.turn refuses turn

end Account

/-! ## Runs -/

section Runs

variable {setup : Setup} {reading : Reading} {observation s s' : MonitorState} {t t' : Traced}

theorem prepared_account {period : ℚ} (grown : ∃ rows, observation.log = t.state.log ++ rows) :
    sessionAccount (journalAt setup reading observation t ((observation.prepared setup reading).countMismatch setup
      (observation.fit setup reading) period)) =
    sessionAccount (journalAt setup reading observation t observation) := by
  obtain ⟨before, observed⟩ := grown
  obtain ⟨rows, log, silent⟩ := @prepared_silent setup reading observation (observation.fit setup reading) period
  rw [journalAt, extend_append observed log]
  exact sessionAccount_silent silent

theorem passes_accounted (observed : ∃ rows, observation.log = t.state.log ++ rows)
    (grown : ∃ rows, s.log = t.state.log ++ rows)
    (refuses : observation.analyses reading = true →
      Refuses setup reading (sessionAccount (journalAt setup reading observation t observation)) observation)
    (accounted : Accounted setup s (journalAt setup reading observation t s))
    (passes : Passes setup reading observation s s') :
    Accounted setup s' (journalAt setup reading observation t s') := by
  induction passes with
  | refl => exact accounted
  | @tail v v' passed moment ih =>
      obtain ⟨before, log⟩ := grown
      obtain ⟨rows, since⟩ := passes_log passed
      have prefixed : v.log = t.state.log ++ (before ++ rows) := by rw [since, log, List.append_assoc]
      obtain ⟨added, moved, continued⟩ := ih.moment (fun period prepared analyses => by
        rw [prepared, prepared_account observed]
        exact refuses analyses) moment
      rw [journalAt, extend_append prefixed moved]
      exact continued

theorem step_accounted (accounted : Accounted setup t.state t.journal) (refusing : Refusing setup reading t)
    (ok : t.step setup reading = .ok t') : Accounted setup t'.state t'.journal := by
  obtain ⟨observation, observed, iterated, shape⟩ := step_cases ok
  rw [iteration_eq_conclude, observed] at iterated
  have woken : Passes setup reading observation t.state observation := turns_passes (observed_turns observed)
  have same : journalAt setup reading observation t t.state = t.journal := by
    rw [journalAt, extend_journal (List.append_nil _).symm, List.map_nil, List.append_nil]
  rw [shape]
  apply passes_accounted (passes_log woken) ⟨[], (List.append_nil _).symm⟩ (refusing observation observed)
  · rw [same]
    exact accounted
  · exact woken.trans (conclude_passes iterated)

theorem start_accounted {net : Net} {startWall startMono : ℚ} {starts : Starts}
    (started : start setup net startWall startMono starts = .ok (some s)) :
    Accounted setup (Traced.start s).state (Traced.start s).journal := by
  obtain ⟨after, rfl⟩ := start_shape started
  have outside : ¬ InSession (Traced.start { initialState setup net startWall startMono starts with
      net := after }).state := by
    rintro (confirm | validate)
    · cases confirm
    · cases validate
  constructor
  · exact fun active => by cases active
  · exact fun session => absurd session outside
  · exact fun session => absurd session outside
  · exact fun session => absurd session outside
  · exact along_concat.mpr ⟨along_nil, fun _ success => (by cases success)⟩

/-- In every run whose analyses refuse used and early clusters, every session that succeeds is supported by
different clusters that its journal names. -/
theorem fresh_sessions_supported (setup : Setup) (net : Net) (startWall startMono : ℚ) (starts : Starts)
    (first : MonitorState) (t : Traced)
    (started : start setup net startWall startMono starts = .ok (some first))
    (reached : ReachesWhile (Traced.step setup) (Refusing setup) (.start first) t) :
    Along (Supported setup) t.journal ∧
    (t.state.active = true → t.state.lastValidEvent = some (sessionAccount t.journal).last.time) ∧
    (InSession t.state → Genuine (sessionAccount t.journal) ∧
      t.state.sessionStartedWall = some (sessionAccount t.journal).startedWall ∧
      t.state.sessionValidEvents = ((sessionAccount t.journal).counted.length : ℤ)) := by
  have accounted : Accounted setup t.state t.journal := by
    induction reached with
    | refl => exact start_accounted started
    | tail _ refusing ok ih => exact step_accounted ih refusing ok
  exact ⟨accounted.supported, accounted.last, fun session =>
    ⟨accounted.genuine session, accounted.started session, accounted.counts session⟩⟩

end Runs

def reports (seconds : ℚ) (first second third : List ℚ) : Reading :=
  readingAt seconds (replies "1.1.1.1" first ++ replies "8.8.8.8" (second.map fun ts => ts + 2 / 100) ++
    replies "9.9.9.9" (third.map fun ts => ts + 5 / 100))

def learningReport : Reading :=
  reports 15 [0, 1, 4, 5, 6, 9, 10, 11, 14] [0, 1, 4, 5, 6, 9, 10, 11, 14] [0, 1, 4, 5, 6, 9, 10, 11, 14]

def deadlineReport : Reading := reports 30 [25, 26, 27, 28, 29] [25, 26, 27, 28, 29] [25, 26, 27, 28, 29]

def refusesAt (setup : Setup) (reading : Reading) (t : Traced) : Bool :=
  succeedsWith (fun observation => !observation.analyses reading ||
      decide (Refuses setup reading (sessionAccount (journalAt setup reading observation t observation)) observation))
    (t.state.observed setup reading)

theorem refusing_of_check {setup : Setup} {reading : Reading} {t : Traced}
    (check : refusesAt setup reading t = true) : Refusing setup reading t := by
  obtain ⟨observation, observed, refuses⟩ := exists_ok_of_succeedsWith check
  intro other same analyses
  cases same.symm.trans observed
  simpa [analyses] using refuses

theorem punctual_confirmation_supported :
    ∃ t, ReachesWhile (Traced.step threeTargetSetup) (Refusing threeTargetSetup) (.start threeTargetStart) t ∧
      t.state.probeMode = .activeSleep ∧ Along (Supported threeTargetSetup) t.journal := by
  have run : (checkedRun (Traced.step threeTargetSetup) (refusesAt threeTargetSetup)
      [learningReport, reports 20 [15, 16, 19] [15, 16, 19] [15, 16, 19],
        reports 25 [20, 21, 24] [20, 21, 24] [20, 21, 24], deadlineReport]
      (.start threeTargetStart)).any (fun t => t.state.probeMode = .activeSleep) = true := by decide +kernel
  obtain ⟨t, ends, asleep⟩ := Option.any_eq_true _ _ |>.mp run
  have reached := reachesWhile_of_checkedRun refusing_of_check ends
  exact ⟨t, reached, of_decide_eq_true asleep, (fresh_sessions_supported threeTargetSetup tcpSkInit 0 0
    (fun _ => true) threeTargetStart t threeTargetStart_started reached).1⟩

/-- The third target reports the gap after second 16 an analysis later than the others, and the
confirmation succeeds on that one gap. -/
theorem late_report_counted_twice :
    start threeTargetSetup tcpSkInit 0 0 (fun _ => true) = .ok (some threeTargetStart) ∧
    ∃ t, Reaches (Traced.step threeTargetSetup) (.start threeTargetStart) t ∧
      ¬ Along (Supported threeTargetSetup) t.journal := by
  obtain ⟨t, ok, verdict⟩ := exists_ok_of_succeedsWith (by decide +kernel : succeedsWith (fun t : Traced =>
      decide (t.journal[25]?.map (fun entry => entry.row.record) = some (.sessionSuccess .confirm) ∧
        ¬ Genuine (sessionAccount (t.journal.take 25))))
    ([learningReport, reports 20 [15, 16, 19] [15, 16, 19] [15, 16],
      reports 25 [20, 21, 22, 23, 24] [20, 21, 22, 23, 24] [24], deadlineReport].foldlM
        (fun t reading => Traced.step threeTargetSetup reading t) (.start threeTargetStart)) = true)
  obtain ⟨success, repeated⟩ := of_decide_eq_true verdict
  refine ⟨threeTargetStart_started, t, reaches_of_foldlM _ ok, fun supported => ?_⟩
  obtain ⟨entry, found, record⟩ := Option.map_eq_some_iff.mp success
  exact repeated (supported 25 entry found .confirm record).1

end StarlinkTcp.Proof

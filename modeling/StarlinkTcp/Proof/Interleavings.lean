import StarlinkTcp.Machine.Interleaving
import StarlinkTcp.Proof.LoggedOnce
import StarlinkTcp.Proof.Moments

/-!
# Lines of several probes

An iteration reads the lines of all running probes in the order in which the pipes are ready. No step reads
the log, and lines of different probes change different targets, so that order leaves a trace only in the
order of the rows: every run over the same lines ends in the same state.
-/

namespace StarlinkTcp.Monitor
open Kernel Machine

/-- The state with earlier rows before those of its log. -/
abbrev MonitorState.following (earlier : List LogRow) (s : MonitorState) : MonitorState :=
  { s with log := earlier ++ s.log }

/-- What a line of a probe does: the state of its target, whether the probe ends, and the row it logs. -/
structure LineEffect where
  st : TargetState
  ends : Bool
  rows : List LogRow

namespace MonitorState

def lineEffect (setup : Setup) (event : ProbeEvent) (running : Bool) (st : TargetState)
    (row : ℚ → LogRecord → LogRow) : Except MonitorError LineEffect :=
  if running then
    match event.output with
    | .closed => .ok ⟨st, true, []⟩
    | .noise => .ok ⟨st, false, []⟩
    | .reply ts wall => do
        let (st, candidate) ← st.addReply setup.args.gapSettings ts
        return ⟨st, false, (candidate.map fun (ev, dt, threshold) =>
          row wall (.candidate event.target ev dt threshold)).toList⟩
  else .ok ⟨st, false, []⟩

def affected (target : String) (s : MonitorState) (effect : LineEffect) : MonitorState :=
  { s with
    states := Function.update s.states target effect.st
    procs := if effect.ends then s.procs.erase target else s.procs
    log := s.log ++ effect.rows }

def run (setup : Setup) (readings : List Reading) (s : MonitorState) : Except MonitorError MonitorState :=
  readings.foldlM (fun s reading => s.iteration setup reading) s

end MonitorState

/-- What the managed writes do to the sysctls. -/
def netWrites (setup : Setup) (writes : List SysctlWrite) (net : Net) : Except MonitorError Net :=
  if setup.args.manageEnable = true ∧ setup.args.dryRun = false then
    match net.writes writes with
    | none => .error .sysctl
    | some net => .ok net
  else .ok net

end StarlinkTcp.Monitor

namespace StarlinkTcp.Proof
open Kernel Machine Monitor

/-- The same state up to the order of the rows in the log. -/
def Reordered (s s' : MonitorState) : Prop := ∃ log, s' = { s with log } ∧ s.log.Perm log

/-- The same reading but for the order in which the lines of different probes are read. -/
structure SameLines (reading reading' : Reading) : Prop where
  rest : reading' = { reading with events := reading'.events }
  lines : Interleaves ProbeEvent.target reading.events reading'.events

/-! ## The log is not read -/

section Blind

variable {setup : Setup} {reading : Reading} {earlier : List LogRow} {s : MonitorState}

theorem managedWrites_eq {writes : List SysctlWrite} :
    s.managedWrites setup writes = (fun net => { s with net }) <$> netWrites setup writes s.net := by
  unfold MonitorState.managedWrites MonitorState.sysctlWrites netWrites
  by_cases managed : setup.args.manageEnable = true
  · rw [if_pos managed]
    by_cases dry : setup.args.dryRun = true
    · rw [if_pos dry, if_neg (by simp [dry])]
      rfl
    · rw [if_neg dry, if_pos ⟨managed, by simpa using dry⟩]
      cases s.net.writes writes <;> rfl
  · rw [if_neg managed, if_neg (by simp [managed])]
    rfl

theorem logged_following {wallTime : ℚ} {record : LogRecord} :
    (s.following earlier).logged wallTime record = (s.logged wallTime record).following earlier := by
  unfold MonitorState.logged
  rw [MonitorState.following, MonitorState.following, ← List.append_assoc]
  rfl

@[simp] theorem sessionNeeded_following :
    (s.following earlier).sessionNeeded setup = s.sessionNeeded setup := rfl

@[simp] theorem sessionSource_following : (s.following earlier).sessionSource = s.sessionSource := rfl

@[simp] theorem sessionDue_following {nowMono : ℚ} :
    (s.following earlier).sessionDue nowMono = s.sessionDue nowMono := rfl

@[simp] theorem enoughProbes_following : (s.following earlier).enoughProbes setup = s.enoughProbes setup := rfl

@[simp] theorem goodFit_following {fit : PeriodFit} :
    (s.following earlier).goodFit setup reading fit = s.goodFit setup reading fit := rfl

@[simp] theorem lockCandidate_following {commonTimes : List ℚ} :
    (s.following earlier).lockCandidate setup commonTimes = s.lockCandidate setup commonTimes := rfl

@[simp] theorem cooldownElapsed_following {nowWall period : ℚ} :
    (s.following earlier).cooldownElapsed setup nowWall period = s.cooldownElapsed setup nowWall period := rfl

@[simp] theorem validEvents_following {commonTimes : List ℚ} {period anchor : ℚ} :
    (s.following earlier).validEvents setup commonTimes period anchor =
      s.validEvents setup commonTimes period anchor := rfl

theorem ok_logged_following {wallTime : ℚ} {record : LogRecord} :
    (.ok ((s.following earlier).logged wallTime record) : Except MonitorError MonitorState) =
      (·.following earlier) <$> .ok (s.logged wallTime record) :=
  congrArg Except.ok logged_following

theorem enterLearning_following {nowWall nowMono : ℚ} {starts : Starts} {reason : RelearnReason} :
    (s.following earlier).enterLearning setup nowWall nowMono starts reason =
      (·.following earlier) <$> s.enterLearning setup nowWall nowMono starts reason := by
  unfold MonitorState.enterLearning
  dsimp only
  rw [managedWrites_eq, managedWrites_eq]
  cases netWrites setup disableRedhat s.net with
  | error => rfl
  | ok net =>
      simp only [MonitorState.following, bind, Except.bind, pure, Except.pure, Functor.map, Except.map,
        List.append_assoc]
      rfl

theorem wake_following :
    (s.following earlier).wake setup reading = (·.following earlier) <$> s.wake setup reading := by
  unfold MonitorState.wake
  dsimp only
  split
  · unfold MonitorState.startValidation
    cases s.lockedPeriod with
    | none => exact enterLearning_following
    | some lockedPeriod =>
        dsimp only
        split
        · rw [← enterLearning_following]
        · rw [← ok_logged_following]
  · rfl

theorem readProbe_following {event : ProbeEvent} :
    (s.following earlier).readProbe setup event = (·.following earlier) <$> s.readProbe setup event := by
  unfold MonitorState.readProbe
  dsimp only
  split
  · rfl
  · cases event.output with
    | closed => rfl
    | noise => rfl
    | reply ts wall =>
        dsimp only
        cases (s.states event.target).addReply setup.args.gapSettings ts with
        | error => rfl
        | ok replied =>
            obtain ⟨st, candidate⟩ := replied
            cases candidate with
            | none => rfl
            | some report =>
                simp only [bind, Except.bind, pure, Except.pure, Functor.map, Except.map]
                rw [← logged_following]

theorem resolveSession_following :
    (s.following earlier).resolveSession setup reading = (·.following earlier) <$> s.resolveSession setup reading := by
  unfold MonitorState.resolveSession MonitorState.enterSleep
  dsimp only
  rw [sessionNeeded_following, sessionSource_following, logged_following]
  split
  · rw [← ok_logged_following]
  · rw [← enterLearning_following]

theorem recordCommon_following {event : CommonEvent} :
    (s.following earlier).recordCommon setup reading event =
      (s.recordCommon setup reading event).following earlier := by
  unfold MonitorState.recordCommon
  dsimp only
  split
  · rfl
  · rw [← logged_following]

theorem fitted_following {fit : Option PeriodFit} :
    (s.following earlier).fitted setup reading fit = (s.fitted setup reading fit).following earlier := by
  unfold MonitorState.fitted
  cases fit with
  | none => rfl
  | some fit =>
      unfold MonitorState.recordFit
      dsimp only
      rw [logged_following]
      unfold MonitorState.collectFit
      dsimp only
      split <;> rfl

theorem activate_following {fit : PeriodFit} {period anchor : ℚ} :
    (s.following earlier).activate setup reading fit period anchor =
      (·.following earlier) <$> s.activate setup reading fit period anchor := by
  unfold MonitorState.activate
  dsimp only
  rw [managedWrites_eq, managedWrites_eq]
  dsimp only
  cases netWrites setup (programRedhat period anchor).1 s.net with
  | error => rfl
  | ok net =>
      simp only [bind, Except.bind, pure, Except.pure, Functor.map, Except.map]
      rw [← logged_following]

theorem maybeResync_following {nowWall period anchor : ℚ} :
    (s.following earlier).maybeResync setup nowWall period anchor =
      (fun result => (result.1.following earlier, result.2)) <$> s.maybeResync setup nowWall period anchor := by
  unfold MonitorState.maybeResync MonitorState.resync
  dsimp only
  cases MonitorState.consensusError setup s.phaseErrorHistory with
  | none => rfl
  | some consensus =>
      dsimp only
      rw [managedWrites_eq, managedWrites_eq]
      dsimp only
      rw [cooldownElapsed_following]
      split
      · cases netWrites setup (programRedhatPhaseOnly period
          (anchor + consensus * min 1 (max 0 setup.args.phaseResyncAlpha))).1 s.net <;> rfl
      · rfl

theorem updatePredictionGuard_following :
    (s.following earlier).updatePredictionGuard setup =
      (·.following earlier) <$> s.updatePredictionGuard setup := by
  unfold MonitorState.updatePredictionGuard
  dsimp only
  split
  · split
    · rw [managedWrites_eq, managedWrites_eq]
      dsimp only
      cases netWrites setup _ s.net <;> rfl
    · rfl
  · rfl

theorem checkPhase_following {fit : Option PeriodFit} {commonTimes : List ℚ} {period anchor : ℚ} :
    (s.following earlier).checkPhase setup reading fit commonTimes period anchor =
      (·.following earlier) <$> s.checkPhase setup reading fit commonTimes period anchor := by
  unfold MonitorState.checkPhase
  rw [validEvents_following]
  cases (s.validEvents setup commonTimes period anchor).max? with
  | none => rfl
  | some newest =>
      dsimp only
      cases signedPhaseError newest anchor period with
      | none => rfl
      | some error =>
          obtain ⟨phaseErrorS, predicted⟩ := error
          dsimp only
          have noted : (s.following earlier).notePhase setup newest phaseErrorS =
            (s.notePhase setup newest phaseErrorS).following earlier := rfl
          rw [noted, maybeResync_following]
          cases (s.notePhase setup newest phaseErrorS).maybeResync setup reading.wall period anchor with
          | error => rfl
          | ok result =>
              obtain ⟨synced, action⟩ := result
              simp only [bind, Except.bind, Functor.map, Except.map]
              rw [updatePredictionGuard_following]
              cases synced.updatePredictionGuard setup with
              | error => rfl
              | ok guarded => exact congrArg Except.ok logged_following

theorem maintain_following {fit : Option PeriodFit} {commonTimes : List ℚ} {period anchor : ℚ} :
    (s.following earlier).maintain setup reading fit commonTimes period anchor =
      (·.following earlier) <$> s.maintain setup reading fit commonTimes period anchor := by
  unfold MonitorState.maintain
  have counted : (s.following earlier).countMismatch setup fit period =
      (s.countMismatch setup fit period).following earlier := by
    unfold MonitorState.countMismatch
    cases fit with
    | none => rfl
    | some fit =>
        dsimp only
        split <;> rfl
  rw [counted]
  dsimp only
  split
  · exact enterLearning_following
  · rw [checkPhase_following]
    cases (s.countMismatch setup fit period).checkPhase setup reading fit commonTimes period anchor with
    | error => rfl
    | ok checked =>
        change (if (checked.following earlier).sessionDue reading.mono = true then _ else _) =
          MonitorState.following earlier <$> (if checked.sessionDue reading.mono = true then _ else _)
        rw [sessionDue_following]
        split
        · exact resolveSession_following
        · rw [enoughProbes_following]
          split
          · rfl
          · exact enterLearning_following

theorem actOnFit_following {fit : Option PeriodFit} {commonTimes : List ℚ} :
    (s.following earlier).actOnFit setup reading fit commonTimes =
      (·.following earlier) <$> s.actOnFit setup reading fit commonTimes := by
  unfold MonitorState.actOnFit
  simp only [goodFit_following, lockCandidate_following]
  cases fit.filter fun fit => s.goodFit setup reading fit with
  | some fit =>
      dsimp only
      cases s.lockCandidate setup commonTimes with
      | error => rfl
      | ok candidate =>
          cases candidate with
          | none => rfl
          | some found => exact activate_following
  | none =>
      dsimp only
      split
      · exact maintain_following
      · rfl

theorem analyse_following :
    (s.following earlier).analyse setup reading = (·.following earlier) <$> s.analyse setup reading := by
  have recorded (events : List CommonEvent) (t : MonitorState) :
      events.foldl (MonitorState.recordCommon setup reading) (t.following earlier) =
        (events.foldl (MonitorState.recordCommon setup reading) t).following earlier :=
    List.foldl_hom _ fun _ _ => recordCommon_following
  have prepared : (s.following earlier).prepared setup reading = (s.prepared setup reading).following earlier := by
    unfold MonitorState.prepared
    rw [← fitted_following, ← recorded]
    rfl
  cases raises : MonitorState.fitRaises setup (s.commonTimes setup reading)
  · rw [analyse_of_fits raises, analyse_of_fits (s := s.following earlier) raises, prepared]
    exact actOnFit_following
  · rw [analyse_of_raises raises, analyse_of_raises (s := s.following earlier) raises]
    rfl

theorem conclude_following :
    (s.following earlier).conclude setup reading = (·.following earlier) <$> s.conclude setup reading := by
  unfold MonitorState.conclude
  dsimp only
  rw [sessionDue_following]
  split
  · rfl
  · split
    · split
      · exact resolveSession_following
      · rfl
    · exact analyse_following

end Blind

/-! ## Up to the order of the rows -/

section Reordered

variable {setup : Setup} {reading reading' : Reading} {s s' t u : MonitorState}

theorem Reordered.refl (s : MonitorState) : Reordered s s := ⟨s.log, rfl, .refl _⟩

theorem Reordered.trans (first : Reordered s t) (second : Reordered t u) : Reordered s u := by
  obtain ⟨log, rfl, perm⟩ := first
  obtain ⟨log', rfl, perm'⟩ := second
  exact ⟨log', rfl, perm.trans perm'⟩

theorem Reordered.step {f : MonitorState → Except MonitorError MonitorState}
    (blind : ∀ earlier s, f (s.following earlier) = (·.following earlier) <$> f s) (same : Reordered s s')
    (ok : f s = .ok t) : ∃ t', f s' = .ok t' ∧ Reordered t t' := by
  obtain ⟨log, rfl, perm⟩ := same
  have split (rows : List LogRow) :
      { s with log := rows } = MonitorState.following rows { s with log := [] } := by
    rw [MonitorState.following, List.append_nil]
  have whole : s = MonitorState.following s.log { s with log := [] } := split s.log
  rw [whole, blind] at ok
  rw [split log, blind]
  cases bare : f { s with log := [] } with
  | error e =>
      rw [bare] at ok
      cases ok
  | ok v =>
      rw [bare] at ok
      cases ok
      exact ⟨v.following log, rfl, log ++ v.log, rfl, perm.append_right _⟩

/-! ## Lines of different probes -/

theorem readProbe_eq {event : ProbeEvent} : s.readProbe setup event = s.affected event.target <$>
    MonitorState.lineEffect setup event (event.target ∈ s.procs) (s.states event.target) s.row := by
  have unchanged : s.affected event.target ⟨s.states event.target, false, []⟩ = s := by
    rw [MonitorState.affected, Function.update_eq_self, List.append_nil]
    rfl
  unfold MonitorState.readProbe MonitorState.lineEffect
  by_cases running : event.target ∈ s.procs
  · rw [if_neg (not_not.mpr running), if_pos (decide_eq_true running)]
    cases event.output with
    | closed =>
        change _ = Except.ok _
        rw [MonitorState.affected, Function.update_eq_self, List.append_nil]
        rfl
    | noise => exact congrArg Except.ok unchanged.symm
    | reply ts wall =>
        dsimp only
        cases (s.states event.target).addReply setup.args.gapSettings ts with
        | error => rfl
        | ok replied =>
            obtain ⟨st, candidate⟩ := replied
            cases candidate with
            | none =>
                change _ = Except.ok _
                rw [MonitorState.affected, Option.map_none, Option.toList_none, List.append_nil]
                rfl
            | some report => rfl
  · rw [if_pos running, if_neg (by simpa using running)]
    exact congrArg Except.ok unchanged.symm

theorem affected_reordered {first second : String} {a b : LineEffect} (different : first ≠ second) :
    Reordered ((s.affected first a).affected second b) ((s.affected second b).affected first a) := by
  refine ⟨s.log ++ b.rows ++ a.rows, ?_, ?_⟩
  · have states := Function.update_comm different a.st b.st s.states
    have procs : (if a.ends then (if b.ends then s.procs.erase second else s.procs).erase first
        else if b.ends then s.procs.erase second else s.procs) =
          if b.ends then (if a.ends then s.procs.erase first else s.procs).erase second
            else if a.ends then s.procs.erase first else s.procs := by
      cases a.ends <;> cases b.ends <;> simp [List.erase_comm]
    simp only [MonitorState.affected, states, procs]
  · change (s.log ++ a.rows ++ b.rows).Perm _
    rw [List.append_assoc, List.append_assoc]
    exact List.perm_append_comm.append_left s.log

/-- The line of another probe finds what it reads as it was. -/
theorem readProbe_affected {event : ProbeEvent} {target : String} {effect : LineEffect}
    (different : event.target ≠ target) : (s.affected target effect).readProbe setup event =
      (s.affected target effect).affected event.target <$>
        MonitorState.lineEffect setup event (event.target ∈ s.procs) (s.states event.target) s.row := by
  have running : event.target ∈ (s.affected target effect).procs ↔ event.target ∈ s.procs := by
    cases ends : effect.ends <;> simp [MonitorState.affected, ends, List.mem_erase_of_ne different]
  have same : (s.affected target effect).states event.target = s.states event.target :=
    Function.update_of_ne different _ _
  rw [readProbe_eq, same]
  simp only [running]
  rfl

theorem readProbe_exchanges (setup : Setup) :
    Exchanges (MonitorState.readProbe setup) ProbeEvent.target Reordered where
  refl := Reordered.refl
  trans := Reordered.trans
  respects := fun {_ _ _ event} same ok =>
    same.step (f := fun s => s.readProbe setup event) (fun _ _ => readProbe_following) ok
  commutes := by
    intro s t u first second different one two
    rw [readProbe_eq] at one
    cases effect : MonitorState.lineEffect setup first (first.target ∈ s.procs) (s.states first.target) s.row with
    | error e =>
        rw [effect] at one
        cases one
    | ok a =>
        rw [effect] at one
        cases one
        rw [readProbe_affected different.symm] at two
        cases other : MonitorState.lineEffect setup second (second.target ∈ s.procs) (s.states second.target)
            s.row with
        | error e =>
            rw [other] at two
            cases two
        | ok b =>
            rw [other] at two
            cases two
            refine ⟨s.affected second.target b, (s.affected second.target b).affected first.target a, ?_, ?_,
              affected_reordered different⟩
            · rw [readProbe_eq, other]
              rfl
            · rw [readProbe_affected different, effect]
              rfl

/-! ## Runs -/

theorem SameLines.symm (same : SameLines reading reading') : SameLines reading' reading where
  rest := by
    rw [same.rest]
  lines := same.lines.symm

theorem iteration_reordered (lines : SameLines reading reading') (same : Reordered s s')
    (ok : s.iteration setup reading = .ok t) : ∃ t', s'.iteration setup reading' = .ok t' ∧ Reordered t t' := by
  rw [iteration_eq_conclude] at ok ⊢
  obtain ⟨observation, observed, concluded⟩ := bind_eq_ok.mp ok
  obtain ⟨woken, wakes, reads⟩ := bind_eq_ok.mp observed
  obtain ⟨woken', wakes', awake⟩ := same.step (fun _ _ => wake_following) wakes
  have exchanges := readProbe_exchanges setup
  obtain ⟨early, reads', near⟩ := exchanges.run_respects awake reads
  obtain ⟨observation', reads', seen⟩ := exchanges.run_interleaves lines.lines reads'
  obtain ⟨t', concluded', final⟩ := (near.trans seen).step (fun _ _ => conclude_following) concluded
  refine ⟨t', bind_eq_ok.mpr ⟨observation', bind_eq_ok.mpr ⟨woken', ?_, reads'⟩, ?_⟩, final⟩
  · rw [lines.rest]
    exact wakes'
  · rw [lines.rest]
    exact concluded'

theorem run_reordered {readings others : List Reading} (lines : List.Forall₂ SameLines readings others)
    (same : Reordered s s') (ok : s.run setup readings = .ok t) :
    ∃ t', s'.run setup others = .ok t' ∧ Reordered t t' := by
  induction lines generalizing s s' with
  | nil =>
      cases ok
      exact ⟨s', rfl, same⟩
  | cons lines _ ih =>
      obtain ⟨next, first, rest⟩ := bind_eq_ok.mp ok
      obtain ⟨next', first', related⟩ := iteration_reordered lines same first
      obtain ⟨t', rest', final⟩ := ih related rest
      exact ⟨t', bind_eq_ok.mpr ⟨next', first', rest'⟩, final⟩

end Reordered

/-- However the lines of the probes interleave in each iteration, the run goes on as long and ends in the same
state, up to the order of the rows. -/
theorem interleaving_irrelevant (setup : Setup) (first : MonitorState) (readings others : List Reading)
    (lines : List.Forall₂ SameLines readings others) :
    (∀ s, first.run setup readings = .ok s → ∃ s', first.run setup others = .ok s' ∧ Reordered s s') ∧
      ∀ s', first.run setup others = .ok s' → ∃ s, first.run setup readings = .ok s ∧ Reordered s' s :=
  ⟨fun _ ok => run_reordered lines (.refl first) ok,
    fun _ ok => run_reordered (lines.flip.imp fun _ _ same => same.symm) (.refl first) ok⟩

/-- The lines of the first report, the other target first. -/
def turnedReport : Reading :=
  readingAt 5 (replies "8.8.8.8" [2 / 100, 102 / 100, 402 / 100] ++ replies "1.1.1.1" [0, 1, 4])

theorem interleaving_irrelevant_turned :
    ∃ s s', threeTargetStart.run threeTargetSetup [firstReport, readingAt 10 []] = .ok s ∧
      threeTargetStart.run threeTargetSetup [turnedReport, readingAt 10 []] = .ok s' ∧ Reordered s s' := by
  have turned : SameLines firstReport turnedReport := by
    refine ⟨rfl, interleaves_append_comm ?_⟩
    decide +kernel
  have lines : List.Forall₂ SameLines [firstReport, readingAt 10 []] [turnedReport, readingAt 10 []] :=
    .cons turned (.cons ⟨rfl, fun _ => rfl⟩ .nil)
  obtain ⟨s, ok, -⟩ := exists_ok_of_succeedsWith (by decide +kernel : succeedsWith (fun _ => true)
    (threeTargetStart.run threeTargetSetup [firstReport, readingAt 10 []]) = true)
  obtain ⟨s', ok', same⟩ := (interleaving_irrelevant threeTargetSetup threeTargetStart _ _ lines).1 s ok
  exact ⟨s, s', ok, ok', same⟩

end StarlinkTcp.Proof

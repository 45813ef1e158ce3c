import StarlinkTcp.Machine.Journal
import StarlinkTcp.Proof.Moments
import StarlinkTcp.Proof.PeriodFits

/-!
# The discipline of activations

The log of a run says when LEARNING was last entered, which locked period was given up then, and which
fits were good since. Every activation in the log is justified by what the log says before it. The
invariant relates that account to the variables the activation is decided on.
-/

namespace StarlinkTcp.Proof
open Kernel Machine Monitor

/-! ## What the log says about LEARNING -/

/-- When LEARNING was last entered, the locked period of the ACTIVE episode that ended there, the periods
of the fits since then that met the thresholds, and the locked period of the ACTIVE episode under way. -/
structure LearningAccount where
  enteredWall : ℚ
  givenUp : Option ℚ
  goodFits : List ℚ
  episode : Option ℚ

def meetsThresholds (setup : Setup) (fit : PeriodFit) : Bool :=
  fit.score ≥ setup.args.minScore ∧ fit.fitRatio ≥ setup.args.minFitRatio

def LearningAccount.note (setup : Setup) (account : LearningAccount) (row : LogRow) : LearningAccount :=
  match row.record with
  | .start => ⟨row.wallTime, none, [], none⟩
  | .relearn _ => ⟨row.wallTime, account.episode, [], none⟩
  | .fit fit =>
      if meetsThresholds setup fit then { account with goodFits := account.goodFits ++ [fit.periodS] }
      else account
  | .activate _ _ _ => { account with episode := row.lockedPeriod }
  | _ => account

def learningAccount (setup : Setup) (log : List LogRow) : LearningAccount :=
  log.foldl (LearningAccount.note setup) ⟨0, none, [], none⟩

def Disciplined (setup : Setup) (before : List LogRow) (row : LogRow) : Prop :=
  row.record.isActivate = true →
    setup.args.learnSeconds ≤ row.wallTime - (learningAccount setup before).enteredWall ∧
    (∀ period, (learningAccount setup before).givenUp = some period → 0 < setup.args.reactivationCooldownCycles →
      setup.args.reactivationCooldownCycles * period ≤
        row.wallTime - (learningAccount setup before).enteredWall) ∧
    setup.args.periodLockMinFits ≤ ((learningAccount setup before).goodFits.length : ℤ) ∧
    ∃ period, row.lockedPeriod = some period ∧
      median ((learningAccount setup before).goodFits.rtake setup.args.periodLockWindow.toNat) = some period

structure Learned (setup : Setup) (s : MonitorState) : Prop where
  disciplined : Along (Disciplined setup) s.log
  episode : (learningAccount setup s.log).episode = s.lockedPeriod
  locked : s.active = s.lockedPeriod.isSome
  entered : s.active = false → (learningAccount setup s.log).enteredWall = s.learningStartedWall
  fits : s.active = false → s.recentGoodPeriodFits =
    (learningAccount setup s.log).goodFits.rtake setup.args.periodLockWindow.toNat
  cooling : s.active = false → ∀ period, (learningAccount setup s.log).givenUp = some period →
    s.lastDisableTime = some s.learningStartedWall ∧ s.lastDisabledPeriod = some period

section Account

variable {setup : Setup} {reading : Reading} {observation s s' : MonitorState} {log : List LogRow}

theorem learningAccount_concat (row : LogRow) :
    learningAccount setup (log ++ [row]) = (learningAccount setup log).note setup row := by
  rw [learningAccount, List.foldl_append]
  rfl

def Unrelated (setup : Setup) (row : LogRow) : Prop :=
  row.record.isActivate = false ∧ ∀ account : LearningAccount, account.note setup row = account

def learningVariables (s : MonitorState) : Bool × Option ℚ × ℚ × List ℚ × Option ℚ × Option ℚ :=
  (s.active, s.lockedPeriod, s.learningStartedWall, s.recentGoodPeriodFits, s.lastDisableTime,
    s.lastDisabledPeriod)

theorem Learned.of_rows {rows : List LogRow} (learned : Learned setup s)
    (same : learningVariables s' = learningVariables s) (log : s'.log = s.log ++ rows)
    (unrelated : ∀ row ∈ rows, Unrelated setup row) : Learned setup s' := by
  simp only [learningVariables, Prod.mk.injEq] at same
  obtain ⟨active, lockedPeriod, started, fits, disableTime, disabledPeriod⟩ := same
  have account : learningAccount setup s'.log = learningAccount setup s.log := by
    rw [log]
    exact foldl_append_unchanged fun row member => (unrelated row member).2
  constructor
  · rw [log]
    refine along_append learned.disciplined fun row member before activates => ?_
    rw [(unrelated row member).1] at activates
    cases activates
  · rw [account, lockedPeriod]
    exact learned.episode
  · rw [active, lockedPeriod]
    exact learned.locked
  · rw [active, account, started]
    exact learned.entered
  · rw [active, account, fits]
    exact learned.fits
  · rw [active, account, started, disableTime, disabledPeriod]
    exact learned.cooling

theorem Learned.of_row {row : LogRow} (learned : Learned setup s)
    (same : learningVariables s' = learningVariables s) (log : s'.log = s.log ++ [row])
    (unrelated : Unrelated setup row) : Learned setup s' :=
  learned.of_rows same log (List.forall_mem_singleton.mpr unrelated)

theorem Learned.of_same (learned : Learned setup s) (same : learningVariables s' = learningVariables s)
    (log : s'.log = s.log) : Learned setup s' :=
  learned.of_rows same (by rw [log, List.append_nil]) (by simp)

theorem Learned.relearn {nowWall : ℚ} {reason : RelearnReason} (learned : Learned setup s)
    (forgets : Forgets nowWall reason s s') : Learned setup s' := by
  have account : learningAccount setup s'.log = ⟨nowWall, s.lockedPeriod, [], none⟩ := by
    rw [forgets.log, learningAccount_concat, ← learned.episode]
    rfl
  constructor
  · rw [forgets.log]
    refine along_append learned.disciplined fun row member before activates => ?_
    rw [List.mem_singleton.mp member] at activates
    cases activates
  · rw [account, forgets.lockedPeriod]
  · rw [forgets.active, forgets.lockedPeriod]
    rfl
  · intro _
    rw [account, forgets.learningStartedWall]
  · intro _
    rw [account, forgets.recentGoodPeriodFits]
    simp
  · intro _ period givenUp
    rw [account] at givenUp
    change s.lockedPeriod = some period at givenUp
    rw [forgets.lastDisableTime, forgets.lastDisabledPeriod, forgets.learningStartedWall, givenUp]
    exact ⟨rfl, rfl⟩

theorem learningFitGood_iff (fit : PeriodFit) (found : observation.fit setup reading = some fit) :
    MonitorState.learningFitGood setup fit = meetsThresholds setup fit := by
  have residuals : fit.p95ResidualS ≤ setup.args.periodToleranceMs / 1000 := (observedFit_pass found).p95_le
  simp [MonitorState.learningFitGood, MonitorState.activeStructureGood, meetsThresholds, residuals]

theorem Learned.fitted (learned : Learned setup s) (atLeastOne : 1 ≤ setup.args.periodLockWindow) :
    Learned setup (s.fitted setup reading (observation.fit setup reading)) := by
  cases found : observation.fit setup reading with
  | none => exact learned
  | some fit =>
      have window : (max 1 setup.args.periodLockWindow).toNat = setup.args.periodLockWindow.toNat := by
        rw [max_eq_right atLeastOne]
      rw [fitted_shape, learningFitGood_iff fit found, window]
      have disciplined : Along (Disciplined setup) (s.log ++ [s.row reading.wall (.fit fit)]) :=
        along_concat.mpr ⟨learned.disciplined, fun activates => by cases activates⟩
      have account : learningAccount setup (s.log ++ [s.row reading.wall (.fit fit)]) =
          if meetsThresholds setup fit then
            { learningAccount setup s.log with
              goodFits := (learningAccount setup s.log).goodFits ++ [fit.periodS] }
          else learningAccount setup s.log := learningAccount_concat _
      cases meets : meetsThresholds setup fit with
      | false =>
          simp only [meets, Bool.false_eq_true, if_false] at account
          simp only [Bool.false_eq_true, and_false, if_false]
          constructor
          · exact disciplined
          · rw [account]
            exact learned.episode
          · exact learned.locked
          · rw [account]
            exact learned.entered
          · rw [account]
            exact learned.fits
          · rw [account]
            exact learned.cooling
      | true =>
          simp only [meets, if_true] at account
          constructor
          · exact disciplined
          · rw [account]
            exact learned.episode
          · exact learned.locked
          · rw [account]
            exact learned.entered
          · intro inactive
            have collected := learned.fits inactive
            change s.active = false at inactive
            simp only [account, inactive, true_and, if_true, collected]
            exact dequeAppend_rtake _ _ _
          · rw [account]
            exact learned.cooling

theorem Learned.activate {fit : PeriodFit} {period anchor : ℚ} (learned : Learned setup s)
    (good : s.goodFit setup reading fit = true) (middle : median s.recentGoodPeriodFits = some period)
    (locks : Locks setup reading fit period anchor s s') : Learned setup s' := by
  simp only [MonitorState.goodFit, decide_eq_true_eq] at good
  obtain ⟨inactive, -, learnedLongEnough, allowed, enough⟩ := good
  have entered := learned.entered inactive
  have fits := learned.fits inactive
  obtain ⟨programmed, log⟩ := locks.log
  have notLearning (inactive : s'.active = false) : False := by
    rw [locks.active] at inactive
    cases inactive
  constructor
  · rw [log, along_concat]
    refine ⟨learned.disciplined, fun _ => ⟨?_, ?_, ?_, period, rfl, ?_⟩⟩
    · rw [entered]
      exact learnedLongEnough
    · intro givenUp ended cycles
      obtain ⟨time, disabled⟩ := learned.cooling inactive givenUp ended
      simp only [MonitorState.reactivationAllowed, time, disabled, decide_eq_true_eq] at allowed
      rw [entered]
      exact allowed.resolve_left (not_le.mpr cycles)
    · have atMost : s.recentGoodPeriodFits.length ≤ (learningAccount setup s.log).goodFits.length := by
        rw [fits, List.rtake]
        simp
      omega
    · rw [← fits]
      exact middle
  · rw [log, learningAccount_concat, locks.lockedPeriod]
    rfl
  · rw [locks.active, locks.lockedPeriod]
    rfl
  · exact fun off => (notLearning off).elim
  · exact fun off => (notLearning off).elim
  · exact fun off => (notLearning off).elim

theorem lockCandidate_median {commonTimes : List ℚ} {period anchor : ℚ}
    (candidate : s.lockCandidate setup commonTimes = .ok (some (period, anchor))) :
    median s.recentGoodPeriodFits = some period := by
  unfold MonitorState.lockCandidate at candidate
  dsimp only at candidate
  split at candidate
  · cases candidate
  · rename_i middle found
    simp only [Except.ok.injEq, Option.bind_eq_bind, Option.bind_eq_some_iff] at candidate
    obtain ⟨latticeAnchor, -, newest, -, pair⟩ := candidate
    cases pair
    exact found

theorem Learned.turn (learned : Learned setup s) (atLeastOne : 1 ≤ setup.args.periodLockWindow)
    (turn : Turn setup reading observation s s') : Learned setup s' := by
  cases turn with
  | restart => exact learned.of_same rfl rfl
  | validate => exact learned.of_row rfl rfl ⟨rfl, fun _ => rfl⟩
  | readProbe ok =>
      obtain ⟨states, procs, rows, rfl, candidates⟩ := readProbe_shape ok
      refine learned.of_rows rfl rfl fun row member => ?_
      obtain ⟨target, event, gap, threshold, record⟩ := candidates row member
      simp [Unrelated, LearningAccount.note, LogRecord.isActivate, record]
  | schedule => exact learned.of_same rfl rfl
  | fit => exact learned.fitted atLeastOne
  | activate _ good candidate ok => exact learned.activate good (lockCandidate_median candidate) (activate_locks ok)
  | countMismatch =>
      obtain ⟨mismatches, same⟩ := countMismatch_shape
      rw [same]
      exact learned.of_same rfl rfl
  | checkPhase _ _ _ _ anchored ok =>
      rcases checkPhase_shape anchored ok with rfl | ⟨_, _, _, _, _, _, -, rfl⟩
      · exact learned
      · exact learned.of_row rfl rfl ⟨rfl, fun _ => rfl⟩
  | relearn ok => exact learned.relearn (enterLearning_forgets ok)
  | sleep =>
      have succeeded : Learned setup (s.logged reading.wall (.sessionSuccess s.sessionSource)) :=
        learned.of_row rfl rfl ⟨rfl, fun _ => rfl⟩
      exact succeeded.of_row rfl rfl ⟨rfl, fun _ => rfl⟩

theorem Learned.moment (learned : Learned setup s) (atLeastOne : 1 ≤ setup.args.periodLockWindow)
    (moment : Moment setup reading observation s s') : Learned setup s' := by
  cases moment with
  | recordCommon common =>
      rcases recordCommon_shape with ⟨-, same⟩ | ⟨-, states, same⟩
      · rw [same]
        exact learned
      · rw [same]
        exact learned.of_row rfl rfl ⟨rfl, fun _ => rfl⟩
  | turn turn => exact learned.turn atLeastOne turn

theorem start_learned {net : Net} {startWall startMono : ℚ} {starts : Starts}
    (started : start setup net startWall startMono starts = .ok (some s)) : Learned setup s := by
  obtain ⟨after, rfl⟩ := start_shape started
  constructor
  · exact along_concat.mpr ⟨along_nil, fun activates => by cases activates⟩
  · rfl
  · rfl
  · exact fun _ => rfl
  · intro _
    simp [initialState, MonitorState.logged, MonitorState.row, learningAccount, LearningAccount.note]
  · intro _ period givenUp
    cases givenUp

theorem visits_learned {first : MonitorState} (atLeastOne : 1 ≤ setup.args.periodLockWindow)
    (learned : Learned setup first) (visited : Visits setup first s) : Learned setup s := by
  induction visited with
  | start => exact learned
  | moment _ moment ih => exact ih.moment atLeastOne moment

end Account

theorem ofArgs_periodLockWindow (args : Args) (targets : List String) :
    1 ≤ (Setup.ofArgs args targets).args.periodLockWindow :=
  (le_max_left 1 args.periodLockMinFits).trans (le_max_left _ args.periodLockWindow)

/-- In every run each activation comes long enough after LEARNING was entered, waits out the cooldown
of the episode that ended there, has enough good fits since, and locks the median of the last of them.
The log accounts for every activation: it has an episode under way exactly while ACTIVE. -/
theorem activations_disciplined (args : Args) (targets : List String) (net : Net) (startWall startMono : ℚ)
    (starts : Starts) (first s : MonitorState)
    (started : start (.ofArgs args targets) net startWall startMono starts = .ok (some first))
    (reached : Reaches (MonitorState.iteration (.ofArgs args targets)) first s) :
    Along (Disciplined (.ofArgs args targets)) s.log ∧
    s.active = (learningAccount (.ofArgs args targets) s.log).episode.isSome := by
  have learned := visits_learned (ofArgs_periodLockWindow args targets) (start_learned started)
    (visits_of_reaches reached)
  refine ⟨learned.disciplined, ?_⟩
  rw [learned.episode]
  exact learned.locked

theorem eager_activation_disciplined :
    ∃ s, Reaches (MonitorState.iteration eagerSetup) eagerStart s ∧ s.active = true ∧
      Along (Disciplined eagerSetup) s.log := by
  obtain ⟨s, ok, active⟩ := eagerStart_activates
  have reached : Reaches (MonitorState.iteration eagerSetup) eagerStart s := .tail .refl ok
  exact ⟨s, reached, active, (activations_disciplined _ ["1.1.1.1"] tcpSkInit 0 0 (fun _ => true) eagerStart s
    eagerStart_started reached).1⟩

end StarlinkTcp.Proof

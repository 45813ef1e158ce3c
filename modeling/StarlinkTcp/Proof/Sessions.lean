import StarlinkTcp.Proof.Coupling
import StarlinkTcp.Proof.Moments

/-!
# Sessions are resolved

The verdict on a probing session is written twice in the loop, before an analysis and after it. Either
copy gives the same transitions, and no path around them leaves a session past its deadline open.
-/

namespace StarlinkTcp.Monitor

structure SessionView where
  active : Bool
  probeMode : ProbeMode
  lockedPeriod : Option ℚ
  phaseAnchor : Option ℚ
  lastValidEvent : Option ℚ
  sessionStartedWall : Option ℚ
  sessionDeadlineMono : Option ℚ
  sessionValidEvents : ℤ

def MonitorState.session (s : MonitorState) : SessionView where
  active := s.active
  probeMode := s.probeMode
  lockedPeriod := s.lockedPeriod
  phaseAnchor := s.phaseAnchor
  lastValidEvent := s.lastValidEvent
  sessionStartedWall := s.sessionStartedWall
  sessionDeadlineMono := s.sessionDeadlineMono
  sessionValidEvents := s.sessionValidEvents

end StarlinkTcp.Monitor

namespace StarlinkTcp.Proof
open Kernel Machine Monitor

variable {setup : Setup} {reading : Reading} {observation s s' : MonitorState}

/-! ## Logging leaves the session alone -/

theorem recordCommon_session {event : CommonEvent} :
    (s.recordCommon setup reading event).session = s.session := by
  rcases recordCommon_shape with ⟨-, same⟩ | ⟨-, states, same⟩
  · rw [same]
  · rw [same]
    rfl

theorem fitted_session (fit : Option PeriodFit) : (s.fitted setup reading fit).session = s.session := by
  cases fit with
  | none => rfl
  | some fit =>
      rw [fitted_shape]
      rfl

theorem prepared_session : (s.prepared setup reading).session = s.session := by
  apply (fitted_session _).trans
  exact List.foldlRecOn (motive := fun t : MonitorState => t.session = s.session) _ _ rfl
    (fun _ same _ _ => recordCommon_session.trans same)

theorem countMismatch_session {fit : Option PeriodFit} {period : ℚ} :
    (s.countMismatch setup fit period).session = s.session := by
  obtain ⟨mismatches, same⟩ := countMismatch_shape
  rw [same]
  rfl

/-! ## Modes -/

structure Modes (s : MonitorState) : Prop where
  learning : s.session.active = false ↔ s.session.probeMode = .learning
  locked : s.session.active = true → s.session.lockedPeriod.isSome ∧ s.session.phaseAnchor.isSome

theorem Modes.of_session (modes : Modes s) (same : s'.session = s.session) : Modes s' := by
  constructor
  · rw [same]
    exact modes.learning
  · rw [same]
    exact modes.locked

theorem Modes.of_mode (modes : Modes s) (active : s.active = true) (mode : s'.probeMode ≠ .learning)
    (sameActive : s'.active = s.active) (lockedPeriod : s'.lockedPeriod = s.lockedPeriod)
    (phaseAnchor : s.phaseAnchor.isSome → s'.phaseAnchor.isSome) : Modes s' := by
  obtain ⟨period, anchor⟩ := modes.locked active
  constructor
  · constructor
    · intro inactive
      exact absurd (sameActive.symm.trans inactive) (by simp [active])
    · exact fun learning => absurd learning mode
  · intro _
    refine ⟨?_, phaseAnchor anchor⟩
    change s'.lockedPeriod.isSome
    rw [lockedPeriod]
    exact period

theorem Modes.turn (modes : Modes s) (turn : Turn setup reading observation s s') : Modes s' := by
  cases turn with
  | restart => exact modes.of_session rfl
  | validate active asleep _ _ _ =>
      exact modes.of_mode active (by simp [MonitorState.validated, MonitorState.logged]) rfl rfl id
  | readProbe ok =>
      obtain ⟨states, procs, rows, rfl, -⟩ := readProbe_shape ok
      exact modes.of_session rfl
  | schedule => exact modes.of_session rfl
  | fit => exact modes.of_session (fitted_session _)
  | activate _ good candidate ok =>
      have locks := activate_locks ok
      constructor
      · simp only [MonitorState.session, locks.active, locks.probeMode]
        decide
      · intro _
        simp only [MonitorState.session, locks.lockedPeriod, locks.phaseAnchor, Option.isSome_some, and_self]
  | countMismatch => exact modes.of_session countMismatch_session
  | checkPhase _ _ active _ anchored ok =>
      rcases checkPhase_shape anchored ok with rfl | ⟨newest, _, _, _, _, _, -, rfl⟩
      · exact modes
      · apply modes.of_mode active
        · intro learning
          have off := modes.learning.mpr learning
          exact absurd (active.symm.trans off) (by decide)
        · rfl
        · rfl
        · exact fun _ => rfl
  | relearn ok =>
      have forgets := enterLearning_forgets ok
      constructor
      · simp only [MonitorState.session, forgets.active, forgets.probeMode]
      · intro active
        exact absurd (forgets.active.symm.trans active) (by decide)
  | sleep active _ _ => exact modes.of_mode active (by simp [MonitorState.slept, MonitorState.enterSleep,
      MonitorState.logged]) rfl rfl id

theorem Modes.moment (modes : Modes s) (moment : Moment setup reading observation s s') : Modes s' := by
  cases moment with
  | recordCommon common => exact modes.of_session recordCommon_session
  | turn turn => exact modes.turn turn

theorem start_modes {net : Net} {startWall startMono : ℚ} {starts : Starts}
    (started : start setup net startWall startMono starts = .ok (some s)) : Modes s := by
  obtain ⟨after, rfl⟩ := start_shape started
  refine ⟨⟨fun _ => rfl, fun _ => rfl⟩, fun active => ?_⟩
  cases active

theorem visits_modes {first : MonitorState} (modes : Modes first) (visited : Visits setup first s) : Modes s := by
  induction visited with
  | start => exact modes
  | moment _ moment ih => exact ih.moment moment

/-! ## The two copies of the verdict -/

theorem sessionDue_of_session {nowMono : ℚ} (same : s'.session = s.session) (due : s.sessionDue nowMono = true) :
    s'.sessionDue nowMono = true := by
  have mode : s'.probeMode = s.probeMode := congrArg SessionView.probeMode same
  have deadline : s'.sessionDeadlineMono = s.sessionDeadlineMono := congrArg SessionView.sessionDeadlineMono same
  simpa only [MonitorState.sessionDue, mode, deadline] using due

theorem resolveSession_mode (ok : s.resolveSession setup reading = .ok s') :
    s'.probeMode = .activeSleep ∨ s'.probeMode = .learning := by
  unfold MonitorState.resolveSession at ok
  dsimp only at ok
  split at ok
  · cases ok
    exact .inl rfl
  · exact .inr (enterLearning_forgets ok).probeMode

theorem maintain_resolves {fit : Option PeriodFit} {commonTimes : List ℚ} {period anchor : ℚ}
    (due : s.sessionDue reading.mono = true) (anchored : s.phaseAnchor = some anchor)
    (ok : s.maintain setup reading fit commonTimes period anchor = .ok s') :
    s'.probeMode = .activeSleep ∨ s'.probeMode = .learning := by
  unfold MonitorState.maintain at ok
  dsimp only at ok
  obtain ⟨mismatches, same⟩ : ∃ periodMismatchCount, s.countMismatch setup fit period =
    { s with periodMismatchCount } := countMismatch_shape
  split at ok
  · exact .inr (enterLearning_forgets ok).probeMode
  · obtain ⟨checked, phase, ok⟩ := bind_eq_ok.mp ok
    have stillDue : checked.sessionDue reading.mono = true := by
      rw [← due]
      rcases checkPhase_shape (by rw [same]; exact anchored) phase with rfl | ⟨_, _, _, _, _, _, -, rfl⟩
      · rw [same]
        rfl
      · rw [same]
        rfl
    rw [if_pos stillDue] at ok
    exact resolveSession_mode ok

theorem conclude_resolves (modes : Modes s)
    (session : s.probeMode = .activeConfirm ∨ s.probeMode = .activeValidate)
    (past : ∃ deadline ∈ s.sessionDeadlineMono, reading.mono ≥ deadline)
    (ok : s.conclude setup reading = .ok s') : s'.probeMode = .activeSleep ∨ s'.probeMode = .learning := by
  have due : s.sessionDue reading.mono = true := by
    simp only [MonitorState.sessionDue, decide_eq_true_eq]
    exact ⟨session, past⟩
  have active : s.active = true := by
    rw [← Bool.not_eq_false]
    intro inactive
    have learning : s.probeMode = .learning := modes.learning.mp inactive
    rcases session with mode | mode <;> simp [learning] at mode
  have awake : ¬ (s.active = true ∧ s.probeMode = .activeSleep) := by
    rintro ⟨-, asleep⟩
    rcases session with mode | mode <;> simp [asleep] at mode
  unfold MonitorState.conclude at ok
  rw [if_neg awake] at ok
  split at ok
  · rw [if_pos ⟨active, due⟩] at ok
    exact resolveSession_mode ok
  · replace ok := analyse_ok ok
    obtain ⟨period, anchor, locked, anchored⟩ : ∃ period anchor, s.lockedPeriod = some period ∧
        s.phaseAnchor = some anchor := by
      obtain ⟨somePeriod, someAnchor⟩ := modes.locked active
      exact ⟨_, _, Option.eq_some_of_isSome somePeriod, Option.eq_some_of_isSome someAnchor⟩
    have same : (s.prepared setup reading).session = s.session := prepared_session
    have preparedActive : (s.prepared setup reading).active = true :=
      (congrArg SessionView.active same).trans active
    unfold MonitorState.actOnFit at ok
    split at ok
    · rename_i fit found
      have good := (Option.filter_eq_some_iff.mp found).2
      simp [MonitorState.goodFit, preparedActive] at good
    · split at ok
      · rename_i anchored
        exact maintain_resolves (sessionDue_of_session same due) anchored ok
      · rename_i unlocked
        exact absurd ((congrArg SessionView.phaseAnchor same).trans anchored)
          (unlocked _ _ preparedActive ((congrArg SessionView.lockedPeriod same).trans locked))

/-! ## Who enters a mode -/

/-- ACTIVE_SLEEP is entered from a session past its deadline with enough valid events for its own mode. -/
def SleepEarned (setup : Setup) (reading : Reading) (s : MonitorState) : Prop :=
  (s.probeMode = .activeConfirm ∧ setup.args.activeConfirmMinEvents ≤ s.sessionValidEvents ∨
    s.probeMode = .activeValidate ∧ setup.args.validationMinEvents ≤ s.sessionValidEvents) ∧
  ∃ deadline ∈ s.sessionDeadlineMono, reading.mono ≥ deadline

/-- ACTIVE_VALIDATE is entered when the sleeping monitor wakes on time with enough pings. -/
def ValidationDue (setup : Setup) (reading : Reading) (s s' : MonitorState) : Prop :=
  s.probeMode = .activeSleep ∧ (∃ due ∈ s.nextValidationMono, reading.monoPre ≥ due) ∧
  setup.args.minTargets ≤ s'.procs.length

theorem sleepEarned_of_due (due : s.sessionDue reading.mono = true)
    (enough : s.sessionNeeded setup ≤ s.sessionValidEvents) : SleepEarned setup reading s := by
  simp only [MonitorState.sessionDue, decide_eq_true_eq] at due
  obtain ⟨mode, deadline⟩ := due
  refine ⟨?_, deadline⟩
  rcases mode with confirm | validate
  · left
    simpa [MonitorState.sessionNeeded, confirm] using enough
  · right
    simpa [MonitorState.sessionNeeded, validate] using enough

theorem moment_entries (moment : Moment setup reading observation s s') :
    (s'.probeMode = .activeSleep → s.probeMode ≠ .activeSleep → SleepEarned setup reading s) ∧
    (s'.probeMode = .activeValidate → s.probeMode ≠ .activeValidate → ValidationDue setup reading s s') := by
  have keeps (same : s'.probeMode = s.probeMode) :
      (s'.probeMode = .activeSleep → s.probeMode ≠ .activeSleep → SleepEarned setup reading s) ∧
      (s'.probeMode = .activeValidate → s.probeMode ≠ .activeValidate → ValidationDue setup reading s s') := by
    rw [same]
    exact ⟨fun asleep awake => absurd asleep awake, fun validate not => absurd validate not⟩
  cases moment with
  | recordCommon common => exact keeps (congrArg SessionView.probeMode recordCommon_session)
  | turn turn =>
      cases turn with
      | validate _ asleep due _ enough =>
          exact ⟨fun again => (by cases again), fun _ _ => ⟨asleep, due, enough⟩⟩
      | readProbe ok =>
          obtain ⟨states, procs, rows, rfl, -⟩ := readProbe_shape ok
          exact keeps rfl
      | fit => exact keeps (congrArg SessionView.probeMode (fitted_session _))
      | activate _ _ _ ok =>
          rw [(activate_locks ok).probeMode]
          exact ⟨fun asleep => (by cases asleep), fun validate => (by cases validate)⟩
      | countMismatch => exact keeps (congrArg SessionView.probeMode countMismatch_session)
      | checkPhase _ _ _ _ anchored ok =>
          rcases checkPhase_shape anchored ok with rfl | ⟨_, _, _, _, _, _, -, rfl⟩
          · exact keeps rfl
          · exact keeps rfl
      | relearn ok =>
          rw [(enterLearning_forgets ok).probeMode]
          exact ⟨fun asleep => (by cases asleep), fun validate => (by cases validate)⟩
      | sleep _ due enough =>
          exact ⟨fun _ _ => sleepEarned_of_due due enough, fun validate => by cases validate⟩
      | _ => exact keeps rfl

/-- In every iteration of every run, a session past its deadline is resolved, and the moments the
iteration consists of enter ACTIVE_SLEEP and ACTIVE_VALIDATE only when that is earned or due. -/
theorem sessions_resolved (setup : Setup) (net : Net) (startWall startMono : ℚ) (starts : Starts)
    (first s s' : MonitorState) (started : start setup net startWall startMono starts = .ok (some first))
    (reached : Reaches (MonitorState.iteration setup) first s) (reading : Reading)
    (ok : s.iteration setup reading = .ok s') :
    ∃ observation, s.observed setup reading = .ok observation ∧
      Passes setup reading observation s observation ∧ Passes setup reading observation observation s' ∧
      (observation.probeMode = .activeConfirm ∨ observation.probeMode = .activeValidate →
        (∃ deadline ∈ observation.sessionDeadlineMono, reading.mono ≥ deadline) →
        s'.probeMode = .activeSleep ∨ s'.probeMode = .learning) ∧
      ∀ v v', Moment setup reading observation v v' →
        (v'.probeMode = .activeSleep → v.probeMode ≠ .activeSleep → SleepEarned setup reading v) ∧
        (v'.probeMode = .activeValidate → v.probeMode ≠ .activeValidate → ValidationDue setup reading v v') := by
  rw [iteration_eq_conclude, bind_eq_ok] at ok
  obtain ⟨observation, observed, conclude⟩ := ok
  have passes : Passes setup reading observation s observation := turns_passes (observed_turns observed)
  have visited : Visits setup first observation := (visits_of_reaches reached).passes passes
  have modes := visits_modes (start_modes started) visited
  exact ⟨observation, observed, passes, conclude_passes conclude,
    fun session past => conclude_resolves modes session past conclude, fun _ _ => moment_entries⟩

theorem eager_confirmation_resolved :
    ∃ s s', Reaches (MonitorState.iteration eagerSetup) eagerStart s ∧ s.probeMode = .activeConfirm ∧
      s.sessionDeadlineMono = some 40 ∧ s.iteration eagerSetup (readingAt 41 []) = .ok s' ∧
      (s'.probeMode = .activeSleep ∨ s'.probeMode = .learning) := by
  obtain ⟨s, ok, opened⟩ := exists_ok_of_succeedsWith (by decide +kernel : succeedsWith (fun s : MonitorState =>
    decide (s.probeMode = .activeConfirm ∧ s.sessionDeadlineMono = some 40) &&
      succeedsWith (fun _ => true) (s.iteration eagerSetup (readingAt 41 [])))
    (eagerStart.iteration eagerSetup periodicReading) = true)
  rw [Bool.and_eq_true, decide_eq_true_eq] at opened
  obtain ⟨⟨confirm, deadline⟩, goesOn⟩ := opened
  obtain ⟨s', again, -⟩ := exists_ok_of_succeedsWith goesOn
  have reached : Reaches (MonitorState.iteration eagerSetup) eagerStart s := .tail .refl ok
  obtain ⟨observation, observed, -, -, resolves, -⟩ := sessions_resolved eagerSetup tcpSkInit 0 0
    (fun _ => true) eagerStart s s' eagerStart_started reached (readingAt 41 []) again
  have silent : s.observed eagerSetup (readingAt 41 []) = .ok s := by
    simp only [MonitorState.observed, MonitorState.wake, confirm, reduceCtorEq, false_and, and_false, if_false]
    rfl
  cases silent.symm.trans observed
  refine ⟨s, s', reached, confirm, deadline, again, resolves (.inl confirm) ⟨40, deadline, ?_⟩⟩
  norm_num [readingAt]

end StarlinkTcp.Proof

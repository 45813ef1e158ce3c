import StarlinkTcp.Proof.LoggedOnce

/-!
# The errors behind the prediction guard

The guard is the upper end of the absolute phase errors of the last phase checks. Their history is
emptied by an activation, a validation and a relearn, not by a resynchronisation, and the guard is
computed after the resynchronisation of the same check. The log says which checks are behind the history.
The errors are those of the lattice in force as long as none of these checks has moved the anchor.
-/

namespace StarlinkTcp.Monitor
open Machine

structure GuardCheck where
  event : ℚ
  predicted : ℚ
  errorMs : ℚ
  action : PhaseAction
deriving DecidableEq, Repr

def GuardCheck.quiet (setup : Setup) (check : GuardCheck) : Bool :=
  check.action = .none ∨ setup.args.phaseResyncAlpha ≤ 0

def noteCheck (checks : List GuardCheck) (row : LogRow) : List GuardCheck :=
  match row.record with
  | .phaseCheck event _ _ predicted errorMs action => checks ++ [⟨event, predicted, errorMs, action⟩]
  | .activate _ _ _ => []
  | .relearn _ => []
  | .validationStart => []
  | _ => checks

/-- The phase checks since the history was last emptied. -/
def guardChecks (log : List LogRow) : List GuardCheck := log.foldl noteCheck []

def guardWindow (setup : Setup) : Nat := (max 1 setup.args.predictionGuardWindow).toNat

def absPhaseErrorMs (anchor period event : ℚ) : Option ℚ :=
  (signedPhaseError event anchor period).map fun error => |error.1 * 1000|

/-- A phase check up to the computation of the guard: the state the guard is computed on and the check. -/
def MonitorState.checked (setup : Setup) (nowWall : ℚ) (commonTimes : List ℚ) (period anchor : ℚ)
    (s : MonitorState) : Except MonitorError (Option (MonitorState × GuardCheck)) :=
  match (s.validEvents setup commonTimes period anchor).max? with
  | none => .ok none
  | some newest =>
      match signedPhaseError newest anchor period with
      | none => .ok none
      | some (phaseErrorS, predicted) => do
          let (synced, action) ← (s.notePhase setup newest phaseErrorS).maybeResync setup nowWall period anchor
          return some (synced, ⟨newest, predicted, phaseErrorS * 1000, action⟩)

end StarlinkTcp.Monitor

namespace StarlinkTcp.Proof
open Kernel Machine Monitor

variable {setup : Setup} {reading : Reading} {observation s s' : MonitorState}

theorem checkPhase_eq_checked {fit : Option PeriodFit} {commonTimes : List ℚ} {period anchor : ℚ} :
    s.checkPhase setup reading fit commonTimes period anchor =
      (s.checked setup reading.wall commonTimes period anchor >>= fun result =>
        match result with
        | none => .ok s
        | some (synced, check) => do
            let guarded ← synced.updatePredictionGuard setup
            return guarded.logged reading.wall (.phaseCheck check.event fit guarded.lastProgrammed
              check.predicted check.errorMs check.action)) := by
  unfold MonitorState.checkPhase MonitorState.checked
  cases (s.validEvents setup commonTimes period anchor).max? with
  | none => rfl
  | some newest =>
      dsimp only
      cases signedPhaseError newest anchor period with
      | none => rfl
      | some error =>
          dsimp only
          cases (s.notePhase setup newest error.1).maybeResync setup reading.wall period anchor with
          | error => rfl
          | ok synced => rfl

theorem checked_cases {nowWall : ℚ} {commonTimes : List ℚ} {period anchor : ℚ} {synced : MonitorState}
    {check : GuardCheck}
    (ok : s.checked setup nowWall commonTimes period anchor = .ok (some (synced, check))) :
    ∃ phaseErrorS, signedPhaseError check.event anchor period = some (phaseErrorS, check.predicted) ∧
      check.errorMs = phaseErrorS * 1000 ∧
      (s.notePhase setup check.event phaseErrorS).maybeResync setup nowWall period anchor =
        .ok (synced, check.action) := by
  unfold MonitorState.checked at ok
  split at ok
  · cases ok
  · split at ok
    · cases ok
    · rename_i phaseErrorS predicted signed
      obtain ⟨⟨after, action⟩, resync, built⟩ := bind_eq_ok.mp ok
      cases built
      exact ⟨phaseErrorS, signed, rfl, resync⟩

theorem maybeResync_guard {nowWall period anchor : ℚ} {action : PhaseAction}
    (anchored : s.phaseAnchor = some anchor)
    (ok : s.maybeResync setup nowWall period anchor = .ok (s', action)) :
    s'.phaseAbsErrorHistory = s.phaseAbsErrorHistory ∧ s'.lockedPeriod = s.lockedPeriod ∧ s'.log = s.log ∧
      (action = .none ∨ setup.args.phaseResyncAlpha ≤ 0 → s'.phaseAnchor = some anchor) := by
  rcases maybeResync_cases ok with ⟨rfl, rfl⟩ | ⟨rfl, consensus, net, lastProgrammed, -, -, rfl⟩
  · exact ⟨rfl, rfl, rfl, fun _ => anchored⟩
  · refine ⟨rfl, rfl, rfl, fun unmoved => ?_⟩
    have still : setup.args.phaseResyncAlpha ≤ 0 := unmoved.resolve_left (by simp)
    change some (anchor + consensus * min 1 (max 0 setup.args.phaseResyncAlpha)) = some anchor
    rw [max_eq_left still, min_eq_right zero_le_one, mul_zero, add_zero]

/-! ## The account -/

def MeasuredOn (s : MonitorState) (check : GuardCheck) : Prop :=
  ∃ period anchor phaseErrorS, s.lockedPeriod = some period ∧ s.phaseAnchor = some anchor ∧
    signedPhaseError check.event anchor period = some (phaseErrorS, check.predicted) ∧
    check.errorMs = phaseErrorS * 1000

structure GuardAccount (setup : Setup) (checks : List GuardCheck) (s : MonitorState) : Prop where
  history : s.phaseAbsErrorHistory = (checks.map fun check => |check.errorMs|).rtake (guardWindow setup)
  current : ∀ recent, recent <:+ checks → (∀ check ∈ recent, check.quiet setup = true) →
    ∀ check ∈ recent, MeasuredOn s check

theorem GuardAccount.empty (emptied : s.phaseAbsErrorHistory = []) : GuardAccount setup [] s where
  history := by simpa using emptied
  current recent suffix _ check member := by
    rw [List.suffix_nil.mp suffix] at member
    cases member

theorem GuardAccount.of_same {checks : List GuardCheck} (account : GuardAccount setup checks s)
    (history : s'.phaseAbsErrorHistory = s.phaseAbsErrorHistory) (lockedPeriod : s'.lockedPeriod = s.lockedPeriod)
    (phaseAnchor : s'.phaseAnchor = s.phaseAnchor) : GuardAccount setup checks s' where
  history := history.trans account.history
  current recent suffix quiet check member := by
    obtain ⟨period, anchor, phaseErrorS, locked, anchored, measured⟩ :=
      account.current recent suffix quiet check member
    exact ⟨period, anchor, phaseErrorS, lockedPeriod.trans locked, phaseAnchor.trans anchored, measured⟩

theorem GuardAccount.checked {checks : List GuardCheck} {nowWall : ℚ} {commonTimes : List ℚ}
    {period anchor : ℚ} {synced : MonitorState} {check : GuardCheck} (account : GuardAccount setup checks s)
    (locked : s.lockedPeriod = some period) (anchored : s.phaseAnchor = some anchor)
    (ok : s.checked setup nowWall commonTimes period anchor = .ok (some (synced, check))) :
    GuardAccount setup (checks ++ [check]) synced := by
  obtain ⟨phaseErrorS, signed, errorMs, resync⟩ := checked_cases ok
  obtain ⟨history, lockedPeriod, -, unmoved⟩ :=
    maybeResync_guard (s := s.notePhase setup check.event phaseErrorS) anchored resync
  constructor
  · rw [history, List.map_append, List.map_singleton, ← dequeAppend_rtake, ← account.history, errorMs]
    rfl
  · intro recent suffix quiet entry member
    rcases List.suffix_concat_iff.mp suffix with rfl | ⟨earlier, rfl, before⟩
    · cases member
    · have kept : synced.phaseAnchor = some anchor := by
        apply unmoved
        simpa [GuardCheck.quiet] using quiet check (by simp)
      have period_kept : synced.lockedPeriod = some period := lockedPeriod.trans locked
      rcases List.mem_append.mp member with old | new
      · obtain ⟨period', anchor', error, locked', anchored', measured⟩ := account.current earlier before
          (fun entry among => quiet entry (List.mem_append_left _ among)) entry old
        cases locked.symm.trans locked'
        cases anchored.symm.trans anchored'
        exact ⟨period, anchor, error, period_kept, kept, measured⟩
      · rw [List.mem_singleton.mp new]
        exact ⟨period, anchor, phaseErrorS, period_kept, kept, signed, errorMs⟩

/-! ## Every moment keeps the account -/

abbrev Guarded (setup : Setup) (s : MonitorState) : Prop := GuardAccount setup (guardChecks s.log) s

def Unchecked (row : LogRow) : Prop := ∀ checks, noteCheck checks row = checks

theorem Guarded.of_same {rows : List LogRow} (guarded : Guarded setup s)
    (history : s'.phaseAbsErrorHistory = s.phaseAbsErrorHistory) (lockedPeriod : s'.lockedPeriod = s.lockedPeriod)
    (phaseAnchor : s'.phaseAnchor = s.phaseAnchor) (log : s'.log = s.log ++ rows)
    (unchecked : ∀ row ∈ rows, Unchecked row) : Guarded setup s' := by
  have same : guardChecks s'.log = guardChecks s.log := by
    rw [log]
    exact foldl_append_unchanged unchecked
  unfold Guarded
  rw [same]
  exact GuardAccount.of_same guarded history lockedPeriod phaseAnchor

theorem guardChecks_concat (log : List LogRow) (row : LogRow) :
    guardChecks (log ++ [row]) = noteCheck (guardChecks log) row := by
  rw [guardChecks, List.foldl_append]
  rfl

theorem Guarded.emptied {row : LogRow} (emptied : s'.phaseAbsErrorHistory = [])
    (log : s'.log = s.log ++ [row]) (clears : ∀ checks, noteCheck checks row = []) : Guarded setup s' := by
  unfold Guarded
  rw [log, guardChecks_concat, clears]
  exact GuardAccount.empty emptied

theorem activate_absErrors {fit : PeriodFit} {period anchor : ℚ}
    (ok : s.activate setup reading fit period anchor = .ok s') : s'.phaseAbsErrorHistory = [] := by
  unfold MonitorState.activate at ok
  dsimp only at ok
  obtain ⟨written, writes, ok⟩ := bind_eq_ok.mp ok
  obtain ⟨net, rfl⟩ := managedWrites_shape writes
  cases ok
  rfl

theorem enterLearning_absErrors {nowWall nowMono : ℚ} {starts : Starts} {reason : RelearnReason}
    (ok : s.enterLearning setup nowWall nowMono starts reason = .ok s') : s'.phaseAbsErrorHistory = [] := by
  rw [MonitorState.enterLearning, bind_eq_ok] at ok
  obtain ⟨written, writes, ok⟩ := ok
  obtain ⟨net, rfl⟩ := managedWrites_shape writes
  cases ok
  rfl

theorem Guarded.checkPhase {fit : Option PeriodFit} {commonTimes : List ℚ} {period anchor : ℚ}
    (guarded : Guarded setup s) (locked : s.lockedPeriod = some period) (anchored : s.phaseAnchor = some anchor)
    (ok : s.checkPhase setup reading fit commonTimes period anchor = .ok s') : Guarded setup s' := by
  rw [checkPhase_eq_checked, bind_eq_ok] at ok
  obtain ⟨result, checks, ok⟩ := ok
  cases result with
  | none =>
      cases ok
      exact guarded
  | some result =>
      obtain ⟨synced, check⟩ := result
      obtain ⟨updated, guard, ok⟩ := bind_eq_ok.mp ok
      obtain ⟨net, lastPredictionGuardMs, rfl⟩ := updatePredictionGuard_shape guard
      cases ok
      have account := GuardAccount.checked guarded locked anchored checks
      have sameLog : synced.log = s.log := by
        obtain ⟨phaseErrorS, -, -, resync⟩ := checked_cases checks
        exact (maybeResync_guard (s := s.notePhase setup check.event phaseErrorS) anchored resync).2.2.1
      unfold Guarded
      simp only [MonitorState.logged]
      rw [guardChecks_concat, sameLog]
      exact account.of_same rfl rfl rfl

theorem unchecked_of_isNote {row : LogRow} (note : row.record.isNote = true) : Unchecked row := by
  intro checks
  cases record : row.record with
  | phaseCheck | activate | relearn | validationStart =>
      rw [record] at note
      cases note
  | _ => rw [noteCheck, record]

theorem Guarded.moment (guarded : Guarded setup s) (moment : Moment setup reading observation s s') :
    Guarded setup s' := by
  cases moment_shift moment with
  | keep keeps =>
      obtain ⟨rows, log, notes⟩ := keeps.log
      exact guarded.of_same keeps.phaseAbsErrorHistory keeps.lockedPeriod keeps.phaseAnchor log
        fun row member => unchecked_of_isNote (notes row member)
  | validate => exact Guarded.emptied rfl rfl fun _ => rfl
  | activate _ ok =>
      obtain ⟨programmed, log⟩ := (activate_locks ok).log
      exact Guarded.emptied (activate_absErrors ok) log fun _ => rfl
  | checkPhase _ locked anchored ok => exact guarded.checkPhase locked anchored ok
  | relearn ok => exact Guarded.emptied (enterLearning_absErrors ok) (enterLearning_forgets ok).log fun _ => rfl

theorem visits_guarded {net : Net} {startWall startMono : ℚ} {starts : Starts} {first : MonitorState}
    (started : start setup net startWall startMono starts = .ok (some first)) (visited : Visits setup first s) :
    Guarded setup s := by
  induction visited with
  | start =>
      obtain ⟨after, rfl⟩ := start_shape started
      exact GuardAccount.empty rfl
  | moment _ moment ih => exact ih.moment moment

/-! ## The list that the guard is computed on -/

def guardBasis (setup : Setup) (log : List LogRow) (check : GuardCheck) : List GuardCheck :=
  (guardChecks log ++ [check]).rtake (guardWindow setup)

theorem GuardAccount.given {checks : List GuardCheck} (account : GuardAccount setup checks s)
    {period anchor : ℚ} (locked : s.lockedPeriod = some period) (anchored : s.phaseAnchor = some anchor)
    (quiet : ∀ check ∈ checks.rtake (guardWindow setup), check.quiet setup = true) :
    s.phaseAbsErrorHistory.map some =
      (checks.rtake (guardWindow setup)).map fun check => absPhaseErrorMs anchor period check.event := by
  have recent : checks.rtake (guardWindow setup) <:+ checks := List.drop_suffix _ _
  have same : (checks.map fun check => |check.errorMs|).rtake (guardWindow setup) =
      (checks.rtake (guardWindow setup)).map fun check => |check.errorMs| := by
    rw [List.rtake, List.rtake, List.length_map, List.map_drop]
  rw [account.history, same, List.map_map]
  apply List.map_congr_left
  intro check member
  obtain ⟨period', anchor', error, locked', anchored', signed, errorMs⟩ :=
    account.current _ recent quiet check member
  cases locked.symm.trans locked'
  cases anchored.symm.trans anchored'
  rw [absPhaseErrorMs, signed, Function.comp_apply, errorMs]
  rfl

/-- Every value the guard is computed on is the error of its event against the lattice in force, unless one
of the checks behind the values has moved the anchor. -/
theorem prediction_guard_current (setup : Setup) (net : Net) (startWall startMono : ℚ) (starts : Starts)
    (first s : MonitorState) (started : start setup net startWall startMono starts = .ok (some first))
    (visited : Visits setup first s) (nowWall : ℚ) (commonTimes : List ℚ) (period anchor : ℚ)
    (locked : s.lockedPeriod = some period) (anchored : s.phaseAnchor = some anchor)
    (synced : MonitorState) (check : GuardCheck)
    (ok : s.checked setup nowWall commonTimes period anchor = .ok (some (synced, check)))
    (quiet : ∀ entry ∈ guardBasis setup s.log check, entry.quiet setup = true) :
    ∃ inForce, synced.phaseAnchor = some inForce ∧ synced.lockedPeriod = some period ∧
      synced.phaseAbsErrorHistory.map some =
        (guardBasis setup s.log check).map fun entry => absPhaseErrorMs inForce period entry.event := by
  have account := GuardAccount.checked (visits_guarded started visited) locked anchored ok
  obtain ⟨phaseErrorS, -, -, resync⟩ := checked_cases ok
  obtain ⟨-, lockedPeriod, -, unmoved⟩ :=
    maybeResync_guard (s := s.notePhase setup check.event phaseErrorS) anchored resync
  have newest : check ∈ guardBasis setup s.log check := by
    have positive : guardWindow setup = guardWindow setup - 1 + 1 := by
      unfold guardWindow
      omega
    rw [guardBasis, positive, List.rtake_concat_succ]
    simp
  have kept : synced.phaseAnchor = some anchor := by
    apply unmoved
    simpa [GuardCheck.quiet] using quiet check newest
  exact ⟨anchor, kept, lockedPeriod.trans locked, account.given (lockedPeriod.trans locked) kept quiet⟩

/-- The state before the phase check of an analysis, the times it finds and what the check makes of them. -/
def phaseCheckOf (readings : List Reading) (reading : Reading) (period anchor : ℚ) :
    Except MonitorError (MonitorState × List ℚ × Option (MonitorState × GuardCheck)) := do
  let t ← readings.foldlM (fun t reading => MonitorState.iteration guardSetup reading t) guardStart
  let observation ← t.observed guardSetup reading
  let prepared := observation.prepared guardSetup reading
  let s := prepared.countMismatch guardSetup (observation.fit guardSetup reading) period
  let commonTimes := observation.commonTimes guardSetup reading
  let result ← s.checked guardSetup reading.wall commonTimes period anchor
  return (s, commonTimes, result)

theorem phaseCheckOf_visits {readings : List Reading} {reading : Reading} {period anchor : ℚ} {s : MonitorState}
    {commonTimes : List ℚ} {result : Option (MonitorState × GuardCheck)}
    (ok : phaseCheckOf readings reading period anchor = .ok (s, commonTimes, result)) :
    Visits guardSetup guardStart s ∧ s.checked guardSetup reading.wall commonTimes period anchor = .ok result := by
  obtain ⟨t, run, ok⟩ := bind_eq_ok.mp ok
  obtain ⟨observation, observed, ok⟩ := bind_eq_ok.mp ok
  obtain ⟨result, checked, ok⟩ := bind_eq_ok.mp ok
  cases ok
  have reached := visits_of_reaches (reaches_of_foldlM _ run)
  have awake : Visits guardSetup guardStart observation :=
    reached.passes (turns_passes (@observed_turns guardSetup reading observation _ _ observed))
  have prepared : Visits guardSetup guardStart (observation.prepared guardSetup reading) :=
    awake.passes prepared_passes
  exact ⟨prepared.moment (.turn .countMismatch), checked⟩

theorem steady_guard_current :
    ∃ (s synced : MonitorState) (check : GuardCheck), Visits guardSetup guardStart s ∧
      synced.phaseAbsErrorHistory = [10, 20, 10, 20, 10] ∧
      ∃ inForce, synced.phaseAnchor = some inForce ∧ synced.phaseAbsErrorHistory.map some =
        (guardBasis guardSetup s.log check).map fun entry => absPhaseErrorMs inForce 5 entry.event := by
  obtain ⟨⟨s, commonTimes, result⟩, ok, verdict⟩ := exists_ok_of_succeedsWith (by decide +kernel :
    succeedsWith (fun (outcome : MonitorState × List ℚ × Option (MonitorState × GuardCheck)) =>
      outcome.2.2.any fun result => decide (outcome.1.lockedPeriod = some 5 ∧ outcome.1.phaseAnchor = some 12 ∧
        result.1.phaseAbsErrorHistory = [10, 20, 10, 20, 10] ∧
        ∀ entry ∈ guardBasis guardSetup outcome.1.log result.2, entry.quiet guardSetup = true))
    (phaseCheckOf (earlyChecks (1601 / 100) (2102 / 100) (2601 / 100) (3102 / 100)) (gapAfter 40 (3601 / 100)) 5 12) =
      true)
  obtain ⟨⟨synced, check⟩, rfl, facts⟩ := (Option.any_eq_true _ _).mp verdict
  obtain ⟨locked, anchored, errors, quiet⟩ := of_decide_eq_true facts
  obtain ⟨visited, checked⟩ := phaseCheckOf_visits ok
  obtain ⟨inForce, current, -, given⟩ := prediction_guard_current guardSetup tcpSkInit 0 0 (fun _ => true) guardStart
    s guardStart_started visited _ commonTimes 5 12 locked anchored synced check checked quiet
  exact ⟨s, synced, check, visited, errors, inForce, current, given⟩

/-- The third check moves the anchor from 12 s to 12.07 s. Two checks later the guard is computed on three
errors against the old anchor, and no event of the run is 60 ms off the new one. -/
theorem guard_on_replaced_anchor :
    start guardSetup tcpSkInit 0 0 (fun _ => true) = .ok (some guardStart) ∧
    guardSetup.args.autoPredictionGuard = true ∧
    ∃ s commonTimes synced check, Visits guardSetup guardStart s ∧
      s.checked guardSetup 40 commonTimes 5 (1207 / 100) = .ok (some (synced, check)) ∧
      synced.lockedPeriod = some 5 ∧ synced.phaseAnchor = some (1207 / 100) ∧
      synced.phaseAbsErrorHistory = [60, 70, 80, 0, 0] ∧
      ∀ time ∈ commonTimes, absPhaseErrorMs (1207 / 100) 5 time ≠ some 60 := by
  obtain ⟨⟨s, commonTimes, result⟩, ok, verdict⟩ := exists_ok_of_succeedsWith (by decide +kernel :
    succeedsWith (fun (outcome : MonitorState × List ℚ × Option (MonitorState × GuardCheck)) =>
      outcome.2.2.any fun result => decide (result.1.lockedPeriod = some 5 ∧
        result.1.phaseAnchor = some (1207 / 100) ∧ result.1.phaseAbsErrorHistory = [60, 70, 80, 0, 0] ∧
        ∀ time ∈ outcome.2.1, absPhaseErrorMs (1207 / 100) 5 time ≠ some 60))
    (phaseCheckOf (earlyChecks (1606 / 100) (2107 / 100) (2608 / 100) (3107 / 100)) (gapAfter 40 (3607 / 100)) 5
      (1207 / 100)) = true)
  obtain ⟨⟨synced, check⟩, rfl, facts⟩ := (Option.any_eq_true _ _).mp verdict
  obtain ⟨locked, anchored, errors, different⟩ := of_decide_eq_true facts
  obtain ⟨visited, checked⟩ := phaseCheckOf_visits ok
  exact ⟨guardStart_started, rfl, s, commonTimes, synced, check, visited, checked, locked, anchored, errors, different⟩

end StarlinkTcp.Proof

import StarlinkTcp.Machine.Journal
import StarlinkTcp.Proof.Coupling
import StarlinkTcp.Proof.Moments
import StarlinkTcp.Proof.Statistics

/-!
# Bounded phase resynchronisation

At every moment the recorded phase errors are errors against the current anchor and locked period, of
events near the lattice: the history is emptied whenever one of the two changes. The median of such
errors is small, so a resynchronisation moves the anchor little, and the log spaces it from the last one.
-/

namespace StarlinkTcp.Monitor

def LogRecord.isResync : LogRecord → Bool
  | .phaseCheck _ _ _ _ _ action => action = .resync
  | _ => false

def LogRecord.checkedEvent : LogRecord → Option ℚ
  | .phaseCheck event _ _ _ _ _ => some event
  | _ => none

end StarlinkTcp.Monitor

namespace StarlinkTcp.Proof
open Kernel Machine Monitor

def toleranceS (setup : Setup) : ℚ := setup.args.periodToleranceMs / 1000

def checkedEvents (log : List LogRow) : List ℚ := log.filterMap fun row => row.record.checkedEvent

/-- The error of one of the events, near the lattice of the current anchor and locked period. -/
def CurrentError (setup : Setup) (events : List ℚ) (s : MonitorState) (error : ℚ) : Prop :=
  ∃ event ∈ events, ∃ period anchor predicted residual, s.lockedPeriod = some period ∧ s.phaseAnchor = some anchor ∧
    signedPhaseError event anchor period = some (error, predicted) ∧
    phaseResidual event anchor period = some residual ∧ residual ≤ toleranceS setup

def lastAlignment (log : List LogRow) : Option ℚ :=
  log.foldl (fun last row => if row.record.isActivate ∨ row.record.isResync then some row.wallTime else last) none

def Spaced (setup : Setup) (before : List LogRow) (row : LogRow) : Prop :=
  row.record.isResync = true → ∃ last period, lastAlignment before = some last ∧
    row.lockedPeriod = some period ∧ setup.args.phaseResyncMinCycles * period ≤ row.wallTime - last

structure Aligned (setup : Setup) (s : MonitorState) : Prop where
  errors : ∀ error ∈ s.phaseErrorHistory, CurrentError setup (checkedEvents s.log) s error
  alignment : s.active = true → ∃ last, s.lastKernelResyncTime = some last ∧ lastAlignment s.log = some last
  spaced : Along (Spaced setup) s.log

/-! ## Medians of small errors -/

section Errors

theorem CurrentError.abs_le {setup : Setup} {events : List ℚ} {s : MonitorState} {error : ℚ}
    (current : CurrentError setup events s error) : |error| ≤ toleranceS setup := by
  obtain ⟨event, -, period, anchor, predicted, residual, -, -, signed, absolute, near⟩ := current
  unfold signedPhaseError at signed
  unfold phaseResidual at absolute
  split at signed
  · cases signed
  · rename_i positive
    rw [if_neg positive] at absolute
    cases signed
    cases absolute
    exact near

theorem consensusError_median {setup : Setup} {history : List ℚ} {consensus : ℚ}
    (crossed : MonitorState.consensusError setup history = some consensus) : median history = some consensus := by
  unfold MonitorState.consensusError at crossed
  split at crossed
  · cases crossed
  · split at crossed
    · cases crossed
    · rename_i middle found
      simp only [Option.ite_none_right_eq_some, Option.some.injEq] at crossed
      rw [← crossed.2]
      exact found

end Errors

variable {setup : Setup} {reading : Reading} {observation s s' : MonitorState}

/-! ## The history -/

theorem CurrentError.of_same {events events' : List ℚ} {error : ℚ} (current : CurrentError setup events s error)
    (lockedPeriod : s'.lockedPeriod = s.lockedPeriod) (phaseAnchor : s'.phaseAnchor = s.phaseAnchor)
    (more : events ⊆ events') : CurrentError setup events' s' error := by
  obtain ⟨event, member, period, anchor, predicted, residual, locked, anchored, rest⟩ := current
  exact ⟨event, more member, period, anchor, predicted, residual, lockedPeriod.trans locked,
    phaseAnchor.trans anchored, rest⟩

theorem checkedEvents_append (log rows : List LogRow) :
    checkedEvents (log ++ rows) = checkedEvents log ++ checkedEvents rows :=
  List.filterMap_append

theorem notePhase_errors {commonTimes : List ℚ} {period anchor newest phaseErrorS predicted : ℚ}
    (errors : ∀ error ∈ s.phaseErrorHistory, CurrentError setup (checkedEvents s.log) s error)
    (locked : s.lockedPeriod = some period) (anchored : s.phaseAnchor = some anchor)
    (valid : (s.validEvents setup commonTimes period anchor).max? = some newest)
    (signed : signedPhaseError newest anchor period = some (phaseErrorS, predicted)) :
    ∀ error ∈ (s.notePhase setup newest phaseErrorS).phaseErrorHistory,
      CurrentError setup (checkedEvents s.log ++ [newest]) (s.notePhase setup newest phaseErrorS) error := by
  intro error member
  have among : error ∈ s.phaseErrorHistory ++ [phaseErrorS] := List.mem_of_mem_drop member
  rw [List.mem_append, List.mem_singleton] at among
  rcases among with old | rfl
  · exact (errors error old).of_same rfl rfl (List.subset_append_left _ _)
  · have onTime : onLattice anchor period (toleranceS setup) newest = true := by
      have found := List.mem_filter.mp (List.max?_mem valid)
      simp only [decide_eq_true_eq] at found
      exact found.2.1
    unfold onLattice at onTime
    split at onTime
    · rename_i residual absolute
      exact ⟨newest, by simp, period, anchor, predicted, residual, locked, anchored, signed, absolute,
        of_decide_eq_true onTime⟩
    · cases onTime

structure Resynchronised (setup : Setup) (nowWall : ℚ) (s s' : MonitorState) : Prop where
  lockedPeriod : s'.lockedPeriod = s.lockedPeriod
  moved : ∃ anchor corrected middle, s.phaseAnchor = some anchor ∧ s'.phaseAnchor = some corrected ∧
    median s.phaseErrorHistory = some middle ∧ |corrected - anchor| ≤ toleranceS setup ∧
    0 ≤ (corrected - anchor) * middle
  spaced : ∃ last period, lastAlignment s.log = some last ∧ s.lockedPeriod = some period ∧
    setup.args.phaseResyncMinCycles * period ≤ nowWall - last

theorem maybeResync_resynchronised {events : List ℚ} {nowWall period anchor : ℚ}
    (errors : ∀ error ∈ s.phaseErrorHistory, CurrentError setup events s error) (locked : s.lockedPeriod = some period)
    (anchored : s.phaseAnchor = some anchor)
    (alignment : ∃ last, s.lastKernelResyncTime = some last ∧ lastAlignment s.log = some last)
    (ok : s.maybeResync setup nowWall period anchor = .ok (s', .resync)) : Resynchronised setup nowWall s s' := by
  rcases maybeResync_cases ok with ⟨unmoved, -⟩ | ⟨-, consensus, net, lastProgrammed, crossed, elapsed, rfl⟩
  · cases unmoved
  · have middle := consensusError_median crossed
    have small := abs_median_le middle fun error member => (errors error member).abs_le
    have alphaNonneg : 0 ≤ min 1 (max 0 setup.args.phaseResyncAlpha) := le_min zero_le_one (le_max_left _ _)
    have alphaLe : min 1 (max 0 setup.args.phaseResyncAlpha) ≤ 1 := min_le_left _ _
    obtain ⟨last, resynced, aligned⟩ := alignment
    simp only [MonitorState.cooldownElapsed, resynced, decide_eq_true_eq] at elapsed
    refine ⟨rfl, ⟨anchor, _, consensus, anchored, rfl, middle, ?_, ?_⟩, last, period, aligned, locked, ?_⟩
    · rw [add_sub_cancel_left, abs_mul, abs_of_nonneg alphaNonneg]
      exact (mul_le_of_le_one_right (abs_nonneg _) alphaLe).trans small
    · rw [add_sub_cancel_left, mul_right_comm]
      exact mul_nonneg (mul_self_nonneg _) alphaNonneg
    · exact elapsed last rfl

/-! ## The invariant -/

theorem lastAlignment_concat (log : List LogRow) (row : LogRow) :
    lastAlignment (log ++ [row]) =
      if row.record.isActivate ∨ row.record.isResync then some row.wallTime else lastAlignment log := by
  rw [lastAlignment, List.foldl_append]
  rfl

def Plain (row : LogRow) : Prop := row.record.isActivate = false ∧ row.record.isResync = false

theorem Aligned.of_rows {rows : List LogRow} (aligned : Aligned setup s)
    (errors : ∀ error ∈ s'.phaseErrorHistory, CurrentError setup (checkedEvents s'.log) s' error)
    (resynced : s'.active = true → s.active = true ∧ s'.lastKernelResyncTime = s.lastKernelResyncTime)
    (log : s'.log = s.log ++ rows) (plain : ∀ row ∈ rows, Plain row) : Aligned setup s' := by
  refine ⟨errors, fun active => ?_, ?_⟩
  · obtain ⟨before, time⟩ := resynced active
    have unchanged : lastAlignment s'.log = lastAlignment s.log := by
      rw [log]
      apply foldl_append_unchanged
      intro row member last
      simp [(plain row member).1, (plain row member).2]
    rw [time, unchanged]
    exact aligned.alignment before
  · rw [log]
    refine along_append aligned.spaced fun row member before resyncs => ?_
    rw [(plain row member).2] at resyncs
    cases resyncs

/-- The anchor, the locked period and the time of the last resynchronisation stay, and so does the
history, unless it is emptied. -/
theorem Aligned.of_same {rows : List LogRow} (aligned : Aligned setup s) (active : s'.active = s.active)
    (lockedPeriod : s'.lockedPeriod = s.lockedPeriod) (phaseAnchor : s'.phaseAnchor = s.phaseAnchor)
    (history : s'.phaseErrorHistory = s.phaseErrorHistory ∨ s'.phaseErrorHistory = [])
    (time : s'.lastKernelResyncTime = s.lastKernelResyncTime) (log : s'.log = s.log ++ rows)
    (plain : ∀ row ∈ rows, Plain row) : Aligned setup s' := by
  refine aligned.of_rows (fun error member => ?_) (fun on => ⟨active.symm.trans on, time⟩) log plain
  rcases history with same | emptied
  · rw [same] at member
    apply (aligned.errors error member).of_same lockedPeriod phaseAnchor
    rw [log, checkedEvents_append]
    exact List.subset_append_left _ _
  · rw [emptied] at member
    cases member

theorem Aligned.activate {fit : PeriodFit} {period anchor : ℚ} (aligned : Aligned setup s)
    (locks : Locks setup reading fit period anchor s s') : Aligned setup s' := by
  obtain ⟨programmed, log⟩ := locks.log
  constructor
  · rw [locks.phaseErrorHistory]
    simp
  · intro _
    refine ⟨reading.wall, locks.lastKernelResyncTime, ?_⟩
    rw [log, lastAlignment_concat]
    rfl
  · rw [log, along_concat]
    exact ⟨aligned.spaced, fun resyncs => by cases resyncs⟩

theorem Aligned.checkPhase {fit : Option PeriodFit} {commonTimes : List ℚ} {period anchor : ℚ}
    (aligned : Aligned setup s) (active : s.active = true) (locked : s.lockedPeriod = some period)
    (anchored : s.phaseAnchor = some anchor)
    (ok : s.checkPhase setup reading fit commonTimes period anchor = .ok s') : Aligned setup s' := by
  rcases checkPhase_cases ok with rfl | ⟨newest, phaseErrorS, predicted, synced, action, net,
    lastPredictionGuardMs, valid, signed, resync, rfl⟩
  · exact aligned
  · have errors := notePhase_errors aligned.errors locked anchored valid signed
    rcases maybeResync_cases resync with ⟨rfl, rfl⟩ | ⟨rfl, consensus, _, _, -, -, shape⟩
    · refine aligned.of_rows (fun error member => ?_) (fun on => ⟨on, rfl⟩) rfl
        (List.forall_mem_singleton.mpr ⟨rfl, rfl⟩)
      apply (errors error member).of_same rfl rfl
      simp only [MonitorState.logged]
      rw [checkedEvents_append]
      exact List.Subset.refl _
    · have resynchronised := maybeResync_resynchronised errors locked anchored (aligned.alignment active) resync
      obtain ⟨last, lockedPeriod, alignedAt, lockedAt, elapsed⟩ := resynchronised.spaced
      subst shape
      constructor
      · simp [MonitorState.logged]
      · intro _
        refine ⟨reading.wall, rfl, ?_⟩
        simp only [MonitorState.logged]
        rw [lastAlignment_concat]
        rfl
      · simp only [MonitorState.logged]
        rw [along_concat]
        exact ⟨aligned.spaced, fun _ => ⟨last, lockedPeriod, alignedAt, lockedAt, elapsed⟩⟩

theorem Aligned.relearn {nowWall : ℚ} {reason : RelearnReason} (aligned : Aligned setup s)
    (forgets : Forgets nowWall reason s s') : Aligned setup s' := by
  apply aligned.of_rows
  · rw [forgets.phaseErrorHistory]
    simp
  · intro active
    exact absurd (forgets.active.symm.trans active) (by decide)
  · exact forgets.log
  · exact List.forall_mem_singleton.mpr ⟨rfl, rfl⟩

theorem plain_of_isNote {row : LogRow} (note : row.record.isNote = true) : Plain row := by
  cases record : row.record with
  | activate | phaseCheck =>
      rw [record] at note
      cases note
  | _ =>
      rw [Plain, record]
      exact ⟨rfl, rfl⟩

theorem Aligned.moment (aligned : Aligned setup s) (moment : Moment setup reading observation s s') :
    Aligned setup s' := by
  cases moment_shift moment with
  | keep keeps =>
      obtain ⟨rows, log, notes⟩ := keeps.log
      exact aligned.of_same keeps.active keeps.lockedPeriod keeps.phaseAnchor (.inl keeps.phaseErrorHistory)
        keeps.lastKernelResyncTime log fun row member => plain_of_isNote (notes row member)
  | validate => exact aligned.of_same rfl rfl rfl (.inr rfl) rfl rfl (List.forall_mem_singleton.mpr ⟨rfl, rfl⟩)
  | activate _ ok => exact aligned.activate (activate_locks ok)
  | checkPhase active locked anchored ok => exact aligned.checkPhase active locked anchored ok
  | relearn ok => exact aligned.relearn (enterLearning_forgets ok)

theorem start_aligned {net : Net} {startWall startMono : ℚ} {starts : Starts}
    (started : start setup net startWall startMono starts = .ok (some s)) : Aligned setup s := by
  obtain ⟨after, rfl⟩ := start_shape started
  constructor
  · intro error member
    cases member
  · intro active
    cases active
  · exact along_concat.mpr ⟨along_nil, fun resyncs => by cases resyncs⟩

theorem visits_aligned {first : MonitorState} (aligned : Aligned setup first) (visited : Visits setup first s) :
    Aligned setup s := by
  induction visited with
  | start => exact aligned
  | moment _ moment ih => exact ih.moment moment

/-- At every moment of every run the recorded errors are current, the resynchronisations in the log are
spaced, and a phase check that resynchronises here moves the anchor little and keeps the period. -/
theorem phase_resync_bounded (setup : Setup) (net : Net) (startWall startMono : ℚ) (starts : Starts)
    (first s : MonitorState) (started : start setup net startWall startMono starts = .ok (some first))
    (visited : Visits setup first s) :
    (∀ error ∈ s.phaseErrorHistory, CurrentError setup (checkedEvents s.log) s error) ∧
    Along (Spaced setup) s.log ∧
    ∀ commonTimes period anchor newest phaseErrorS predicted, s.active = true →
      s.lockedPeriod = some period → s.phaseAnchor = some anchor →
      (s.validEvents setup commonTimes period anchor).max? = some newest →
      signedPhaseError newest anchor period = some (phaseErrorS, predicted) →
      (∀ error ∈ (s.notePhase setup newest phaseErrorS).phaseErrorHistory,
        CurrentError setup (checkedEvents s.log ++ [newest]) (s.notePhase setup newest phaseErrorS) error) ∧
      ∀ nowWall s', (s.notePhase setup newest phaseErrorS).maybeResync setup nowWall period anchor =
          .ok (s', .resync) →
        Resynchronised setup nowWall (s.notePhase setup newest phaseErrorS) s' := by
  have aligned := visits_aligned (start_aligned started) visited
  refine ⟨aligned.errors, aligned.spaced, ?_⟩
  intro commonTimes period anchor newest phaseErrorS predicted active locked anchored valid signed
  have errors := notePhase_errors aligned.errors locked anchored valid signed
  exact ⟨errors, fun nowWall s' ok =>
    maybeResync_resynchronised errors locked anchored (aligned.alignment active) ok⟩

/-- The anchor is 12 s. The third check finds errors of 60, 70 and 80 ms and moves it to 12.07 s. -/
theorem phase_resync_bounded_third_check :
    ∃ s s', Visits guardSetup guardStart s ∧ s.phaseErrorHistory = [6 / 100, 7 / 100] ∧
      (∀ error ∈ s.phaseErrorHistory, CurrentError guardSetup (checkedEvents s.log) s error) ∧
      s'.phaseAnchor = some (1207 / 100) ∧
      Resynchronised guardSetup 30 (s.notePhase guardSetup (2708 / 100) (8 / 100)) s' := by
  obtain ⟨s, ok, facts⟩ := exists_ok_of_succeedsWith (by decide +kernel : succeedsWith (fun s : MonitorState =>
    decide (s.active = true ∧ s.lockedPeriod = some 5 ∧ s.phaseAnchor = some 12 ∧
      s.phaseErrorHistory = [6 / 100, 7 / 100] ∧
      (s.validEvents guardSetup [2708 / 100] 5 12).max? = some (2708 / 100)) &&
      succeedsWith (fun outcome : MonitorState × PhaseAction =>
        decide (outcome.2 = .resync ∧ outcome.1.phaseAnchor = some (1207 / 100)))
        ((s.notePhase guardSetup (2708 / 100) (8 / 100)).maybeResync guardSetup 30 5 12))
      ([periodicReading, gapAfter 20 (1606 / 100), gapAfter 25 (2107 / 100)].foldlM
        (fun s reading => MonitorState.iteration guardSetup reading s) guardStart) = true)
  rw [Bool.and_eq_true] at facts
  obtain ⟨active, locked, anchored, errors, valid⟩ := of_decide_eq_true facts.1
  obtain ⟨⟨s', action⟩, resync, moved⟩ := exists_ok_of_succeedsWith facts.2
  obtain ⟨rfl, corrected⟩ := of_decide_eq_true moved
  have visited : Visits guardSetup guardStart s := visits_of_reaches (reaches_of_foldlM _ ok)
  obtain ⟨current, -, bounded⟩ := phase_resync_bounded guardSetup tcpSkInit 0 0 (fun _ => true) guardStart s
    guardStart_started visited
  have signed : signedPhaseError (2708 / 100) 12 5 = some (8 / 100, 27) := by decide +kernel
  exact ⟨s, s', visited, errors, current, corrected,
    (bounded [2708 / 100] 5 12 (2708 / 100) (8 / 100) 27 active locked anchored valid signed).2 30 s' resync⟩

end StarlinkTcp.Proof

import StarlinkTcp.Machine.Contraction
import StarlinkTcp.Proof.Evidence
import StarlinkTcp.Proof.MonitorLattice
import StarlinkTcp.Proof.PhaseResync
import StarlinkTcp.Proof.Survival

/-!
# The phase loop

The anchor is off the true phase of the handovers by some offset. As long as the checked events are
handovers with some jitter, every recorded error is the negated offset up to the jitter, and so is their
median. A resynchronisation corrects a fixed part of it, so the offset decays to the jitter, and the
boundaries of the kernel follow.
-/

namespace StarlinkTcp.Monitor
open Machine

/-- The part of the consensus error that a resynchronisation corrects. -/
def Args.phaseGain (args : Args) : ℚ := min 1 (max 0 args.phaseResyncAlpha)

def LogRecord.isRelearn : LogRecord → Bool
  | .relearn _ => true
  | _ => false

def resyncs (rows : List LogRow) : Nat := (rows.filter fun row => row.record.isResync).length

/-- Handovers come with a fixed period and phase, and are seen with some jitter. -/
structure Handovers where
  period : ℚ
  phase : ℚ
  jitter : ℚ

def Handovers.seenAt (handovers : Handovers) (event : ℚ) : Prop :=
  ∃ k : ℤ, |event - (handovers.phase + k * handovers.period)| ≤ handovers.jitter

/-- The row belongs to the episode that is going on, and if it is about an event, that is a handover. -/
structure Handovers.Steady (handovers : Handovers) (row : LogRow) : Prop where
  running : row.record.isActivate = false ∧ row.record.isRelearn = false
  handover : ∀ event ∈ row.record.checkedEvent, handovers.seenAt event

/-- The anchor is near a handover, and a boundary of the kernel that is being written is as near. -/
structure InPhase (setup : Setup) (handovers : Handovers) (bound : ℚ) (s : MonitorState) : Prop where
  active : s.active = true
  lockedPeriod : s.lockedPeriod = some handovers.period
  anchor : ∃ anchor, s.phaseAnchor = some anchor ∧
    ∃ k : ℤ, |anchor - (handovers.phase + k * handovers.period)| ≤ bound
  boundary : setup.args.writing = true → ∃ boundaryMs : ℤ,
    (s.net.tcpLeoRwndPeriodMs.toNat : ℤ) = periodMs handovers.period ∧
    (s.net.tcpLeoRwndOffsetMs.toNat : ℤ) = boundaryMs % periodMs handovers.period ∧
    ∃ k : ℤ, |(boundaryMs : ℚ) - 1000 * (handovers.phase + k * handovers.period)| ≤ 1000 * bound + 1 / 2

end StarlinkTcp.Monitor

namespace StarlinkTcp.Proof
open Kernel Machine Monitor

theorem phaseGain_bounds (args : Args) : 0 ≤ args.phaseGain ∧ args.phaseGain ≤ 1 :=
  ⟨le_min zero_le_one (le_max_left _ _), min_le_left _ _⟩

theorem phaseGain_pos {args : Args} (positive : 0 < args.phaseResyncAlpha) : 0 < args.phaseGain :=
  lt_min zero_lt_one (lt_max_of_lt_right positive)

theorem resyncs_append (first second : List LogRow) : resyncs (first ++ second) = resyncs first + resyncs second := by
  simp [resyncs]

theorem resyncs_of_none {rows : List LogRow} (none : ∀ row ∈ rows, row.record.isResync = false) : resyncs rows = 0 := by
  rw [resyncs, List.length_eq_zero_iff, List.filter_eq_nil_iff]
  intro row member
  rw [none row member]
  decide

section Errors

variable {period phase jitter : ℚ}

/-- The error of a handover against an anchor that is not too far off is the negated offset and its jitter. -/
theorem signedPhaseError_offset {event anchor offset error predicted : ℚ} {j k : ℤ} (positive : 0 < period)
    (anchored : anchor = phase + j * period + offset) (seen : |event - (phase + k * period)| ≤ jitter)
    (narrow : |offset| + jitter < period / 2)
    (signed : signedPhaseError event anchor period = some (error, predicted)) : |error + offset| ≤ jitter := by
  let wobble := event - (phase + k * period)
  have turns : (event - anchor) / period - (k - j : ℤ) = (wobble - offset) / period := by
    have lies : event - anchor = ((k : ℚ) - j) * period + (wobble - offset) := by
      simp only [wobble, anchored]
      ring
    push_cast
    rw [lies, add_div, mul_div_assoc, div_self positive.ne', mul_one, add_sub_cancel_left]
  have small : |(event - anchor) / period - (k - j : ℤ)| < 1 / 2 := by
    rw [turns, abs_div, abs_of_pos positive, div_lt_iff₀ positive]
    calc |wobble - offset| ≤ |wobble| + |offset| := abs_sub _ _
      _ ≤ jitter + |offset| := by linarith
      _ < 1 / 2 * period := by linarith
  simp only [signedPhaseError, if_neg (not_le.mpr positive), Option.some.injEq, Prod.mk.injEq,
    roundHalfEven_eq small] at signed
  have measured : error + offset = wobble := by
    rw [← signed.1, anchored]
    push_cast
    ring
  rw [measured]
  exact seen

end Errors

variable {setup : Setup} {reading : Reading} {observation s s' first : MonitorState} {handovers : Handovers}

/-- The anchor is off by at most `bound`, and the recorded errors say so up to the jitter. -/
structure Tracks (handovers : Handovers) (bound : ℚ) (s : MonitorState) : Prop where
  active : s.active = true
  lockedPeriod : s.lockedPeriod = some handovers.period
  offset : ∃ (offset : ℚ) (k : ℤ), s.phaseAnchor = some (handovers.phase + k * handovers.period + offset) ∧
    |offset| ≤ bound ∧ ∀ error ∈ s.phaseErrorHistory, |error + offset| ≤ handovers.jitter

theorem Tracks.of_same {bound : ℚ} (tracks : Tracks handovers bound s) (active : s'.active = s.active)
    (lockedPeriod : s'.lockedPeriod = s.lockedPeriod) (phaseAnchor : s'.phaseAnchor = s.phaseAnchor)
    (history : s'.phaseErrorHistory = s.phaseErrorHistory ∨ s'.phaseErrorHistory = []) :
    Tracks handovers bound s' := by
  obtain ⟨offset, k, anchored, small, errors⟩ := tracks.offset
  refine ⟨active.trans tracks.active, lockedPeriod.trans tracks.lockedPeriod, offset, k, phaseAnchor.trans anchored,
    small, fun error member => ?_⟩
  rcases history with same | emptied
  · rw [same] at member
    exact errors error member
  · rw [emptied] at member
    exact (List.not_mem_nil member).elim

/-- A consensus is the negated offset up to the jitter, as are the errors it is the median of. -/
theorem consensus_offset {history : List ℚ} {consensus offset : ℚ}
    (crossed : MonitorState.consensusError setup history = some consensus)
    (errors : ∀ error ∈ history, |error + offset| ≤ handovers.jitter) :
    |consensus + offset| ≤ handovers.jitter := by
  have bounds : -handovers.jitter - offset ≤ consensus ∧ consensus ≤ handovers.jitter - offset :=
    median_mem_bounds (consensusError_median crossed) fun error member => by
      obtain ⟨below, above⟩ := abs_le.mp (errors error member)
      constructor <;> linarith
  rw [abs_le]
  constructor <;> linarith

theorem Tracks.checkPhase {bound : ℚ} {fit : Option PeriodFit} {commonTimes : List ℚ} {anchor : ℚ}
    {rows : List LogRow} (tracks : Tracks handovers bound s) (positive : 0 < handovers.period)
    (narrow : bound + handovers.jitter < handovers.period / 2) (anchored : s.phaseAnchor = some anchor)
    (ok : s.checkPhase setup reading fit commonTimes handovers.period anchor = .ok s')
    (log : s'.log = s.log ++ rows) (steady : ∀ row ∈ rows, handovers.Steady row) :
    Tracks handovers bound s' ∧ resyncs rows = 0 ∨
      Tracks handovers ((1 - setup.args.phaseGain) * bound + setup.args.phaseGain * handovers.jitter) s' ∧
        resyncs rows = 1 := by
  rcases checkPhase_cases ok with rfl | ⟨newest, phaseErrorS, predicted, synced, action, net,
    lastPredictionGuardMs, -, signed, resync, rfl⟩
  · have none : rows = [] := List.self_eq_append_right.mp log
    rw [none]
    exact .inl ⟨tracks, rfl⟩
  · obtain ⟨offset, k, at_offset, small, errors⟩ := tracks.offset
    have anchor_eq : anchor = handovers.phase + k * handovers.period + offset := by
      rw [anchored, Option.some.injEq] at at_offset
      exact at_offset
    -- the error of a handover, and with it all errors of the history
    have noted (seen : handovers.seenAt newest) :
        ∀ error ∈ (s.notePhase setup newest phaseErrorS).phaseErrorHistory, |error + offset| ≤ handovers.jitter := by
      intro error member
      rcases mem_dequeAppend member with old | rfl
      · exact errors error old
      · obtain ⟨j, near⟩ := seen
        exact signedPhaseError_offset positive anchor_eq near (by linarith) signed
    rcases maybeResync_cases resync with ⟨rfl, rfl⟩ | ⟨rfl, consensus, _, _, crossed, -, rfl⟩
    · cases List.append_cancel_left log
      have seen := (steady _ (List.mem_singleton_self _)).handover newest rfl
      exact .inl ⟨⟨tracks.active, tracks.lockedPeriod, offset, k, at_offset, small, noted seen⟩, rfl⟩
    · cases List.append_cancel_left log
      have seen := (steady _ (List.mem_singleton_self _)).handover newest rfl
      have measured := consensus_offset crossed (noted seen)
      obtain ⟨nonneg, le_one⟩ := phaseGain_bounds setup.args
      refine .inr ⟨⟨tracks.active, tracks.lockedPeriod, offset + consensus * setup.args.phaseGain, k, ?_,
        corrected_le nonneg le_one measured small, fun error member => (List.not_mem_nil member).elim⟩, rfl⟩
      rw [← add_assoc, ← anchor_eq]
      rfl

section Episode

variable {D : ℚ}

def offsetAfter (setup : Setup) (handovers : Handovers) (D : ℚ) (rows : List LogRow) : ℚ :=
  residue setup.args.phaseGain handovers.jitter D (resyncs rows)

theorem offsetAfter_kept {rows more : List LogRow} (none : resyncs more = 0) :
    offsetAfter setup handovers D (rows ++ more) = offsetAfter setup handovers D rows := by
  rw [offsetAfter, resyncs_append, none]
  rfl

theorem offsetAfter_resynced {rows more : List LogRow} (one : resyncs more = 1) :
    offsetAfter setup handovers D (rows ++ more) =
      (1 - setup.args.phaseGain) * offsetAfter setup handovers D rows + setup.args.phaseGain * handovers.jitter := by
  rw [offsetAfter, resyncs_append, one]
  exact residue_succ _

theorem offsetAfter_narrow (narrow : D + handovers.jitter < handovers.period / 2)
    (small : 2 * handovers.jitter < handovers.period / 2) (rows : List LogRow) :
    offsetAfter setup handovers D rows + handovers.jitter < handovers.period / 2 := by
  obtain ⟨nonneg, le_one⟩ := phaseGain_bounds setup.args
  have bound := @residue_le_max _ _ _ handovers.jitter D _ _ nonneg le_one (resyncs rows)
  have largest : max D handovers.jitter < handovers.period / 2 - handovers.jitter :=
    max_lt (by linarith) (by linarith)
  unfold offsetAfter
  linarith

/-- What the log has grown by since `first`, and how far off the anchor is by then if it is steady. -/
def TracksSince (setup : Setup) (handovers : Handovers) (D : ℚ) (first s : MonitorState) : Prop :=
  ∃ rows, s.log = first.log ++ rows ∧
    ((∀ row ∈ rows, handovers.Steady row) → Tracks handovers (offsetAfter setup handovers D rows) s)

theorem TracksSince.unsteady {row : LogRow} (since : TracksSince setup handovers D first s)
    (log : s'.log = s.log ++ [row]) (ends : row.record.isActivate = true ∨ row.record.isRelearn = true) :
    TracksSince setup handovers D first s' := by
  obtain ⟨rows, grown, -⟩ := since
  refine ⟨rows ++ [row], by rw [log, grown, List.append_assoc], fun steady => ?_⟩
  have running := (steady row (by simp)).running
  rcases ends with activates | relearns
  · rw [running.1] at activates
    cases activates
  · rw [running.2] at relearns
    cases relearns

theorem TracksSince.of_same {more : List LogRow} (since : TracksSince setup handovers D first s)
    (active : s'.active = s.active) (lockedPeriod : s'.lockedPeriod = s.lockedPeriod)
    (phaseAnchor : s'.phaseAnchor = s.phaseAnchor)
    (history : s'.phaseErrorHistory = s.phaseErrorHistory ∨ s'.phaseErrorHistory = [])
    (log : s'.log = s.log ++ more) (none : ∀ row ∈ more, row.record.isResync = false) :
    TracksSince setup handovers D first s' := by
  obtain ⟨rows, grown, tracks⟩ := since
  refine ⟨rows ++ more, by rw [log, grown, List.append_assoc], fun steady => ?_⟩
  rw [offsetAfter_kept (resyncs_of_none none)]
  exact (tracks fun row member => steady row (List.mem_append_left _ member)).of_same active lockedPeriod
    phaseAnchor history

theorem TracksSince.moment (positive : 0 < handovers.period)
    (narrow : D + handovers.jitter < handovers.period / 2) (small : 2 * handovers.jitter < handovers.period / 2)
    (since : TracksSince setup handovers D first s) (moment : Moment setup reading observation s s') :
    TracksSince setup handovers D first s' := by
  cases moment_shift moment with
  | keep keeps =>
      obtain ⟨rows, log, notes⟩ := keeps.log
      exact since.of_same keeps.active keeps.lockedPeriod keeps.phaseAnchor (.inl keeps.phaseErrorHistory) log
        fun row member => (plain_of_isNote (notes row member)).2
  | validate => exact since.of_same rfl rfl rfl (.inr rfl) rfl (List.forall_mem_singleton.mpr rfl)
  | activate _ ok =>
      obtain ⟨programmed, log⟩ := (activate_locks ok).log
      exact since.unsteady log (.inl rfl)
  | relearn ok => exact since.unsteady (enterLearning_forgets ok).log (.inr rfl)
  | checkPhase active locked anchored ok =>
      obtain ⟨rows, grown, tracks⟩ := since
      obtain ⟨more, log⟩ := moment_log moment
      refine ⟨rows ++ more, by rw [log, grown, List.append_assoc], fun steady => ?_⟩
      have before := tracks fun row member => steady row (List.mem_append_left _ member)
      have period := locked.symm.trans before.lockedPeriod
      cases period
      rcases before.checkPhase positive (offsetAfter_narrow narrow small rows) anchored ok log
        (fun row member => steady row (List.mem_append_right _ member)) with ⟨after, none⟩ | ⟨after, one⟩
      · rw [offsetAfter_kept none]
        exact after
      · rw [offsetAfter_resynced one]
        exact after

theorem visits_tracksSince (positive : 0 < handovers.period)
    (narrow : D + handovers.jitter < handovers.period / 2) (small : 2 * handovers.jitter < handovers.period / 2)
    (initial : Tracks handovers D first) (visited : Visits setup first s) :
    TracksSince setup handovers D first s := by
  induction visited with
  | start =>
      refine ⟨[], (List.append_nil _).symm, fun _ => ?_⟩
      rw [offsetAfter, resyncs_of_none (by simp), residue_zero]
      exact initial
  | moment _ moment ih => exact ih.moment positive narrow small moment

end Episode

theorem inPhase_mono {bound bound' : ℚ} (inPhase : InPhase setup handovers bound s) (le : bound ≤ bound') :
    InPhase setup handovers bound' s := by
  obtain ⟨anchor, anchored, k, near⟩ := inPhase.anchor
  refine ⟨inPhase.active, inPhase.lockedPeriod, ⟨anchor, anchored, k, near.trans le⟩, fun writing => ?_⟩
  obtain ⟨boundaryMs, period, offset, j, close⟩ := inPhase.boundary writing
  exact ⟨boundaryMs, period, offset, j, close.trans (by linarith)⟩

/-- What the monitor tracks, the kernel that is coupled to it does, up to the rounding to a millisecond. -/
theorem Tracks.inPhase {bound : ℚ} (tracks : Tracks handovers bound s)
    (coupled : setup.args.writing = true → Coupled s) : InPhase setup handovers bound s := by
  obtain ⟨offset, k, anchored, small, -⟩ := tracks.offset
  have near : |handovers.phase + k * handovers.period + offset - (handovers.phase + k * handovers.period)| ≤ bound := by
    rwa [add_sub_cancel_left]
  refine ⟨tracks.active, tracks.lockedPeriod, ⟨_, anchored, k, near⟩, fun writing => ?_⟩
  obtain ⟨-, -, period, anchor, locked, kept, periodWord, offsetWord, -⟩ := (coupled writing).programmed tracks.active
  cases locked.symm.trans tracks.lockedPeriod
  cases kept.symm.trans anchored
  refine ⟨anchorMs (handovers.phase + k * handovers.period + offset), periodWord, offsetWord, k, ?_⟩
  have rounded := abs_anchorMs_sub_le (handovers.phase + k * handovers.period + offset)
  obtain ⟨below, above⟩ := abs_le.mp rounded
  obtain ⟨left, right⟩ := abs_le.mp near
  rw [abs_le]
  constructor <;> linarith

/-- Within an episode whose checked events are handovers, the anchor and the boundaries of the kernel come as
near to the handovers as their jitter, by a fixed factor with every resynchronisation. -/
theorem phase_loop_converges (setup : Setup) (net : Net) (startWall startMono : ℚ) (starts : Starts)
    (begun first : MonitorState) (started : start setup net startWall startMono starts = .ok (some begun))
    (reached : Reaches (MonitorState.iteration setup) begun first) (active : first.active = true)
    (fresh : first.phaseErrorHistory = []) (handovers : Handovers) (offset : ℚ) (k : ℤ)
    (locked : first.lockedPeriod = some handovers.period)
    (anchored : first.phaseAnchor = some (handovers.phase + k * handovers.period + offset))
    (noisy : 0 ≤ handovers.jitter) (narrow : |offset| + handovers.jitter < handovers.period / 2)
    (small : 2 * handovers.jitter < handovers.period / 2) (gain : 0 < setup.args.phaseResyncAlpha) (margin : ℚ)
    (room : 0 < margin) :
    ∃ N, ∀ s rows, Reaches (MonitorState.iteration setup) first s → s.log = first.log ++ rows →
      (∀ row ∈ rows, handovers.Steady row) →
      InPhase setup handovers (residue setup.args.phaseGain handovers.jitter |offset| (resyncs rows)) s ∧
        (N ≤ resyncs rows → InPhase setup handovers (handovers.jitter + margin) s) := by
  have positive : 0 < handovers.period := by linarith [abs_nonneg offset]
  have initial : Tracks handovers |offset| first := by
    refine ⟨active, locked, offset, k, anchored, le_rfl, ?_⟩
    rw [fresh]
    simp
  obtain ⟨N, decayed⟩ := exists_residue_le (phaseGain_pos gain) (phaseGain_bounds setup.args).2 noisy
    (abs_nonneg offset) room
  refine ⟨N, fun s rows later log steady => ?_⟩
  obtain ⟨grown, lengthened, tracks⟩ := visits_tracksSince positive narrow small initial (visits_of_reaches later)
  have same : grown = rows := List.append_cancel_left (lengthened.symm.trans log)
  rw [same] at tracks
  have inPhase := (tracks steady).inPhase fun writing => by
    obtain ⟨managed, real⟩ := of_decide_eq_true writing
    have live : setup.args.dryRun = false := by simpa using real
    exact (reaches_transition managed live later).coupled
      ((reaches_transition managed live reached).coupled (start_coupled managed live started))
  exact ⟨inPhase, fun enough => inPhase_mono inPhase (decayed _ enough)⟩

/-- Handovers every 5 s from 12.07 s on, seen up to 10 ms; the anchor is 12 s until the third check moves it. -/
theorem phase_loop_converges_third_check :
    ∃ first s rows, Reaches (MonitorState.iteration eagerSetup) eagerStart first ∧ first.phaseAnchor = some 12 ∧
      Reaches (MonitorState.iteration eagerSetup) first s ∧ s.log = first.log ++ rows ∧ resyncs rows = 1 ∧
      InPhase eagerSetup ⟨5, 1207 / 100, 1 / 100⟩
        (residue eagerSetup.args.phaseGain (1 / 100) |(-7 / 100 : ℚ)| (resyncs rows)) s := by
  obtain ⟨first, ok, seen⟩ := exists_ok_of_succeedsWith (by decide +kernel :
    succeedsWith (fun first : MonitorState => decide (first.active = true ∧ first.phaseErrorHistory = [] ∧
        first.lockedPeriod = some 5 ∧ first.phaseAnchor = some 12) &&
      succeedsWith (fun s : MonitorState => decide (s.log = first.log ++ s.log.drop first.log.length ∧
          resyncs (s.log.drop first.log.length) = 1 ∧ ∀ row ∈ s.log.drop first.log.length,
            (row.record.isActivate = false ∧ row.record.isRelearn = false) ∧
              (row.record.checkedEvent = none ∨ row.record.checkedEvent = some (1706 / 100) ∨
                row.record.checkedEvent = some (2207 / 100) ∨ row.record.checkedEvent = some (2708 / 100))))
        ([gapAfter 20 (1606 / 100), gapAfter 25 (2107 / 100), gapAfter 30 (2608 / 100)].foldlM
          (fun s reading => MonitorState.iteration eagerSetup reading s) first))
      (eagerStart.iteration eagerSetup periodicReading) = true)
  rw [Bool.and_eq_true] at seen
  obtain ⟨active, fresh, locked, anchored⟩ := of_decide_eq_true seen.1
  obtain ⟨s, run, facts⟩ := exists_ok_of_succeedsWith seen.2
  obtain ⟨log, once, rows⟩ := of_decide_eq_true facts
  have reached : Reaches (MonitorState.iteration eagerSetup) eagerStart first := .tail .refl ok
  have later : Reaches (MonitorState.iteration eagerSetup) first s := reaches_of_foldlM _ run
  have steady : ∀ row ∈ s.log.drop first.log.length, Handovers.Steady ⟨5, 1207 / 100, 1 / 100⟩ row := by
    intro row member
    obtain ⟨running, none | early | second | third⟩ := rows row member
    · exact ⟨running, by simp [none]⟩
    · exact ⟨running, by rw [early]; rintro _ ⟨⟩; exact ⟨1, by norm_num [abs_le]⟩⟩
    · exact ⟨running, by rw [second]; rintro _ ⟨⟩; exact ⟨2, by norm_num⟩⟩
    · exact ⟨running, by rw [third]; rintro _ ⟨⟩; exact ⟨3, by norm_num [abs_le]⟩⟩
  obtain ⟨N, converges⟩ := phase_loop_converges eagerSetup tcpSkInit 0 0 (fun _ => true) eagerStart first
    eagerStart_started reached active fresh ⟨5, 1207 / 100, 1 / 100⟩ (-7 / 100) 0 locked
    (by rw [anchored]; norm_num) (by norm_num) (by norm_num [abs_of_neg]) (by norm_num) (by decide +kernel)
    (1 / 1000) (by norm_num)
  exact ⟨first, s, _, reached, anchored, later, log, once, (converges s _ later log steady).1⟩

end StarlinkTcp.Proof

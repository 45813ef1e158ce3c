import StarlinkTcp.Machine.Runs
import StarlinkTcp.Proof.Anchor
import StarlinkTcp.Proof.Fundamental
import StarlinkTcp.Proof.Survival

/-!
# LEARNING ends

While the common events keep coming with a jittered period, every analysis adds a good fit near the
period. Once there are enough fits and the waiting times are over, the next analysis activates, with a
period near the true one and one of the events as the anchor, and programs the kernel with them.
-/

namespace StarlinkTcp.Proof
open Kernel Machine Monitor

/-- The arguments leave room for a period `T` with jitter `delta`. -/
structure Learnable (setup : Setup) (T delta : ℚ) : Prop where
  positive : 0 < T
  jitter : 0 ≤ delta
  covers : 2 * delta + 1 / 2000 ≤ setup.args.periodToleranceMs / 1000
  narrow : setup.args.periodToleranceMs / 1000 ≤ T / 10
  low : setup.args.periodMin ≤ T - delta
  high : T + delta ≤ setup.args.periodMax
  multiples : 1 ≤ setup.args.maxMultiple
  penalty : 1 / 10 ^ 6 ≤ setup.args.skipPenalty
  score : setup.args.minScore ≤ 1
  fitRatio : setup.args.minFitRatio ≤ 1
  minFits : 1 ≤ setup.args.periodLockMinFits
  window : setup.args.periodLockMinFits ≤ setup.args.periodLockWindow

/-- What an analysis sees: enough common events, each a jittered period after the one before. -/
structure Evident (setup : Setup) (T delta : ℚ) (times : List ℚ) : Prop where
  three : 3 ≤ times.length
  enough : setup.args.minEvents ≤ times.length
  near : ∀ pair ∈ times.zip times.tail, |pair.2 - pair.1 - T| ≤ delta

/-- The first `n + 1` iterations of a run, each cut where its probes have been read. -/
structure Iterations (setup : Setup) (readings : Nat → Reading) (observations states : Nat → MonitorState)
    (n : Nat) : Prop where
  observed : ∀ k ≤ n, (states k).observed setup (readings k) = .ok (observations k)
  concluded : ∀ k ≤ n, (observations k).conclude setup (readings k) = .ok (states (k + 1))

/-- What an activation near the true period leaves behind. -/
structure Activates (setup : Setup) (T delta : ℚ) (times : List ℚ) (s : MonitorState) : Prop where
  active : s.active = true
  lattice : ∃ period anchor, s.lockedPeriod = some period ∧ s.phaseAnchor = some anchor ∧
    |period - T| ≤ delta + 1 / 10 ^ 9 ∧ anchor ∈ times
  programmed : setup.args.writing = true → Programmed s.coupling

section Evidence

variable {setup : Setup} {reading : Reading} {T delta : ℚ} {times : List ℚ}

theorem Learnable.tolerance (learnable : Learnable setup T delta) : 0 ≤ setup.args.periodToleranceMs / 1000 := by
  linarith [learnable.covers, learnable.jitter]

theorem Learnable.near_pos (learnable : Learnable setup T delta) {period : ℚ}
    (near : |period - T| ≤ delta + 1 / 10 ^ 9) : 0 < period := by
  have lower := (abs_le.mp near).1
  have small : (1 : ℚ) / 10 ^ 9 ≤ 1 / 2000 := by norm_num
  linarith [learnable.covers, learnable.narrow, learnable.positive, learnable.jitter]

theorem Evident.fit (learnable : Learnable setup T delta) (evident : Evident setup T delta times)
    (reading : Reading) : ∃ fit, MonitorState.observedFit setup reading times = some fit ∧
      MonitorState.learningFitGood setup fit = true ∧ |fit.periodS - T| ≤ delta + 1 / 10 ^ 9 := by
  obtain ⟨jittered, count⟩ :=
    jittered_eventIntervals learnable.jitter learnable.covers learnable.narrow evident.near
  have three := evident.three
  have some_interval : eventIntervals times ≠ [] := by
    rw [← List.length_pos_iff, count]
    omega
  let candidates := periodCandidates (eventIntervals times) setup.args.periodMin setup.args.periodMax
    setup.args.maxMultiple
  have enumerated {candidate : ℚ} : candidate ∈ reading.order.enumerate candidates ↔ candidate ∈ candidates :=
    (reading.order.perm _).mem_iff
  obtain ⟨candidate, member, close⟩ :=
    jittered.exists_near_candidate learnable.multiples some_interval learnable.low learnable.high
  obtain ⟨fit, best, fundamental⟩ := jittered.fold_fundamental learnable.positive learnable.multiples
    learnable.penalty some_interval (reading.order.enumerate candidates) none
    (fun candidate member => jittered.candidate_cases (enumerated.mp member))
    (.inr ⟨by simp, candidate, enumerated.mpr member, close⟩)
  have found : MonitorState.observedFit setup reading times = some fit := by
    unfold MonitorState.observedFit estimatePeriod
    rw [if_pos evident.enough]
    dsimp only
    rw [if_neg (by omega)]
    exact best
  have residuals := (observedFit_pass found).p95_le
  refine ⟨fit, found, ?_, fundamental.period⟩
  simp only [MonitorState.learningFitGood, MonitorState.activeStructureGood, decide_eq_true_eq, fundamental.score,
    fundamental.fitRatio]
  exact ⟨learnable.score, learnable.fitRatio, residuals⟩

/-- There is an anchor as soon as there is an event. -/
theorem exists_anchor {period toleranceS : ℚ} (some_event : times ≠ []) (positive : 0 < period)
    (tolerance : 0 ≤ toleranceS) :
    ∃ latticeAnchor anchor, chooseInitialAnchor times period toleranceS = some latticeAnchor ∧
      newestPhaseConsistentEvent times latticeAnchor period toleranceS = some anchor ∧ anchor ∈ times := by
  obtain ⟨b, among, best, -⟩ := bestInliers_spec some_event positive tolerance
  have supported : b ∈ times.filter (onLattice b period toleranceS) :=
    List.mem_filter.mpr ⟨among, onLattice_self positive tolerance b⟩
  obtain ⟨latticeAnchor, latest⟩ : ∃ latticeAnchor, chooseInitialAnchor times period toleranceS =
      some latticeAnchor := by
    rw [chooseInitialAnchor, best]
    exact Option.isSome_iff_exists.mp (List.isSome_max?_of_mem supported)
  have member : latticeAnchor ∈ times := by
    rw [chooseInitialAnchor, best] at latest
    exact (List.mem_filter.mp (List.max?_mem latest)).1
  have consistent : latticeAnchor ∈ times.filter (onLattice latticeAnchor period toleranceS) :=
    List.mem_filter.mpr ⟨member, onLattice_self positive tolerance latticeAnchor⟩
  obtain ⟨anchor, newest⟩ : ∃ anchor, newestPhaseConsistentEvent times latticeAnchor period toleranceS = some anchor :=
    Option.isSome_iff_exists.mp (List.isSome_max?_of_mem consistent)
  exact ⟨latticeAnchor, anchor, latest, newest, (List.mem_filter.mp (List.max?_mem newest)).1⟩

end Evidence

/-! ## While learning -/

section Learning

variable {setup : Setup} {reading : Reading} {first observation s s' : MonitorState} {T delta : ℚ}

theorem observed_learning (inactive : s.active = false) (ok : s.observed setup reading = .ok s') :
    learningVariables s' = learningVariables s := by
  obtain ⟨woken, wake, probes⟩ := bind_eq_ok.mp ok
  have same : s.wake setup reading = .ok s := by simp [MonitorState.wake, inactive]
  rw [same] at wake
  cases wake
  refine foldlM_unchanged learningVariables (fun ok => ?_) probes
  obtain ⟨states, procs, rows, rfl, -⟩ := readProbe_shape ok
  rfl

theorem recorded_learning (events : List CommonEvent) (s : MonitorState) :
    learningVariables (events.foldl (MonitorState.recordCommon setup reading) s) = learningVariables s := by
  refine foldl_unchanged learningVariables (fun t event => ?_) events s
  rcases recordCommon_shape with ⟨-, same⟩ | ⟨-, states, same⟩
  · rw [same]
  · rw [same]
    rfl

theorem length_dequeAppend {α : Type} (maxlen : Nat) (xs : List α) (x : α) :
    (dequeAppend maxlen xs x).length = min maxlen (xs.length + 1) := by
  simp only [dequeAppend, List.length_drop, List.length_append, List.length_singleton]
  omega

/-- LEARNING since the state `first`, with good fits only near the period, one from each of the last
`analyses` analyses as far as the window reaches. -/
structure Gathering (setup : Setup) (T delta : ℚ) (first : MonitorState) (analyses : Nat) (s : MonitorState) :
    Prop where
  inactive : s.active = false
  near : ∀ period ∈ s.recentGoodPeriodFits, |period - T| ≤ delta + 1 / 10 ^ 9
  gathered : min setup.args.periodLockWindow.toNat analyses ≤ s.recentGoodPeriodFits.length
  started : s.learningStartedWall = first.learningStartedWall
  disableTime : s.lastDisableTime = first.lastDisableTime
  disabledPeriod : s.lastDisabledPeriod = first.lastDisabledPeriod

variable {analyses : Nat}

theorem Gathering.of_same (gathering : Gathering setup T delta first analyses s)
    (same : learningVariables s' = learningVariables s) : Gathering setup T delta first analyses s' := by
  simp only [learningVariables, Prod.mk.injEq] at same
  obtain ⟨active, -, started, fits, disableTime, disabledPeriod⟩ := same
  constructor
  · rw [active]
    exact gathering.inactive
  · rw [fits]
    exact gathering.near
  · rw [fits]
    exact gathering.gathered
  · rw [started]
    exact gathering.started
  · rw [disableTime]
    exact gathering.disableTime
  · rw [disabledPeriod]
    exact gathering.disabledPeriod

theorem Gathering.prepared (learnable : Learnable setup T delta)
    (gathering : Gathering setup T delta first analyses observation)
    (evident : Evident setup T delta (observation.commonTimes setup reading)) :
    ∃ fit, observation.fit setup reading = some fit ∧ MonitorState.learningFitGood setup fit = true ∧
      Gathering setup T delta first (analyses + 1) (observation.prepared setup reading) := by
  obtain ⟨fit, found, good, close⟩ := evident.fit learnable reading
  refine ⟨fit, found, good, ?_⟩
  let recorded := (observation.commonEvents setup reading).foldl (MonitorState.recordCommon setup reading)
    (observation.scheduled setup reading)
  have before : Gathering setup T delta first analyses recorded := by
    apply gathering.of_same
    exact recorded_learning _ _
  have prepared : observation.prepared setup reading = recorded.fitted setup reading (some fit) := by
    have same : observation.fit setup reading = some fit := found
    rw [MonitorState.prepared, same]
  have window : (max 1 setup.args.periodLockWindow).toNat = setup.args.periodLockWindow.toNat := by
    rw [max_eq_right (learnable.minFits.trans learnable.window)]
  rw [prepared, fitted_shape, if_pos ⟨before.inactive, good⟩, window]
  refine ⟨before.inactive, fun period member => ?_, ?_, before.started, before.disableTime, before.disabledPeriod⟩
  · rcases mem_dequeAppend member with earlier | rfl
    · exact before.near period earlier
    · exact close
  · have gathered := before.gathered
    change _ ≤ (dequeAppend _ _ _).length
    rw [length_dequeAppend]
    omega

/-- With enough fits the next analysis activates. -/
theorem Gathering.activates (learnable : Learnable setup T delta)
    (evident : Evident setup T delta (observation.commonTimes setup reading))
    (gathering : Gathering setup T delta first analyses (observation.prepared setup reading)) {fit : PeriodFit}
    (good : (observation.prepared setup reading).goodFit setup reading fit = true)
    (found : observation.fit setup reading = some fit)
    (ok : (observation.prepared setup reading).actOnFit setup reading (observation.fit setup reading)
      (observation.commonTimes setup reading) = .ok s') :
    Activates setup T delta (observation.commonTimes setup reading) s' := by
  have chosen : (observation.fit setup reading).filter
      (fun fit => (observation.prepared setup reading).goodFit setup reading fit) = some fit := by
    rw [found]
    exact Option.filter_some_pos good
  have some_event : observation.commonTimes setup reading ≠ [] := by
    rw [← List.length_pos_iff]
    exact lt_of_lt_of_le (by decide) evident.three
  unfold MonitorState.actOnFit at ok
  rw [chosen] at ok
  obtain ⟨candidate, locks, ok⟩ := bind_eq_ok.mp ok
  obtain ⟨period, middle⟩ : ∃ period, median (observation.prepared setup reading).recentGoodPeriodFits = some period := by
    apply exists_median
    rw [← List.length_pos_iff]
    simp only [MonitorState.goodFit, decide_eq_true_eq] at good
    have minFits := learnable.minFits
    omega
  have near : |period - T| ≤ delta + 1 / 10 ^ 9 := by
    rw [abs_le]
    have bounds : T - (delta + 1 / 10 ^ 9) ≤ period ∧ period ≤ T + (delta + 1 / 10 ^ 9) :=
      median_mem_bounds middle fun other member => by
        obtain ⟨below, above⟩ := abs_le.mp (gathering.near other member)
        constructor <;> linarith
    constructor <;> linarith
  obtain ⟨latticeAnchor, anchor, initial, newest, member⟩ :=
    exists_anchor some_event (learnable.near_pos near) learnable.tolerance
  have lattice : candidate = some (period, anchor) := by
    simp only [MonitorState.lockCandidate, middle, initial, Except.ok.injEq] at locks
    rw [← locks]
    exact congrArg (fun found => found.bind fun anchor => some (period, anchor)) newest
  rw [lattice] at ok
  have locked := activate_locks ok
  refine ⟨locked.active, ⟨period, anchor, locked.lockedPeriod, locked.phaseAnchor, near, member⟩, fun writing => ?_⟩
  obtain ⟨managed, real⟩ := of_decide_eq_true writing
  exact (activate_activated managed (by simpa using real) ok).programmed

theorem Gathering.stays {fit : PeriodFit}
    (gathering : Gathering setup T delta first analyses (observation.prepared setup reading))
    (poor : ¬ (observation.prepared setup reading).goodFit setup reading fit = true)
    (found : observation.fit setup reading = some fit)
    (ok : (observation.prepared setup reading).actOnFit setup reading (observation.fit setup reading)
      (observation.commonTimes setup reading) = .ok s') : s' = observation.prepared setup reading := by
  have none : (observation.fit setup reading).filter
      (fun fit => (observation.prepared setup reading).goodFit setup reading fit) = none := by
    rw [found]
    exact Option.filter_some_neg ((Bool.not_eq_true _).mp poor)
  unfold MonitorState.actOnFit at ok
  rw [none, gathering.inactive] at ok
  cases ok
  rfl

/-- A good fit of an analysis during LEARNING, without the bookkeeping. -/
theorem Gathering.goodFit (learnable : Learnable setup T delta)
    (gathering : Gathering setup T delta first analyses s) {fit : PeriodFit}
    (good : MonitorState.learningFitGood setup fit = true) (enough : setup.args.periodLockMinFits ≤ analyses)
    (waited : setup.args.learnSeconds ≤ reading.wall - first.learningStartedWall)
    (allowed : first.reactivationAllowed setup reading.wall = true) :
    s.goodFit setup reading fit = true := by
  have allowedNow : s.reactivationAllowed setup reading.wall = true := by
    rw [← allowed]
    simp only [MonitorState.reactivationAllowed, gathering.disableTime, gathering.disabledPeriod]
  have gathered := gathering.gathered
  have window := learnable.window
  simp only [MonitorState.goodFit, decide_eq_true_eq]
  refine ⟨gathering.inactive, good, ?_, allowedNow, ?_⟩
  · rw [gathering.started]
    exact waited
  · omega

theorem Gathering.iteration (learnable : Learnable setup T delta)
    (gathering : Gathering setup T delta first analyses s)
    (evident : observation.analyses reading = true → Evident setup T delta (observation.commonTimes setup reading))
    (observed : s.observed setup reading = .ok observation) (concluded : observation.conclude setup reading = .ok s') :
    Activates setup T delta (observation.commonTimes setup reading) s' ∨
      Gathering setup T delta first (analyses + if observation.analyses reading then 1 else 0) s' := by
  have before : Gathering setup T delta first analyses observation :=
    gathering.of_same (observed_learning gathering.inactive observed)
  have awake : ¬ (observation.active = true ∧ observation.probeMode = .activeSleep) := by
    rw [before.inactive]
    simp
  unfold MonitorState.conclude at concluded
  rw [if_neg awake] at concluded
  by_cases early : reading.mono < observation.nextAnalysis
  · have idle : ¬ (observation.active = true ∧ observation.sessionDue reading.mono = true) := by
      rw [before.inactive]
      simp
    have skipped : observation.analyses reading = false := decide_eq_false fun both => both.2 early
    rw [if_pos early, if_neg idle] at concluded
    cases concluded
    rw [skipped]
    exact .inr before
  · have analysed : observation.analyses reading = true := decide_eq_true ⟨awake, early⟩
    rw [if_neg early] at concluded
    replace concluded := analyse_ok concluded
    obtain ⟨fit, found, -, prepared⟩ := before.prepared learnable (evident analysed)
    rw [analysed]
    by_cases good : (observation.prepared setup reading).goodFit setup reading fit = true
    · exact .inl (prepared.activates learnable (evident analysed) good found concluded)
    · rw [prepared.stays good found concluded]
      exact .inr prepared

/-- The analysis that has seen enough activates. -/
theorem Gathering.due (learnable : Learnable setup T delta) (gathering : Gathering setup T delta first analyses s)
    (analysed : observation.analyses reading = true)
    (evident : Evident setup T delta (observation.commonTimes setup reading))
    (enough : setup.args.periodLockMinFits ≤ analyses + 1)
    (waited : setup.args.learnSeconds ≤ reading.wall - first.learningStartedWall)
    (allowed : first.reactivationAllowed setup reading.wall = true)
    (observed : s.observed setup reading = .ok observation) (concluded : observation.conclude setup reading = .ok s') :
    Activates setup T delta (observation.commonTimes setup reading) s' := by
  have before : Gathering setup T delta first analyses observation :=
    gathering.of_same (observed_learning gathering.inactive observed)
  obtain ⟨awake, due⟩ := of_decide_eq_true analysed
  unfold MonitorState.conclude at concluded
  rw [if_neg awake, if_neg due] at concluded
  replace concluded := analyse_ok concluded
  obtain ⟨fit, found, good, prepared⟩ := before.prepared learnable evident
  exact prepared.activates learnable evident
    (prepared.goodFit learnable good (by exact_mod_cast enough) waited allowed) found concluded

end Learning

/-- If every analysis since the entry into LEARNING sees jittered periods, the monitor has activated by the
end of the analysis that makes the fits enough after the waiting times. -/
theorem activation_guaranteed (setup : Setup) (T delta : ℚ) (learnable : Learnable setup T delta)
    (readings : Nat → Reading) (observations states : Nat → MonitorState) (n : Nat)
    (iterations : Iterations setup readings observations states n)
    (learning : (states 0).active = false) (fresh : (states 0).recentGoodPeriodFits = [])
    (evident : ∀ k ≤ n, (observations k).analyses (readings k) = true →
      Evident setup T delta ((observations k).commonTimes setup (readings k)))
    (analyses : (observations n).analyses (readings n) = true)
    (enough : setup.args.periodLockMinFits ≤ counted (fun k => (observations k).analyses (readings k)) (n + 1))
    (waited : setup.args.learnSeconds ≤ (readings n).wall - (states 0).learningStartedWall)
    (allowed : (states 0).reactivationAllowed setup (readings n).wall = true) :
    ∃ k ≤ n, Activates setup T delta ((observations k).commonTimes setup (readings k)) (states (k + 1)) := by
  have initial : Gathering setup T delta (states 0) 0 (states 0) := by
    refine ⟨learning, ?_, ?_, rfl, rfl, rfl⟩
    · rw [fresh]
      simp
    · rw [Nat.min_zero]
      exact Nat.zero_le _
  rcases goal_or_progress (Gathering setup T delta (states 0)) initial
    fun k lt units gathering => gathering.iteration learnable (evident k lt.le) (iterations.observed k lt.le)
      (iterations.concluded k lt.le) with ⟨k, lt, activated⟩ | gathering
  · exact ⟨k, lt.le, activated⟩
  · refine ⟨n, le_rfl, gathering.due learnable analyses (evident n le_rfl analyses) ?_ waited allowed
      (iterations.observed n le_rfl) (iterations.concluded n le_rfl)⟩
    rw [counted, if_pos analyses] at enough
    exact_mod_cast enough

def patientSetup : Setup := .ofArgs { eagerSetup.args with periodLockMinFits := 3 } ["1.1.1.1"]

def patientStart : MonitorState :=
  { initialState patientSetup tcpSkInit 0 0 (fun _ => true) with
    net := { tcpSkInit with tcpLeoRwndEnable := 0, tcpLeoDynamicEnable := 0 } }

/-- Gaps every 6 s up to 10 ms. -/
def jitteredReadings : Nat → Reading
  | 0 => readingAt 17 (replies "1.1.1.1" [0, 1, 4, 5, 6, 701 / 100, 1001 / 100, 11, 12, 13, 16])
  | 1 => readingAt 23 (replies "1.1.1.1" [17, 18, 1901 / 100, 22])
  | _ => readingAt 29 (replies "1.1.1.1" [23, 24, 25, 28])

/-- An iteration with the state it analyses. -/
def observedIteration (s : MonitorState) (n : Nat) : Except MonitorError (MonitorState × MonitorState) := do
  let observation ← s.observed patientSetup (jitteredReadings n)
  let next ← observation.conclude patientSetup (jitteredReadings n)
  return (observation, next)

theorem observedIteration_ok {s observation next : MonitorState} {n : Nat}
    (ok : observedIteration s n = .ok (observation, next)) :
    s.observed patientSetup (jitteredReadings n) = .ok observation ∧
      observation.conclude patientSetup (jitteredReadings n) = .ok next := by
  obtain ⟨_, observed, ok⟩ := bind_eq_ok.mp ok
  obtain ⟨_, concluded, ok⟩ := bind_eq_ok.mp ok
  cases ok
  exact ⟨observed, concluded⟩

/-- The third analysis has the fits that it takes. -/
theorem activation_guaranteed_third :
    ∃ observations states : Nat → MonitorState,
      Iterations patientSetup jitteredReadings observations states 2 ∧ states 0 = patientStart ∧
      ∃ k ≤ 2, Activates patientSetup 6 (1 / 100)
        ((observations k).commonTimes patientSetup (jitteredReadings k)) (states (k + 1)) := by
  obtain ⟨⟨o, s⟩, first, seen⟩ := exists_ok_of_succeedsWith (by decide +kernel :
    succeedsWith (fun one : MonitorState × MonitorState =>
      decide (one.1.analyses (jitteredReadings 0) = true ∧
        one.1.commonTimes patientSetup (jitteredReadings 0) = [2, 801 / 100, 14]) &&
      succeedsWith (fun two : MonitorState × MonitorState =>
        decide (two.1.analyses (jitteredReadings 1) = true ∧
          two.1.commonTimes patientSetup (jitteredReadings 1) = [2, 801 / 100, 14, 2001 / 100]) &&
        succeedsWith (fun three : MonitorState × MonitorState =>
          decide (three.1.analyses (jitteredReadings 2) = true ∧
            three.1.commonTimes patientSetup (jitteredReadings 2) = [2, 801 / 100, 14, 2001 / 100, 26]))
          (observedIteration two.2 2))
        (observedIteration one.2 1))
      (observedIteration patientStart 0) = true)
  rw [Bool.and_eq_true] at seen
  obtain ⟨analyses, times⟩ := of_decide_eq_true seen.1
  obtain ⟨⟨o', s'⟩, second, seen⟩ := exists_ok_of_succeedsWith seen.2
  rw [Bool.and_eq_true] at seen
  obtain ⟨analyses', times'⟩ := of_decide_eq_true seen.1
  obtain ⟨⟨o'', s''⟩, third, seen⟩ := exists_ok_of_succeedsWith seen.2
  obtain ⟨analyses'', times''⟩ := of_decide_eq_true seen
  let observations : Nat → MonitorState := fun k => [o, o', o''].getD k o
  let states : Nat → MonitorState := fun k => [patientStart, s, s', s''].getD k s
  have iterations : Iterations patientSetup jitteredReadings observations states 2 := by
    constructor <;> intro k le <;> obtain rfl | rfl | rfl : k = 0 ∨ k = 1 ∨ k = 2 := by omega
    · exact (observedIteration_ok first).1
    · exact (observedIteration_ok second).1
    · exact (observedIteration_ok third).1
    · exact (observedIteration_ok first).2
    · exact (observedIteration_ok second).2
    · exact (observedIteration_ok third).2
  have learnable : Learnable patientSetup 6 (1 / 100) := by
    constructor <;> decide +kernel
  have evident : ∀ k ≤ 2, (observations k).analyses (jitteredReadings k) = true →
      Evident patientSetup 6 (1 / 100) ((observations k).commonTimes patientSetup (jitteredReadings k)) := by
    intro k le analysed
    obtain rfl | rfl | rfl : k = 0 ∨ k = 1 ∨ k = 2 := by omega
    · rw [show (observations 0).commonTimes patientSetup (jitteredReadings 0) = _ from times]
      constructor <;> decide +kernel
    · rw [show (observations 1).commonTimes patientSetup (jitteredReadings 1) = _ from times']
      constructor <;> decide +kernel
    · rw [show (observations 2).commonTimes patientSetup (jitteredReadings 2) = _ from times'']
      constructor <;> decide +kernel
  have enough : counted (fun k => (observations k).analyses (jitteredReadings k)) 3 = 3 := by
    simp only [counted, show (observations 0).analyses (jitteredReadings 0) = true from analyses,
      show (observations 1).analyses (jitteredReadings 1) = true from analyses',
      show (observations 2).analyses (jitteredReadings 2) = true from analyses'', if_true]
  refine ⟨observations, states, iterations, rfl, ?_⟩
  exact activation_guaranteed patientSetup 6 (1 / 100) learnable jitteredReadings observations states 2 iterations
    rfl rfl evident analyses'' (by rw [enough]; decide) (by decide +kernel : (0 : ℚ) ≤ 29 - 0)
    (by decide +kernel : patientStart.reactivationAllowed patientSetup 29 = true)

end StarlinkTcp.Proof

import StarlinkTcp.Machine.Pairing
import StarlinkTcp.Monitor.Targets
import StarlinkTcp.Proof.Coupling
import StarlinkTcp.Proof.Moments
import StarlinkTcp.Proof.TargetChoice

/-!
# What the monitor keeps

The pings that run, the targets in use and the histories are bounded at every moment of every run, by the
arguments and the number of probe targets. Only the log and the keys of the logged common events grow.
-/

namespace StarlinkTcp.Monitor
open Machine

/-- The histories of one target are within their deques. -/
structure TargetState.Bounded (st : TargetState) : Prop where
  intervals : st.intervals.length ≤ 10000
  events : st.events.length ≤ 2048
  recentCommonSupport : st.recentCommonSupport.length ≤ 32

structure MonitorState.Bounded (setup : Setup) (s : MonitorState) : Prop where
  targets : s.currentTargets.Nodup ∧ s.currentTargets ⊆ setup.targets
  enough : setup.args.minTargets ≤ s.currentTargets.length
  procs : s.procs.Nodup ∧ s.procs ⊆ setup.targets
  /-- From the end of the confirmation on, nothing but the chosen targets is probed. -/
  pruned : s.probeMode = .activeSleep ∨ s.probeMode = .activeValidate → s.procs ⊆ s.currentTargets
  fits : s.recentGoodPeriodFits.length ≤ (max 1 setup.args.periodLockWindow).toNat
  errors : s.phaseErrorHistory.length ≤ (max 1 setup.args.phaseConsensusWindow).toNat
  absErrors : s.phaseAbsErrorHistory.length ≤ (max 1 setup.args.predictionGuardWindow).toNat
  states : ∀ target, (s.states target).Bounded

end StarlinkTcp.Monitor

namespace StarlinkTcp.Proof
open Kernel Machine Monitor

/-! ## The probe targets -/

section Targets

def named (item : String) : Option String := if item = "" then none else some item

theorem unique_eq (items : List String) : Targets.unique items = (items.map named).foldl takeOnce [] := by
  rw [Targets.unique, List.foldl_map]
  congr 1
  funext out item
  by_cases empty : item = ""
  · simp [named, empty, takeOnce]
  · simp [named, empty, takeOnce]

theorem unique_nodup (items : List String) : (Targets.unique items).Nodup := by
  rw [unique_eq]
  exact takenOnce_nodup List.nodup_nil _

theorem mem_unique {items : List String} {item : String} :
    item ∈ Targets.unique items ↔ item ∈ items ∧ item ≠ "" := by
  rw [unique_eq, mem_takenOnce, List.mem_map]
  constructor
  · rintro (absent | ⟨other, member, same⟩)
    · exact (List.not_mem_nil absent).elim
    · unfold named at same
      split at same
      · cases same
      · rename_i nonempty
        cases same
        exact ⟨member, nonempty⟩
  · rintro ⟨member, nonempty⟩
    exact .inr ⟨item, member, if_neg nonempty⟩

variable {args : TargetArgs} {discoverRouteHops : String → List String}

theorem buildProbeTargets_nodup : (Targets.buildProbeTargets args discoverRouteHops).Nodup :=
  (List.take_sublist _ _).nodup (unique_nodup _)

theorem buildProbeTargets_length :
    (Targets.buildProbeTargets args.normalizeTargets discoverRouteHops).length ≤ (max 1 args.maxTargets).toNat :=
  List.length_take_le _ _

theorem mem_buildProbeTargets {target : String}
    (member : target ∈ Targets.buildProbeTargets args.normalizeTargets discoverRouteHops) :
    target ≠ "" ∧ (target ∈ args.target ∨ target ∈ args.bootstrap ∨
      ∃ bootstrap ∈ args.bootstrap, target ∈ discoverRouteHops bootstrap) := by
  obtain ⟨among, nonempty⟩ := mem_unique.mp (List.mem_of_mem_take member)
  refine ⟨nonempty, ?_⟩
  rcases List.mem_append.mp among with given | hop
  · exact (List.mem_append.mp given).imp_right Or.inl
  · have found := (mem_unique.mp hop).1
    unfold Targets.allHops at found
    split at found
    · obtain ⟨bootstrap, reached, usable⟩ := List.mem_flatMap.mp found
      exact .inr (.inr ⟨bootstrap, reached, List.mem_of_mem_drop (List.mem_of_mem_take usable)⟩)
    · exact (List.not_mem_nil found).elim

end Targets

/-! ## Deques -/

theorem dequeAppend_length_le {α : Type} (maxlen : Nat) (xs : List α) (x : α) :
    (dequeAppend maxlen xs x).length ≤ maxlen := by
  simp only [dequeAppend, List.length_drop]
  omega

variable {setup : Setup} {reading : Reading} {observation s s' : MonitorState}

theorem bounded_mk {lastReplyTs : Option ℚ} {intervals events : List ℚ} {replies candidates common : Nat}
    {recent : List Nat} (intervalsFit : intervals.length ≤ 10000) (eventsFit : events.length ≤ 2048)
    (recentFit : recent.length ≤ 32) :
    TargetState.Bounded ⟨lastReplyTs, intervals, events, replies, candidates, common, recent⟩ :=
  ⟨intervalsFit, eventsFit, recentFit⟩

theorem addReply_bounded {settings : TargetState.GapSettings} {st st' : TargetState} {ts : ℚ}
    {candidate : Option (ℚ × ℚ × ℚ)} (bounded : st.Bounded)
    (ok : st.addReply settings ts = .ok (st', candidate)) : st'.Bounded := by
  obtain ⟨intervals, events, recent⟩ := bounded
  unfold TargetState.addReply at ok
  dsimp only at ok
  split at ok
  · cases ok
    exact bounded_mk intervals events recent
  · rename_i prev last
    split at ok
    · cases ok
      exact bounded_mk intervals events recent
    · have longer := dequeAppend_length_le 10000 st.intervals (ts - prev)
      obtain ⟨baseBefore, -, ok⟩ := bind_eq_ok.mp ok
      cases baseBefore with
      | none =>
          cases ok
          exact bounded_mk longer events recent
      | some baseline =>
          dsimp only at ok
          split at ok
          · cases ok
            exact bounded_mk longer events recent
          · split at ok
            · cases ok
              exact bounded_mk longer events recent
            · cases ok
              exact bounded_mk longer (dequeAppend_length_le _ _ _) recent

theorem resetProbeSession_bounded {states : String → TargetState} (targets : List String)
    (bounded : ∀ target, (states target).Bounded) (target : String) :
    (resetProbeSession states targets target).Bounded := by
  obtain ⟨intervals, events, recent⟩ := bounded target
  unfold resetProbeSession
  split
  · exact ⟨intervals, events, recent⟩
  · exact bounded target

theorem resetLearningTargetStats_bounded {states : String → TargetState}
    (bounded : ∀ target, (states target).Bounded) (target : String) :
    (resetLearningTargetStats states target).Bounded := by
  obtain ⟨intervals, events, -⟩ := bounded target
  exact ⟨intervals, events, Nat.zero_le _⟩

theorem recordParticipation_bounded {states : String → TargetState} (supporters : List String)
    (bounded : ∀ target, (states target).Bounded) (target : String) :
    (MonitorState.recordParticipation setup supporters states target).Bounded := by
  obtain ⟨intervals, events, -⟩ := bounded target
  unfold MonitorState.recordParticipation
  split
  · exact bounded target
  · exact ⟨intervals, events, dequeAppend_length_le _ _ _⟩

theorem startProbeProcesses_none (starts : Starts) (targets : List String) :
    startProbeProcesses starts targets [] = targets.filter starts := by
  simp [startProbeProcesses]

/-! ## One moment -/

theorem started_probes {starts : Starts} {targets : List String} (distinct : targets.Nodup) :
    (startProbeProcesses starts targets []).Nodup ∧ startProbeProcesses starts targets [] ⊆ targets := by
  rw [startProbeProcesses_none]
  exact ⟨distinct.filter _, List.filter_sublist.subset⟩

theorem bounded_enterLearning {nowWall nowMono : ℚ} {starts : Starts} {reason : RelearnReason}
    (distinct : setup.targets.Nodup) (few : setup.args.minTargets ≤ setup.targets.length)
    (bounded : s.Bounded setup) (ok : s.enterLearning setup nowWall nowMono starts reason = .ok s') :
    s'.Bounded setup := by
  rw [MonitorState.enterLearning, bind_eq_ok] at ok
  obtain ⟨written, writes, ok⟩ := ok
  obtain ⟨net, rfl⟩ := managedWrites_shape writes
  cases ok
  constructor
  case targets => exact ⟨distinct, List.Subset.refl _⟩
  case enough => exact few
  case procs => exact started_probes distinct
  case pruned =>
    rintro (asleep | validating)
    · cases asleep
    · cases validating
  case states =>
    exact resetProbeSession_bounded _ (resetLearningTargetStats_bounded bounded.states)
  all_goals exact Nat.zero_le _

theorem bounded_readProbe {event : ProbeEvent} (bounded : s.Bounded setup)
    (ok : s.readProbe setup event = .ok s') : s'.Bounded setup := by
  unfold MonitorState.readProbe at ok
  split at ok
  · cases ok
    exact bounded
  · cases output : event.output with
    | closed =>
        rw [output] at ok
        cases ok
        have fewer : s.procs.erase event.target ⊆ s.procs := List.erase_subset
        exact { bounded with
          procs := ⟨bounded.procs.1.erase _, List.Subset.trans fewer bounded.procs.2⟩
          pruned := fun mode => List.Subset.trans fewer (bounded.pruned mode) }
    | noise =>
        rw [output] at ok
        cases ok
        exact bounded
    | reply ts wall =>
        rw [output] at ok
        obtain ⟨⟨st, candidate⟩, replied, ok⟩ := bind_eq_ok.mp ok
        have states (target : String) : (Function.update s.states event.target st target).Bounded := by
          by_cases same : target = event.target
          · rw [same, Function.update_self]
            exact addReply_bounded (bounded.states event.target) replied
          · rw [Function.update_of_ne same]
            exact bounded.states target
        cases candidate with
        | none =>
            cases ok
            exact { bounded with states }
        | some found =>
            cases ok
            exact { bounded with states }

theorem chosen_targets {states : String → TargetState} {bootstraps : List String} {maxTargets : ℤ} {minRatio : ℚ}
    (distinct : setup.targets.Nodup) :
    (chooseActiveTargets states setup.targets bootstraps maxTargets minRatio).Nodup ∧
      chooseActiveTargets states setup.targets bootstraps maxTargets minRatio ⊆ setup.targets := by
  have perm := @reserved_append_other_perm states setup.targets bootstraps minRatio distinct
  have sublist : (chooseActiveTargets states setup.targets bootstraps maxTargets minRatio).Sublist
      (reservedTargets states setup.targets bootstraps minRatio ++
        otherTargets states setup.targets bootstraps minRatio) := by
    rw [chooseActiveTargets_eq distinct]
    exact (List.Sublist.refl _).append (List.take_sublist _ _)
  constructor
  · exact sublist.nodup (perm.nodup_iff.mpr (distinct.filter _))
  · intro target member
    exact (List.mem_filter.mp (perm.mem_iff.mp (sublist.subset member))).1

theorem bounded_activate {fit : PeriodFit} {period anchor : ℚ} (distinct : setup.targets.Nodup)
    (few : setup.args.minTargets ≤ setup.targets.length) (bounded : s.Bounded setup)
    (ok : s.activate setup reading fit period anchor = .ok s') : s'.Bounded setup := by
  unfold MonitorState.activate at ok
  dsimp only at ok
  obtain ⟨written, writes, ok⟩ := bind_eq_ok.mp ok
  obtain ⟨net, rfl⟩ := managedWrites_shape writes
  cases ok
  constructor
  case targets =>
    change (if _ then _ else _ : List String).Nodup ∧ (if _ then _ else _ : List String) ⊆ _
    split
    · exact chosen_targets distinct
    · exact ⟨distinct, List.Subset.refl _⟩
  case enough =>
    change _ ≤ ((if _ then _ else _ : List String).length : ℤ)
    split
    · rename_i enough
      exact enough
    · exact few
  case pruned =>
    rintro (asleep | validating)
    · cases asleep
    · cases validating
  case procs => exact bounded.procs
  case fits => exact bounded.fits
  case states => exact bounded.states
  all_goals exact Nat.zero_le _

theorem bounded_checkPhase {fit : Option PeriodFit} {commonTimes : List ℚ} {period anchor : ℚ}
    (bounded : s.Bounded setup) (ok : s.checkPhase setup reading fit commonTimes period anchor = .ok s') :
    s'.Bounded setup := by
  rcases checkPhase_cases ok with rfl | ⟨newest, phaseErrorS, predicted, synced, action, net,
    lastPredictionGuardMs, -, -, resync, rfl⟩
  · exact bounded
  · have noted : (s.notePhase setup newest phaseErrorS).Bounded setup :=
      { bounded with
        errors := dequeAppend_length_le _ _ _
        absErrors := dequeAppend_length_le _ _ _ }
    rcases maybeResync_cases resync with ⟨-, rfl⟩ | ⟨-, consensus, _, _, -, -, rfl⟩
    · exact { noted with }
    · exact { noted with errors := Nat.zero_le _ }

theorem bounded_turn (distinct : setup.targets.Nodup) (few : setup.args.minTargets ≤ setup.targets.length)
    (bounded : s.Bounded setup) (turn : Turn setup reading observation s s') : s'.Bounded setup := by
  cases turn with
  | restart =>
      obtain ⟨once, chosen⟩ := @started_probes reading.validationStarts s.currentTargets bounded.targets.1
      exact { bounded with
        procs := ⟨once, List.Subset.trans chosen bounded.targets.2⟩
        pruned := fun _ => chosen
        states := resetProbeSession_bounded _ bounded.states }
  | validate active asleep =>
      exact { bounded with
        pruned := fun _ => bounded.pruned (.inl asleep)
        errors := Nat.zero_le _
        absErrors := Nat.zero_le _ }
  | readProbe ok => exact bounded_readProbe bounded ok
  | schedule => exact { bounded with }
  | fit =>
      cases found : observation.fit setup reading with
      | none => exact bounded
      | some fit =>
          rw [fitted_shape]
          refine { bounded with fits := ?_ }
          dsimp only
          split
          · exact dequeAppend_length_le _ _ _
          · exact bounded.fits
  | activate _ _ _ ok => exact bounded_activate distinct few bounded ok
  | countMismatch =>
      obtain ⟨mismatches, same⟩ := countMismatch_shape
      rw [same]
      exact { bounded with }
  | checkPhase _ _ _ _ _ ok => exact bounded_checkPhase bounded ok
  | relearn ok => exact bounded_enterLearning distinct few bounded ok
  | sleep =>
      exact { bounded with
        procs := ⟨List.nodup_nil, List.nil_subset _⟩
        pruned := fun _ => List.nil_subset _ }

theorem bounded_moment (distinct : setup.targets.Nodup) (few : setup.args.minTargets ≤ setup.targets.length)
    (bounded : s.Bounded setup) (moment : Moment setup reading observation s s') : s'.Bounded setup := by
  cases moment with
  | recordCommon common =>
      unfold MonitorState.recordCommon
      split
      · exact bounded
      · refine { bounded with states := fun target => ?_ }
        dsimp only [MonitorState.logged]
        split
        · exact bounded.states target
        · exact recordParticipation_bounded _ bounded.states target
  | turn turn => exact bounded_turn distinct few bounded turn

/-! ## Runs -/

theorem start_bounded {net : Net} {startWall startMono : ℚ} {starts : Starts} {first : MonitorState}
    (distinct : setup.targets.Nodup) (few : setup.args.minTargets ≤ setup.targets.length)
    (started : start setup net startWall startMono starts = .ok (some first)) : first.Bounded setup := by
  obtain ⟨after, rfl⟩ := start_shape started
  constructor
  case targets => exact ⟨distinct, List.Subset.refl _⟩
  case enough => exact few
  case procs => exact started_probes distinct
  case pruned =>
    rintro (asleep | validating)
    · cases asleep
    · cases validating
  case states => exact fun _ => ⟨Nat.zero_le _, Nat.zero_le _, Nat.zero_le _⟩
  all_goals exact Nat.zero_le _

theorem visits_bounded {first : MonitorState} (distinct : setup.targets.Nodup)
    (few : setup.args.minTargets ≤ setup.targets.length) (bounded : first.Bounded setup)
    (visited : Visits setup first s) : s.Bounded setup := by
  induction visited with
  | start => exact bounded
  | moment _ moment ih => exact bounded_moment distinct few ih moment

theorem ofArgs_minTargets (args : Args) (targets : List String) :
    (Setup.ofArgs args targets).args.minTargets ≤ (Setup.ofArgs args targets).targets.length := by
  change (if _ then _ else _ : ℤ) ≤ _
  split
  · exact le_refl _
  · rename_i enough
    exact not_lt.mp enough

/-- At every moment of every run the pings are bounded by `max_targets`, whatever traceroute finds, and the
histories by their deques; enough targets stay in use for a common event. -/
theorem resources_bounded (args : TargetArgs) (discoverRouteHops : String → List String) (net : Net)
    (startWall startMono : ℚ) (starts : Starts) (first s : MonitorState)
    (started : start (Setup.ofTargetArgs args discoverRouteHops) net startWall startMono starts = .ok (some first))
    (visited : Visits (Setup.ofTargetArgs args discoverRouteHops) first s) :
    s.Bounded (Setup.ofTargetArgs args discoverRouteHops) ∧
      s.procs.length ≤ (max 1 args.maxTargets).toNat ∧
      (∀ target ∈ s.procs, target ≠ "" ∧ (target ∈ args.target ∨ target ∈ args.bootstrap ∨
        ∃ bootstrap ∈ args.bootstrap, target ∈ discoverRouteHops bootstrap)) := by
  let targets := Targets.buildProbeTargets args.normalizeTargets discoverRouteHops
  have distinct : targets.Nodup := buildProbeTargets_nodup
  have few := ofArgs_minTargets args.toArgs targets
  have bounded := visits_bounded distinct few (start_bounded distinct few started) visited
  refine ⟨bounded, ?_, fun target running => ?_⟩
  · have fewer := (bounded.procs.1.subperm bounded.procs.2).length_le
    exact fewer.trans buildProbeTargets_length
  · exact mem_buildProbeTargets (bounded.procs.2 running)

def routedArgs : TargetArgs :=
  { TargetArgs.default with bootstrap := ["1.1.1.1"], maxTargets := 2 }

def routedHops (_ : String) : List String := ["192.168.1.1", "100.64.0.1", "149.19.108.1"]

def routedStart : MonitorState :=
  initialState (.ofTargetArgs routedArgs routedHops) tcpSkInit 0 0 (fun _ => true)

theorem resources_bounded_routed :
    routedStart.procs = ["1.1.1.1", "100.64.0.1"] ∧
      ∃ s, routedStart.iteration (.ofTargetArgs routedArgs routedHops)
          (readingAt 1 [⟨"1.1.1.1", .closed⟩]) = .ok s ∧
        s.Bounded (.ofTargetArgs routedArgs routedHops) ∧ s.procs.length ≤ 2 := by
  refine ⟨by decide +kernel, ?_⟩
  obtain ⟨s, ok, -⟩ := exists_ok_of_succeedsWith (by decide +kernel :
    succeedsWith (fun s : MonitorState => decide (s.procs = ["100.64.0.1"]))
      (routedStart.iteration (.ofTargetArgs routedArgs routedHops)
        (readingAt 1 [⟨"1.1.1.1", .closed⟩])) = true)
  have visited : Visits (.ofTargetArgs routedArgs routedHops) routedStart s :=
    visits_of_reaches (.tail .refl ok)
  obtain ⟨bounded, few, -⟩ := resources_bounded routedArgs routedHops tcpSkInit 0 0 (fun _ => true)
    routedStart s rfl visited
  exact ⟨s, ok, bounded, few⟩

end StarlinkTcp.Proof

import StarlinkTcp.Proof.PhaseOrder

/-!
# The controlled window is not learned

Two runs that see the same clocks, sysctls and socket, and the same ordinary window wherever it can
be learned, differ in the window PRE started from at most. The relation between their states is
equality after that one field is erased; every stage of a callback respects it, and a callback that
controls the window under an older snapshot respects it for any two ordinary windows.
-/

namespace StarlinkTcp.Kernel

def LeoState.learned (st : LeoState) : LeoState := { st with frozenPreStartWnd := 0 }

end StarlinkTcp.Kernel

namespace StarlinkTcp.Proof
open Kernel Machine

section Stages

variable {net : Net} {sk : SockView} {normalWin : UInt32} {nowUs : UInt64} {phase : TcpLeoPhase}
  {st st' : LeoState}

theorem learned_eq (same : st.learned = st'.learned) :
    st' = { st with frozenPreStartWnd := st'.frozenPreStartWnd } := by
  cases st
  cases st'
  simp only [LeoState.learned, LeoState.mk.injEq] at same ⊢
  simp only [same, and_self]

theorem leoEnsureInitialized_learned (clk : Clock) (same : st.learned = st'.learned) :
    (leoEnsureInitialized net clk sk normalWin st).learned =
      (leoEnsureInitialized net clk sk normalWin st').learned := by
  rw [learned_eq same]
  unfold leoEnsureInitialized
  dsimp only
  split
  · rename_i fresh
    simp only [leoUpdateMeasurements, fresh, if_true]
  · rfl

theorem leoMaybeFreeze_learned (same : st.learned = st'.learned) :
    (leoMaybeFreeze net sk normalWin nowUs st).learned =
      (leoMaybeFreeze net sk normalWin nowUs st').learned := by
  rw [learned_eq same]
  have due : leoFreezeDue net sk normalWin nowUs { st with frozenPreStartWnd := st'.frozenPreStartWnd } =
      leoFreezeDue net sk normalWin nowUs st := rfl
  have releases : leoReleases net nowUs { st with frozenPreStartWnd := st'.frozenPreStartWnd } =
      leoReleases net nowUs st := rfl
  unfold leoMaybeFreeze leoRelease
  dsimp only
  rw [due, releases]
  split_ifs <;> rfl

theorem leoPhase_learned (same : st.learned = st'.learned) :
    (leoPhase net nowUs st).1 = (leoPhase net nowUs st').1 ∧
    (leoPhase net nowUs st).2.1 = (leoPhase net nowUs st').2.1 ∧
    (leoPhase net nowUs st).2.2.learned = (leoPhase net nowUs st').2.2.learned := by
  have timeline : leoTimeline net { st with frozenPreStartWnd := st'.frozenPreStartWnd } =
      leoTimeline net st := rfl
  rw [learned_eq same]
  unfold leoPhase
  dsimp only
  rw [timeline]
  split_ifs <;> exact ⟨rfl, rfl, rfl⟩

theorem leoUpdateMeasurements_learned {otherWin : UInt32} (initialized : st.initialized = true)
    (window : phase = .normal → normalWin = otherWin) (same : st.learned = st'.learned) :
    (leoUpdateMeasurements net sk normalWin nowUs phase st).learned =
      (leoUpdateMeasurements net sk otherWin nowUs phase st').learned := by
  rw [learned_eq same]
  have kept : ¬ st.initialized = false := by simp [initialized]
  unfold leoUpdateMeasurements
  dsimp only
  rw [if_neg kept, if_neg kept]
  by_cases normal : phase = .normal
  · rw [window normal]
    split_ifs <;> rfl
  · simp only [if_neg normal]
    split_ifs <;> rfl

theorem leoRecordPreStart_learned {otherWin : UInt32} (same : st.learned = st'.learned) :
    (leoRecordPreStart sk normalWin st).learned = (leoRecordPreStart sk otherWin st').learned := by
  rw [learned_eq same]
  rfl

end Stages

namespace Callback

/-- The callback controls the window under a snapshot that was in force before it. -/
def shielded (c : Callback) (st : LeoState) : Bool :=
  c.runs ∧ st.frozen ∧ c.freezes st = false ∧ (c.report st).phase ≠ .normal

variable {c : Callback} {otherWin : UInt32} {st st' : LeoState}

theorem decided_learned (same : st.learned = st'.learned) :
    (c.decided st).learned = (c.decided st').learned :=
  leoMaybeFreeze_learned (leoEnsureInitialized_learned c.clk same)

theorem shielded_decided (shielded : c.shielded st = true) :
    c.decided st = st ∧ ∀ otherWin, ({ c with normalWin := otherWin } : Callback).decided st = st := by
  simp only [Callback.shielded, decide_eq_true_eq] at shielded
  obtain ⟨runs, frozen, freezes, phase⟩ := shielded
  rcases decided_cases runs st with ⟨froze, -⟩ | ⟨-, releases, -, ready, kept⟩ | ⟨-, -, unfrozen⟩
  · simp [freezes] at froze
  · refine ⟨kept, fun otherWin => ?_⟩
    have initialized : st.initialized = true := by
      rw [← ready]
      exact ready_initialized
    have holds : ({ c with normalWin := otherWin } : Callback).releases st = false := by
      rw [← releases]
      simp only [Callback.releases, ready_of_initialized initialized]
      rfl
    have otherRuns : ({ c with normalWin := otherWin } : Callback).runs = true := runs
    exact (decided_of_not_released otherRuns frozen initialized holds).2
  · rw [report_phase, unfrozen, leoPhase_of_unfrozen rfl] at phase
    exact absurd rfl phase

theorem report_learned (runs : c.runs = true)
    (decided : (c.decided st).learned = (({ c with normalWin := otherWin } : Callback).decided st').learned)
    (window : (c.report st).phase = .normal → c.normalWin = otherWin)
    (oldPhase : st.currentPhase = st'.currentPhase) :
    (c.report st).phase = (({ c with normalWin := otherWin } : Callback).report st').phase ∧
    (c.report st).elapsedUs = (({ c with normalWin := otherWin } : Callback).report st').elapsedUs ∧
    (c.report st).state.learned = (({ c with normalWin := otherWin } : Callback).report st').state.learned := by
  obtain ⟨phase, elapsed, after⟩ :
      (c.report st).phase = (({ c with normalWin := otherWin } : Callback).report st').phase ∧
      (c.report st).elapsedUs = (({ c with normalWin := otherWin } : Callback).report st').elapsedUs ∧
      (leoPhase c.net c.nowUs (c.decided st)).2.2.learned =
        (leoPhase c.net c.nowUs (({ c with normalWin := otherWin } : Callback).decided st')).2.2.learned :=
    leoPhase_learned decided
  have initialized : (leoPhase c.net c.nowUs (c.decided st)).2.2.initialized = true := by
    rw [leoPhase_frame.2.2.2]
    exact decided_initialized
  have measured : (c.measured st).learned =
      (({ c with normalWin := otherWin } : Callback).measured st').learned := by
    unfold Callback.measured
    rw [← phase]
    exact leoUpdateMeasurements_learned initialized window after
  have started : (c.decided st).preStarted =
      (({ c with normalWin := otherWin } : Callback).decided st').preStarted := by
    rw [learned_eq decided]
  have records : c.recordsPreStart st =
      ({ c with normalWin := otherWin } : Callback).recordsPreStart st' := by
    simp only [Callback.recordsPreStart, ← phase, ← started, ← oldPhase]
    rfl
  have otherRuns : ({ c with normalWin := otherWin } : Callback).runs = true := runs
  refine ⟨phase, elapsed, ?_⟩
  rw [report_state runs st, report_state otherRuns st', ← records, ← phase]
  -- both states end with the same phase written over related states
  have bookkept : (if c.recordsPreStart st then leoRecordPreStart c.sk c.normalWin (c.measured st)
      else c.measured st).learned =
      (if c.recordsPreStart st then
        leoRecordPreStart c.sk otherWin (({ c with normalWin := otherWin } : Callback).measured st')
      else ({ c with normalWin := otherWin } : Callback).measured st').learned := by
    split
    · exact leoRecordPreStart_learned measured
    · exact measured
  exact congrArg (fun state : LeoState => { state with currentPhase := (c.report st).phase }) bookkept

theorem decided_learned_of_shielded (same : st.learned = st'.learned)
    (either : c.shielded st = true ∨ ({ c with normalWin := otherWin } : Callback).shielded st' = true) :
    (c.decided st).learned = (({ c with normalWin := otherWin } : Callback).decided st').learned := by
  rcases either with shielded | shielded
  · obtain ⟨kept, keptOther⟩ := shielded_decided shielded
    rw [← decided_learned same, kept, keptOther]
  · obtain ⟨kept, keptOther⟩ := shielded_decided shielded
    have keptHere : c.decided st' = st' := keptOther c.normalWin
    rw [decided_learned same, kept, keptHere]

theorem report_related (runs : c.runs = true) (same : st.learned = st'.learned)
    (window : c.shielded st = false → ({ c with normalWin := otherWin } : Callback).shielded st' = false →
      c.normalWin = otherWin) :
    (c.report st).phase = (({ c with normalWin := otherWin } : Callback).report st').phase ∧
    (c.report st).elapsedUs = (({ c with normalWin := otherWin } : Callback).report st').elapsedUs ∧
    (c.report st).state.learned = (({ c with normalWin := otherWin } : Callback).report st').state.learned := by
  have oldPhase : st.currentPhase = st'.currentPhase := by rw [learned_eq same]
  by_cases equal : c.normalWin = otherWin
  · subst equal
    exact report_learned runs (decided_learned same) (fun _ => rfl) oldPhase
  · have either : c.shielded st = true ∨
        ({ c with normalWin := otherWin } : Callback).shielded st' = true := by
      cases here : c.shielded st
      · cases there : ({ c with normalWin := otherWin } : Callback).shielded st'
        · exact absurd (window here there) equal
        · exact .inr rfl
      · exact .inl rfl
    have decided := decided_learned_of_shielded same either
    have phase : (c.report st).phase = (({ c with normalWin := otherWin } : Callback).report st').phase :=
      (leoPhase_learned decided).1
    have controlled : (c.report st).phase ≠ .normal := by
      simp only [Callback.shielded, decide_eq_true_eq] at either
      rcases either with ⟨-, -, -, controlled⟩ | ⟨-, -, -, controlled⟩
      · exact controlled
      · rw [phase]
        exact controlled
    exact report_learned runs decided (fun normal => absurd normal controlled) oldPhase

end Callback

structure SameInputs (c c' : Callback) : Prop where
  net : c.net = c'.net
  clk : c.clk = c'.clk
  sk : c.sk = c'.sk

theorem SameInputs.eq {c c' : Callback} (same : SameInputs c c') :
    c' = { c with normalWin := c'.normalWin } := by
  cases c
  cases c'
  obtain ⟨rfl, rfl, rfl⟩ := same
  rfl

/-- The learned state, the snapshot and the phase of two runs agree at every callback when their
ordinary windows agree at every callback that is not shielded. -/
theorem controlled_window_not_learned (start : LeoState) (first second : Nat → Callback)
    (inputs : ∀ n, SameInputs (first n) (second n))
    (windows : ∀ n, (first n).shielded (runState Callback.step start first n) = false →
      (second n).shielded (runState Callback.step start second n) = false →
      (first n).normalWin = (second n).normalWin) (n : Nat) :
    (first n).runs = (second n).runs ∧
    ((first n).runs = true →
      ((first n).report (runState Callback.step start first n)).phase =
        ((second n).report (runState Callback.step start second n)).phase ∧
      ((first n).report (runState Callback.step start first n)).elapsedUs =
        ((second n).report (runState Callback.step start second n)).elapsedUs) ∧
    (runState Callback.step start first n).measurements =
      (runState Callback.step start second n).measurements ∧
    (runState Callback.step start first n).snapshot = (runState Callback.step start second n).snapshot := by
  have related (n : Nat) : (runState Callback.step start first n).learned =
      (runState Callback.step start second n).learned := by
    apply runState_related (fun st st' : LeoState => st.learned = st'.learned) rfl
    intro n same
    cases runs : (first n).runs
    · have otherRuns : (second n).runs = false := by
        rw [(inputs n).eq]
        exact runs
      rw [Callback.step_of_not_runs runs, Callback.step_of_not_runs otherRuns]
      exact same
    · have otherRuns : (second n).runs = true := by
        rw [(inputs n).eq]
        exact runs
      rw [Callback.step_of_runs runs, Callback.step_of_runs otherRuns, (inputs n).eq]
      refine (Callback.report_related runs same ?_).2.2
      rw [← (inputs n).eq]
      exact windows n
  have sameRuns : (first n).runs = (second n).runs := by
    rw [(inputs n).eq]
    rfl
  refine ⟨sameRuns, fun runs => ?_, by rw [learned_eq (related n)]; rfl, by rw [learned_eq (related n)]; rfl⟩
  have stepped := Callback.report_related runs (related n) (by
    rw [← (inputs n).eq]
    exact windows n)
  rw [← (inputs n).eq] at stepped
  exact ⟨stepped.1, stepped.2.1⟩

def halvedCallbacks (n : Nat) : Callback :=
  { boundaryCallbacks n with normalWin := if n = 1 then 500000 else 1000000 }

theorem controlled_window_not_learned_in_recovery :
    (boundaryCallbacks 1).normalWin ≠ (halvedCallbacks 1).normalWin ∧
    (runState Callback.step tcpLeoDynamicInit boundaryCallbacks 2).measurements =
      (runState Callback.step tcpLeoDynamicInit halvedCallbacks 2).measurements := by
  have windows (n : Nat)
      (unshielded : (boundaryCallbacks n).shielded (runState Callback.step tcpLeoDynamicInit boundaryCallbacks n) =
        false) : (boundaryCallbacks n).normalWin = (halvedCallbacks n).normalWin := by
    by_cases recovers : n = 1
    · subst recovers
      exact absurd unshielded (by decide)
    · simp only [halvedCallbacks, if_neg recovers, boundaryCallbacks]
  exact ⟨by decide, (controlled_window_not_learned tcpLeoDynamicInit boundaryCallbacks halvedCallbacks
    (fun _ => ⟨rfl, rfl, rfl⟩) (fun n first _ => windows n first) 2).2.2.1⟩

end StarlinkTcp.Proof

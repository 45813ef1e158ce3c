import StarlinkTcp.Proof.Recovery

/-!
# When the dynamic controller interferes

A window that differs from the one ordinary TCP computed belongs to one handover. It is offered in the
last stretch of the frozen period, no longer than PRE, DRAIN, the prediction guard and half a round
trip together, or within the recovery ramp that the first callback past the boundary starts.
-/

namespace StarlinkTcp.Proof
open Kernel Machine

/-- The boundary that ends the frozen period, in microseconds of the real clock. -/
def handoverUs (net : Net) (st : LeoState) : Nat :=
  Lattice.boundary (leoPeriodUs net).toNat (leoOffsetUs net).toNat st.frozenPeriodId.toNat

/-- How long before the boundary the timeline of a snapshot starts, at most. -/
def leadUs (st : LeoState) : Nat :=
  st.frozenPreUs.toNat + st.frozenDrainUs.toNat + st.frozenPredictionGuardUs.toNat +
    st.frozenRttHalfUs.toNat

theorem periodId_le_iff {net : Net} (period : 0 < net.tcpLeoRwndPeriodMs) {nowUs : UInt64}
    (real : RealUs nowUs) (st : LeoState) :
    leoPeriodId net nowUs ≤ st.frozenPeriodId ↔ nowUs.toNat < handoverUs net st := by
  rw [UInt64.le_iff_toNat_le, leoPeriodId_toNat period real]
  exact Lattice.index_le_iff (leoPeriodUs_pos period)

theorem handoverUs_of_same_period {net : Net} (period : 0 < net.tcpLeoRwndPeriodMs) {nowUs : UInt64}
    (real : RealUs nowUs) {st : LeoState} (same : leoPeriodId net nowUs = st.frozenPeriodId) :
    handoverUs net st =
      nowUs.toNat + ((leoPeriodUs net).toNat - (leoPeriodPositionUs net nowUs).toNat) := by
  unfold handoverUs
  rw [← same, leoPeriodId_toNat period real, leoPeriodPositionUs_toNat period real]
  exact Lattice.boundary_index (leoPeriodUs_pos period)

theorem preStart_of_scheduled {timeline : LeoTimeline} {periodUs posUs : UInt64}
    (controlled : (scheduledStage timeline periodUs posUs).phase ≠ .normal) :
    timeline.preStartUs ≤ posUs := by
  unfold scheduledStage at controlled
  split at controlled
  · exact absurd rfl controlled
  · rename_i reached
    exact UInt64.not_lt.mp reached

/-- The timeline of a snapshot starts no earlier than its lead before the end of the period. -/
theorem remaining_le_leadUs (net : Net) (st : LeoState) {posUs : UInt64}
    (reached : (leoTimeline net st).preStartUs ≤ posUs) :
    (leoPeriodUs net).toNat - posUs.toNat ≤ leadUs st := by
  obtain ⟨outage, drain, pre⟩ := leoTimeline_toNat net st
  rw [UInt64.le_iff_toNat_le] at reached
  unfold leadUs
  omega

theorem Callback.controlled_of_window {c : Callback} {st : LeoState} (changed : c.window st ≠ c.normalWin) :
    c.runs = true ∧ (c.report st).phase ≠ .normal := by
  cases runs : c.runs
  · have gates : leoControls c.net c.sk = false := runs
    exact absurd (by simp [window, tcpLeoDynamicTarget, gates]) changed
  · refine ⟨rfl, fun normal => changed ?_⟩
    rw [window_of_runs runs, report_target, normal, ← UInt32.toNat_inj, UInt32.toNat_min]
    exact Nat.min_self _

namespace Schedule

variable {net : Net} {callbacks : Nat → Callback} (schedule : Schedule net callbacks) {i k : Nat}

include schedule

theorem before_handover (held : HeldFrom callbacks i (k + 1)) (le : i ≤ k)
    (runs : (callbacks k).runs = true)
    (controlled : ((callbacks k).report (controllerRun callbacks k)).phase ≠ .normal)
    (same : leoPeriodId net (callbacks k).nowUs = (controllerRun callbacks (k + 1)).frozenPeriodId) :
    let st := controllerRun callbacks (k + 1)
    (callbacks k).nowUs.toNat < handoverUs net st ∧
      handoverUs net st ≤ (callbacks k).nowUs.toNat + leadUs st := by
  intro st
  rw [schedule.phase_eq_stage held le runs, cycleStage, if_pos same] at controlled
  have remaining := remaining_le_leadUs net st (preStart_of_scheduled controlled)
  refine ⟨(periodId_le_iff schedule.period (Callback.nowUs_real _) st).mp (UInt64.le_of_eq same), ?_⟩
  rw [handoverUs_of_same_period schedule.period (Callback.nowUs_real _) same]
  exact Nat.add_le_add_left remaining _

/-- The first callback past the boundary, with the last one before it. -/
theorem exists_boundary_crossing (held : HeldFrom callbacks i (k + 1)) (le : i ≤ k)
    (runs : (callbacks k).runs = true)
    (past : leoPeriodId net (callbacks k).nowUs ≠ (controllerRun callbacks (i + 1)).frozenPeriodId) :
    ∃ a b, i ≤ a ∧ Consecutive callbacks a b ∧ b ≤ k ∧
      (∀ l, i ≤ l → l < b → (callbacks l).runs = true →
        leoPeriodId net (callbacks l).nowUs = (controllerRun callbacks (i + 1)).frozenPeriodId) ∧
      leoPeriodId net (callbacks b).nowUs ≠ (controllerRun callbacks (i + 1)).frozenPeriodId := by
  let crossed (l : Nat) : Prop := i ≤ l ∧ (callbacks l).runs = true ∧
    leoPeriodId net (callbacks l).nowUs ≠ (controllerRun callbacks (i + 1)).frozenPeriodId
  have reached : ∃ l, crossed l := ⟨k, le, runs, past⟩
  have first := Nat.find_spec reached
  have least (l : Nat) (lower : i ≤ l) (upper : l < Nat.find reached) (runsL : (callbacks l).runs = true) :
      leoPeriodId net (callbacks l).nowUs = (controllerRun callbacks (i + 1)).frozenPeriodId := by
    by_contra moved
    exact Nat.find_min reached upper ⟨lower, runsL, moved⟩
  have lt : i < Nat.find reached := by
    rcases Nat.eq_or_lt_of_le first.1 with same | lt
    · exfalso
      apply first.2.2
      rw [← same]
      exact (schedule.frozenPeriodId_of_freeze held.1).symm
    · exact lt
  obtain ⟨a, lower, consecutive⟩ := exists_consecutive lt (freezes_runs held.1) first.2.1
  exact ⟨a, Nat.find reached, lower, consecutive, Nat.find_min' reached ⟨le, runs, past⟩, least, first.2.2⟩

theorem after_handover (held : HeldFrom callbacks i (k + 1)) (le : i ≤ k)
    (runs : (callbacks k).runs = true)
    (moved : leoPeriodId net (callbacks k).nowUs ≠ (controllerRun callbacks (k + 1)).frozenPeriodId) :
    let st := controllerRun callbacks (k + 1)
    ∃ a b, i ≤ a ∧ Consecutive callbacks a b ∧ b ≤ k ∧
      (callbacks a).nowUs.toNat < handoverUs net st ∧ handoverUs net st ≤ (callbacks b).nowUs.toNat ∧
      (callbacks k).nowUs.toNat < (callbacks b).nowUs.toNat + st.frozenRecoveryUs.toNat := by
  intro st
  have snapshot := held.snapshot_eq (Nat.lt_succ_of_le le)
  have sameId := held.periodId_eq (Nat.lt_succ_of_le le)
  have recovery : ((callbacks k).report (controllerRun callbacks k)).phase = .recovery := by
    rw [schedule.phase_eq_stage held le runs, cycleStage, if_neg moved]
    rfl
  obtain ⟨kept, enabled⟩ := Callback.decided_of_recovery runs recovery
  rw [sameId] at moved
  have lt : i < k := by
    rcases Nat.eq_or_lt_of_le le with rfl | lt
    · exact absurd (schedule.frozenPeriodId_of_freeze held.1).symm moved
    · exact lt
  rw [(held.shorten (Nat.le_succ k)).recoveryUs_eq lt] at enabled
  obtain ⟨a, b, lower, consecutive, upper, inside, past⟩ := schedule.exists_boundary_crossing held le runs moved
  have heldB : HeldFrom callbacks i b := held.shorten (Nat.le_succ_of_le upper)
  have ltB : i < b := lt_of_le_of_lt lower consecutive.lt
  obtain ⟨-, -, -, ramp⟩ := schedule.recovery_at_boundary heldB ltB consecutive.second inside past enabled
  have bounded := schedule.recovery_bounded ltB upper held enabled ramp runs recovery
  refine ⟨a, b, lower, consecutive, upper, ?_, ?_, ?_⟩
  · rw [← periodId_le_iff schedule.period (Callback.nowUs_real _), sameId]
    exact UInt64.le_of_eq (inside a lower consecutive.lt consecutive.first)
  · rw [← Nat.not_lt, ← periodId_le_iff schedule.period (Callback.nowUs_real _), sameId]
    intro behind
    apply past
    apply UInt64.le_antisymm behind
    rw [schedule.frozenPeriodId_of_freeze held.1]
    exact schedule.periodId_le ltB.le
  · rw [held.recoveryUs_eq (Nat.lt_succ_of_le le)]
    exact bounded

end Schedule

/-- Whenever the window offered differs from the ordinary one, a snapshot is in force, and the callback
comes within its lead before the handover it was frozen for, or within the recovery duration after the
first callback past that handover. -/
theorem interference_bounded (net : Net) (callbacks : Nat → Callback) (schedule : Schedule net callbacks)
    (k : Nat) (changed : (callbacks k).window (controllerRun callbacks k) ≠ (callbacks k).normalWin) :
    let st := controllerRun callbacks (k + 1)
    ∃ i ≤ k, HeldFrom callbacks i (k + 1) ∧
      ((callbacks k).nowUs.toNat < handoverUs net st ∧
          handoverUs net st ≤ (callbacks k).nowUs.toNat + leadUs st ∨
        ∃ a b, i ≤ a ∧ Consecutive callbacks a b ∧ b ≤ k ∧
          (callbacks a).nowUs.toNat < handoverUs net st ∧
          handoverUs net st ≤ (callbacks b).nowUs.toNat ∧
          (callbacks k).nowUs.toNat < (callbacks b).nowUs.toNat + st.frozenRecoveryUs.toNat) := by
  intro st
  obtain ⟨runs, controlled⟩ := Callback.controlled_of_window changed
  obtain ⟨i, le, held⟩ := heldFrom_of_phase runs controlled
  refine ⟨i, le, held, ?_⟩
  by_cases same : leoPeriodId net (callbacks k).nowUs = st.frozenPeriodId
  · exact .inl (schedule.before_handover held le runs controlled same)
  · exact .inr (schedule.after_handover held le runs same)

theorem interference_bounded_past_boundary :
    (boundaryCallbacks 1).window (controllerRun boundaryCallbacks 1) ≠ (boundaryCallbacks 1).normalWin ∧
    (∃ i ≤ 1, HeldFrom boundaryCallbacks i 2) := by
  have changed : (boundaryCallbacks 1).window (controllerRun boundaryCallbacks 1) ≠
      (boundaryCallbacks 1).normalWin := by decide
  obtain ⟨i, le, held, -⟩ := interference_bounded tcpSkInit boundaryCallbacks boundaryCallbacks_schedule 1 changed
  exact ⟨changed, i, le, held⟩

end StarlinkTcp.Proof

import StarlinkTcp.Proof.Timeline

/-!
# The freeze look-ahead covers the timeline it freezes

`leo_required_freeze_ahead_us` adds up the durations that `leo_phase` later subtracts from the
period one after another. Where a subtraction saturates the sum already exceeds the period, so the
look-ahead never falls short.
-/

namespace StarlinkTcp.Proof
open Kernel Machine

section

variable {net : Net} {sk : SockView} {normalWin : UInt32} {nowUs : UInt64} {st : LeoState}

theorem leoRequiredFreezeAheadUs_toNat (net : Net) (sk : SockView) (normalWin : UInt32) (nowUs : UInt64)
    (st : LeoState) (guard : 0 ≤ net.tcpLeoDynamicFreezeGuardMs) :
    let frozen := leoFreezeParameters net sk normalWin nowUs st
    (leoRequiredFreezeAheadUs net sk normalWin st).toNat =
      frozen.frozenPreUs.toNat + frozen.frozenRttHalfUs.toNat + frozen.frozenDrainUs.toNat +
        1000 * net.tcpLeoDynamicFreezeGuardMs.toInt.toNat + frozen.frozenPredictionGuardUs.toNat := by
  intro frozen
  have pre := frozen.frozenPreUs.toNat_lt
  have half := frozen.frozenRttHalfUs.toNat_lt
  have drain := frozen.frozenDrainUs.toNat_lt
  have prediction := frozen.frozenPredictionGuardUs.toNat_lt
  have guardBound := u64OfInt_toNat_lt guard
  have unfolded : leoRequiredFreezeAheadUs net sk normalWin st =
      frozen.frozenPreUs.toUInt64 + frozen.frozenRttHalfUs.toUInt64 + frozen.frozenDrainUs.toUInt64 +
        u64OfInt net.tcpLeoDynamicFreezeGuardMs * 1000 + frozen.frozenPredictionGuardUs.toUInt64 := rfl
  rw [u64OfInt_toNat guard] at guardBound
  rw [unfolded]
  simp only [UInt64.toNat_add, UInt64.toNat_mul, UInt32.toNat_toUInt64, u64OfInt_toNat guard,
    UInt64.reduceToNat]
  omega

theorem leoFreezeDue_release :
    leoFreezeDue net sk normalWin nowUs (leoRelease net nowUs st) =
      leoFreezeDue net sk normalWin nowUs st := by
  unfold leoRelease
  split <;> rfl

theorem leoMaybeFreeze_of_due (period : leoPeriodUs net ≠ 0)
    (unfrozen : (leoRelease net nowUs st).frozen = false)
    (due : leoFreezeDue net sk normalWin nowUs st = true) :
    leoMaybeFreeze net sk normalWin nowUs st =
      leoFreezeParameters net sk normalWin nowUs (leoRelease net nowUs st) := by
  simp only [leoMaybeFreeze, period, if_false, unfrozen, due, and_self, if_true]

theorem leoPhase_of_same_period (frozen : st.frozen = true) (period : leoPeriodUs net ≠ 0)
    (same : leoPeriodId net nowUs = st.frozenPeriodId) :
    leoPhase net nowUs st =
      ((leoScheduledPhase (leoTimeline net st) (leoPeriodUs net) (leoPeriodPositionUs net nowUs)).1,
       (leoScheduledPhase (leoTimeline net st) (leoPeriodUs net) (leoPeriodPositionUs net nowUs)).2,
       st) := by
  simp [leoPhase, frozen, period, same]

theorem leoFreezeDue_of_preStart_le (period : 0 < net.tcpLeoRwndPeriodMs) (real : RealUs nowUs)
    (guard : 0 ≤ net.tcpLeoDynamicFreezeGuardMs)
    (reached : (leoTimeline net (leoFreezeParameters net sk normalWin nowUs st)).preStartUs ≤
      leoPeriodPositionUs net nowUs) :
    leoFreezeDue net sk normalWin nowUs st = true := by
  obtain ⟨outage, drain, pre⟩ := leoTimeline_toNat net (leoFreezeParameters net sk normalWin nowUs st)
  have ahead := leoRequiredFreezeAheadUs_toNat net sk normalWin nowUs st guard
  have inside := leoPeriodPositionUs_lt period real
  simp only [leoFreezeDue, decide_eq_true_eq, UInt64.le_iff_toNat_le] at reached ⊢
  rw [UInt64.toNat_sub_of_le _ _ (UInt64.le_of_lt inside), ahead]
  omega

end

/-- No part of the PRE, DRAIN or OUTAGE interval a callback would schedule is spent unfrozen. -/
theorem lookahead_covers_timeline (net : Net) (admissible : net.Admissible) (clk : Clock)
    (sk : SockView) (normalWin : UInt32) (st : LeoState)
    (unfrozen : (leoRelease net (leoNowRealUs clk) st).frozen = false) :
    let nowUs := leoNowRealUs clk
    let posUs := leoPeriodPositionUs net nowUs
    let frozen := leoFreezeParameters net sk normalWin nowUs (leoRelease net nowUs st)
    let timeline := leoTimeline net frozen
    let after := leoMaybeFreeze net sk normalWin nowUs st
    let phase := (leoPhase net nowUs after).1
    (timeline.preStartUs ≤ posUs →
      after = frozen ∧
      (phase = .preHandover ∨ phase = .drain ∨ phase = .outage ∨
        phase = .normal ∧ min timeline.outageEndUs (leoPeriodUs net) ≤ posUs)) ∧
    (after.frozen = false → posUs < timeline.preStartUs) := by
  intro nowUs posUs frozen timeline after phase
  have period : 0 < net.tcpLeoRwndPeriodMs := by
    have := UInt32.le_iff_toNat_le.mp admissible.rwndPeriodMs
    rw [UInt32.lt_iff_toNat_lt]
    simpa [Nat.succ_le_iff] using this
  have real := leoNowRealUs_real clk
  have guard : 0 ≤ net.tcpLeoDynamicFreezeGuardMs := by
    have := Int32.le_iff_toInt_le.mp admissible.freezeGuardMs
    rw [Int32.le_iff_toInt_le]
    exact le_trans (by decide) this
  have covers : timeline.preStartUs ≤ posUs → after = frozen := by
    intro reached
    have due := leoFreezeDue_of_preStart_le period real guard reached
    rw [leoFreezeDue_release] at due
    exact leoMaybeFreeze_of_due (leoPeriodUs_ne_zero period) unfrozen due
  refine ⟨fun reached => ⟨covers reached, ?_⟩, ?_⟩
  · have stage : phase = (scheduledStage timeline (leoPeriodUs net) posUs).phase := by
      have scheduled : leoPhase net nowUs frozen = _ :=
        leoPhase_of_same_period rfl (leoPeriodUs_ne_zero period) rfl
      simp only [phase, covers reached, scheduled]
      exact leoScheduledPhase_phase net frozen posUs
    rw [stage, scheduledStage, if_neg (UInt64.not_lt.mpr reached)]
    split_ifs with beforeDrain beforeOutage beforeEnd
    · exact .inl rfl
    · exact .inr (.inl rfl)
    · exact .inr (.inr (.inl rfl))
    · exact .inr (.inr (.inr ⟨rfl, UInt64.not_lt.mp beforeEnd⟩))
  · intro stillUnfrozen
    by_contra reached
    rw [covers (UInt64.not_lt.mp reached)] at stillUnfrozen
    cases stillUnfrozen

def downloadView (bytesReceived : UInt64) (rcvNxt : UInt32) : SockView where
  inetSport := 20075
  inetDport := 40000
  rcvMss := 1448
  advmss := 1448
  rcvWscale := ⟨7, by decide⟩
  rcvRttUs := 480000
  bytesReceived := bytesReceived
  rcvNxt := rcvNxt

theorem lookahead_covers_timeline_first_callback :
    tcpSkInit.Admissible ∧
    (leoRelease tcpSkInit (leoNowRealUs ⟨26900000000, 0⟩) tcpLeoDynamicInit).frozen = false ∧
    leoMaybeFreeze tcpSkInit (downloadView 0 0) 1000000 (leoNowRealUs ⟨26900000000, 0⟩) tcpLeoDynamicInit =
      leoFreezeParameters tcpSkInit (downloadView 0 0) 1000000 (leoNowRealUs ⟨26900000000, 0⟩)
        (leoRelease tcpSkInit (leoNowRealUs ⟨26900000000, 0⟩) tcpLeoDynamicInit) :=
  ⟨tcpSkInit_admissible, by decide,
    ((lookahead_covers_timeline tcpSkInit tcpSkInit_admissible ⟨26900000000, 0⟩ (downloadView 0 0) 1000000
      tcpLeoDynamicInit (by decide)).1 (by decide)).1⟩

end StarlinkTcp.Proof

import StarlinkTcp.Proof.Clock

/-!
# The timeline of one handover cycle

The abstract cycle is a walk through six stages. A snapshot cuts the frozen period at four
positions (`leoTimeline`); `scheduledStage` names the segment a position lies in and grows with the
position, and the phase `leo_phase` reports before the boundary is that of the segment.
-/

namespace StarlinkTcp.Proof
open Kernel Machine

/-- The stages of a handover cycle, in order. NORMAL is reported in two of them. -/
inductive Stage where
  | waiting | preHandover | drain | outage | settled | recovery
deriving DecidableEq, Repr

def Stage.rank : Stage → Nat
  | .waiting => 0
  | .preHandover => 1
  | .drain => 2
  | .outage => 3
  | .settled => 4
  | .recovery => 5

instance : LE Stage := ⟨fun first second => first.rank ≤ second.rank⟩

theorem Stage.le_def {first second : Stage} : first ≤ second ↔ first.rank ≤ second.rank := Iff.rfl

theorem Stage.le_recovery (stage : Stage) : stage ≤ .recovery := by
  cases stage <;> simp [Stage.le_def, Stage.rank]

def Stage.phase : Stage → TcpLeoPhase
  | .waiting => .normal
  | .preHandover => .preHandover
  | .drain => .drain
  | .outage => .outage
  | .settled => .normal
  | .recovery => .recovery

def scheduledStage (timeline : LeoTimeline) (periodUs posUs : UInt64) : Stage :=
  if posUs < timeline.preStartUs then .waiting
  else if posUs < timeline.drainStartUs then .preHandover
  else if posUs < timeline.outageStartUs then .drain
  else if posUs < min timeline.outageEndUs periodUs then .outage
  else .settled

theorem scheduledStage_mono (timeline : LeoTimeline) (periodUs : UInt64) {posUs laterUs : UInt64}
    (le : posUs ≤ laterUs) :
    scheduledStage timeline periodUs posUs ≤ scheduledStage timeline periodUs laterUs := by
  simp only [Stage.le_def, scheduledStage, UInt64.lt_iff_toNat_lt, UInt64.le_iff_toNat_le] at le ⊢
  split_ifs <;> simp only [Stage.rank] <;> omega

theorem scheduledStage_phase_ne_recovery (timeline : LeoTimeline) (periodUs posUs : UInt64) :
    (scheduledStage timeline periodUs posUs).phase ≠ .recovery := by
  unfold scheduledStage
  split_ifs <;> simp [Stage.phase]

theorem leoTimeline_toNat (net : Net) (st : LeoState) :
    (leoTimeline net st).outageStartUs.toNat = (leoPeriodUs net).toNat - st.frozenRttHalfUs.toNat ∧
    (leoTimeline net st).drainStartUs.toNat =
      (leoTimeline net st).outageStartUs.toNat -
        (st.frozenDrainUs.toNat + st.frozenPredictionGuardUs.toNat) ∧
    (leoTimeline net st).preStartUs.toNat =
      (leoTimeline net st).drainStartUs.toNat - st.frozenPreUs.toNat := by
  refine ⟨?_, ?_, ?_⟩
  · simp only [leoTimeline, saturatingSub_toNat, UInt32.toNat_toUInt64]
  · simp only [leoTimeline]
    generalize (if leoPeriodUs net > st.frozenRttHalfUs.toUInt64 then
      leoPeriodUs net - st.frozenRttHalfUs.toUInt64 else 0) = outageStart
    have regroup : outageStart - st.frozenDrainUs.toUInt64 - st.frozenPredictionGuardUs.toUInt64 =
        outageStart - (st.frozenDrainUs.toUInt64 + st.frozenPredictionGuardUs.toUInt64) := by grind
    rw [regroup, saturatingSub_toNat, toNat_toUInt64_add]
  · simp only [leoTimeline]
    rw [saturatingSub_toNat, UInt32.toNat_toUInt64]

theorem leoTimeline_ordered (net : Net) (st : LeoState) :
    (leoTimeline net st).preStartUs ≤ (leoTimeline net st).drainStartUs ∧
    (leoTimeline net st).drainStartUs ≤ (leoTimeline net st).outageStartUs := by
  obtain ⟨-, drain, pre⟩ := leoTimeline_toNat net st
  simp only [UInt64.le_iff_toNat_le]
  omega

theorem leoScheduledPhase_phase (net : Net) (st : LeoState) (posUs : UInt64) :
    (leoScheduledPhase (leoTimeline net st) (leoPeriodUs net) posUs).1 =
      (scheduledStage (leoTimeline net st) (leoPeriodUs net) posUs).phase := by
  obtain ⟨first, second⟩ := leoTimeline_ordered net st
  simp only [UInt64.le_iff_toNat_le] at first second
  simp only [leoScheduledPhase, scheduledStage, ge_iff_le, UInt64.lt_iff_toNat_lt,
    UInt64.le_iff_toNat_le]
  split_ifs <;> simp only [Stage.phase] <;> omega

end StarlinkTcp.Proof

import StarlinkTcp.Machine.Journal
import StarlinkTcp.Proof.Evidence

/-!
# Participation of the targets

In LEARNING every logged common event is counted for each of its supporters, and its flag enters the
recent window of every target. The counters of a target are therefore what the log says about it since
LEARNING was last entered, one flag for each event.
-/

namespace StarlinkTcp.Monitor

def TargetState.tally (st : TargetState) : Nat × List Nat := (st.commonSupportCount, st.recentCommonSupport)

end StarlinkTcp.Monitor

namespace StarlinkTcp.Proof
open Kernel Machine Monitor Relation

/-! ## Supporters of a common event -/

theorem mem_perTarget_fold {target : String} (cluster seen : List Point) :
    (∃ point ∈ cluster.foldl (fun seen point =>
      if seen.any fun earlier => earlier.target = point.target then seen else seen ++ [point]) seen,
        point.target = target) ↔
    (∃ point ∈ seen, point.target = target) ∨ ∃ point ∈ cluster, point.target = target := by
  induction cluster generalizing seen with
  | nil => simp
  | cons first rest ih =>
      rw [List.foldl_cons, ih]
      split
      · rename_i known
        -- the target of `first` is among those seen
        obtain ⟨earlier, member, same⟩ := List.any_eq_true.mp known
        rw [decide_eq_true_eq] at same
        simp only [List.mem_cons, exists_eq_or_imp]
        constructor
        · rintro (old | later)
          · exact .inl old
          · exact .inr (.inr later)
        · rintro (old | now | later)
          · exact .inl old
          · exact .inl ⟨earlier, member, same.trans now⟩
          · exact .inr later
      · simp only [List.mem_append, List.mem_cons, List.not_mem_nil, or_false, or_and_right, exists_or,
          exists_eq_left, or_assoc]

theorem mem_supporters {minTargets : ℤ} {points : List Point} {event : CommonEvent} {target : String}
    (common : commonEvent minTargets points = some event) :
    target ∈ event.supporters ↔ ∃ point ∈ points, point.target = target := by
  unfold commonEvent at common
  dsimp only at common
  split at common
  · cases common
  · cases common
    have firsts := @mem_perTarget_fold target points []
    simp only [List.not_mem_nil, false_and, exists_false, false_or] at firsts
    rw [← firsts, List.mem_insertionSort, List.mem_map]
    rfl

theorem clusters_supporters {setup : Setup} {reading : Reading} {s : MonitorState} {cluster : CommonCluster}
    {target : String} (member : cluster ∈ s.clusters setup reading) :
    target ∈ cluster.event.supporters ↔ ∃ point ∈ cluster.points, point.target = target := by
  unfold MonitorState.clusters commonClusters at member
  split at member
  · cases member
  · obtain ⟨points, -, kept⟩ := List.mem_filterMap.mp member
    obtain ⟨event, common, rfl⟩ := Option.map_eq_some_iff.mp kept
    exact mem_supporters common

/-! ## The counters and the log -/

def noteParticipation (target : String) (flags : List Nat) (row : LogRow) : List Nat :=
  match row.record with
  | .relearn _ => []
  | .common event => if row.active then flags else flags ++ [if target ∈ event.supporters then 1 else 0]
  | _ => flags

/-- One flag for each common event logged in LEARNING since it was last entered. -/
def participation (target : String) (log : List LogRow) : List Nat := log.foldl (noteParticipation target) []

def Tallied (setup : Setup) (s : MonitorState) : Prop :=
  ∀ target ∈ setup.targets, (s.states target).tally =
    ((participation target s.log).sum, (participation target s.log).rtake 32)

variable {setup : Setup} {reading : Reading} {observation s s' : MonitorState}

theorem participation_concat {target : String} {log : List LogRow} {row : LogRow} :
    participation target (log ++ [row]) = noteParticipation target (participation target log) row := by
  rw [participation, List.foldl_append]
  rfl

theorem Tallied.of_rows {rows : List LogRow} (tallied : Tallied setup s)
    (states : ∀ target, (s'.states target).tally = (s.states target).tally) (log : s'.log = s.log ++ rows)
    (silent : ∀ row ∈ rows, ∀ target flags, noteParticipation target flags row = flags) : Tallied setup s' := by
  intro target known
  have unchanged : participation target (s.log ++ rows) = participation target s.log :=
    foldl_append_unchanged fun row member flags => silent row member target flags
  rw [states, log, unchanged]
  exact tallied target known

theorem Tallied.unlogged (tallied : Tallied setup s)
    (states : ∀ target, (s'.states target).tally = (s.states target).tally) (log : s'.log = s.log) :
    Tallied setup s' :=
  tallied.of_rows states (by rw [log, List.append_nil]) (by simp)

theorem addReply_tally {settings : TargetState.GapSettings} {st st' : TargetState} {ts : ℚ}
    {candidate : Option (ℚ × ℚ × ℚ)} (ok : st.addReply settings ts = .ok (st', candidate)) :
    st'.tally = st.tally := by
  unfold TargetState.addReply at ok
  dsimp only at ok
  split at ok
  · cases ok
    rfl
  · split at ok
    · cases ok
      rfl
    · obtain ⟨base, -, ok⟩ := bind_eq_ok.mp ok
      cases base with
      | none =>
          cases ok
          rfl
      | some base =>
          dsimp only at ok
          split at ok
          · cases ok
            rfl
          · split at ok
            · cases ok
              rfl
            · cases ok
              rfl

theorem readProbe_tally {event : ProbeEvent} (ok : s.readProbe setup event = .ok s') (target : String) :
    (s'.states target).tally = (s.states target).tally := by
  unfold MonitorState.readProbe at ok
  split at ok
  · cases ok
    rfl
  · cases output : event.output with
    | closed =>
        rw [output] at ok
        cases ok
        rfl
    | noise =>
        rw [output] at ok
        cases ok
        rfl
    | reply ts wall =>
        rw [output] at ok
        obtain ⟨⟨st, candidate⟩, replied, ok⟩ := bind_eq_ok.mp ok
        have updated : s'.states = Function.update s.states event.target st := by
          cases candidate with
          | none =>
              cases ok
              rfl
          | some found =>
              cases ok
              rfl
        rw [updated, Function.update_apply]
        split
        · rename_i same
          rw [same]
          exact addReply_tally replied
        · rfl

theorem resetProbeSession_tally {states : String → TargetState} {targets : List String} (target : String) :
    (resetProbeSession states targets target).tally = (states target).tally := by
  unfold resetProbeSession
  split <;> rfl

theorem enterLearning_tally {nowWall nowMono : ℚ} {starts : Starts} {reason : RelearnReason}
    (ok : s.enterLearning setup nowWall nowMono starts reason = .ok s') (target : String) :
    (s'.states target).tally = (0, []) := by
  rw [MonitorState.enterLearning, bind_eq_ok] at ok
  obtain ⟨written, writes, ok⟩ := ok
  cases ok
  exact resetProbeSession_tally target

theorem Tallied.recordCommon {event : CommonEvent} (tallied : Tallied setup s) :
    Tallied setup (s.recordCommon setup reading event) := by
  unfold MonitorState.recordCommon
  split
  · exact tallied
  · intro target known
    have before := tallied target known
    simp only [MonitorState.logged, MonitorState.row, participation_concat, noteParticipation]
    cases mode : s.active with
    | true =>
        simp only [if_true]
        exact before
    | false =>
        simp only [TargetState.tally, Prod.mk.injEq] at before
        obtain ⟨count, recent⟩ := before
        simp only [Bool.false_eq_true, if_false, MonitorState.recordParticipation, known, not_true_eq_false,
          TargetState.tally, Prod.mk.injEq, List.sum_append, List.sum_singleton]
        constructor
        · rw [count]
          split <;> rfl
        · rw [recent]
          exact dequeAppend_rtake _ _ _

theorem Tallied.turn (tallied : Tallied setup s) (turn : Turn setup reading observation s s') :
    Tallied setup s' := by
  cases turn with
  | restart => exact tallied.unlogged resetProbeSession_tally rfl
  | validate =>
      refine tallied.of_rows (fun _ => rfl) rfl ?_
      exact List.forall_mem_singleton.mpr fun _ _ => rfl
  | readProbe ok =>
      have states := readProbe_tally ok
      obtain ⟨_, _, rows, rfl, candidates⟩ := readProbe_shape ok
      refine tallied.of_rows states rfl fun row member target flags => ?_
      obtain ⟨_, _, _, _, record⟩ := candidates row member
      simp only [noteParticipation, record]
  | schedule => exact tallied.unlogged (fun _ => rfl) rfl
  | fit =>
      cases observation.fit setup reading with
      | none => exact tallied.unlogged (fun _ => rfl) rfl
      | some fit =>
          rw [fitted_shape]
          refine tallied.of_rows (fun _ => rfl) rfl ?_
          exact List.forall_mem_singleton.mpr fun _ _ => rfl
  | activate _ _ _ ok =>
      have locks := activate_locks ok
      obtain ⟨programmed, log⟩ := locks.log
      apply tallied.of_rows (fun _ => by rw [locks.states]) log
      exact List.forall_mem_singleton.mpr fun _ _ => rfl
  | countMismatch =>
      obtain ⟨mismatches, same⟩ := countMismatch_shape
      rw [same]
      exact tallied.unlogged (fun _ => rfl) rfl
  | checkPhase _ _ _ _ anchored ok =>
      rcases checkPhase_shape anchored ok with rfl | ⟨_, _, _, _, _, _, -, rfl⟩
      · exact tallied
      · refine tallied.of_rows (fun _ => rfl) rfl ?_
        exact List.forall_mem_singleton.mpr fun _ _ => rfl
  | relearn ok =>
      intro target _
      rw [enterLearning_tally ok, (enterLearning_forgets ok).log, participation_concat]
      rfl
  | sleep =>
      refine tallied.of_rows (fun _ => rfl) (List.append_assoc _ _ _) fun row member target flags => ?_
      simp only [List.cons_append, List.nil_append, List.mem_cons, List.not_mem_nil, or_false] at member
      rcases member with rfl | rfl <;> rfl

theorem visits_tallied {first : MonitorState} (tallied : Tallied setup first) (visited : Visits setup first s) :
    Tallied setup s := by
  induction visited with
  | start => exact tallied
  | moment _ moment ih =>
      cases moment with
      | recordCommon common => exact ih.recordCommon
      | turn turn => exact ih.turn turn

theorem start_tallied {net : Net} {startWall startMono : ℚ} {starts : Starts}
    (started : start setup net startWall startMono starts = .ok (some s)) : Tallied setup s := by
  obtain ⟨after, rfl⟩ := start_shape started
  exact fun target _ => rfl

end StarlinkTcp.Proof

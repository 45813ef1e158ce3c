import Mathlib.Data.List.Chain
import StarlinkTcp.Monitor.State
import StarlinkTcp.Proof.Statistics

/-!
# The gap detector of one target

What a target remembers is a function of the replies and session resets it has seen: the time of the last
reply of the session, the last 10000 short gaps between replies, and the last 2048 candidates. A candidate is
spaced from the one before it and lies inside the gap that raised it.
-/

namespace StarlinkTcp.Monitor
open Machine

inductive ReplyOp where
  | reply (ts : ℚ)
  | sessionReset
deriving DecidableEq, Repr

namespace TargetState

def resetSession (st : TargetState) : TargetState := { st with lastReplyTs := none }

def observe (settings : GapSettings) (st : TargetState) : ReplyOp → Except MonitorError TargetState
  | .reply ts => (·.1) <$> st.addReply settings ts
  | .sessionReset => .ok st.resetSession

def detect (settings : GapSettings) (ops : List ReplyOp) : Except MonitorError TargetState :=
  ops.foldlM (observe settings) fresh

end TargetState

/-! ## What the replies say -/

def ReplyOp.shown : ReplyOp → Option ℚ
  | .reply ts => some ts
  | .sessionReset => none

def sessionReply (ops : List ReplyOp) : Option ℚ := ops.getLast?.bind ReplyOp.shown

/-- The gap that a reply closes, if it counts as an interval. -/
def gapBetween (prev : Option ℚ) (op : ReplyOp) : Option ℚ :=
  prev.bind fun prev => op.shown.bind fun ts =>
    if 0 < ts - prev ∧ ts - prev ≤ 10 then some (ts - prev) else none

def replyGaps (ops : List ReplyOp) : List ℚ :=
  (ops.zip ops.tail).filterMap fun pair => gapBetween pair.1.shown pair.2

/-- The threshold that a list of recorded intervals sets for the next gap. -/
def historyThreshold (settings : TargetState.GapSettings) (intervals : List ℚ) : Option ℚ :=
  match TargetState.baseline { TargetState.fresh with intervals := intervals } settings.minBaselineSamples with
  | .ok (some (med, sigma)) => some (TargetState.gapThreshold settings med sigma)
  | _ => none

/-- A candidate raised by the reply at `ts` after the operations `ops`. -/
structure GapEvent (settings : TargetState.GapSettings) (ops : List ReplyOp)
    (ts eventTs dt threshold : ℚ) : Prop where
  inside : ∃ prev, sessionReply ops = some prev ∧ dt = ts - prev ∧ prev < eventTs ∧ eventTs < ts
  short : dt ≤ 10
  exceeds : threshold < dt
  history : historyThreshold settings ((replyGaps ops).rtake 10000) = some threshold

structure WellSpaced (settings : TargetState.GapSettings) (st : TargetState) : Prop where
  increasing : st.events.Pairwise (· < ·)
  spaced : st.events.IsChain fun a b => settings.mergeGapS < b - a
  intervals : ∀ dt ∈ st.intervals, 0 < dt ∧ dt ≤ 10

end StarlinkTcp.Monitor

namespace StarlinkTcp.Proof
open Machine Monitor

/-- The loop resets a session as the detector is told to. -/
theorem resetProbeSession_eq {states : String → TargetState} {targets : List String} {target : String} :
    resetProbeSession states targets target =
      if target ∈ targets then (states target).resetSession else states target := rfl

/-! ## Gaps between replies -/

theorem zip_tail_concat {α : Type*} (xs : List α) (x : α) :
    (xs ++ [x]).zip (xs ++ [x]).tail = xs.zip xs.tail ++ (xs.getLast?.map fun last => (last, x)).toList := by
  induction xs with
  | nil => rfl
  | cons first rest ih =>
      cases rest with
      | nil => rfl
      | cons second rest => simpa using ih

theorem replyGaps_concat (ops : List ReplyOp) (op : ReplyOp) :
    replyGaps (ops ++ [op]) = replyGaps ops ++ (gapBetween (sessionReply ops) op).toList := by
  rw [replyGaps, zip_tail_concat, List.filterMap_append, ← replyGaps, sessionReply]
  congr 1
  cases ops.getLast? with
  | none => rfl
  | some last =>
      rw [Option.map_some, Option.toList_some, Option.bind_some]
      cases gap : gapBetween last.shown op <;> simp [gap]

theorem sessionReply_concat (ops : List ReplyOp) (op : ReplyOp) :
    sessionReply (ops ++ [op]) = op.shown := by
  simp [sessionReply]

/-! ## One reply -/

variable {settings : TargetState.GapSettings} {st : TargetState}

theorem baseline_spec {minSamples : ℤ} (samples : 1 ≤ minSamples)
    (positive : ∀ dt ∈ st.intervals, 0 < dt) :
    st.baseline minSamples = .ok none ∨
      ∃ med sigma, 0 < med ∧ st.baseline minSamples = .ok (some (med, sigma)) := by
  unfold TargetState.baseline
  split
  · exact .inl rfl
  · rename_i enough
    dsimp only
    -- the core is not empty, and it holds recorded intervals only
    generalize cut : (max minSamples ((st.intervals.insertionSort (· ≤ ·)).length * 95 / 100 : ℕ)).toNat = n
    have kept : 0 < n := by omega
    have recorded : 0 < st.intervals.length := by omega
    have nonempty : (st.intervals.insertionSort (· ≤ ·)).take n ≠ [] := by
      apply List.length_pos_iff.mp
      rw [List.length_take, List.length_insertionSort]
      omega
    obtain ⟨med, found⟩ := exists_median nonempty
    obtain ⟨⟨dt, member, below⟩, -⟩ := median_span found
    have old := (List.mem_insertionSort _).mp (List.mem_of_mem_take member)
    rw [found]
    exact .inr ⟨med, _, (positive dt old).trans_le below, rfl⟩

/-- The threshold is not below the median, since the factor is at least one. -/
theorem med_le_gapThreshold {med sigma : ℚ} (factor : 1 ≤ settings.gapFactor) (positive : 0 < med) :
    med ≤ TargetState.gapThreshold settings med sigma :=
  (le_mul_of_one_le_left positive.le factor).trans ((le_max_right _ _).trans (le_max_left _ _))

theorem historyThreshold_of_baseline {med sigma : ℚ}
    (found : st.baseline settings.minBaselineSamples = .ok (some (med, sigma))) :
    historyThreshold settings st.intervals = some (TargetState.gapThreshold settings med sigma) := by
  have from_intervals : TargetState.baseline
      { TargetState.fresh with intervals := st.intervals } settings.minBaselineSamples =
        st.baseline settings.minBaselineSamples := rfl
  rw [historyThreshold, from_intervals, found]

theorem gapBetween_reply {prev ts : ℚ} (last : st.lastReplyTs = some prev) :
    gapBetween st.lastReplyTs (.reply ts) = if 0 < ts - prev ∧ ts - prev ≤ 10 then some (ts - prev) else none := by
  rw [last, gapBetween, Option.bind_some, ReplyOp.shown, Option.bind_some]

/-- What a reply reports, with the candidate it stores. -/
def Raised (settings : TargetState.GapSettings) (st : TargetState) (ts : ℚ) (events : List ℚ) :
    Option (ℚ × ℚ × ℚ) → Prop
  | none => events = st.events
  | some (eventTs, dt, threshold) =>
      (∃ prev, st.lastReplyTs = some prev ∧ dt = ts - prev ∧ prev < eventTs ∧ eventTs < ts) ∧ dt ≤ 10 ∧
        threshold < dt ∧ historyThreshold settings st.intervals = some threshold ∧
        (∀ last ∈ st.events.getLast?, settings.mergeGapS < eventTs - last) ∧
        events = dequeAppend 2048 st.events eventTs

structure Replied (settings : TargetState.GapSettings) (st : TargetState) (ts : ℚ) (st' : TargetState)
    (out : Option (ℚ × ℚ × ℚ)) : Prop where
  last : st'.lastReplyTs = some ts
  recorded : st'.intervals =
    (gapBetween st.lastReplyTs (.reply ts)).elim st.intervals (dequeAppend 10000 st.intervals)
  raised : Raised settings st ts st'.events out

theorem addReply_replied (factor : 1 ≤ settings.gapFactor) (samples : 1 ≤ settings.minBaselineSamples)
    (positive : ∀ dt ∈ st.intervals, 0 < dt) (ts : ℚ) :
    ∃ st' out, st.addReply settings ts = .ok (st', out) ∧ Replied settings st ts st' out := by
  unfold TargetState.addReply
  dsimp only
  cases last : st.lastReplyTs with
  | none => exact ⟨_, _, rfl, rfl, by simp [gapBetween, last], rfl⟩
  | some prev =>
      dsimp only
      split
      · rename_i outside
        have gap : gapBetween st.lastReplyTs (.reply ts) = none := by
          rw [gapBetween_reply last, if_neg]
          rintro ⟨after, short⟩
          rcases outside with before | long <;> linarith
        exact ⟨_, _, rfl, rfl, by rw [gap, Option.elim_none], rfl⟩
      · rename_i inside
        obtain ⟨after, short⟩ := not_or.mp inside
        rw [not_le] at after
        rw [not_lt] at short
        have gap : gapBetween st.lastReplyTs (.reply ts) = some (ts - prev) := by
          rw [gapBetween_reply last, if_pos ⟨after, short⟩]
        have same : TargetState.baseline
            { st with replies := st.replies + 1, lastReplyTs := some ts } settings.minBaselineSamples =
              st.baseline settings.minBaselineSamples := rfl
        rw [same]
        rcases baseline_spec samples positive with none | ⟨med, sigma, medPos, found⟩
        · rw [none]
          exact ⟨_, _, rfl, rfl, by rw [gap, Option.elim_some], rfl⟩
        · rw [found]
          simp only [bind, Except.bind]
          split
          · exact ⟨_, _, rfl, rfl, by rw [gap, Option.elim_some], rfl⟩
          · split
            · exact ⟨_, _, rfl, rfl, by rw [gap, Option.elim_some], rfl⟩
            · rename_i exceeds merged
              rw [not_le] at exceeds
              -- the gap is longer than the median, so the event comes after the reply before
              have above := @med_le_gapThreshold settings med sigma factor medPos
              refine ⟨_, _, rfl, rfl, by rw [gap, Option.elim_some], ⟨prev, last, rfl, by linarith, by linarith⟩,
                short, exceeds, historyThreshold_of_baseline found, ?_, ?_⟩
              · intro old stored
                exact not_le.mp fun near => merged ⟨old, stored, near⟩
              · dsimp only

/-! ## Runs -/

structure Detected (settings : TargetState.GapSettings) (ops : List ReplyOp) (st : TargetState) : Prop where
  last : st.lastReplyTs = sessionReply ops
  recorded : st.intervals = (replyGaps ops).rtake 10000
  spaced : st.events.IsChain fun a b => settings.mergeGapS < b - a

theorem replyGaps_bounds {ops : List ReplyOp} {dt : ℚ} (member : dt ∈ replyGaps ops) : 0 < dt ∧ dt ≤ 10 := by
  obtain ⟨⟨first, second⟩, -, gap⟩ := List.mem_filterMap.mp member
  simp only [gapBetween, Option.bind_eq_some_iff] at gap
  obtain ⟨prev, -, ts, -, counted⟩ := gap
  split at counted
  · rename_i bounds
    cases counted
    exact bounds
  · cases counted

theorem Detected.bounds {ops : List ReplyOp} (detected : Detected settings ops st) :
    ∀ dt ∈ st.intervals, 0 < dt ∧ dt ≤ 10 := by
  intro dt member
  rw [detected.recorded] at member
  exact replyGaps_bounds (List.mem_of_mem_drop member)

theorem dequeAppend_isChain {n : Nat} {gap eventTs : ℚ} {events : List ℚ}
    (spaced : events.IsChain fun a b => gap < b - a)
    (next : ∀ last ∈ events.getLast?, gap < eventTs - last) :
    (dequeAppend n events eventTs).IsChain fun a b => gap < b - a := by
  apply List.IsChain.drop
  apply List.IsChain.append spaced (List.isChain_singleton _)
  intro last stored first single
  cases single
  exact next last stored

theorem elim_dequeAppend_rtake {n : Nat} {gaps : List ℚ} {gap : Option ℚ} :
    gap.elim (gaps.rtake n) (dequeAppend n (gaps.rtake n)) = (gaps ++ gap.toList).rtake n := by
  cases gap with
  | none => simp
  | some dt => exact dequeAppend_rtake n gaps dt

theorem Replied.detected {ops : List ReplyOp} {ts : ℚ} {st' : TargetState} {out : Option (ℚ × ℚ × ℚ)}
    (replied : Replied settings st ts st' out) (detected : Detected settings ops st) :
    Detected settings (ops ++ [.reply ts]) st' := by
  refine ⟨by rw [replied.last, sessionReply_concat]; rfl, ?_, ?_⟩
  · rw [replied.recorded, replyGaps_concat, ← detected.last, detected.recorded]
    exact elim_dequeAppend_rtake ..
  · have raised := replied.raised
    cases out with
    | none =>
        rw [Raised] at raised
        exact raised ▸ detected.spaced
    | some report =>
        obtain ⟨-, -, -, -, next, stored⟩ := raised
        rw [stored]
        exact dequeAppend_isChain detected.spaced next

theorem detect_detected (factor : 1 ≤ settings.gapFactor) (samples : 1 ≤ settings.minBaselineSamples)
    (ops : List ReplyOp) : ∃ st, TargetState.detect settings ops = .ok st ∧ Detected settings ops st := by
  induction ops using List.reverseRecOn with
  | nil => exact ⟨_, rfl, rfl, rfl, List.IsChain.nil⟩
  | append_singleton ops op ih =>
      obtain ⟨st, found, detected⟩ := ih
      have next : TargetState.detect settings (ops ++ [op]) = st.observe settings op := by
        rw [TargetState.detect, List.foldlM_append, ← TargetState.detect, found]
        exact bind_pure (st.observe settings op)
      rw [next]
      cases op with
      | reply ts =>
          obtain ⟨st', out, ok, replied⟩ :=
            addReply_replied factor samples (fun dt member => (detected.bounds dt member).1) ts
          exact ⟨st', by rw [TargetState.observe, ok]; rfl, replied.detected detected⟩
      | sessionReset =>
          refine ⟨_, rfl, by rw [sessionReply_concat]; rfl, ?_, detected.spaced⟩
          rw [replyGaps_concat]
          have none : gapBetween (sessionReply ops) .sessionReset = none := by
            cases sessionReply ops <;> rfl
          rw [none, Option.toList_none, List.append_nil]
          exact detected.recorded

theorem isChain_increasing {gap : ℚ} {events : List ℚ} (nonneg : 0 ≤ gap)
    (spaced : events.IsChain fun a b => gap < b - a) : events.Pairwise (· < ·) :=
  List.isChain_iff_pairwise.mp (spaced.imp fun _ _ lt => by linarith)

theorem detect_wellSpaced (settings : TargetState.GapSettings) (factor : 1 ≤ settings.gapFactor)
    (merge : 0 ≤ settings.mergeGapS) (samples : 1 ≤ settings.minBaselineSamples) (ops : List ReplyOp) :
    ∃ st, TargetState.detect settings ops = .ok st ∧ WellSpaced settings st ∧
      ∀ ts, ∃ st' out, st.addReply settings ts = .ok (st', out) ∧
        match out with
        | none => st'.events = st.events
        | some (eventTs, dt, threshold) => GapEvent settings ops ts eventTs dt threshold ∧
            st'.events = dequeAppend 2048 st.events eventTs := by
  obtain ⟨st, found, detected⟩ := detect_detected factor samples ops
  refine ⟨st, found, ⟨isChain_increasing merge detected.spaced, detected.spaced, detected.bounds⟩, fun ts => ?_⟩
  obtain ⟨st', out, ok, replied⟩ :=
    addReply_replied factor samples (fun dt member => (detected.bounds dt member).1) ts
  refine ⟨st', out, ok, ?_⟩
  have raised := replied.raised
  cases out with
  | none => exact raised
  | some report =>
      obtain ⟨inside, short, exceeds, history, -, stored⟩ := raised
      rw [detected.last] at inside
      rw [detected.recorded] at history
      exact ⟨⟨inside, short, exceeds, history⟩, stored⟩

theorem detect_wellSpaced_session :
    ∃ st, TargetState.detect ⟨1, 50, 23 / 10, 7, 1 / 5⟩ [.reply 0, .reply (1 / 10), .sessionReset, .reply 5] = .ok st ∧
      WellSpaced ⟨1, 50, 23 / 10, 7, 1 / 5⟩ st ∧
      ∀ ts, ∃ st' out, st.addReply ⟨1, 50, 23 / 10, 7, 1 / 5⟩ ts = .ok (st', out) ∧
        match out with
        | none => st'.events = st.events
        | some (eventTs, dt, threshold) =>
            GapEvent ⟨1, 50, 23 / 10, 7, 1 / 5⟩ [.reply 0, .reply (1 / 10), .sessionReset, .reply 5] ts eventTs dt
              threshold ∧ st'.events = dequeAppend 2048 st.events eventTs :=
  detect_wellSpaced ⟨1, 50, 23 / 10, 7, 1 / 5⟩ (by norm_num) (by norm_num) (by norm_num) _

end StarlinkTcp.Proof

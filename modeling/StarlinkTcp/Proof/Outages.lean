import Mathlib.Data.List.Infix
import StarlinkTcp.Machine.Fallible
import StarlinkTcp.Machine.Majority
import StarlinkTcp.Proof.GapDetector

/-!
# Outages of one target

Replies come at a jittered interval, but for outages. While most recorded gaps are regular, the median and the
deviation that the baseline takes from them are those of the regular gaps, so the threshold lies between the
regular gaps and the outages. Every outage after the first samples is then a candidate at the time its first
reply was due, and nothing else is a candidate.
-/

namespace StarlinkTcp.Monitor
open TargetState

/-- The last reply before an outage that a reply ends, once the baseline has its samples. -/
def outageAt (settings : GapSettings) (loss : ℚ) (before : List ReplyOp) (op : ReplyOp) : Option ℚ :=
  (sessionReply before).bind fun prev => op.shown.bind fun ts =>
    if loss ≤ ts - prev ∧ ts - prev ≤ 10 ∧
        settings.minBaselineSamples ≤ ((replyGaps before).rtake 10000).length then
      some prev
    else none

def outageStarts (settings : GapSettings) (loss : ℚ) (ops : List ReplyOp) : List ℚ :=
  (ops.inits.zip ops).filterMap fun pair => outageAt settings loss pair.1 pair.2

end StarlinkTcp.Monitor

namespace StarlinkTcp.Proof
open Machine Monitor

/-- The settings tell outages of at least `loss` from gaps within `jitter` of `every`. -/
structure Discerning (settings : TargetState.GapSettings) (every jitter loss : ℚ) : Prop where
  positive : 0 < every
  precise : 0 ≤ jitter
  factor : 1 ≤ settings.gapFactor
  samples : 1 ≤ settings.minBaselineSamples
  sigma : 0 ≤ settings.madSigma
  regular : every + jitter ≤ max (settings.minGapMs / 1000) (settings.gapFactor * (every - jitter))
  outages : TargetState.gapThreshold settings (every + jitter) (14826 / 10000 * (2 * jitter)) < loss

/-- Every gap is regular or an outage; the outages are rare among the recorded gaps, and apart. -/
structure Disturbed (settings : TargetState.GapSettings) (every jitter loss : ℚ) (ops : List ReplyOp) : Prop where
  gaps : ∀ dt ∈ replyGaps ops, |dt - every| ≤ jitter ∨ loss ≤ dt
  rare : ∀ before ∈ ops.inits,
    5 * ((replyGaps before).rtake 10000).countP (loss ≤ ·) ≤ ((replyGaps before).rtake 10000).length
  apart : (outageStarts settings loss ops).IsChain fun a b => settings.mergeGapS + 2 * jitter < b - a

/-! ## What a majority says -/

theorem median_of_majority {xs : List ℚ} {low high middle : ℚ} (found : median xs = some middle)
    (majority : xs.length < 2 * xs.countP fun x => low ≤ x ∧ x ≤ high) : low ≤ middle ∧ middle ≤ high := by
  have some_length := List.length_pos_iff.mpr (ne_nil_of_median found)
  have sorted := List.pairwise_insertionSort (· ≤ ·) xs
  have same := List.length_insertionSort (· ≤ ·) xs
  rw [← (List.perm_insertionSort (· ≤ ·) xs).countP_eq, ← same] at majority
  obtain ⟨above, below⟩ := middle_of_majority sorted majority (by omega)
  obtain ⟨lower, upper⟩ := median_between found
  simp only [same] at above below
  rw [List.getD_eq_getElem _ _ (by omega)] at lower upper
  exact ⟨above.trans lower, upper.trans below⟩

theorem mad_of_majority {xs : List ℚ} {low high middle : ℚ} (low_le : low ≤ middle) (le_high : middle ≤ high)
    (majority : xs.length < 2 * xs.countP fun x => low ≤ x ∧ x ≤ high) :
    mad xs middle ≤ high - low := by
  have nonempty : (xs.map fun x => |x - middle|) ≠ [] := by
    rw [← List.length_pos_iff, List.length_map]
    have most := xs.countP_le_length (p := fun x => decide (low ≤ x ∧ x ≤ high))
    omega
  obtain ⟨deviation, found⟩ := exists_median nonempty
  rw [mad, found, Option.getD_some]
  refine (@median_of_majority _ 0 (high - low) _ found ?_).2
  rw [List.length_map, List.countP_map]
  refine majority.trans_le (Nat.mul_le_mul_left 2 (List.countP_mono_left fun x _ between => ?_))
  obtain ⟨lower, upper⟩ := of_decide_eq_true between
  refine decide_eq_true ⟨abs_nonneg _, abs_le.mpr ⟨?_, ?_⟩⟩ <;> linarith

/-! ## The baseline -/

section Baseline

variable {settings : TargetState.GapSettings} {every jitter loss : ℚ} {st : TargetState}
variable (discerning : Discerning settings every jitter loss)

include discerning

theorem Discerning.baseline (gaps : ∀ dt ∈ st.intervals, |dt - every| ≤ jitter ∨ loss ≤ dt)
    (rare : 5 * st.intervals.countP (loss ≤ ·) ≤ st.intervals.length)
    (enough : settings.minBaselineSamples ≤ st.intervals.length) :
    ∃ med sigma, st.baseline settings.minBaselineSamples = .ok (some (med, sigma)) ∧ |med - every| ≤ jitter ∧
      sigma ≤ 14826 / 10000 * (2 * jitter) := by
  have samples := discerning.samples
  unfold TargetState.baseline
  rw [if_neg (not_lt.mpr enough)]
  dsimp only
  have same := List.length_insertionSort (· ≤ ·) st.intervals
  generalize cut : (max settings.minBaselineSamples
    ((st.intervals.insertionSort (· ≤ ·)).length * 95 / 100 : ℕ)).toNat = n
  have kept : (st.intervals.insertionSort (· ≤ ·)).length * 95 / 100 ≤ n ∧ 1 ≤ n ∧
      n ≤ (st.intervals.insertionSort (· ≤ ·)).length := by omega
  -- what is not regular is an outage
  have outsiders : (st.intervals.insertionSort (· ≤ ·)).countP
      (fun dt => ¬ decide (every - jitter ≤ dt ∧ dt ≤ every + jitter) = true) ≤
        st.intervals.countP (loss ≤ ·) := by
    rw [(List.perm_insertionSort (· ≤ ·) st.intervals).countP_eq]
    refine List.countP_mono_left fun dt member outside => decide_eq_true ?_
    rcases gaps dt member with regular | outage
    · obtain ⟨lower, upper⟩ := abs_le.mp regular
      exact absurd (decide_eq_true ⟨by linarith, by linarith⟩) (of_decide_eq_true outside)
    · exact outage
  have inside := countP_take_add (p := fun dt => decide (every - jitter ≤ dt ∧ dt ≤ every + jitter)) kept.2.2
  have size : ((st.intervals.insertionSort (· ≤ ·)).take n).length = n := by
    rw [List.length_take]
    omega
  have majority : ((st.intervals.insertionSort (· ≤ ·)).take n).length <
      2 * ((st.intervals.insertionSort (· ≤ ·)).take n).countP
        fun dt => every - jitter ≤ dt ∧ dt ≤ every + jitter := by
    rw [size]
    omega
  obtain ⟨med, found⟩ := exists_median (List.length_pos_iff.mp (by omega) :
    (st.intervals.insertionSort (· ≤ ·)).take n ≠ [])
  obtain ⟨lower, upper⟩ := median_of_majority found majority
  have narrow := mad_of_majority lower upper majority
  rw [found]
  exact ⟨med, _, rfl, abs_le.mpr ⟨by linarith, by linarith⟩, by linarith⟩

theorem Discerning.threshold {med sigma : ℚ} (near : |med - every| ≤ jitter)
    (narrow : sigma ≤ 14826 / 10000 * (2 * jitter)) :
    every + jitter ≤ TargetState.gapThreshold settings med sigma ∧
      TargetState.gapThreshold settings med sigma < loss := by
  obtain ⟨lower, upper⟩ := abs_le.mp near
  have factor : 0 ≤ settings.gapFactor := zero_le_one.trans discerning.factor
  constructor
  · refine discerning.regular.trans (le_max_of_le_left (max_le_max_left _ ?_))
    exact mul_le_mul_of_nonneg_left (by linarith) factor
  · refine lt_of_le_of_lt (max_le_max (max_le_max_left _ ?_) (add_le_add ?_ ?_)) discerning.outages
    · exact mul_le_mul_of_nonneg_left (by linarith) factor
    · linarith
    · exact mul_le_mul_of_nonneg_left narrow discerning.sigma

theorem Discerning.loss_pos : every + jitter < loss := by
  have exact_median : |every - every| ≤ jitter := by simpa using discerning.precise
  obtain ⟨above, below⟩ := discerning.threshold exact_median le_rfl
  exact above.trans_lt below

end Baseline

/-! ## One reply -/

section Reply

variable {settings : TargetState.GapSettings} {st st' : TargetState} {ts : ℚ} {out : Option (ℚ × ℚ × ℚ)}

theorem addReply_unseen (unseen : gapBetween st.lastReplyTs (.reply ts) = none ∨
      st.baseline settings.minBaselineSamples = .ok none)
    (ok : st.addReply settings ts = .ok (st', out)) :
    st'.events = st.events ∧ st'.candidateCount = st.candidateCount := by
  unfold TargetState.addReply at ok
  dsimp only at ok
  split at ok
  · cases ok
    exact ⟨rfl, rfl⟩
  · rename_i prev last
    split at ok
    · cases ok
      exact ⟨rfl, rfl⟩
    · rename_i inside
      obtain ⟨after, short⟩ := not_or.mp inside
      rcases unseen with outside | missing
      · rw [gapBetween_reply last, if_pos ⟨not_le.mp after, not_lt.mp short⟩] at outside
        cases outside
      · have same : TargetState.baseline
            { st with replies := st.replies + 1, lastReplyTs := some ts } settings.minBaselineSamples =
              st.baseline settings.minBaselineSamples := rfl
        rw [same, missing] at ok
        cases ok
        exact ⟨rfl, rfl⟩

theorem addReply_seen {prev med sigma : ℚ} (last : st.lastReplyTs = some prev) (after : 0 < ts - prev)
    (short : ts - prev ≤ 10) (found : st.baseline settings.minBaselineSamples = .ok (some (med, sigma)))
    (ok : st.addReply settings ts = .ok (st', out)) :
    if ts - prev ≤ TargetState.gapThreshold settings med sigma ∨
        ∃ last ∈ st.events.getLast?, prev + med - last ≤ settings.mergeGapS then
      st'.events = st.events ∧ st'.candidateCount = st.candidateCount
    else
      st'.events = dequeAppend 2048 st.events (prev + med) ∧ st'.candidateCount = st.candidateCount + 1 := by
  unfold TargetState.addReply at ok
  dsimp only at ok
  rw [last] at ok
  have same : TargetState.baseline
      { st with replies := st.replies + 1, lastReplyTs := some ts } settings.minBaselineSamples =
        st.baseline settings.minBaselineSamples := rfl
  dsimp only at ok
  rw [if_neg (not_or.mpr ⟨not_le.mpr after, not_lt.mpr short⟩), same, found] at ok
  simp only [bind, Except.bind] at ok
  split at ok
  · rename_i regular
    rw [if_pos (.inl regular)]
    cases ok
    exact ⟨rfl, rfl⟩
  · rename_i long
    split at ok
    · rename_i merged
      rw [if_pos (.inr merged)]
      cases ok
      exact ⟨rfl, rfl⟩
    · rename_i apart
      rw [if_neg (not_or.mpr ⟨long, apart⟩)]
      cases ok
      simp only [and_self]

end Reply

/-! ## Runs -/

section Runs

variable {settings : TargetState.GapSettings} {every jitter loss : ℚ} {st st' : TargetState}
variable {ops : List ReplyOp} {op : ReplyOp}

theorem inits_zip_concat {α : Type} (xs : List α) (x : α) :
    (xs ++ [x]).inits.zip (xs ++ [x]) = xs.inits.zip xs ++ [(xs, x)] := by
  induction xs with
  | nil => rfl
  | cons first rest ih =>
      rw [List.cons_append, List.inits_cons, List.inits_cons, List.zip_cons_cons, List.zip_cons_cons,
        List.zip_map_left, List.zip_map_left, ih, List.map_append]
      rfl

theorem outageStarts_concat (ops : List ReplyOp) (op : ReplyOp) :
    outageStarts settings loss (ops ++ [op]) =
      outageStarts settings loss ops ++ (outageAt settings loss ops op).toList := by
  rw [outageStarts, inits_zip_concat, List.filterMap_append, ← outageStarts]
  rfl

theorem Disturbed.before (disturbed : Disturbed settings every jitter loss (ops ++ [op])) :
    Disturbed settings every jitter loss ops where
  gaps := fun dt member => disturbed.gaps dt (by
    rw [replyGaps_concat]
    exact List.mem_append_left _ member)
  rare := fun before early => disturbed.rare before
    ((List.mem_inits _ _).mpr (((List.mem_inits _ _).mp early).trans (List.prefix_append ops [op])))
  apart := by
    have apart := disturbed.apart
    rw [outageStarts_concat] at apart
    exact apart.left_of_append

theorem Disturbed.early {before : List ReplyOp} (disturbed : Disturbed settings every jitter loss ops)
    (early : before ∈ ops.inits) : Disturbed settings every jitter loss before := by
  obtain ⟨rest, rfl⟩ := (List.mem_inits _ _).mp early
  clear early
  induction rest using List.reverseRecOn with
  | nil => rwa [List.append_nil] at disturbed
  | append_singleton rest op ih =>
      rw [← List.append_assoc] at disturbed
      exact ih disturbed.before

/-- The candidates so far, one for each outage. -/
structure Follows (settings : TargetState.GapSettings) (every jitter loss : ℚ) (ops : List ReplyOp)
    (st : TargetState) : Prop where
  events : List.Forall₂ (fun event start => |event - (start + every)| ≤ jitter) st.events
    ((outageStarts settings loss ops).rtake 2048)
  count : st.candidateCount = (outageStarts settings loss ops).length

theorem Follows.unchanged (follows : Follows settings every jitter loss ops st)
    (none : outageAt settings loss ops op = none)
    (same : st'.events = st.events ∧ st'.candidateCount = st.candidateCount) :
    Follows settings every jitter loss (ops ++ [op]) st' := by
  constructor
  · rw [outageStarts_concat, none, Option.toList_none, List.append_nil, same.1]
    exact follows.events
  · rw [outageStarts_concat, none, Option.toList_none, List.append_nil, same.2]
    exact follows.count

theorem Follows.raised {start event : ℚ} (follows : Follows settings every jitter loss ops st)
    (found : outageAt settings loss ops op = some start) (near : |event - (start + every)| ≤ jitter)
    (stored : st'.events = dequeAppend 2048 st.events event ∧ st'.candidateCount = st.candidateCount + 1) :
    Follows settings every jitter loss (ops ++ [op]) st' := by
  constructor
  · rw [outageStarts_concat, found, Option.toList_some, stored.1, ← dequeAppend_rtake]
    exact forall₂_dequeAppend 2048 follows.events near
  · rw [outageStarts_concat, found, Option.toList_some, stored.2, follows.count, List.length_append,
      List.length_singleton]

theorem forall₂_getLast {α β : Type} {rel : α → β → Prop} {xs : List α} {ys : List β}
    (related : List.Forall₂ rel xs ys) {x : α} (last : x ∈ xs.getLast?) : ∃ y ∈ ys.getLast?, rel x y := by
  induction related with
  | nil => cases last
  | cons next rest ih =>
      cases rest with
      | nil =>
          cases last
          exact ⟨_, rfl, next⟩
      | cons second others =>
          rw [List.getLast?_cons_cons] at last ⊢
          exact ih last

/-- The last candidate is of the last outage. -/
theorem Follows.last {event : ℚ} (follows : Follows settings every jitter loss ops st)
    (last : event ∈ st.events.getLast?) :
    ∃ start ∈ (outageStarts settings loss ops).getLast?, |event - (start + every)| ≤ jitter := by
  obtain ⟨start, recent, near⟩ := forall₂_getLast follows.events last
  rw [List.rtake, List.getLast?_drop] at recent
  split at recent
  · cases recent
  · exact ⟨start, recent, near⟩

theorem outageAt_reply {prev ts : ℚ} (last : sessionReply ops = some prev) :
    outageAt settings loss ops (.reply ts) =
      if loss ≤ ts - prev ∧ ts - prev ≤ 10 ∧
          settings.minBaselineSamples ≤ ((replyGaps ops).rtake 10000).length then some prev else none := by
  rw [outageAt, last, Option.bind_some, ReplyOp.shown, Option.bind_some]

variable (discerning : Discerning settings every jitter loss)

include discerning

theorem Discerning.outage_counted {prev ts : ℚ} (long : loss ≤ ts - prev) : 0 < ts - prev := by
  linarith [discerning.loss_pos, discerning.positive, discerning.precise]

/-- What the baseline says of the gaps recorded so far. -/
theorem Discerning.baseline_detected (disturbed : Disturbed settings every jitter loss ops)
    (detected : Detected settings ops st) (enough : settings.minBaselineSamples ≤ st.intervals.length) :
    ∃ med sigma, st.baseline settings.minBaselineSamples = .ok (some (med, sigma)) ∧ |med - every| ≤ jitter ∧
      sigma ≤ 14826 / 10000 * (2 * jitter) := by
  have recorded := detected.recorded
  apply discerning.baseline _ _ enough
  · intro dt member
    rw [recorded] at member
    exact disturbed.gaps dt (List.mem_of_mem_drop member)
  · rw [recorded]
    exact disturbed.rare ops ((List.mem_inits _ _).mpr (List.prefix_refl ops))

theorem Discerning.reply_seen {prev ts : ℚ} {out : Option (ℚ × ℚ × ℚ)}
    (disturbed : Disturbed settings every jitter loss (ops ++ [.reply ts])) (detected : Detected settings ops st)
    (follows : Follows settings every jitter loss ops st) (last : st.lastReplyTs = some prev)
    (after : 0 < ts - prev) (short : ts - prev ≤ 10)
    (enough : settings.minBaselineSamples ≤ st.intervals.length) (ok : st.addReply settings ts = .ok (st', out)) :
    Follows settings every jitter loss (ops ++ [.reply ts]) st' := by
  have session := detected.last.symm.trans last
  have early := disturbed.before
  have recorded := detected.recorded
  obtain ⟨med, sigma, found, near, narrow⟩ := discerning.baseline_detected early detected enough
  obtain ⟨above, below⟩ := discerning.threshold near narrow
  have seen := addReply_seen last after short found ok
  have gap : ts - prev ∈ replyGaps (ops ++ [.reply ts]) := by
    rw [replyGaps_concat, ← detected.last, gapBetween_reply last, if_pos ⟨after, short⟩]
    simp
  rcases disturbed.gaps _ gap with regular | long
  · obtain ⟨-, upper⟩ := abs_le.mp regular
    rw [if_pos (.inl (by linarith))] at seen
    refine follows.unchanged ?_ seen
    rw [outageAt_reply session, if_neg]
    rintro ⟨long, -⟩
    linarith
  · have outage : outageAt settings loss ops (.reply ts) = some prev := by
      rw [outageAt_reply session, if_pos ⟨long, short, by rwa [← recorded]⟩]
    -- the candidate before this one belongs to an outage that is further away
    have apart : ¬ ∃ last ∈ st.events.getLast?, prev + med - last ≤ settings.mergeGapS := by
      rintro ⟨event, stored, merged⟩
      obtain ⟨start, recent, close⟩ := follows.last stored
      have chain := disturbed.apart
      rw [outageStarts_concat, outage, Option.toList_some, List.isChain_append] at chain
      have further := chain.2.2 start recent prev rfl
      linarith [abs_le.mp close, abs_le.mp near]
    rw [if_neg (not_or.mpr ⟨not_le.mpr (below.trans_le long), apart⟩)] at seen
    refine follows.raised outage ?_ seen
    rwa [add_sub_add_left_eq_sub]

theorem Discerning.reply {ts : ℚ} {out : Option (ℚ × ℚ × ℚ)}
    (disturbed : Disturbed settings every jitter loss (ops ++ [.reply ts])) (detected : Detected settings ops st)
    (follows : Follows settings every jitter loss ops st) (ok : st.addReply settings ts = .ok (st', out)) :
    Follows settings every jitter loss (ops ++ [.reply ts]) st' := by
  cases last : st.lastReplyTs with
  | none =>
      have session := detected.last.symm.trans last
      exact follows.unchanged (by rw [outageAt, session]; rfl) (addReply_unseen (.inl (by rw [last]; rfl)) ok)
  | some prev =>
      have session := detected.last.symm.trans last
      by_cases counted : 0 < ts - prev ∧ ts - prev ≤ 10
      · by_cases enough : settings.minBaselineSamples ≤ st.intervals.length
        · exact discerning.reply_seen disturbed detected follows last counted.1 counted.2 enough ok
        · have missing : st.baseline settings.minBaselineSamples = .ok none := by
            rw [TargetState.baseline, if_pos (not_le.mp enough)]
          refine follows.unchanged ?_ (addReply_unseen (.inr missing) ok)
          rw [outageAt_reply session, if_neg]
          rintro ⟨-, -, sampled⟩
          rw [← detected.recorded] at sampled
          exact enough sampled
      · have outside : gapBetween st.lastReplyTs (.reply ts) = none := by
          rw [gapBetween_reply last, if_neg counted]
        refine follows.unchanged ?_ (addReply_unseen (.inl outside) ok)
        rw [outageAt_reply session, if_neg]
        rintro ⟨long, short, -⟩
        exact counted ⟨discerning.outage_counted long, short⟩

theorem Discerning.detected (found : TargetState.detect settings ops = .ok st) : Detected settings ops st := by
  obtain ⟨st', same, detected⟩ := detect_detected discerning.factor discerning.samples ops
  cases found.symm.trans same
  exact detected

theorem Discerning.follows (disturbed : Disturbed settings every jitter loss ops)
    (found : TargetState.detect settings ops = .ok st) : Follows settings every jitter loss ops st := by
  induction ops using List.reverseRecOn generalizing st with
  | nil =>
      cases found
      have none : outageStarts settings loss [] = [] := rfl
      constructor
      · rw [none, List.rtake_nil]
        exact .nil
      · rw [none]
        rfl
  | append_singleton ops op ih =>
      rw [TargetState.detect, List.foldlM_append] at found
      obtain ⟨before, early, last⟩ := bind_eq_ok.mp found
      have step : before.observe settings op = .ok st := (bind_pure (before.observe settings op)).symm.trans last
      have follows := ih disturbed.before early
      have detected := discerning.detected early
      cases op with
      | reply ts =>
          obtain ⟨⟨next, out⟩, ok, same⟩ := bind_eq_ok.mp step
          cases same
          exact discerning.reply disturbed detected follows ok
      | sessionReset =>
          cases step
          refine follows.unchanged ?_ ⟨rfl, rfl⟩
          unfold outageAt
          cases sessionReply ops <;> rfl

end Runs

/-- Where the gaps are regular but for rare outages, the candidates are the outages: one for each of them once
there is a baseline, at the time its first reply was due up to the jitter, and the last 2048 are kept. At every
moment the baseline is that of the regular gaps up to the jitter. -/
theorem outages_detected (settings : TargetState.GapSettings) (every jitter loss : ℚ) (ops : List ReplyOp)
    (discerning : Discerning settings every jitter loss) (disturbed : Disturbed settings every jitter loss ops) :
    (∃ st, TargetState.detect settings ops = .ok st ∧
      List.Forall₂ (fun event start => |event - (start + every)| ≤ jitter) st.events
        ((outageStarts settings loss ops).rtake 2048) ∧
      st.candidateCount = (outageStarts settings loss ops).length) ∧
    ∀ before ∈ ops.inits, ∃ st, TargetState.detect settings before = .ok st ∧
      (settings.minBaselineSamples ≤ st.intervals.length →
        ∃ med sigma, st.baseline settings.minBaselineSamples = .ok (some (med, sigma)) ∧
          |med - every| ≤ jitter ∧ sigma ≤ 14826 / 10000 * (2 * jitter)) := by
  constructor
  · obtain ⟨st, found, -⟩ := detect_detected discerning.factor discerning.samples ops
    have follows := discerning.follows disturbed found
    exact ⟨st, found, follows.events, follows.count⟩
  · intro before early
    obtain ⟨st, found, detected⟩ := detect_detected discerning.factor discerning.samples before
    exact ⟨st, found, discerning.baseline_detected (disturbed.early early) detected⟩

def disturbedReplies : List ReplyOp :=
  ([0, 100, 200, 300, 401, 500, 800, 900, 1000, 1100, 1200, 1500].map fun ms : ℚ => .reply (ms / 1000))

theorem outages_detected_twice :
    ∃ st, TargetState.detect ⟨3, 50, 23 / 10, 7, 1 / 5⟩ disturbedReplies = .ok st ∧ st.candidateCount = 2 := by
  have discerning : Discerning ⟨3, 50, 23 / 10, 7, 1 / 5⟩ (1 / 10) (1 / 500) (1 / 4) := by
    constructor <;> decide +kernel
  have disturbed : Disturbed ⟨3, 50, 23 / 10, 7, 1 / 5⟩ (1 / 10) (1 / 500) (1 / 4) disturbedReplies := by
    constructor <;> decide +kernel
  obtain ⟨⟨st, found, -, count⟩, -⟩ := outages_detected _ _ _ _ _ discerning disturbed
  exact ⟨st, found, count.trans (by decide +kernel)⟩

end StarlinkTcp.Proof

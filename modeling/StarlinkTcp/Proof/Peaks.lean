import Mathlib.Data.List.Chain
import Mathlib.Data.List.GetD
import Mathlib.Data.List.MinMax
import StarlinkTcp.Graph.Cdf
import StarlinkTcp.Monitor.Period

/-!
# The peaks of a series of intervals

A candidate is a sample that reaches the threshold. Collapsing leaves the largest sample of every run of
candidates, in order; merging keeps the peaks apart and always one that is as large as any it drops.
-/

namespace StarlinkTcp.Graph

/-- Percentiles by linear interpolation, and no rounding. -/
def interpolated : Numerics where
  percentile values p := (Monitor.percentile values p).getD 0
  rounded := id

/-- The sample `i` is there and reaches the threshold. -/
def Above (values : List ℚ) (threshold : ℚ) (i : Nat) : Prop :=
  i < values.length ∧ threshold ≤ valueAt values i

/-- All samples from one of `p` and `q` to the other are candidates. -/
def SameRun (values : List ℚ) (threshold : ℚ) (p q : Nat) : Prop :=
  ∀ i, min p q ≤ i → i ≤ max p q → Above values threshold i

/-- `lo` and `hi` are the first and the last sample of a run. -/
structure IsRun (values : List ℚ) (threshold : ℚ) (lo hi : Nat) : Prop where
  within : ∀ i, lo ≤ i → i ≤ hi → Above values threshold i
  before : ∀ i, i + 1 = lo → ¬ Above values threshold i
  after : ¬ Above values threshold (hi + 1)

structure RunPeak (values : List ℚ) (threshold : ℚ) (p : Nat) : Prop where
  above : Above values threshold p
  largest : ∀ q, SameRun values threshold p q → valueAt values q ≤ valueAt values p

structure PeaksFound (values : List ℚ) (threshold : ℚ) (minGap : ℤ) (peaks : List Nat) : Prop where
  nonempty : peaks ≠ []
  increasing : peaks.Pairwise (· < ·)
  valid : ∀ p ∈ peaks, p < values.length
  spaced : peaks.IsChain fun p q : Nat => minGap < (q : ℤ) - p
  reaches : ∀ p ∈ peaks, threshold ≤ valueAt values p
  largestOfRun : ∀ p ∈ peaks, ∀ q, SameRun values threshold p q → valueAt values q ≤ valueAt values p
  largestOfAll : ∃ p ∈ peaks, ∀ v ∈ values, v ≤ valueAt values p

end StarlinkTcp.Graph

namespace StarlinkTcp.Proof
open StarlinkTcp.Graph

section
variable {values : List ℚ} {threshold : ℚ}

/-! ## Runs of candidates -/

theorem run_connected {lo hi p q : Nat} (run : IsRun values threshold lo hi) (lower : lo ≤ p) (upper : p ≤ hi)
    (same : SameRun values threshold p q) : lo ≤ q ∧ q ≤ hi := by
  constructor
  · by_contra outside
    have edge : lo - 1 + 1 = lo := by omega
    exact run.before (lo - 1) edge (same (lo - 1) (by omega) (by omega))
  · by_contra outside
    exact run.after (same (hi + 1) (by omega) (by omega))

theorem runPeak_of_isRun {lo hi p : Nat} (run : IsRun values threshold lo hi) (lower : lo ≤ p) (upper : p ≤ hi)
    (largest : ∀ i, lo ≤ i → i ≤ hi → valueAt values i ≤ valueAt values p) : RunPeak values threshold p where
  above := run.within p lower upper
  largest q same := by
    have inside := run_connected run lower upper same
    exact largest q inside.1 inside.2

theorem argmax_spec {xs : List ℚ} (nonempty : xs ≠ []) :
    argmax xs < xs.length ∧ ∀ y ∈ xs, y ≤ xs.getD (argmax xs) 0 := by
  have size : 0 < xs.length := List.length_pos_iff.mpr nonempty
  have found : argmax xs < xs.length := by
    apply List.findIdx_lt_length_of_exists
    refine ⟨xs.maximum_of_length_pos size, List.maximum_of_length_pos_mem size, ?_⟩
    simp only [List.all_eq_true, decide_eq_true_eq]
    intro y member
    exact List.le_maximum_of_length_pos_of_mem member size
  refine ⟨found, fun y member => ?_⟩
  have largest := List.findIdx_getElem (w := found)
  rw [List.getD_eq_getElem _ _ found]
  simp only [List.all_eq_true, decide_eq_true_eq] at largest
  exact largest y member

theorem runPeak_spec {run : List Nat} (nonempty : run ≠ []) :
    runPeak values run ∈ run ∧ ∀ i ∈ run, valueAt values i ≤ valueAt values (runPeak values run) := by
  have mapped : run.map (valueAt values) ≠ [] := by simpa using nonempty
  obtain ⟨position, largest⟩ := argmax_spec mapped
  rw [List.getD_eq_getElem _ _ position, List.getElem_map] at largest
  rw [List.length_map] at position
  have chosen : runPeak values run = run[argmax (run.map (valueAt values))] := List.getD_eq_getElem _ _ position
  rw [chosen]
  exact ⟨List.getElem_mem position, fun i member => largest _ (List.mem_map_of_mem member)⟩

/-! ## Collapsing the runs -/

/-- The candidates from the index `bound` on, in order. -/
structure Remaining (values : List ℚ) (threshold : ℚ) (bound : Nat) (rest : List Nat) : Prop where
  increasing : rest.Pairwise (· < ·)
  mem_iff : ∀ i, i ∈ rest ↔ bound ≤ i ∧ Above values threshold i

/-- `peaks` are the peaks of the runs below `bound`. -/
structure Collapsed (values : List ℚ) (threshold : ℚ) (bound : Nat) (peaks : List Nat) : Prop where
  increasing : peaks.Pairwise (· < ·)
  peak : ∀ p ∈ peaks, RunPeak values threshold p ∧ p < bound
  covered : ∀ i, Above values threshold i → i < bound → ∃ p ∈ peaks, valueAt values i ≤ valueAt values p

/-- The open run of the loop is the one from `first` to `last`. -/
structure Scanned (values : List ℚ) (threshold : ℚ) (loop : Collapse) (first last : Nat) : Prop where
  ordered : first ≤ last
  run : loop.run = List.range' first (last - first + 1)
  within : ∀ i, first ≤ i → i ≤ last → Above values threshold i
  before : ∀ i, i + 1 = first → ¬ Above values threshold i
  closed : Collapsed values threshold first loop.peaks

theorem collapsed_extend {low high : Nat} {peaks : List Nat} (collapsed : Collapsed values threshold low peaks)
    (le : low ≤ high) (none : ∀ i, low ≤ i → i < high → ¬ Above values threshold i) :
    Collapsed values threshold high peaks where
  increasing := collapsed.increasing
  peak p member := ⟨(collapsed.peak p member).1, lt_of_lt_of_le (collapsed.peak p member).2 le⟩
  covered i above lt := by
    apply collapsed.covered i above
    by_contra later
    exact none i (not_lt.mp later) lt above

theorem run_getLastD {loop : Collapse} {first last : Nat} (scanned : Scanned values threshold loop first last) :
    loop.run.getLastD 0 = last := by
  have ordered := scanned.ordered
  rw [scanned.run, List.range'_1_concat, List.getLastD_concat]
  omega

theorem collapsed_flush {loop : Collapse} {first last : Nat} (scanned : Scanned values threshold loop first last)
    (after : ¬ Above values threshold (last + 1)) :
    Collapsed values threshold (last + 1) (loop.peaks ++ [runPeak values loop.run]) := by
  have ordered := scanned.ordered
  have mem_run (i : Nat) : i ∈ loop.run ↔ first ≤ i ∧ i ≤ last := by
    rw [scanned.run, List.mem_range'_1]
    omega
  have nonempty : loop.run ≠ [] := List.ne_nil_of_mem ((mem_run first).mpr ⟨le_rfl, ordered⟩)
  obtain ⟨member, largest⟩ := @runPeak_spec values _ nonempty
  obtain ⟨lower, upper⟩ := (mem_run _).mp member
  have run : IsRun values threshold first last := ⟨scanned.within, scanned.before, after⟩
  have bound (i : Nat) (le : first ≤ i) (ge : i ≤ last) := largest i ((mem_run i).mpr ⟨le, ge⟩)
  constructor
  · rw [List.pairwise_append]
    refine ⟨scanned.closed.increasing, List.pairwise_singleton _ _, fun p peak q last => ?_⟩
    rw [List.mem_singleton.mp last]
    exact lt_of_lt_of_le (scanned.closed.peak p peak).2 lower
  · intro p peak
    rcases List.mem_append.mp peak with earlier | flushed
    · have closed := scanned.closed.peak p earlier
      exact ⟨closed.1, by omega⟩
    · rw [List.mem_singleton.mp flushed]
      exact ⟨runPeak_of_isRun run lower upper bound, by omega⟩
  · intro i above lt
    by_cases earlier : i < first
    · obtain ⟨p, peak, le⟩ := scanned.closed.covered i above earlier
      exact ⟨p, List.mem_append_left _ peak, le⟩
    · exact ⟨_, List.mem_append_right _ (List.mem_singleton_self _), bound i (by omega) (by omega)⟩

theorem remaining_head {bound idx : Nat} {rest : List Nat}
    (remaining : Remaining values threshold bound (idx :: rest)) :
    bound ≤ idx ∧ Above values threshold idx ∧ ∀ i, bound ≤ i → i < idx → ¬ Above values threshold i := by
  have head := (remaining.mem_iff idx).mp List.mem_cons_self
  refine ⟨head.1, head.2, fun i lower lt above => ?_⟩
  rcases List.mem_cons.mp ((remaining.mem_iff i).mpr ⟨lower, above⟩) with same | tail
  · omega
  · have increasing := List.rel_of_pairwise_cons remaining.increasing tail
    omega

theorem remaining_tail {bound idx : Nat} {rest : List Nat}
    (remaining : Remaining values threshold bound (idx :: rest)) :
    Remaining values threshold (idx + 1) rest where
  increasing := remaining.increasing.of_cons
  mem_iff i := by
    have head := (remaining_head remaining).1
    constructor
    · intro member
      have above := ((remaining.mem_iff i).mp (List.mem_cons_of_mem _ member)).2
      exact ⟨List.rel_of_pairwise_cons remaining.increasing member, above⟩
    · rintro ⟨later, above⟩
      rcases List.mem_cons.mp ((remaining.mem_iff i).mpr ⟨by omega, above⟩) with same | tail
      · omega
      · exact tail

theorem scanned_step {loop : Collapse} {first last idx : Nat} {rest : List Nat}
    (scanned : Scanned values threshold loop first last)
    (remaining : Remaining values threshold (last + 1) (idx :: rest)) :
    ∃ first', Scanned values threshold (collapseStep values loop idx) first' idx := by
  have ordered := scanned.ordered
  obtain ⟨later, above, none⟩ := remaining_head remaining
  unfold collapseStep
  rw [run_getLastD scanned]
  by_cases next : idx = last + 1
  · -- the run goes on
    rw [if_pos next]
    refine ⟨first, by omega, ?_, fun i lower upper => ?_, scanned.before, scanned.closed⟩
    · have size : idx - first + 1 = (last - first + 1) + 1 := by omega
      have shown : idx = first + (last - first + 1) := by omega
      rw [size, List.range'_1_concat, ← shown, scanned.run]
    · by_cases new : i = idx
      · rwa [new]
      · exact scanned.within i lower (by omega)
  · -- a sample below the threshold lies between, so the run has ended
    rw [if_neg next]
    have flushed := collapsed_flush scanned (none (last + 1) le_rfl (by omega))
    refine ⟨idx, le_rfl, by simp, fun i lower upper => ?_, fun i edge => none i (by omega) (by omega),
      collapsed_extend flushed later none⟩
    rwa [le_antisymm upper lower]

theorem scanned_fold {loop : Collapse} {first last : Nat} {rest : List Nat}
    (scanned : Scanned values threshold loop first last) (remaining : Remaining values threshold (last + 1) rest) :
    ∃ first' last', Scanned values threshold (rest.foldl (collapseStep values) loop) first' last' ∧
      ∀ i, last' < i → ¬ Above values threshold i := by
  induction rest generalizing loop first last with
  | nil =>
      refine ⟨first, last, scanned, fun i later above => ?_⟩
      exact List.not_mem_nil ((remaining.mem_iff i).mpr ⟨later, above⟩)
  | cons idx rest ih =>
      obtain ⟨first', stepped⟩ := scanned_step scanned remaining
      exact ih stepped (remaining_tail remaining)

theorem mem_candidatesOf {i : Nat} : i ∈ candidatesOf values threshold ↔ Above values threshold i := by
  simp [candidatesOf, Above]

theorem candidatesOf_remaining : Remaining values threshold 0 (candidatesOf values threshold) where
  increasing := List.pairwise_lt_range.filter _
  mem_iff i := by simp [mem_candidatesOf]

theorem collapsed_collapse :
    Collapsed values threshold values.length (collapse values (candidatesOf values threshold)) := by
  have remaining := @candidatesOf_remaining values threshold
  cases candidates : candidatesOf values threshold with
  | nil =>
      refine ⟨List.Pairwise.nil, by simp [collapse], fun i above => ?_⟩
      rw [← mem_candidatesOf, candidates] at above
      exact absurd above List.not_mem_nil
  | cons start rest =>
      rw [candidates] at remaining
      obtain ⟨-, above, none⟩ := remaining_head remaining
      have opened : Scanned values threshold { peaks := [], run := [start] } start start := by
        refine ⟨le_rfl, by simp, fun i lower upper => ?_, fun i edge => none i (Nat.zero_le i) (by omega),
          List.Pairwise.nil, by simp, fun i above lt => absurd above (none i (Nat.zero_le i) lt)⟩
        rwa [le_antisymm upper lower]
      obtain ⟨first, last, scanned, done⟩ := scanned_fold opened (remaining_tail remaining)
      have valid := (scanned.within last scanned.ordered le_rfl).1
      exact collapsed_extend (collapsed_flush scanned (done _ (by omega))) valid fun i lower _ => done i lower

/-! ## Merging nearby peaks -/

/-- `merged` are peaks among `seen` and apart from each other, and none of `seen` exceeds them all. -/
structure Merged (values : List ℚ) (minGap : ℤ) (seen merged : List Nat) : Prop where
  subset : merged ⊆ seen
  spaced : merged.IsChain fun p q : Nat => minGap < (q : ℤ) - p
  covered : ∀ p ∈ seen, ∃ q ∈ merged, valueAt values p ≤ valueAt values q

variable {minGap : ℤ} {seen merged kept : List Nat} {p last : Nat}

theorem merged_concat (subset : kept ⊆ seen)
    (spaced : kept.IsChain fun p q : Nat => minGap < (q : ℤ) - p)
    (far : ∀ last ∈ kept.getLast?, minGap < (p : ℤ) - last)
    (covered : ∀ q ∈ seen, (∃ m ∈ kept, valueAt values q ≤ valueAt values m) ∨ valueAt values q ≤ valueAt values p) :
    Merged values minGap (seen ++ [p]) (kept ++ [p]) where
  subset := by
    apply List.append_subset_of_subset_of_subset
    · exact List.subset_append_of_subset_left _ subset
    · exact List.subset_append_right seen [p]
  spaced := by
    apply List.IsChain.append spaced (List.isChain_singleton _)
    intro last kept q new
    have same : p = q := by simpa using new
    rw [← same]
    exact far last kept
  covered q member := by
    have new : p ∈ kept ++ [p] := List.mem_append_right _ (List.mem_singleton_self p)
    rcases List.mem_append.mp member with earlier | last
    · rcases covered q earlier with ⟨m, inside, le⟩ | le
      · exact ⟨m, List.mem_append_left _ inside, le⟩
      · exact ⟨p, new, le⟩
    · rw [List.mem_singleton.mp last]
      exact ⟨p, new, le_rfl⟩

theorem merged_keep (state : Merged values minGap seen merged) (member : last ∈ merged)
    (le : valueAt values p ≤ valueAt values last) : Merged values minGap (seen ++ [p]) merged where
  subset := List.subset_append_of_subset_left _ state.subset
  spaced := state.spaced
  covered q shown := by
    rcases List.mem_append.mp shown with earlier | new
    · exact state.covered q earlier
    · rw [List.mem_singleton.mp new]
      exact ⟨last, member, le⟩

theorem merged_replace (state : Merged values minGap seen (kept ++ [last])) (later : last < p)
    (lt : valueAt values last < valueAt values p) : Merged values minGap (seen ++ [p]) (kept ++ [p]) := by
  obtain ⟨spaced, -, apart⟩ := List.isChain_append.mp state.spaced
  apply merged_concat _ spaced
  · intro q before
    have gap := apart q before last (by simp)
    omega
  · intro q earlier
    obtain ⟨m, inside, le⟩ := state.covered q earlier
    rcases List.mem_append.mp inside with before | replaced
    · exact .inl ⟨m, before, le⟩
    · -- what the replaced peak covered, the larger one covers
      rw [List.mem_singleton.mp replaced] at le
      exact .inr (le.trans lt.le)
  · exact (List.append_subset.mp state.subset).1

theorem merged_step (state : Merged values minGap seen merged)
    (later : ∀ q ∈ seen, q < p) : Merged values minGap (seen ++ [p]) (mergeStep values minGap merged p) := by
  unfold mergeStep
  have covered (q : Nat) (earlier : q ∈ seen) :
      (∃ m ∈ merged, valueAt values q ≤ valueAt values m) ∨ valueAt values q ≤ valueAt values p :=
    .inl (state.covered q earlier)
  rcases List.eq_nil_or_concat' merged with rfl | ⟨before, last, rfl⟩
  · exact merged_concat state.subset state.spaced (by simp) covered
  · have member : last ∈ before ++ [last] := List.mem_append_right _ (List.mem_singleton_self last)
    rw [List.getLast?_concat]
    dsimp only
    split_ifs with near larger
    · rw [List.dropLast_concat]
      exact merged_replace state (later last (state.subset member)) larger
    · exact merged_keep state member (not_lt.mp larger)
    · apply merged_concat state.subset state.spaced _ covered
      intro q same
      have shown : last = q := by simpa using same
      omega

theorem merged_fold {peaks : List Nat} (increasing : peaks.Pairwise (· < ·)) :
    Merged values minGap peaks (peaks.foldl (mergeStep values minGap) []) := by
  induction peaks using List.reverseRecOn with
  | nil => exact ⟨by simp, List.IsChain.nil, by simp⟩
  | append_singleton seen p ih =>
      obtain ⟨before, -, later⟩ := List.pairwise_append.mp increasing
      rw [List.foldl_concat]
      exact merged_step (ih before) fun q member => later q member p (List.mem_singleton_self p)

theorem spaced_increasing {peaks : List Nat} (nonneg : 0 ≤ minGap)
    (spaced : peaks.IsChain fun p q : Nat => minGap < (q : ℤ) - p) : peaks.Pairwise (· < ·) :=
  List.isChain_iff_pairwise.mp (spaced.imp fun _ _ lt => by omega)

end

/-! ## `local_peak_indices` -/

theorem localPeakIndices_eq {np : Numerics} {values : List ℚ} {percentile : ℚ} {minGap : ℤ} :
    localPeakIndices np values percentile minGap =
      (collapse values (candidatesOf values (np.percentile values percentile))).foldl (mergeStep values minGap) [] := by
  unfold localPeakIndices
  dsimp only
  split_ifs with empty none
  · rw [List.length_eq_zero_iff.mp empty]
    rfl
  · rw [List.length_eq_zero_iff.mp none]
    rfl
  · rfl

theorem localPeakIndices_merged (np : Numerics) (values : List ℚ) (percentile : ℚ) (minGap : ℤ) :
    Merged values minGap (collapse values (candidatesOf values (np.percentile values percentile)))
      (localPeakIndices np values percentile minGap) := by
  rw [localPeakIndices_eq]
  exact merged_fold collapsed_collapse.increasing

theorem localPeakIndices_increasing (np : Numerics) (values : List ℚ) (percentile : ℚ) {minGap : ℤ}
    (nonneg : 0 ≤ minGap) : (localPeakIndices np values percentile minGap).Pairwise (· < ·) :=
  spaced_increasing nonneg (localPeakIndices_merged np values percentile minGap).spaced

theorem localPeakIndices_peak {np : Numerics} {values : List ℚ} {percentile : ℚ} {minGap : ℤ} {p : Nat}
    (member : p ∈ localPeakIndices np values percentile minGap) :
    RunPeak values (np.percentile values percentile) p :=
  (collapsed_collapse.peak p ((localPeakIndices_merged np values percentile minGap).subset member)).1

theorem localPeakIndices_covered {np : Numerics} {values : List ℚ} {percentile : ℚ} {i : Nat} (minGap : ℤ)
    (above : Above values (np.percentile values percentile) i) :
    ∃ p ∈ localPeakIndices np values percentile minGap, valueAt values i ≤ valueAt values p := by
  obtain ⟨q, collapsed, le⟩ := collapsed_collapse.covered i above above.1
  obtain ⟨p, kept, le'⟩ := (localPeakIndices_merged np values percentile minGap).covered q collapsed
  exact ⟨p, kept, le.trans le'⟩

theorem exists_maximum {values : List ℚ} (nonempty : values ≠ []) :
    ∃ i < values.length, ∀ v ∈ values, v ≤ valueAt values i :=
  ⟨argmax values, argmax_spec nonempty⟩

theorem localPeakIndices_found (np : Numerics) (values : List ℚ) (percentile : ℚ) (minGap : ℤ)
    (nonempty : values ≠ []) (reached : ∃ v ∈ values, np.percentile values percentile ≤ v) (gap : 1 ≤ minGap) :
    PeaksFound values (np.percentile values percentile) minGap (localPeakIndices np values percentile minGap) := by
  obtain ⟨i, valid, maximum⟩ := exists_maximum nonempty
  obtain ⟨v, member, le⟩ := reached
  obtain ⟨p, kept, covers⟩ := localPeakIndices_covered minGap ⟨valid, le.trans (maximum v member)⟩
  exact {
    nonempty := List.ne_nil_of_mem kept
    increasing := localPeakIndices_increasing np values percentile (by omega)
    valid := fun q found => (localPeakIndices_peak found).above.1
    spaced := (localPeakIndices_merged np values percentile minGap).spaced
    reaches := fun q found => (localPeakIndices_peak found).above.2
    largestOfRun := fun q found => (localPeakIndices_peak found).largest
    largestOfAll := ⟨p, kept, fun w inside => (maximum w inside).trans covers⟩ }

theorem localPeakIndices_found_merged :
    PeaksFound [1, 9, 1, 1, 8, 8, 1, 9] (interpolated.percentile [1, 9, 1, 1, 8, 8, 1, 9] 50) 3
        (localPeakIndices interpolated [1, 9, 1, 1, 8, 8, 1, 9] 50 3) ∧
      localPeakIndices interpolated [1, 9, 1, 1, 8, 8, 1, 9] 50 3 = [1, 7] := by
  constructor
  · apply localPeakIndices_found
    · simp
    · exact ⟨9, by simp, by decide +kernel⟩
    · norm_num
  · decide +kernel

end StarlinkTcp.Proof

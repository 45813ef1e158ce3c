import StarlinkTcp.Machine.Pairing
import StarlinkTcp.Proof.Matching
import StarlinkTcp.Proof.Statistics

/-!
# Reference events and recall

The evaluator takes its reference events from a log of reply intervals. Each of them lies in a long silence,
each long silence has one, and they are further apart than the merge gap. With a gap of at least twice the
matching tolerance no detected event is near two of them, so the greedy matching misses nothing.
-/

namespace StarlinkTcp.Monitor
open Machine

/-- A log of reply intervals: no silence begins noticeably before the reply that an earlier line is about. -/
structure IntervalLog (slack : ℚ) (rows : List (ℚ × ℚ)) : Prop where
  forward : ∀ row ∈ rows, 0 ≤ row.2
  successive : rows.Pairwise fun earlier later => earlier.1 ≤ later.1 - later.2 + slack

/-- Where a reply was due in the silence before a late one. -/
def dueAfterSilence (normalMed : ℚ) (row : ℚ × ℚ) : ℚ := row.1 - row.2 + normalMed

def Apart (gap : ℚ) (events : List ℚ) : Prop := events.Pairwise fun earlier later => earlier + gap < later

structure Located (rows : List (ℚ × ℚ)) (levels : PopInterval) (gap : ℚ) (refEvents : List ℚ) : Prop where
  apart : Apart gap refEvents
  inside : ∀ ref ∈ refEvents, ∃ row ∈ rows, levels.threshold ≤ row.2 ∧ ref = dueAfterSilence levels.normalMed row ∧
    row.1 - row.2 ≤ ref ∧ ref ≤ row.1
  covered : ∀ row ∈ rows, levels.threshold ≤ row.2 →
    ∃ ref ∈ refEvents, ref ≤ dueAfterSilence levels.normalMed row ∧ dueAfterSilence levels.normalMed row ≤ ref + gap

/-- The reference events that have a detected one within the tolerance. -/
def recalled (testEvents refEvents : List ℚ) (tolS : ℚ) : Nat :=
  refEvents.countP fun ref => ∃ t ∈ testEvents, |t - ref| ≤ tolS

/-- One event of each list in each pair, and no event twice. -/
structure OneToOne (testEvents refEvents : List ℚ) (tolS : ℚ) (pairs : List (ℚ × ℚ)) : Prop where
  tests : (pairs.map Prod.fst).Subperm testEvents
  references : (pairs.map Prod.snd).Subperm refEvents
  near : ∀ pair ∈ pairs, |pair.1 - pair.2| ≤ tolS

end StarlinkTcp.Monitor

namespace StarlinkTcp.Proof
open Machine Monitor

/-! ## Merging -/

section Merging

variable {gap : ℚ} {raw : List ℚ}

theorem mergeEvent_concat (out : List ℚ) (last t : ℚ) : mergeEvent gap (out ++ [last]) t =
    if t - last > gap then out ++ [last] ++ [t] else out ++ [last] := by
  simp [mergeEvent]

theorem apart_concat (positive : 0 ≤ gap) {out : List ℚ} {last t : ℚ} (apart : Apart gap (out ++ [last]))
    (later : last + gap < t) : Apart gap (out ++ [last] ++ [t]) := by
  rw [Apart, List.pairwise_append]
  refine ⟨apart, List.pairwise_singleton _ _, fun earlier member other same => ?_⟩
  rw [List.mem_singleton.mp same]
  rcases List.mem_append.mp member with before | same
  · have next := (List.pairwise_append.mp apart).2.2 earlier before last (List.mem_singleton_self last)
    linarith
  · rw [List.mem_singleton.mp same]
    exact later

theorem merged_apart (positive : 0 ≤ gap) (raw : List ℚ) : Apart gap (raw.foldl (mergeEvent gap) []) := by
  induction raw using List.reverseRecOn with
  | nil => exact List.Pairwise.nil
  | append_singleton raw t ih =>
      rw [List.foldl_append, List.foldl_cons, List.foldl_nil]
      rcases List.eq_nil_or_concat (raw.foldl (mergeEvent gap) []) with none | ⟨out, last, same⟩
      · rw [none]
        exact List.pairwise_singleton _ _
      · rw [List.concat_eq_append] at same
        rw [same] at ih ⊢
        rw [mergeEvent_concat]
        split
        · rename_i far
          exact apart_concat positive ih (by linarith)
        · exact ih

structure MergedFrom (gap : ℚ) (raw out : List ℚ) : Prop where
  sound : ∀ ref ∈ out, ref ∈ raw
  covered : ∀ t ∈ raw, ∃ ref ∈ out, ref ≤ t ∧ t ≤ ref + gap

theorem merged_events (positive : 0 ≤ gap) (sorted : raw.Pairwise (· ≤ ·)) :
    MergedFrom gap raw (raw.foldl (mergeEvent gap) []) := by
  induction raw using List.reverseRecOn with
  | nil => exact ⟨by simp, by simp⟩
  | append_singleton raw t ih =>
      obtain ⟨earlier, -, before⟩ := List.pairwise_append.mp sorted
      have merged := ih earlier
      have starts : t ≤ t + gap := by linarith
      rw [List.foldl_append, List.foldl_cons, List.foldl_nil]
      rcases List.eq_nil_or_concat (raw.foldl (mergeEvent gap) []) with none | ⟨out, last, same⟩
      · -- nothing was merged, so nothing came before
        have empty : raw = [] := by
          rw [List.eq_nil_iff_forall_not_mem]
          intro other member
          obtain ⟨ref, among, -⟩ := merged.covered other member
          rw [none] at among
          exact List.not_mem_nil among
        rw [none, empty]
        refine ⟨by simp [mergeEvent], fun other member => ⟨t, by simp [mergeEvent], ?_⟩⟩
        rw [List.mem_singleton.mp member]
        exact ⟨le_rfl, starts⟩
      · rw [List.concat_eq_append] at same
        rw [same] at merged ⊢
        have lastMember : last ∈ raw := merged.sound last (by simp)
        rw [mergeEvent_concat]
        split
        · constructor
          · intro ref member
            rcases List.mem_append.mp member with old | new
            · exact List.mem_append_left _ (merged.sound ref old)
            · exact List.mem_append_right _ new
          · intro other member
            rcases List.mem_append.mp member with old | new
            · obtain ⟨ref, among, close⟩ := merged.covered other old
              exact ⟨ref, List.mem_append_left _ among, close⟩
            · rw [List.mem_singleton.mp new]
              exact ⟨t, by simp, le_rfl, starts⟩
        · rename_i near
          constructor
          · intro ref member
            exact List.mem_append_left _ (merged.sound ref member)
          · intro other member
            rcases List.mem_append.mp member with old | new
            · exact merged.covered other old
            · rw [List.mem_singleton.mp new]
              exact ⟨last, by simp, before last lastMember t (by simp), by linarith⟩

end Merging

/-! ## The levels -/

section Levels

variable {xs : List ℚ}

/-- Between the two middle values, the upper half of the percentiles interpolates from their mean on. -/
theorem median_le_percentile_between {m : Nat} {p middle q : ℚ} (even : xs.length = 2 * m + 2)
    (half : 50 ≤ p) (below : percentilePosition xs.length p < m + 1) (found : median xs = some middle)
    (high : percentile xs p = some q) : middle ≤ q := by
  have ordered := @getD_insertionSort_mono xs m (m + 1) (by omega) (by rw [List.length_insertionSort]; omega)
  have size : (xs.length : ℚ) = 2 * m + 2 := by exact_mod_cast even
  have above : (m : ℚ) + 1 / 2 ≤ percentilePosition xs.length p := by
    rw [percentilePosition, size]
    have scaled : (2 * (m : ℚ) + 1) * 50 ≤ (2 * m + 1) * p := mul_le_mul_of_nonneg_left half (by positivity)
    linarith
  have floor : ⌊percentilePosition xs.length p⌋ = m := by
    rw [Int.floor_eq_iff]
    constructor
    · push_cast
      linarith
    · exact_mod_cast below
  have ceil : ⌈percentilePosition xs.length p⌉ = m + 1 := by
    rw [Int.ceil_eq_iff]
    constructor
    · push_cast
      linarith
    · exact_mod_cast below.le
  unfold median at found
  unfold percentile at high
  dsimp only at found high
  rw [List.length_insertionSort] at found high
  rw [if_neg (by omega), if_neg (by omega)] at found high
  rw [← percentilePosition, floor, ceil, if_neg (by omega)] at high
  cases found
  cases high
  have first : xs.length / 2 - 1 = m := by omega
  have second : xs.length / 2 = m + 1 := by omega
  have upper : ((m : ℤ) + 1).toNat = m + 1 := by omega
  rw [first, second, upper, Int.toNat_natCast]
  nlinarith

theorem median_le_upper_percentile {p middle q : ℚ} (half : 50 ≤ p) (percent : p ≤ 100)
    (found : median xs = some middle) (high : percentile xs p = some q) : middle ≤ q := by
  have some_length := List.length_pos_iff.mpr (ne_nil_of_median found)
  obtain ⟨inside, above, -⟩ := percentile_between (by linarith) percent high
  by_cases position : ((xs.length / 2 : ℕ) : ℚ) ≤ percentilePosition xs.length p
  · have middle_le : xs.length / 2 ≤ ⌊percentilePosition xs.length p⌋.toNat := by
      have floor : ((xs.length / 2 : ℕ) : ℤ) ≤ ⌊percentilePosition xs.length p⌋ :=
        Int.le_floor.mpr (by exact_mod_cast position)
      omega
    have floorLe := Int.toNat_le_toNat (Int.floor_le_ceil (percentilePosition xs.length p))
    have ordered := @getD_insertionSort_mono xs _ _ middle_le (by rw [List.length_insertionSort]; omega)
    exact (median_between found).2.trans (ordered.trans above)
  · -- only an even number of values has a position of the upper half below the upper middle one
    rw [not_le] at position
    have start : ((xs.length : ℚ) - 1) / 2 ≤ percentilePosition xs.length p := by
      have size : (1 : ℚ) ≤ xs.length := by exact_mod_cast some_length
      have scaled : ((xs.length : ℚ) - 1) * 50 ≤ (xs.length - 1) * p :=
        mul_le_mul_of_nonneg_left half (by linarith)
      rw [percentilePosition]
      linarith
    have short : xs.length < 2 * (xs.length / 2) + 1 := by
      have bound : (xs.length : ℚ) < 2 * ((xs.length / 2 : ℕ) : ℚ) + 1 := by linarith
      exact_mod_cast bound
    obtain ⟨m, even⟩ : ∃ m, xs.length = 2 * m + 2 := ⟨xs.length / 2 - 1, by omega⟩
    have second : xs.length / 2 = m + 1 := by omega
    rw [second] at position
    exact median_le_percentile_between even half (by exact_mod_cast position) found high

variable {rows : List (ℚ × ℚ)} {rank minThresholdMs : ℚ} {levels : PopInterval}

theorem popIntervalLevels_spec (half : 50 ≤ rank) (percent : rank ≤ 100) (forward : ∀ row ∈ rows, 0 ≤ row.2)
    (found : popIntervalLevels rows rank minThresholdMs = some levels) :
    minThresholdMs / 1000 ≤ levels.threshold ∧ 0 ≤ levels.normalMed ∧ levels.normalMed ≤ levels.threshold := by
  simp only [popIntervalLevels, Option.bind_eq_bind, Option.bind_eq_some_iff, Option.pure_def,
    Option.some.injEq] at found
  obtain ⟨high, reached, middle, normal, rfl⟩ := found
  have nonneg (interval : ℚ) (member : interval ∈ rows.map Prod.snd) : 0 ≤ interval := by
    obtain ⟨row, among, rfl⟩ := List.mem_map.mp member
    exact forward row among
  refine ⟨le_max_right _ _, ?_, ?_⟩
  · obtain ⟨⟨interval, member, below⟩, -⟩ := median_span normal
    refine (nonneg interval ?_).trans below
    split at member
    · exact (List.mem_filter.mp member).1
    · exact member
  · split at normal
    · obtain ⟨-, interval, member, below⟩ := median_span normal
      exact below.trans (of_decide_eq_true (List.mem_filter.mp member).2).le
    · exact (median_le_upper_percentile half percent normal reached).trans (le_max_left _ _)

theorem popIntervalEvents_sorted {threshold normalMed slack : ℚ} (log : IntervalLog slack rows)
    (long : slack ≤ threshold) : (popIntervalEvents rows threshold normalMed).Pairwise (· ≤ ·) := by
  rw [popIntervalEvents, List.pairwise_map]
  have late := log.successive.filter fun row => threshold ≤ row.2
  refine late.imp_of_mem fun earlierLate _ before => ?_
  have longer : threshold ≤ _ := of_decide_eq_true (List.mem_filter.mp earlierLate).2
  linarith

end Levels

section Log

variable {float : String → Option ℚ} {lines : List (List String)} {rank minThresholdMs mergeGapMs : ℚ}

theorem parsePopInterval_eq {levels : PopInterval}
    (found : popIntervalLevels (lines.filterMap (popIntervalRow float)) rank minThresholdMs = some levels) :
    parsePopInterval float lines rank minThresholdMs mergeGapMs =
      (popIntervalEvents (lines.filterMap (popIntervalRow float)) levels.threshold levels.normalMed).foldl
        (mergeEvent (mergeGapMs / 1000)) [] := by
  simp only [parsePopInterval, found]

theorem parsePopInterval_apart (positive : 0 ≤ mergeGapMs) :
    Apart (mergeGapMs / 1000) (parsePopInterval float lines rank minThresholdMs mergeGapMs) := by
  cases found : popIntervalLevels (lines.filterMap (popIntervalRow float)) rank minThresholdMs with
  | none =>
      simp only [parsePopInterval, found]
      exact List.Pairwise.nil
  | some levels =>
      rw [parsePopInterval_eq found]
      exact merged_apart (by positivity) _

end Log

/-- The reference events of a log: one for each long silence, inside it, and further apart than the gap. -/
theorem references_located (float : String → Option ℚ) (lines : List (List String))
    (rank minThresholdMs mergeGapMs : ℚ) (half : 50 ≤ rank) (percent : rank ≤ 100) (positive : 0 ≤ mergeGapMs)
    (log : IntervalLog (minThresholdMs / 1000) (lines.filterMap (popIntervalRow float))) (levels : PopInterval)
    (found : popIntervalLevels (lines.filterMap (popIntervalRow float)) rank minThresholdMs = some levels) :
    Located (lines.filterMap (popIntervalRow float)) levels (mergeGapMs / 1000)
      (parsePopInterval float lines rank minThresholdMs mergeGapMs) := by
  obtain ⟨long, nonneg, below⟩ := popIntervalLevels_spec half percent log.forward found
  have merged := merged_events (by positivity : 0 ≤ mergeGapMs / 1000)
    (@popIntervalEvents_sorted _ levels.threshold levels.normalMed _ log long)
  refine ⟨parsePopInterval_apart positive, ?_, ?_⟩
  · rw [parsePopInterval_eq found]
    intro ref member
    obtain ⟨row, among, rfl⟩ := List.mem_map.mp (merged.sound ref member)
    obtain ⟨among, late⟩ := List.mem_filter.mp among
    have late := of_decide_eq_true late
    exact ⟨row, among, late, rfl, by linarith, by linarith⟩
  · rw [parsePopInterval_eq found]
    intro row among late
    exact merged.covered _ (List.mem_map_of_mem (List.mem_filter.mpr ⟨among, decide_eq_true late⟩))

/-- Replies a second apart, one of them seven seconds late. -/
def lateReply : List (List String) :=
  [["2", "1"], ["3", "1"], ["10", "7", "late"], ["PING"], ["11", "1"]]

def floatOf (word : String) : Option ℚ :=
  match word with
  | "1" => some 1
  | "2" => some 2
  | "3" => some 3
  | "7" => some 7
  | "10" => some 10
  | "11" => some 11
  | "18" => some 18
  | "25" => some 25
  | _ => none

theorem lateReply_rows : lateReply.filterMap (popIntervalRow floatOf) = [(2, 1), (3, 1), (10, 7), (11, 1)] := by
  decide +kernel

theorem references_located_lateReply :
    ∃ levels, Located (lateReply.filterMap (popIntervalRow floatOf)) levels (500 / 1000)
      (parsePopInterval floatOf lateReply 99 40 500) := by
  refine ⟨⟨341 / 50, 1⟩, references_located floatOf lateReply 99 40 500 (by norm_num) (by norm_num) (by norm_num)
    ?_ _ ?_⟩
  · rw [lateReply_rows]
    exact ⟨by decide +kernel, by decide +kernel⟩
  · rw [lateReply_rows]
    decide +kernel

/-! ## Matching -/

section Matching

variable {testEvents refEvents : List ℚ} {tolS : ℚ}

theorem argmin_le {xs : List ℚ} {x : ℚ} (member : x ∈ xs) : xs.getD (argmin xs) 0 ≤ x := by
  have inside := argmin_lt_length (List.ne_nil_of_mem member)
  have least := @List.findIdx_getElem _ (fun x => xs.all fun y => x ≤ y) xs inside
  rw [List.all_eq_true] at least
  rw [List.getD_eq_getElem _ _ inside]
  exact of_decide_eq_true (least x member)

/-- The reference event that a detected one is compared with. -/
def nearestReference (refEvents : List ℚ) (t : ℚ) : ℚ :=
  refEvents.getD (argmin (refEvents.map fun ref => |ref - t|)) 0

def claimed (refEvents : List ℚ) (tolS t : ℚ) : Option ℚ :=
  if |t - nearestReference refEvents t| ≤ tolS then some (nearestReference refEvents t) else none

theorem nearestReference_mem (some_refs : refEvents ≠ []) (t : ℚ) : nearestReference refEvents t ∈ refEvents := by
  have inside := @argmin_lt_length (refEvents.map fun ref => |ref - t|) (by simpa using some_refs)
  rw [List.length_map] at inside
  rw [nearestReference, List.getD_eq_getElem _ _ inside]
  exact List.getElem_mem inside

theorem nearestReference_le {ref : ℚ} (member : ref ∈ refEvents) (t : ℚ) :
    |nearestReference refEvents t - t| ≤ |ref - t| := by
  have least := argmin_le (List.mem_map_of_mem (f := fun ref => |ref - t|) member)
  have inside := @argmin_lt_length (refEvents.map fun ref => |ref - t|) (by
    rw [Ne, List.map_eq_nil_iff]
    exact List.ne_nil_of_mem member)
  rw [List.getD_eq_getElem _ _ inside, List.getElem_map] at least
  rw [List.length_map] at inside
  rw [nearestReference, List.getD_eq_getElem _ _ inside]
  exact least

theorem eq_of_apart (apart : Apart (2 * tolS) refEvents) {first second : ℚ} (one : first ∈ refEvents)
    (other : second ∈ refEvents) (near : |first - second| ≤ 2 * tolS) : first = second := by
  obtain ⟨above, below⟩ := abs_le.mp near
  obtain ⟨m, insideM, rfl⟩ := List.mem_iff_getElem.mp one
  obtain ⟨n, insideN, rfl⟩ := List.mem_iff_getElem.mp other
  have separated := List.pairwise_iff_getElem.mp apart
  rcases lt_trichotomy m n with before | same | after
  · have later := separated m n insideM insideN before
    linarith
  · simp [same]
  · have later := separated n m insideN insideM after
    linarith

theorem claimed_of_near (apart : Apart (2 * tolS) refEvents) (t ref : ℚ) (member : ref ∈ refEvents)
    (near : |t - ref| ≤ tolS) : claimed refEvents tolS t = some ref := by
  have least := nearestReference_le member t
  rw [abs_sub_comm, abs_sub_comm ref] at least
  have close := least.trans near
  have same : nearestReference refEvents t = ref := by
    refine eq_of_apart apart (nearestReference_mem (List.ne_nil_of_mem member) t) member ?_
    rw [abs_sub_comm] at close
    calc |nearestReference refEvents t - ref|
        ≤ |nearestReference refEvents t - t| + |t - ref| := abs_sub_le _ _ _
      _ ≤ 2 * tolS := by linarith
  rw [claimed, same, if_pos near]

theorem near_of_claimed (some_refs : refEvents ≠ []) (t ref : ℚ) (claims : claimed refEvents tolS t = some ref) :
    ref ∈ refEvents ∧ |t - ref| ≤ tolS := by
  unfold claimed at claims
  split at claims
  · rename_i near
    cases claims
    exact ⟨nearestReference_mem some_refs t, near⟩
  · cases claims

/-- The loop takes each reference event at the first claim to it. -/
structure Taken (refEvents : List ℚ) (found : Matches) (taken : List ℚ) : Prop where
  valid : ∀ j ∈ found.matchedRef, j < refEvents.length
  references : found.matchedRef.map (fun j => refEvents.getD j 0) = taken
  tp : found.tp = taken.length

theorem matchEvent_taken (some_refs : refEvents ≠ []) (distinct : refEvents.Nodup) {found : Matches}
    {taken : List ℚ} (before : Taken refEvents found taken) (t : ℚ) :
    Taken refEvents (matchEvent refEvents tolS found t) (takeOnce taken (claimed refEvents tolS t)) := by
  have inside := @argmin_lt_length (refEvents.map fun ref => |ref - t|) (by simpa using some_refs)
  rw [List.length_map] at inside
  have used : argmin (refEvents.map fun ref => |ref - t|) ∈ found.matchedRef ↔
      nearestReference refEvents t ∈ taken := by
    rw [← before.references, List.mem_map]
    constructor
    · exact fun member => ⟨_, member, rfl⟩
    · rintro ⟨j, member, same⟩
      rw [nearestReference, List.getD_eq_getElem _ _ (before.valid j member), List.getD_eq_getElem _ _ inside,
        distinct.getElem_inj_iff] at same
      rwa [← same]
  unfold matchEvent claimed
  dsimp only
  rw [← nearestReference]
  by_cases near : |t - nearestReference refEvents t| ≤ tolS
  · rw [if_pos near]
    by_cases free : nearestReference refEvents t ∈ taken
    · rw [if_neg fun both => both.2 (used.mpr free), takeOnce, if_pos free]
      exact before
    · rw [if_pos ⟨near, fun member => free (used.mp member)⟩, takeOnce, if_neg free]
      constructor
      · intro j member
        rcases List.mem_append.mp member with old | new
        · exact before.valid j old
        · rw [List.mem_singleton.mp new]
          exact inside
      · rw [List.map_append, before.references]
        rfl
      · rw [List.length_append, before.tp]
        rfl
  · rw [if_neg fun both => near both.1, if_neg near]
    exact before

theorem matchEvents_taken (some_refs : refEvents ≠ []) (distinct : refEvents.Nodup) (testEvents : List ℚ) :
    Taken refEvents (testEvents.foldl (matchEvent refEvents tolS) ⟨[], [], 0⟩)
      ((testEvents.map (claimed refEvents tolS)).foldl takeOnce []) := by
  induction testEvents using List.reverseRecOn with
  | nil => exact ⟨by simp, rfl, rfl⟩
  | append_singleton testEvents t ih =>
      rw [List.foldl_append, List.map_append, List.foldl_append]
      exact matchEvent_taken some_refs distinct ih t

theorem nearestErrors_tp (some_refs : refEvents ≠ []) (distinct : refEvents.Nodup) :
    (nearestErrors testEvents refEvents tolS).tp =
      ((testEvents.map (claimed refEvents tolS)).foldl takeOnce []).length := by
  unfold nearestErrors
  split
  · rename_i empty
    have none : testEvents = [] := List.length_eq_zero_iff.mp
      (empty.resolve_right fun none => some_refs (List.length_eq_zero_iff.mp none))
    rw [none]
    rfl
  · exact (matchEvents_taken some_refs distinct testEvents).tp

theorem nodup_of_apart {gap : ℚ} (positive : 0 ≤ gap) (apart : Apart gap refEvents) : refEvents.Nodup :=
  List.Pairwise.imp (fun later => by
    rintro rfl
    linarith) apart

/-- With reference events more than twice the tolerance apart, the greedy matching finds every one that can be
found: no one-to-one matching has more pairs. -/
theorem matching_maximum (nonneg : 0 ≤ tolS) (apart : Apart (2 * tolS) refEvents) :
    (nearestErrors testEvents refEvents tolS).tp = recalled testEvents refEvents tolS ∧
      ∀ pairs, OneToOne testEvents refEvents tolS pairs →
        (pairs.length : ℤ) ≤ (nearestErrors testEvents refEvents tolS).tp := by
  have distinct : refEvents.Nodup := nodup_of_apart (by linarith) apart
  by_cases none : refEvents = []
  · have zero : (nearestErrors testEvents refEvents tolS).tp = 0 := by simp [nearestErrors, none]
    rw [zero]
    refine ⟨by simp [recalled, none], fun pairs matching => ?_⟩
    have short := matching.references.length_le
    rw [none, List.length_map, List.length_nil] at short
    exact_mod_cast short
  · rw [nearestErrors_tp none distinct]
    constructor
    · rw [takenOnce_length (claimed_of_near apart) distinct (near_of_claimed none)]
      rfl
    · intro pairs matching
      have among (pair : ℚ × ℚ) (member : pair ∈ pairs) :
          pair.1 ∈ testEvents ∧ pair.2 ∈ refEvents ∧ |pair.1 - pair.2| ≤ tolS :=
        ⟨matching.tests.subset (List.mem_map_of_mem member),
          matching.references.subset (List.mem_map_of_mem member), matching.near pair member⟩
      obtain ⟨sublist, perm, included⟩ := matching.references
      have once : (pairs.map Prod.snd).Nodup := perm.nodup_iff.mp (included.nodup distinct)
      exact_mod_cast pairing_length_le (claimed_of_near apart) among once

end Matching

/-- Against the references of a reply log, the evaluator reports as recall the share of them that have a
detected event within the tolerance. -/
theorem recall_is_coverage (float : String → Option ℚ) (lines : List (List String))
    (rank minThresholdMs mergeGapMs matchTolMs : ℚ) (nonneg : 0 ≤ matchTolMs) (wide : 2 * matchTolMs ≤ mergeGapMs)
    (rows : List CsvRow) (referencePeriod : Option ℚ) (summary : Summary) (perTarget : List TargetSummary)
    (eval : EventEval) (detected : detectedEvents rows ≠ [])
    (ok : summarize rows referencePeriod (some (parsePopInterval float lines rank minThresholdMs mergeGapMs))
      matchTolMs = some (summary, perTarget))
    (evaluated : summary.eventEval = some eval) :
    let refEvents := parsePopInterval float lines rank minThresholdMs mergeGapMs
    let found := recalled (detectedEvents rows) refEvents (matchTolMs / 1000)
    eval.tp = found ∧ eval.recallRatio = ratio found refEvents.length ∧
      eval.precision = ratio found (detectedEvents rows).length ∧
      ∀ pairs, OneToOne (detectedEvents rows) refEvents (matchTolMs / 1000) pairs → pairs.length ≤ found := by
  dsimp only
  let refEvents := parsePopInterval float lines rank minThresholdMs mergeGapMs
  have far : Apart (2 * (matchTolMs / 1000)) refEvents :=
    List.Pairwise.imp (fun later => by linarith) (parsePopInterval_apart (by linarith))
  obtain ⟨tp, maximum⟩ := @matching_maximum (detectedEvents rows) refEvents _ (by positivity) far
  rw [summarize_eventEval ok] at evaluated
  obtain ⟨refs, kept, rfl⟩ := Option.map_eq_some_iff.mp evaluated
  obtain ⟨same, some_refs⟩ := Option.filter_eq_some_iff.mp kept
  cases same
  have nonempty : refEvents ≠ [] := by
    rintro none
    rw [decide_eq_true_eq] at some_refs
    exact some_refs (List.length_eq_zero_iff.mpr none)
  have conserved : Conserved (detectedEvents rows) refEvents (matchTolMs / 1000) _ :=
    nearestErrors_conserved (iff_of_false detected nonempty)
  refine ⟨tp, ?_, ?_, fun pairs matching => ?_⟩
  · rw [← tp, ← conserved.references]
    rfl
  · rw [← tp, ← conserved.tests]
    rfl
  · have bound := maximum pairs matching
    rw [tp] at bound
    exact_mod_cast bound

def activationRow (event : ℚ) : CsvRow where
  wallTime := 12
  record := "activate"
  target := none
  eventEpoch := some event
  gapMs := none
  thresholdMs := none
  periodS := some 15
  score := some 1
  fitRatio := some 1
  p95ResidualMs := some 0
  state := "ACTIVE"

/-- Three of six replies are seven seconds late. -/
def lateReplies : List (List String) :=
  [["2", "1"], ["3", "1"], ["10", "7"], ["11", "1"], ["18", "7"], ["25", "7"]]

/-- Two of the events are near the reference 4, one is near 12, none near 19, and one near no reference. -/
def competingRows : List CsvRow := [39 / 10, 41 / 10, 8, 121 / 10].map activationRow

theorem recall_is_coverage_competing :
    ∃ (summary : Summary) (perTarget : List TargetSummary) (eval : EventEval),
      parsePopInterval floatOf lateReplies 99 40 500 = [4, 12, 19] ∧
      summarize competingRows none (some (parsePopInterval floatOf lateReplies 99 40 500)) 200 =
        some (summary, perTarget) ∧
      summary.eventEval = some eval ∧ eval.recallRatio = some (2 / 3) ∧ eval.precision = some (1 / 2) ∧
      ∀ pairs, OneToOne (detectedEvents competingRows) (parsePopInterval floatOf lateReplies 99 40 500)
        (200 / 1000) pairs → pairs.length ≤ 2 := by
  obtain ⟨eval, found⟩ := Option.isSome_iff_exists.mp (by decide +kernel :
    ((summarize competingRows none (some (parsePopInterval floatOf lateReplies 99 40 500)) 200).bind
      fun result => result.1.eventEval).isSome = true)
  obtain ⟨⟨summary, perTarget⟩, ok, evaluated⟩ := Option.bind_eq_some_iff.mp found
  obtain ⟨-, coverage, precision, optimal⟩ := recall_is_coverage floatOf lateReplies 99 40 500 200 (by norm_num)
    (by norm_num) competingRows none summary perTarget eval (by decide +kernel) ok evaluated
  have two : recalled (detectedEvents competingRows) (parsePopInterval floatOf lateReplies 99 40 500)
      (200 / 1000) = 2 := by decide +kernel
  rw [two] at coverage precision optimal
  exact ⟨summary, perTarget, eval, by decide +kernel, ok, evaluated, coverage.trans (by decide +kernel),
    precision.trans (by decide +kernel), optimal⟩

end StarlinkTcp.Proof

import StarlinkTcp.Machine.Windows
import StarlinkTcp.Proof.Peaks

/-!
# The samples around the handover peaks

Every peak brings in the whole window around the place it is mapped to, and nothing looks at what earlier peaks
brought in. A sample is collected once for each peak near it, so no sample is collected twice exactly when the
places are more than two half windows apart; the gap between the peaks does not ensure that.
-/

namespace StarlinkTcp.Graph
open Machine

/-- What rounding to doubles does up to the last index of a series: it keeps the order and is exact on integers. -/
structure RoundsIndices (np : Numerics) (length : Nat) : Prop where
  monotone : Monotone np.rounded
  exact : ∀ n : Nat, n ≤ length → np.rounded n = n

/-- What a run collects from the series of its own indices. -/
def collectedIndices (np : Numerics) (settings : HandoverSettings) (hz : ℤ) (intervals : List ℚ) (length : Nat) :
    List Nat := collectRun np settings hz intervals (List.range length)

/-- The places of the peaks in a series of `length` samples. -/
def mappedPeaks (np : Numerics) (settings : HandoverSettings) (intervals : List ℚ) (length : Nat) : List ℤ :=
  if intervals.length = 0 ∨ length = 0 then []
  else
    (localPeakIndices np intervals settings.peakPercentile (settings.minGap np)).map
      (mappedIdx np intervals.length length)

structure RunWeights (np : Numerics) (settings : HandoverSettings) (hz : ℤ) (intervals samples : List ℚ) : Prop where
  collected : collectRun np settings hz intervals samples =
    (collectedIndices np settings hz intervals samples.length).map (valueAt samples)
  valid : ∀ i ∈ collectedIndices np settings hz intervals samples.length, i < samples.length
  weight : ∀ i < samples.length, (collectedIndices np settings hz intervals samples.length).count i =
    (mappedPeaks np settings intervals samples.length).countP fun idx : ℤ => |idx - i| ≤ settings.halfWindow np hz
  once : (collectedIndices np settings hz intervals samples.length).Nodup ↔
    (mappedPeaks np settings intervals samples.length).IsChain fun a b => 2 * settings.halfWindow np hz < b - a
  subMultiset : (collectedIndices np settings hz intervals samples.length).Nodup →
    (collectRun np settings hz intervals samples).Subperm samples

end StarlinkTcp.Graph

namespace StarlinkTcp.Proof
open StarlinkTcp.Graph Machine

/-! ## Places of the peaks -/

theorem int_of_nonneg {x : ℚ} (nonneg : 0 ≤ x) : int x = ⌊x⌋ := if_pos nonneg

theorem minGap_pos (settings : HandoverSettings) (np : Numerics) : 1 ≤ settings.minGap np := le_max_left _ _

section
variable {np : Numerics} {length : Nat}

theorem rounded_zero (rounds : RoundsIndices np length) : np.rounded 0 = 0 := by
  have exact := rounds.exact 0 (Nat.zero_le length)
  rwa [Nat.cast_zero] at exact

theorem rounded_nonneg (rounds : RoundsIndices np length) {x : ℚ} (nonneg : 0 ≤ x) : 0 ≤ np.rounded x := by
  rw [← rounded_zero rounds]
  exact rounds.monotone nonneg

theorem rounded_le (rounds : RoundsIndices np length) {x : ℚ} {n : Nat} (valid : n ≤ length) (le : x ≤ n) :
    np.rounded x ≤ n := by
  rw [← rounds.exact n valid]
  exact rounds.monotone le

theorem halfWindow_nonneg {settings : HandoverSettings} {hz : ℤ} (rounds : RoundsIndices np length)
    (wide : 0 < settings.windowSec) (rate : 0 < hz) : 0 ≤ settings.halfWindow np hz := by
  apply le_roundHalfEven
  rw [Int.cast_zero]
  have hz_nonneg : (0 : ℚ) ≤ hz := by exact_mod_cast rate.le
  exact rounded_nonneg rounds (mul_nonneg wide.le hz_nonneg)

theorem peakRatio_bounds {intervals p : Nat} (peak : p < intervals) :
    (0 : ℚ) ≤ p / (max (intervals - 1 : ℤ) 1 : ℤ) ∧ (p / (max (intervals - 1 : ℤ) 1 : ℤ) : ℚ) ≤ 1 := by
  have positive : (0 : ℚ) < (max (intervals - 1 : ℤ) 1 : ℤ) := by
    exact_mod_cast (by omega : 0 < max (intervals - 1 : ℤ) 1)
  have le : (p : ℚ) ≤ (max (intervals - 1 : ℤ) 1 : ℤ) := by
    exact_mod_cast (by omega : (p : ℤ) ≤ max (intervals - 1 : ℤ) 1)
  exact ⟨div_nonneg (Nat.cast_nonneg p) positive.le, (div_le_one positive).mpr le⟩

theorem mappedPlace_nonneg {intervals p : Nat} (rounds : RoundsIndices np length) (nonempty : 0 < length)
    (peak : p < intervals) :
    0 ≤ np.rounded (np.rounded (p / (max (intervals - 1 : ℤ) 1 : ℤ)) * (length - 1 : ℤ)) := by
  have last : (0 : ℚ) ≤ (length - 1 : ℤ) := by exact_mod_cast (by omega : 0 ≤ (length - 1 : ℤ))
  exact rounded_nonneg rounds (mul_nonneg (rounded_nonneg rounds (peakRatio_bounds peak).1) last)

theorem mappedIdx_eq {intervals p : Nat} (rounds : RoundsIndices np length) (nonempty : 0 < length)
    (peak : p < intervals) : mappedIdx np intervals length p =
      ⌊np.rounded (np.rounded (p / (max (intervals - 1 : ℤ) 1 : ℤ)) * (length - 1 : ℤ))⌋ :=
  int_of_nonneg (mappedPlace_nonneg rounds nonempty peak)

theorem mappedIdx_bounds {intervals p : Nat} (rounds : RoundsIndices np length) (nonempty : 0 < length)
    (peak : p < intervals) : 0 ≤ mappedIdx np intervals length p ∧ mappedIdx np intervals length p < length := by
  rw [mappedIdx_eq rounds nonempty peak]
  refine ⟨Int.floor_nonneg.mpr (mappedPlace_nonneg rounds nonempty peak), ?_⟩
  have last : ((length - 1 : ℤ) : ℚ) = (length - 1 : Nat) := by
    rw [← Int.natCast_pred_of_pos nonempty, Int.cast_natCast]
  have ratio : np.rounded (p / (max (intervals - 1 : ℤ) 1 : ℤ)) ≤ 1 := by
    have le := (peakRatio_bounds peak).2
    rw [← Nat.cast_one] at le ⊢
    exact rounded_le rounds nonempty le
  rw [last]
  have place : np.rounded (p / (max (intervals - 1 : ℤ) 1 : ℤ)) * (length - 1 : Nat) ≤ (length - 1 : Nat) :=
    mul_le_of_le_one_left (Nat.cast_nonneg _) ratio
  have bound := rounded_le rounds (Nat.sub_le length 1) place
  have floor : ⌊np.rounded (np.rounded (p / (max (intervals - 1 : ℤ) 1 : ℤ)) * (length - 1 : Nat))⌋ ≤
      (length - 1 : Nat) := by
    rw [← Int.floor_natCast (R := ℚ) (length - 1)]
    exact Int.floor_mono bound
  omega

theorem mappedIdx_mono {intervals p q : Nat} (rounds : RoundsIndices np length) (nonempty : 0 < length)
    (peak : q < intervals) (le : p ≤ q) :
    mappedIdx np intervals length p ≤ mappedIdx np intervals length q := by
  rw [mappedIdx_eq rounds nonempty peak, mappedIdx_eq rounds nonempty (le.trans_lt peak)]
  apply Int.floor_mono
  apply rounds.monotone
  have last : (0 : ℚ) ≤ (length - 1 : ℤ) := by exact_mod_cast (by omega : 0 ≤ (length - 1 : ℤ))
  have size : (0 : ℚ) ≤ (max (intervals - 1 : ℤ) 1 : ℤ) := by
    exact_mod_cast (by omega : 0 ≤ max (intervals - 1 : ℤ) 1)
  apply mul_le_mul_of_nonneg_right _ last
  apply rounds.monotone
  exact div_le_div_of_nonneg_right (by exact_mod_cast le) size

end

/-! ## What a run collects -/

theorem sliceBound_of_nonneg {length : Nat} {bound : ℤ} (nonneg : 0 ≤ bound) :
    sliceBound length bound = min bound.toNat length := if_neg (not_lt.mpr nonneg)

theorem slice_map {α β : Type*} (f : α → β) (xs : List α) (start stop : ℤ) :
    slice (xs.map f) start stop = (slice xs start stop).map f := by
  simp [slice]

theorem collectRun_map {α β : Type*} (np : Numerics) (settings : HandoverSettings) (hz : ℤ) (intervals : List ℚ)
    (samples : List α) (f : α → β) :
    collectRun np settings hz intervals (samples.map f) = (collectRun np settings hz intervals samples).map f := by
  unfold collectRun
  rw [List.length_map]
  split_ifs
  · rfl
  · simp only [slice_map, List.map_flatMap]

theorem range_map_valueAt (samples : List ℚ) : (List.range samples.length).map (valueAt samples) = samples := by
  apply List.ext_getElem
  · simp
  · intro i _ valid
    simp [valueAt, valid]

theorem slice_range_eq_window {length : Nat} {half idx : ℤ} (nonneg : 0 ≤ half) (lower : 0 ≤ idx)
    (upper : idx < length) :
    slice (List.range length) (max 0 (idx - half)) (min (length : ℤ) (idx + half + 1)) =
      window length half idx := by
  unfold slice
  rw [List.length_range, sliceBound_of_nonneg (le_max_left _ _), sliceBound_of_nonneg (by omega)]
  apply range_drop_take_eq_window
  · omega
  · omega

section
variable {np : Numerics} {settings : HandoverSettings} {hz : ℤ} {intervals : List ℚ} {length : Nat}

theorem mappedPeaks_valid (rounds : RoundsIndices np length) {idx : ℤ}
    (member : idx ∈ mappedPeaks np settings intervals length) : 0 ≤ idx ∧ idx < length := by
  unfold mappedPeaks at member
  split_ifs at member with empty
  · cases member
  · obtain ⟨peak, found, rfl⟩ := List.mem_map.mp member
    exact mappedIdx_bounds rounds (by omega) (localPeakIndices_peak found).above.1

theorem mappedPeaks_sorted (rounds : RoundsIndices np length) :
    (mappedPeaks np settings intervals length).Pairwise (· ≤ ·) := by
  unfold mappedPeaks
  split_ifs with empty
  · exact List.Pairwise.nil
  · have gap := minGap_pos settings np
    have nonneg : 0 ≤ settings.minGap np := by omega
    have increasing := localPeakIndices_increasing np intervals settings.peakPercentile nonneg
    refine List.pairwise_map.mpr (increasing.imp_of_mem fun {p q} _ later lt => ?_)
    exact mappedIdx_mono rounds (by omega) (localPeakIndices_peak later).above.1 lt.le

theorem collectedIndices_eq (rounds : RoundsIndices np length) (nonneg : 0 ≤ settings.halfWindow np hz) :
    collectedIndices np settings hz intervals length =
      (mappedPeaks np settings intervals length).flatMap (window length (settings.halfWindow np hz)) := by
  have valid (idx : ℤ) := @mappedPeaks_valid np settings intervals length rounds idx
  unfold collectedIndices collectRun
  unfold mappedPeaks at valid ⊢
  rw [List.length_range]
  split_ifs at valid ⊢ with empty
  · rfl
  · rw [List.flatMap_map]
    apply List.flatMap_congr
    intro peak found
    obtain ⟨lower, upper⟩ := valid _ (List.mem_map_of_mem found)
    exact slice_range_eq_window nonneg lower upper

theorem mem_collectedIndices (rounds : RoundsIndices np length) (nonneg : 0 ≤ settings.halfWindow np hz) {i : Nat}
    (member : i ∈ collectedIndices np settings hz intervals length) : i < length := by
  rw [collectedIndices_eq rounds nonneg] at member
  obtain ⟨idx, -, near⟩ := List.mem_flatMap.mp member
  exact (mem_window.mp near).1

theorem collectRun_eq_map (np : Numerics) (settings : HandoverSettings) (hz : ℤ) (intervals samples : List ℚ) :
    collectRun np settings hz intervals samples =
      (collectedIndices np settings hz intervals samples.length).map (valueAt samples) := by
  unfold collectedIndices
  rw [← collectRun_map, range_map_valueAt]

theorem runWeights {samples : List ℚ} (rounds : RoundsIndices np samples.length)
    (nonneg : 0 ≤ settings.halfWindow np hz) : RunWeights np settings hz intervals samples where
  collected := collectRun_eq_map np settings hz intervals samples
  valid _ member := mem_collectedIndices rounds nonneg member
  weight i lt := by
    rw [collectedIndices_eq rounds nonneg]
    exact count_windows lt _
  once := by
    rw [collectedIndices_eq rounds nonneg]
    exact windows_nodup_iff nonneg (mappedPeaks_sorted rounds) fun idx member => mappedPeaks_valid rounds member
  subMultiset nodup := by
    have inside : collectedIndices np settings hz intervals samples.length ⊆ List.range samples.length :=
      fun i member => List.mem_range.mpr (mem_collectedIndices rounds nonneg member)
    obtain ⟨picked, perm, sublist⟩ := List.subperm_of_subset nodup inside
    have values := sublist.map (valueAt samples)
    rw [range_map_valueAt] at values
    rw [collectRun_eq_map]
    exact ⟨picked.map (valueAt samples), perm.map (valueAt samples), values⟩

end

theorem handover_samples_weighted (np : Numerics) (settings : HandoverSettings) (hz : ℤ)
    (intervalFiles sampleFiles : List (List ℚ)) (wide : 0 < settings.windowSec) (rate : 0 < hz)
    (rounds : ∀ samples ∈ sampleFiles, RoundsIndices np samples.length) :
    extractHandoverThroughput np settings hz intervalFiles sampleFiles =
        (pairByIndex intervalFiles sampleFiles).flatMap (fun run => collectRun np settings hz run.1 run.2) ∧
      extractHandoverRtt np settings hz intervalFiles sampleFiles =
        (pairByIndex intervalFiles sampleFiles).flatMap (fun run => collectRun np settings hz run.1 run.2) ∧
      ∀ run ∈ pairByIndex intervalFiles sampleFiles, RunWeights np settings hz run.1 run.2 := by
  refine ⟨rfl, rfl, fun run paired => ?_⟩
  have sampled : run.2 ∈ sampleFiles := List.mem_of_mem_take (List.of_mem_zip paired).2
  exact runWeights (rounds run.2 sampled) (halfWindow_nonneg (rounds run.2 sampled) wide rate)

/-- Two peaks six samples apart, and windows of three samples to each side. -/
theorem handover_samples_weighted_twoPeaks :
    RunWeights interpolated ⟨99, 3, 1, 5⟩ 1 [9, 1, 1, 1, 1, 1, 9] [10, 11, 12, 13, 14, 15, 16] ∧
      collectedIndices interpolated ⟨99, 3, 1, 5⟩ 1 [9, 1, 1, 1, 1, 1, 9] 7 = [0, 1, 2, 3, 3, 4, 5, 6] := by
  constructor
  · have weighted := handover_samples_weighted interpolated ⟨99, 3, 1, 5⟩ 1 [[9, 1, 1, 1, 1, 1, 9]]
      [[10, 11, 12, 13, 14, 15, 16]] (by norm_num) (by norm_num) fun _ _ => ⟨monotone_id, fun _ _ => rfl⟩
    exact weighted.2.2 ([9, 1, 1, 1, 1, 1, 9], [10, 11, 12, 13, 14, 15, 16]) (by simp [pairByIndex])
  · decide +kernel

theorem handover_samples_counted_twice :
    ¬ ∀ (np : Numerics) (settings : HandoverSettings) (hz : ℤ) (intervals samples : List ℚ),
      RoundsIndices np samples.length → 0 < settings.windowSec → 0 < settings.intervalHz → 0 < settings.minGapSec →
      0 < hz →
        (extractHandoverThroughput np settings hz [intervals] [samples]).Subperm samples ∧
        (extractHandoverRtt np settings hz [intervals] [samples]).Subperm samples := by
  intro once
  have collected : extractHandoverRtt interpolated ⟨99, 3, 1, 5⟩ 1 [[9, 1, 1, 1, 1, 1, 9]]
      [[10, 11, 12, 13, 14, 15, 16]] = [10, 11, 12, 13, 13, 14, 15, 16] := by decide +kernel
  have submultiset := (once interpolated ⟨99, 3, 1, 5⟩ 1 [9, 1, 1, 1, 1, 1, 9] [10, 11, 12, 13, 14, 15, 16]
    ⟨monotone_id, fun _ _ => rfl⟩ (by norm_num) (by norm_num) (by norm_num) (by norm_num)).2
  rw [collected] at submultiset
  have size := submultiset.length_le
  simp at size

end StarlinkTcp.Proof

import StarlinkTcp.Proof.Coupling

/-!
# The anchor of an activation

The anchor is found in two hops. `choose_initial_anchor` takes the event with the most events near its
lattice and returns the latest of these; `newest_phase_consistent_event` takes the newest event near the
lattice of that one. Each hop may move the phase by the tolerance.
-/

namespace StarlinkTcp.Proof
open Machine Monitor

variable {period toleranceS : ℚ}

/-! ## Distance to a lattice -/

theorem phaseResidual_le_iff {event anchor : ℚ} (positive : 0 < period) :
    (∃ residual, phaseResidual event anchor period = some residual ∧ residual ≤ toleranceS) ↔
      ∃ k : ℤ, |event - (anchor + k * period)| ≤ toleranceS := by
  unfold phaseResidual
  dsimp only
  rw [if_neg (not_le.mpr positive)]
  constructor
  · rintro ⟨_, ⟨⟩, near⟩
    exact ⟨_, near⟩
  · rintro ⟨k, near⟩
    refine ⟨_, rfl, le_trans ?_ near⟩
    -- in units of the period the residual is the distance to the nearest integer
    have units (n : ℤ) : |event - (anchor + n * period)| = |(event - anchor) / period - n| * period := by
      rw [← abs_of_pos positive, ← abs_mul, abs_of_pos positive, sub_mul, div_mul_cancel₀ _ positive.ne']
      ring_nf
    rw [units, units]
    exact mul_le_mul_of_nonneg_right (abs_sub_roundHalfEven_le_abs _ k) positive.le

theorem onLattice_iff {event anchor : ℚ} (positive : 0 < period) :
    onLattice anchor period toleranceS event = true ↔ ∃ k : ℤ, |event - (anchor + k * period)| ≤ toleranceS := by
  rw [← phaseResidual_le_iff positive, onLattice]
  cases phaseResidual event anchor period with
  | none => simp
  | some residual => simp

theorem onLattice_self (positive : 0 < period) (tolerance : 0 ≤ toleranceS) (event : ℚ) :
    onLattice event period toleranceS event = true := by
  rw [onLattice_iff positive]
  exact ⟨0, by simpa using tolerance⟩

theorem onLattice_trans {a b c : ℚ} {first second : ℚ} (positive : 0 < period)
    (near : onLattice b period first a = true) (next : onLattice c period second b = true) :
    onLattice c period (first + second) a = true := by
  rw [onLattice_iff positive] at near next ⊢
  obtain ⟨j, near⟩ := near
  obtain ⟨k, next⟩ := next
  refine ⟨j + k, ?_⟩
  calc |a - (c + ((j + k : ℤ) : ℚ) * period)|
      = |(a - (b + j * period)) + (b - (c + k * period))| := by
        congr 1
        push_cast
        ring
    _ ≤ |a - (b + j * period)| + |b - (c + k * period)| := abs_add_le _ _
    _ ≤ first + second := add_le_add near next

/-! ## The best-supported anchor -/

def latticeSupport (events : List ℚ) (period toleranceS anchor : ℚ) : Nat :=
  (events.filter (onLattice anchor period toleranceS)).length

section Longest

variable {α β : Type} (inliers : α → List β)

def longest (candidates : List α) (best : List β) : List β :=
  candidates.foldl (fun best candidate =>
    if (inliers candidate).length > best.length then inliers candidate else best) best

theorem longest_spec (candidates : List α) (best : List β) :
    best.length ≤ (longest inliers candidates best).length ∧
    (∀ candidate ∈ candidates, (inliers candidate).length ≤ (longest inliers candidates best).length) ∧
    (longest inliers candidates best = best ∨
      ∃ candidate ∈ candidates, longest inliers candidates best = inliers candidate) := by
  induction candidates generalizing best with
  | nil => exact ⟨le_refl _, by simp, .inl rfl⟩
  | cons first rest ih =>
      obtain ⟨atLeast, most, source⟩ :=
        ih (if (inliers first).length > best.length then inliers first else best)
      rw [longest, List.foldl_cons, ← longest]
      by_cases longer : (inliers first).length > best.length
      · rw [if_pos longer] at atLeast most source ⊢
        refine ⟨longer.le.trans atLeast, ?_, .inr ?_⟩
        · intro candidate member
          rcases List.mem_cons.mp member with rfl | later
          · exact atLeast
          · exact most candidate later
        · rcases source with same | ⟨candidate, member, same⟩
          · exact ⟨first, List.mem_cons_self, same⟩
          · exact ⟨candidate, List.mem_cons_of_mem _ member, same⟩
      · rw [if_neg longer] at atLeast most source ⊢
        refine ⟨atLeast, ?_, source.imp_right ?_⟩
        · intro candidate member
          rcases List.mem_cons.mp member with rfl | later
          · exact (not_lt.mp longer).trans atLeast
          · exact most candidate later
        · rintro ⟨candidate, member, same⟩
          exact ⟨candidate, List.mem_cons_of_mem _ member, same⟩

end Longest

theorem bestInliers_spec {events : List ℚ} (some_event : events ≠ []) (positive : 0 < period)
    (tolerance : 0 ≤ toleranceS) :
    ∃ b ∈ events, bestInliers events period toleranceS = events.filter (onLattice b period toleranceS) ∧
      ∀ e ∈ events, latticeSupport events period toleranceS e ≤ latticeSupport events period toleranceS b := by
  obtain ⟨-, most, source⟩ :=
    longest_spec (fun anchor => events.filter (onLattice anchor period toleranceS)) events []
  change bestInliers events period toleranceS = [] ∨ ∃ candidate ∈ events,
    bestInliers events period toleranceS = events.filter (onLattice candidate period toleranceS) at source
  change ∀ candidate ∈ events, latticeSupport events period toleranceS candidate ≤
    (bestInliers events period toleranceS).length at most
  rcases source with empty | ⟨b, member, same⟩
  · -- an event is near its own lattice
    obtain ⟨event, member⟩ := List.exists_mem_of_ne_nil _ some_event
    have self : event ∈ events.filter (onLattice event period toleranceS) :=
      List.mem_filter.mpr ⟨member, onLattice_self positive tolerance event⟩
    have none := most event member
    rw [empty, latticeSupport] at none
    exact absurd (List.length_pos_of_mem self) (by simpa using none)
  · refine ⟨b, member, same, fun e among => ?_⟩
    rw [latticeSupport, latticeSupport, ← same]
    exact most e among

/-- The anchor of an activation is near the lattice of an event that is near the lattice of a best-supported
one, so it is at most twice the tolerance away from the latter. -/
theorem anchor_near_best_supported (events : List ℚ) (period toleranceS : ℚ) (some_event : events ≠ [])
    (positive : 0 < period) (tolerance : 0 ≤ toleranceS) :
    ∃ latticeAnchor a, chooseInitialAnchor events period toleranceS = some latticeAnchor ∧
      newestPhaseConsistentEvent events latticeAnchor period toleranceS = some a ∧
      ∃ b ∈ events,
        (∀ e ∈ events, latticeSupport events period toleranceS e ≤ latticeSupport events period toleranceS b) ∧
        (∃ residual, phaseResidual latticeAnchor b period = some residual ∧ residual ≤ toleranceS) ∧
        (∃ residual, phaseResidual a latticeAnchor period = some residual ∧ residual ≤ toleranceS) ∧
        ∃ residual, phaseResidual a b period = some residual ∧ residual ≤ 2 * toleranceS := by
  obtain ⟨b, among, best, most⟩ := bestInliers_spec some_event positive tolerance
  have supported : b ∈ events.filter (onLattice b period toleranceS) :=
    List.mem_filter.mpr ⟨among, onLattice_self positive tolerance b⟩
  obtain ⟨latticeAnchor, latest⟩ : ∃ latticeAnchor, chooseInitialAnchor events period toleranceS =
      some latticeAnchor := by
    rw [chooseInitialAnchor, best]
    exact Option.isSome_iff_exists.mp (List.isSome_max?_of_mem supported)
  have inlier : latticeAnchor ∈ events.filter (onLattice b period toleranceS) := by
    rw [chooseInitialAnchor, best] at latest
    exact List.max?_mem latest
  obtain ⟨member, first⟩ := List.mem_filter.mp inlier
  have consistent : latticeAnchor ∈ events.filter (onLattice latticeAnchor period toleranceS) :=
    List.mem_filter.mpr ⟨member, onLattice_self positive tolerance latticeAnchor⟩
  obtain ⟨a, newest⟩ : ∃ a, newestPhaseConsistentEvent events latticeAnchor period toleranceS = some a :=
    Option.isSome_iff_exists.mp (List.isSome_max?_of_mem consistent)
  have second := (List.mem_filter.mp (List.max?_mem newest)).2
  have both := onLattice_trans positive second first
  rw [← two_mul] at both
  refine ⟨latticeAnchor, a, latest, newest, b, among, most, ?_, ?_, ?_⟩
  · exact (phaseResidual_le_iff positive).mpr ((onLattice_iff positive).mp first)
  · exact (phaseResidual_le_iff positive).mpr ((onLattice_iff positive).mp second)
  · exact (phaseResidual_le_iff positive).mpr ((onLattice_iff positive).mp both)

/-- The phases are −0.18 s twice, 0, 0.18 s and 0.36 s on the lattice of 15 s. -/
def driftingEvents : List ℚ := [1482 / 100, 2982 / 100, 45, 6018 / 100, 7536 / 100]

theorem anchor_near_best_supported_drifting :
    ∃ a, newestPhaseConsistentEvent driftingEvents (6018 / 100) 15 (18 / 100) = some a ∧
      ∃ b ∈ driftingEvents, ∃ residual, phaseResidual a b 15 = some residual ∧ residual ≤ 2 * (18 / 100) := by
  have chosen : chooseInitialAnchor driftingEvents 15 (18 / 100) = some (6018 / 100) := by decide +kernel
  obtain ⟨latticeAnchor, a, latest, newest, b, among, -, -, -, twice⟩ :=
    anchor_near_best_supported driftingEvents 15 (18 / 100) (by decide) (by norm_num) (by norm_num)
  rw [chosen] at latest
  cases latest
  exact ⟨a, newest, b, among, twice⟩

/-- 45 s alone has four events near its lattice, and the anchor chosen, 75.36 s, is 0.36 s off it. -/
theorem anchor_twice_the_tolerance_off :
    chooseInitialAnchor driftingEvents 15 (18 / 100) = some (6018 / 100) ∧
    newestPhaseConsistentEvent driftingEvents (6018 / 100) 15 (18 / 100) = some (7536 / 100) ∧
    ¬ ∃ b ∈ driftingEvents,
      (∀ e ∈ driftingEvents, latticeSupport driftingEvents 15 (18 / 100) e ≤
        latticeSupport driftingEvents 15 (18 / 100) b) ∧
      onLattice b 15 (18 / 100) (7536 / 100) = true := by
  refine ⟨by decide +kernel, by decide +kernel, by decide +kernel⟩

end StarlinkTcp.Proof

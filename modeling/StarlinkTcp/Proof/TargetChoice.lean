import StarlinkTcp.Monitor.Detector

/-!
# The choice of active targets

The loop of `choose_active_targets` appends the targets in rank order behind the reserved endpoint and looks at
the limit after each append, so it appends at least one target whenever one is left. What it returns is
therefore known in closed form.
-/

namespace StarlinkTcp.Monitor
open Machine

def rank (states : String → TargetState) (target : String) : ScoredTarget :=
  ⟨targetParticipationRatio (states target), (states target).commonSupportCount, target⟩

def qualifying (states : String → TargetState) (allTargets : List String) (minRatio : ℚ) : List String :=
  allTargets.filter fun target => minRatio ≤ targetParticipationRatio (states target)

/-- A qualifying endpoint that no other qualifying endpoint outranks. -/
structure BestBootstrap (states : String → TargetState) (allTargets bootstraps : List String) (minRatio : ℚ)
    (target : String) : Prop where
  qualifies : target ∈ qualifying states allTargets minRatio
  bootstrap : target ∈ bootstraps
  best : ∀ other ∈ qualifying states allTargets minRatio, other ∈ bootstraps →
    (rank states target).ge (rank states other)

structure ChosenWell (states : String → TargetState) (allTargets bootstraps : List String) (maxTargets : ℤ)
    (minRatio : ℚ) (chosen : List String) : Prop where
  distinct : chosen.Nodup
  known : ∀ target ∈ chosen, target ∈ allTargets
  qualified : ∀ target ∈ chosen, minRatio ≤ targetParticipationRatio (states target)
  limited : (chosen.length : ℤ) ≤ maxTargets
  filled : (chosen.length : ℤ) = min maxTargets (qualifying states allTargets minRatio).length
  reserved : ∀ endpoint, BestBootstrap states allTargets bootstraps minRatio endpoint → endpoint ∈ chosen
  ranked : ∀ left ∈ qualifying states allTargets minRatio, left ∉ chosen → ∀ kept ∈ chosen,
    ¬ BestBootstrap states allTargets bootstraps minRatio kept → (rank states kept).ge (rank states left)

end StarlinkTcp.Monitor

namespace StarlinkTcp.Proof
open Machine Monitor

/-! ## The order of the scores -/

instance : Std.Total ScoredTarget.ge := by
  constructor
  intro a b
  simp only [ScoredTarget.ge]
  rcases lt_trichotomy a.ratio b.ratio with below | same | above
  · exact .inr (.inl below)
  · rcases lt_trichotomy a.commonSupportCount b.commonSupportCount with fewer | equal | more
    · exact .inr (.inr ⟨same.symm, .inl fewer⟩)
    · rcases String.le_total a.target b.target with le | le
      · exact .inr (.inr ⟨same.symm, .inr ⟨equal.symm, le⟩⟩)
      · exact .inl (.inr ⟨same, .inr ⟨equal, le⟩⟩)
    · exact .inl (.inr ⟨same, .inl more⟩)
  · exact .inl (.inl above)

instance : IsTrans ScoredTarget ScoredTarget.ge := by
  constructor
  intro a b c hab hbc
  rcases hab with hab | ⟨ratio, hab⟩
  · rcases hbc with hbc | ⟨ratio', -⟩
    · exact .inl (hbc.trans hab)
    · exact .inl (ratio' ▸ hab)
  · rcases hbc with hbc | ⟨ratio', hbc⟩
    · exact .inl (ratio ▸ hbc)
    · refine .inr ⟨ratio.trans ratio', ?_⟩
      rcases hab with hab | ⟨count, hab⟩
      · rcases hbc with hbc | ⟨count', -⟩
        · exact .inl (hbc.trans hab)
        · exact .inl (count' ▸ hab)
      · rcases hbc with hbc | ⟨count', hbc⟩
        · exact .inl (count ▸ hbc)
        · exact .inr ⟨count.trans count', String.le_trans hbc hab⟩

theorem ScoredTarget.ge_antisymm {a b : ScoredTarget} (hab : a.ge b) (hba : b.ge a) : a.target = b.target := by
  simp only [ScoredTarget.ge] at hab hba
  rcases hab with hab | ⟨ratio, hab | ⟨count, hab⟩⟩
  · rcases hba with hba | ⟨ratio, -⟩
    · exact absurd hba (not_lt_of_gt hab)
    · exact absurd ratio hab.ne
  · rcases hba with hba | ⟨-, hba | ⟨count, -⟩⟩
    · exact absurd ratio hba.ne
    · exact absurd hba (not_lt_of_gt hab)
    · exact absurd count hab.ne
  · rcases hba with hba | ⟨-, hba | ⟨-, hba⟩⟩
    · exact absurd ratio hba.ne
    · exact absurd count hba.ne
    · exact String.le_antisymm hba hab

variable {states : String → TargetState} {allTargets bootstraps : List String} {maxTargets : ℤ} {minRatio : ℚ}

/-! ## The scored list -/

theorem scoredTargets_eq : scoredTargets states allTargets minRatio =
    ((qualifying states allTargets minRatio).map (rank states)).insertionSort ScoredTarget.ge := by
  simp only [scoredTargets, qualifying]
  congr 1
  induction allTargets with
  | nil => rfl
  | cons first rest ih =>
      rw [List.filterMap_cons, List.filter_cons, ih]
      by_cases low : targetParticipationRatio (states first) < minRatio
      · simp [low, not_le.mpr low]
      · simp [low, not_lt.mp low, rank]

/-- The qualifying targets, best first. -/
def ranking (states : String → TargetState) (allTargets : List String) (minRatio : ℚ) : List String :=
  (scoredTargets states allTargets minRatio).map ScoredTarget.target

theorem ranking_perm :
    (ranking states allTargets minRatio).Perm (qualifying states allTargets minRatio) := by
  rw [ranking, scoredTargets_eq]
  refine ((List.perm_insertionSort _ _).map _).trans ?_
  rw [List.map_map]
  simp [Function.comp_def, rank]

theorem scoredTargets_map : scoredTargets states allTargets minRatio =
    (ranking states allTargets minRatio).map (rank states) := by
  rw [ranking, List.map_map]
  refine (List.map_id _).symm.trans (List.map_congr_left fun item member => ?_)
  rw [scoredTargets_eq, List.mem_insertionSort, List.mem_map] at member
  obtain ⟨target, -, rfl⟩ := member
  rfl

theorem ranking_pairwise : (ranking states allTargets minRatio).Pairwise fun a b =>
    (rank states a).ge (rank states b) := by
  rw [← List.pairwise_map, ← scoredTargets_map, scoredTargets_eq]
  exact List.pairwise_insertionSort ..

/-! ## The loop -/

theorem selectTargets_eq {rest selected : List String} (nodup : rest.Nodup) :
    selectTargets maxTargets selected rest =
      selected ++ (rest.filter (· ∉ selected)).take (max 1 (maxTargets - selected.length)).toNat := by
  induction rest generalizing selected with
  | nil => simp [selectTargets]
  | cons target rest ih =>
      obtain ⟨fresh, nodup⟩ := List.nodup_cons.mp nodup
      rw [selectTargets]
      by_cases known : target ∈ selected
      · simp [known, ih nodup]
      · rw [if_neg known, List.filter_cons_of_pos (by simpa using known)]
        by_cases full : ((selected ++ [target]).length : ℤ) ≥ maxTargets
        · -- one append reaches the limit
          have one : (max 1 (maxTargets - selected.length)).toNat = 1 := by
            simp only [List.length_append, List.length_singleton] at full
            omega
          rw [if_pos full, one, List.take_succ_cons, List.take_zero]
        · have more : (max 1 (maxTargets - selected.length)).toNat =
              (max 1 (maxTargets - (selected ++ [target]).length)).toNat + 1 := by
            simp only [List.length_append, List.length_singleton] at full ⊢
            omega
          have later : rest.filter (· ∉ selected ++ [target]) = rest.filter (· ∉ selected) := by
            apply List.filter_congr
            intro other member
            have differs : other ≠ target := fun same => fresh (same ▸ member)
            simp [differs]
          rw [if_neg full, ih nodup, more, List.take_succ_cons, later, List.append_assoc]
          rfl

def reservedTargets (states : String → TargetState) (allTargets bootstraps : List String) (minRatio : ℚ) :
    List String :=
  ((ranking states allTargets minRatio).filter (· ∈ bootstraps)).head?.toList

def otherTargets (states : String → TargetState) (allTargets bootstraps : List String) (minRatio : ℚ) :
    List String :=
  (ranking states allTargets minRatio).filter (· ∉ reservedTargets states allTargets bootstraps minRatio)

theorem ranking_nodup (distinct : allTargets.Nodup) : (ranking states allTargets minRatio).Nodup :=
  ranking_perm.nodup_iff.mpr (distinct.filter _)

theorem chooseActiveTargets_eq (distinct : allTargets.Nodup) :
    chooseActiveTargets states allTargets bootstraps maxTargets minRatio =
      reservedTargets states allTargets bootstraps minRatio ++
        (otherTargets states allTargets bootstraps minRatio).take
          (max 1 (maxTargets - (reservedTargets states allTargets bootstraps minRatio).length)).toNat := by
  have endpoint : ((scoredTargets states allTargets minRatio).filter fun item => item.target ∈ bootstraps).head?.map
      ScoredTarget.target = ((ranking states allTargets minRatio).filter (· ∈ bootstraps)).head? := by
    rw [ranking, List.filter_map, List.head?_map]
    rfl
  rw [chooseActiveTargets, endpoint]
  exact selectTargets_eq (ranking_nodup distinct)

/-! ## The reserved endpoint -/

theorem mem_reservedTargets {target : String} :
    target ∈ reservedTargets states allTargets bootstraps minRatio ↔
      BestBootstrap states allTargets bootstraps minRatio target := by
  have sorted := (@ranking_pairwise states allTargets minRatio).filter (· ∈ bootstraps)
  have members (other : String) : other ∈ (ranking states allTargets minRatio).filter (· ∈ bootstraps) ↔
      other ∈ qualifying states allTargets minRatio ∧ other ∈ bootstraps := by
    rw [List.mem_filter, ranking_perm.mem_iff, decide_eq_true_eq]
  rw [reservedTargets, Option.mem_toList]
  cases list : (ranking states allTargets minRatio).filter (· ∈ bootstraps) with
  | nil =>
      simp only [List.head?_nil, reduceCtorEq, false_iff]
      intro best
      have listed := (members target).mpr ⟨best.qualifies, best.bootstrap⟩
      simp [list] at listed
  | cons first rest =>
      rw [list] at sorted members
      obtain ⟨firstQualifies, firstBootstrap⟩ := (members first).mp List.mem_cons_self
      simp only [List.head?_cons, Option.some.injEq]
      constructor
      · rintro rfl
        refine ⟨firstQualifies, firstBootstrap, fun other qualifies bootstrap => ?_⟩
        rcases List.mem_cons.mp ((members other).mpr ⟨qualifies, bootstrap⟩) with rfl | later
        · exact (total_of ScoredTarget.ge _ _).elim id id
        · exact (List.pairwise_cons.mp sorted).1 other later
      · intro best
        rcases List.mem_cons.mp ((members target).mpr ⟨best.qualifies, best.bootstrap⟩) with rfl | later
        · rfl
        · exact ScoredTarget.ge_antisymm ((List.pairwise_cons.mp sorted).1 target later)
            (best.best first firstQualifies firstBootstrap)

theorem reservedTargets_length_le :
    (reservedTargets states allTargets bootstraps minRatio).length ≤ 1 := by
  rw [reservedTargets]
  cases ((ranking states allTargets minRatio).filter (· ∈ bootstraps)).head? <;> simp

theorem reservedTargets_eq_nil : reservedTargets states allTargets bootstraps minRatio = [] ↔
    ¬ ∃ endpoint ∈ bootstraps, endpoint ∈ qualifying states allTargets minRatio := by
  simp only [reservedTargets, Option.toList_eq_nil_iff, List.head?_eq_none_iff, List.filter_eq_nil_iff,
    decide_eq_true_eq, ranking_perm.mem_iff, not_exists, not_and]
  constructor
  · exact fun none endpoint bootstrap qualifies => none endpoint qualifies bootstrap
  · exact fun none endpoint qualifies bootstrap => none endpoint bootstrap qualifies

theorem mem_otherTargets {target : String} :
    target ∈ otherTargets states allTargets bootstraps minRatio ↔
      target ∈ qualifying states allTargets minRatio ∧
        ¬ BestBootstrap states allTargets bootstraps minRatio target := by
  rw [otherTargets, List.mem_filter, ranking_perm.mem_iff, decide_eq_true_eq, mem_reservedTargets]

theorem reserved_append_other_perm (distinct : allTargets.Nodup) :
    (reservedTargets states allTargets bootstraps minRatio ++
      otherTargets states allTargets bootstraps minRatio).Perm (qualifying states allTargets minRatio) := by
  have single : (reservedTargets states allTargets bootstraps minRatio).Nodup := by
    rw [reservedTargets]
    cases ((ranking states allTargets minRatio).filter (· ∈ bootstraps)).head? <;> simp
  have others : (otherTargets states allTargets bootstraps minRatio).Nodup := (ranking_nodup distinct).filter _
  apply (List.perm_ext_iff_of_nodup (single.append others ?_) (distinct.filter _)).mpr
  · intro target
    rw [List.mem_append, mem_reservedTargets, mem_otherTargets]
    constructor
    · rintro (best | ⟨qualifies, -⟩)
      · exact best.qualifies
      · exact qualifies
    · intro qualifies
      by_cases best : BestBootstrap states allTargets bootstraps minRatio target
      · exact .inl best
      · exact .inr ⟨qualifies, best⟩
  · intro target kept other
    exact (mem_otherTargets.mp other).2 (mem_reservedTargets.mp kept)

theorem chooseActiveTargets_length (distinct : allTargets.Nodup) :
    ((chooseActiveTargets states allTargets bootstraps maxTargets minRatio).length : ℤ) =
      min (max ((reservedTargets states allTargets bootstraps minRatio).length + 1 : ℤ) maxTargets)
        (qualifying states allTargets minRatio).length := by
  have total := (@reserved_append_other_perm states allTargets bootstraps minRatio distinct).length_eq
  rw [List.length_append] at total
  rw [chooseActiveTargets_eq distinct, List.length_append, List.length_take]
  omega

/-! ## The property and its exact condition -/

theorem chooseActiveTargets_filled (distinct : allTargets.Nodup) (atLeastOne : 1 ≤ maxTargets)
    (room : ¬ (maxTargets = 1 ∧ (∃ endpoint ∈ bootstraps, endpoint ∈ qualifying states allTargets minRatio) ∧
      2 ≤ (qualifying states allTargets minRatio).length)) :
    ((chooseActiveTargets states allTargets bootstraps maxTargets minRatio).length : ℤ) =
      min maxTargets (qualifying states allTargets minRatio).length := by
  have length := @chooseActiveTargets_length states allTargets bootstraps maxTargets minRatio distinct
  rcases Nat.le_one_iff_eq_zero_or_eq_one.mp
    (@reservedTargets_length_le states allTargets bootstraps minRatio) with none | one
  · omega
  · have nonempty : reservedTargets states allTargets bootstraps minRatio ≠ [] := by
      intro empty
      simp [empty] at one
    have endpoint := not_not.mp (mt reservedTargets_eq_nil.mpr nonempty)
    have : ¬ (maxTargets = 1 ∧ 2 ≤ (qualifying states allTargets minRatio).length) :=
      fun both => room ⟨both.1, endpoint, both.2⟩
    omega

/-- The loop takes the others in order of rank, so what is left out ranks no higher than what is taken. -/
theorem otherTargets_taken_first {size : Nat} {left kept : String}
    (other : left ∈ otherTargets states allTargets bootstraps minRatio)
    (out : left ∉ (otherTargets states allTargets bootstraps minRatio).take size)
    (taken : kept ∈ (otherTargets states allTargets bootstraps minRatio).take size) :
    (rank states kept).ge (rank states left) := by
  have sorted : (otherTargets states allTargets bootstraps minRatio).Pairwise fun a b =>
    (rank states a).ge (rank states b) := ranking_pairwise.filter _
  rw [← List.take_append_drop size (otherTargets states allTargets bootstraps minRatio)] at other sorted
  exact (List.pairwise_append.mp sorted).2.2 kept taken left ((List.mem_append.mp other).resolve_left out)

theorem chooseActiveTargets_chosenWell (distinct : allTargets.Nodup) (atLeastOne : 1 ≤ maxTargets)
    (room : ¬ (maxTargets = 1 ∧ (∃ endpoint ∈ bootstraps, endpoint ∈ qualifying states allTargets minRatio) ∧
      2 ≤ (qualifying states allTargets minRatio).length)) :
    ChosenWell states allTargets bootstraps maxTargets minRatio
      (chooseActiveTargets states allTargets bootstraps maxTargets minRatio) := by
  have perm := @reserved_append_other_perm states allTargets bootstraps minRatio distinct
  have filled := chooseActiveTargets_filled distinct atLeastOne room
  rw [chooseActiveTargets_eq distinct] at filled ⊢
  generalize (max 1 (maxTargets - (reservedTargets states allTargets bootstraps minRatio).length)).toNat = size
    at filled ⊢
  have sublist := (List.Sublist.refl (reservedTargets states allTargets bootstraps minRatio)).append
    (List.take_sublist size (otherTargets states allTargets bootstraps minRatio))
  have qualifies : ∀ target ∈ reservedTargets states allTargets bootstraps minRatio ++
      (otherTargets states allTargets bootstraps minRatio).take size,
      target ∈ qualifying states allTargets minRatio :=
    fun target member => perm.mem_iff.mp (sublist.subset member)
  refine ⟨?_, ?_, ?_, filled ▸ min_le_left _ _, filled, ?_, ?_⟩
  · exact (perm.nodup_iff.mpr (distinct.filter _)).sublist sublist
  · exact fun target member => (List.mem_filter.mp (qualifies target member)).1
  · exact fun target member => of_decide_eq_true (List.mem_filter.mp (qualifies target member)).2
  · exact fun endpoint best => List.mem_append_left _ (mem_reservedTargets.mpr best)
  · intro left qualified out kept chosen notBest
    rw [List.mem_append, not_or, mem_reservedTargets] at out
    have before := (List.mem_append.mp chosen).resolve_left (mt mem_reservedTargets.mp notBest)
    exact otherTargets_taken_first (mem_otherTargets.mpr ⟨qualified, out.1⟩) out.2 before

theorem chooseActiveTargets_iff (states : String → TargetState) (allTargets bootstraps : List String)
    (maxTargets : ℤ) (minRatio : ℚ) (distinct : allTargets.Nodup) (atLeastOne : 1 ≤ maxTargets) :
    ChosenWell states allTargets bootstraps maxTargets minRatio
      (chooseActiveTargets states allTargets bootstraps maxTargets minRatio) ↔
    ¬ (maxTargets = 1 ∧ (∃ endpoint ∈ bootstraps, endpoint ∈ qualifying states allTargets minRatio) ∧
      2 ≤ (qualifying states allTargets minRatio).length) := by
  refine ⟨?_, chooseActiveTargets_chosenWell distinct atLeastOne⟩
  rintro well ⟨one, endpoint, two⟩
  have nonempty : reservedTargets states allTargets bootstraps minRatio ≠ [] :=
    fun empty => reservedTargets_eq_nil.mp empty endpoint
  have := List.length_pos_iff.mpr nonempty
  have length := @chooseActiveTargets_length states allTargets bootstraps maxTargets minRatio distinct
  have := well.limited
  omega

theorem chooseActiveTargets_iff_pair :
    ChosenWell (fun _ => TargetState.fresh) ["1.1.1.1", "8.8.8.8"] ["1.1.1.1"] 2 0
      (chooseActiveTargets (fun _ => TargetState.fresh) ["1.1.1.1", "8.8.8.8"] ["1.1.1.1"] 2 0) ↔
    ¬ ((2 : ℤ) = 1 ∧ (∃ endpoint ∈ ["1.1.1.1"], endpoint ∈ qualifying (fun _ => TargetState.fresh)
        ["1.1.1.1", "8.8.8.8"] 0) ∧
      2 ≤ (qualifying (fun _ => TargetState.fresh) ["1.1.1.1", "8.8.8.8"] 0).length) :=
  chooseActiveTargets_iff _ _ _ _ _ (by decide) (by decide)

/-- With room for one target, the reserved endpoint comes with a second one. -/
theorem chooseActiveTargets_exceeds_limit :
    ¬ ∀ (states : String → TargetState) (allTargets bootstraps : List String) (maxTargets : ℤ) (minRatio : ℚ),
      allTargets.Nodup → 1 ≤ maxTargets → ChosenWell states allTargets bootstraps maxTargets minRatio
        (chooseActiveTargets states allTargets bootstraps maxTargets minRatio) := by
  intro always
  have well := always (fun _ => TargetState.fresh) ["1.1.1.1", "8.8.8.8"] ["1.1.1.1"] 1 0 (by decide) le_rfl
  have two : (chooseActiveTargets (fun _ => TargetState.fresh) ["1.1.1.1", "8.8.8.8"] ["1.1.1.1"] 1 0).length = 2 := by
    decide +kernel
  have := well.limited
  omega

end StarlinkTcp.Proof

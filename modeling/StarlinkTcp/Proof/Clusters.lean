import Mathlib.Data.Nat.Log
import Mathlib.Data.String.Basic
import StarlinkTcp.Proof.Participation
import StarlinkTcp.Proof.Statistics

/-!
# Clustering of candidate events

The points of the window are cut into consecutive runs. Every point of a run was within the tolerance of
the median of the points before it. Since a later point does not lower the median, all points of a run
stay within the tolerance above it, and the first point beyond that is later than all of them.
-/

namespace StarlinkTcp.Monitor

def windowRuns (states : String → TargetState) (targets : List String) (now windowS toleranceS : ℚ) :
    List (List Point) :=
  match windowPoints states targets now windowS with
  | [] => []
  | first :: rest => clusterRuns toleranceS [first] rest

end StarlinkTcp.Monitor

namespace StarlinkTcp.Proof
open Machine Monitor

def runCenter (run : List Point) : ℚ := (median (run.map Point.ts)).getD 0

def Earlier (run later : List Point) : Prop := ∀ p ∈ run, ∀ q ∈ later, p.ts < q.ts

def Chained (toleranceS : ℚ) (run : List Point) : Prop :=
  ∀ (before : List Point) (point : Point) (after : List Point), run = before ++ point :: after → before ≠ [] →
    point.ts ≤ runCenter before + toleranceS

def distinctTargets (run : List Point) : List String := (run.map Point.target).dedup

variable {states : String → TargetState} {targets : List String} {now windowS toleranceS : ℚ} {minTargets : ℤ}

/-! ## The order of the points -/

theorem Point.le_ts {p q : Point} (le : Point.le p q) : p.ts ≤ q.ts := by
  rcases le with before | ⟨same, -⟩
  · exact before.le
  · exact same.le

instance : IsTrans Point Point.le where
  trans p q r first second := by
    rcases first with before | ⟨same, names⟩
    · exact .inl (before.trans_le (Point.le_ts second))
    · rcases second with later | ⟨again, more⟩
      · exact .inl (same.trans_lt later)
      · exact .inr ⟨same.trans again, le_trans names more⟩

instance : Std.Total Point.le where
  total p q := by
    rcases lt_trichotomy p.ts q.ts with before | same | later
    · exact .inl (.inl before)
    · exact (le_total p.target q.target).imp (fun names => .inr ⟨same, names⟩) fun names => .inr ⟨same.symm, names⟩
    · exact .inr (.inl later)

instance : Std.Antisymm Point.le where
  antisymm p q first second := by
    have times : p.ts = q.ts := le_antisymm (Point.le_ts first) (Point.le_ts second)
    have names : p.target = q.target := by
      rcases first with before | ⟨-, names⟩
      · exact absurd times before.ne
      · rcases second with later | ⟨-, back⟩
        · exact absurd times later.ne'
        · exact le_antisymm names back
    cases p
    cases q
    exact congrArg₂ Point.mk times names

theorem pairwise_windowPoints : (windowPoints states targets now windowS).Pairwise Point.le :=
  List.pairwise_insertionSort _ _

theorem mem_windowPoints {point : Point} :
    point ∈ windowPoints states targets now windowS ↔
      point.target ∈ targets ∧ point.ts ∈ (states point.target).events ∧ now - windowS ≤ point.ts := by
  unfold windowPoints
  simp only [List.mem_insertionSort, List.mem_flatMap, List.mem_map, List.mem_filter, decide_eq_true_eq, ge_iff_le]
  constructor
  · rintro ⟨target, listed, ts, ⟨event, recent⟩, rfl⟩
    exact ⟨listed, event, recent⟩
  · rintro ⟨listed, event, recent⟩
    exact ⟨point.target, listed, point.ts, ⟨event, recent⟩, rfl⟩

theorem windowPoints_perm {others : List String} (perm : others.Perm targets) :
    windowPoints states others now windowS = windowPoints states targets now windowS := by
  apply List.Perm.eq_of_pairwise' pairwise_windowPoints pairwise_windowPoints
  refine (List.perm_insertionSort _ _).trans (.trans ?_ (List.perm_insertionSort _ _).symm)
  exact perm.flatMap_right _

/-! ## Runs -/

section Runs

variable {cur rest : List Point}

theorem clusterRuns_flatten : (clusterRuns toleranceS cur rest).flatten = cur ++ rest := by
  induction rest generalizing cur with
  | nil => simp [clusterRuns]
  | cons point rest ih =>
      unfold clusterRuns
      dsimp only
      split
      · rw [ih, List.append_assoc, List.singleton_append]
      · rw [List.flatten_cons, ih, List.singleton_append]

theorem clusterRuns_ne_nil (nonempty : cur ≠ []) : ∀ run ∈ clusterRuns toleranceS cur rest, run ≠ [] := by
  induction rest generalizing cur with
  | nil => simpa [clusterRuns] using nonempty
  | cons point rest ih =>
      unfold clusterRuns
      dsimp only
      split
      · exact ih (by simp)
      · intro run member
        rcases List.mem_cons.mp member with rfl | later
        · exact nonempty
        · exact ih (by simp) run later

theorem chained_singleton (point : Point) : Chained toleranceS [point] := by
  intro before later after split nonempty
  rcases List.append_eq_singleton_iff.mp split.symm with ⟨rfl, -⟩ | ⟨-, none⟩
  · exact absurd rfl nonempty
  · cases none

theorem Chained.append {point : Point} (chained : Chained toleranceS cur)
    (near : point.ts - runCenter cur ≤ toleranceS) : Chained toleranceS (cur ++ [point]) := by
  intro before later after split nonempty
  rcases List.eq_nil_or_concat after with rfl | ⟨after, last, rfl⟩
  · obtain ⟨rfl, same⟩ := List.append_inj' split rfl
    cases same
    linarith
  · rw [List.concat_eq_append, ← List.cons_append, ← List.append_assoc] at split
    exact chained before later after (List.append_inj' split rfl).1 nonempty

theorem clusterRuns_chained (chained : Chained toleranceS cur) :
    ∀ run ∈ clusterRuns toleranceS cur rest, Chained toleranceS run := by
  induction rest generalizing cur with
  | nil => simpa [clusterRuns] using chained
  | cons point rest ih =>
      unfold clusterRuns
      dsimp only
      split
      · rename_i near
        exact ih (chained.append near)
      · intro run member
        rcases List.mem_cons.mp member with rfl | later
        · exact chained
        · exact ih (chained_singleton point) run later

theorem runCenter_le_append {point : Point} (nonempty : cur ≠ [])
    (sorted : (cur ++ [point]).Pairwise fun p q => p.ts ≤ q.ts) :
    runCenter cur ≤ runCenter (cur ++ [point]) := by
  obtain ⟨middle, found⟩ := exists_median (fun none => nonempty (List.map_eq_nil_iff.mp none) :
    cur.map Point.ts ≠ [])
  obtain ⟨later, next⟩ := exists_median (by simp : (cur ++ [point]).map Point.ts ≠ [])
  have times := List.pairwise_map.mpr sorted
  rw [runCenter, runCenter, found, next]
  rw [List.map_append] at next times
  exact median_le_append times found next

theorem Chained.le_center (chained : Chained toleranceS cur) (tolerance : 0 ≤ toleranceS)
    (sorted : cur.Pairwise fun p q => p.ts ≤ q.ts) : ∀ p ∈ cur, p.ts ≤ runCenter cur + toleranceS := by
  induction cur using List.reverseRecOn with
  | nil => simp
  | append_singleton before last ih =>
      intro p member
      by_cases first : before = []
      · subst first
        rw [List.nil_append] at member ⊢
        rw [List.mem_singleton.mp member]
        simpa [runCenter] using tolerance
      · have rises := runCenter_le_append first sorted
        rcases List.mem_append.mp member with old | new
        · have earlier : Chained toleranceS before := fun start point after split =>
            chained start point (after ++ [last]) (by rw [split]; simp)
          linarith [ih earlier (List.pairwise_append.mp sorted).1 p old]
        · rw [List.mem_singleton.mp new]
          linarith [chained before last [] rfl first]

theorem clusterRuns_separated (tolerance : 0 ≤ toleranceS) (nonempty : cur ≠ [])
    (chained : Chained toleranceS cur) (sorted : (cur ++ rest).Pairwise fun p q => p.ts ≤ q.ts) :
    (clusterRuns toleranceS cur rest).Pairwise Earlier := by
  induction rest generalizing cur with
  | nil => simp [clusterRuns]
  | cons point rest ih =>
      unfold clusterRuns
      dsimp only
      split
      · rename_i near
        apply ih (by simp) (chained.append near)
        rwa [List.append_assoc, List.singleton_append]
      · rename_i far
        obtain ⟨current, after, -⟩ := List.pairwise_append.mp sorted
        refine List.Pairwise.cons ?_ (ih (by simp) (chained_singleton point) after)
        -- the point that was cut off is beyond the run, and the rest is not before it
        intro run member p old q new
        have listed : q ∈ point :: rest := by
          rw [← List.singleton_append, ← @clusterRuns_flatten toleranceS]
          exact List.mem_flatten.mpr ⟨run, member, new⟩
        have reaches : point.ts ≤ q.ts := by
          rcases List.mem_cons.mp listed with rfl | later
          · exact le_refl _
          · exact (List.pairwise_cons.mp after).1 q later
        have within := chained.le_center tolerance current p old
        change ¬ point.ts - runCenter cur ≤ toleranceS at far
        linarith

end Runs

theorem windowRuns_flatten :
    (windowRuns states targets now windowS toleranceS).flatten = windowPoints states targets now windowS := by
  unfold windowRuns
  split
  · rename_i none
    rw [none, List.flatten_nil]
  · rename_i first rest points
    rw [points, clusterRuns_flatten, List.singleton_append]

theorem windowRuns_ne_nil : ∀ run ∈ windowRuns states targets now windowS toleranceS, run ≠ [] := by
  unfold windowRuns
  split
  · simp
  · exact clusterRuns_ne_nil (by simp)

theorem windowRuns_chained : ∀ run ∈ windowRuns states targets now windowS toleranceS, Chained toleranceS run := by
  unfold windowRuns
  split
  · simp
  · exact clusterRuns_chained (chained_singleton _)

theorem windowRuns_separated (tolerance : 0 ≤ toleranceS) :
    (windowRuns states targets now windowS toleranceS).Pairwise Earlier := by
  have sorted := (@pairwise_windowPoints states targets now windowS).imp Point.le_ts
  unfold windowRuns
  split
  · exact List.Pairwise.nil
  · rename_i first rest points
    rw [points] at sorted
    exact clusterRuns_separated tolerance (by simp) (chained_singleton first) sorted

theorem windowRuns_sorted {run : List Point} (member : run ∈ windowRuns states targets now windowS toleranceS) :
    run.Pairwise fun p q => p.ts ≤ q.ts := by
  have sorted := (@pairwise_windowPoints states targets now windowS).imp Point.le_ts
  rw [← @windowRuns_flatten states targets now windowS toleranceS] at sorted
  exact (List.pairwise_flatten.mp sorted).1 run member

/-! ## One event for each run with enough targets -/

theorem perTarget_spec (run : List Point) :
    ((perTarget run).map Point.target).Nodup ∧ ∀ point ∈ perTarget run, point ∈ run := by
  unfold perTarget
  refine List.foldlRecOn (motive := fun seen : List Point => (seen.map Point.target).Nodup ∧
    ∀ point ∈ seen, point ∈ run) run _ ⟨List.nodup_nil, by simp⟩ ?_
  intro seen ⟨nodup, subset⟩ point member
  split
  · exact ⟨nodup, subset⟩
  · rename_i unknown
    constructor
    · rw [List.map_append, List.map_singleton, List.nodup_append]
      refine ⟨nodup, List.nodup_singleton _, ?_⟩
      intro target known other last
      obtain ⟨earlier, among, rfl⟩ := List.mem_map.mp known
      rw [List.mem_singleton.mp last]
      intro same
      exact unknown (List.any_eq_true.mpr ⟨earlier, among, by simpa using same⟩)
    · intro other among
      rcases List.mem_append.mp among with old | new
      · exact subset other old
      · rw [List.mem_singleton.mp new]
        exact member

theorem perTarget_targets (run : List Point) : ((perTarget run).map Point.target).Perm (distinctTargets run) := by
  refine (List.perm_ext_iff_of_nodup (perTarget_spec run).1 (List.nodup_dedup _)).mpr fun target => ?_
  have firsts := @mem_perTarget_fold target run []
  simp only [List.not_mem_nil, false_and, exists_false, false_or] at firsts
  rw [List.mem_dedup, List.mem_map, List.mem_map]
  exact firsts

theorem perTarget_ne_nil {run : List Point} (nonempty : run ≠ []) : perTarget run ≠ [] := by
  obtain ⟨point, member⟩ := List.exists_mem_of_ne_nil _ nonempty
  intro none
  have listed : point.target ∈ distinctTargets run := List.mem_dedup.mpr (List.mem_map.mpr ⟨point, member, rfl⟩)
  rw [← (perTarget_targets run).mem_iff, none] at listed
  cases listed

def runEvent (run : List Point) : CommonEvent where
  time := (median ((perTarget run).map Point.ts)).getD 0
  support := (distinctTargets run).length
  supporters := (distinctTargets run).insertionSort (· ≤ ·)

theorem commonEvent_eq (run : List Point) :
    commonEvent minTargets run =
      if minTargets ≤ (distinctTargets run).length then some (runEvent run) else none := by
  have same := (perTarget_targets run).length_eq
  have sorted : ((perTarget run).map Point.target).insertionSort (· ≤ ·) =
      (distinctTargets run).insertionSort (· ≤ ·) :=
    List.Perm.eq_of_pairwise' (List.pairwise_insertionSort _ _) (List.pairwise_insertionSort _ _)
      ((List.perm_insertionSort _ _).trans ((perTarget_targets run).trans (List.perm_insertionSort _ _).symm))
  unfold commonEvent runEvent
  dsimp only
  rw [sorted, List.length_insertionSort, ← same, List.length_map]
  by_cases enough : minTargets ≤ ((perTarget run).length : ℤ)
  · rw [if_pos enough, if_neg (not_lt.mpr enough)]
  · rw [if_neg enough, if_pos (not_le.mp enough)]

theorem clusterCommonEvents_eq :
    clusterCommonEvents states targets now windowS toleranceS minTargets =
      ((windowRuns states targets now windowS toleranceS).filter fun run =>
        minTargets ≤ (distinctTargets run).length).map runEvent := by
  have kept (runs : List (List Point)) : runs.filterMap (commonEvent minTargets) =
      (runs.filter fun run => minTargets ≤ (distinctTargets run).length).map runEvent := by
    induction runs with
    | nil => rfl
    | cons run runs ih =>
        rw [List.filterMap_cons, commonEvent_eq, ih, List.filter_cons]
        by_cases enough : minTargets ≤ ((distinctTargets run).length : ℤ)
        · simp [enough]
        · simp [enough]
  unfold clusterCommonEvents windowRuns
  cases windowPoints states targets now windowS with
  | nil => rfl
  | cons first rest => exact kept _

theorem runEvent_span {run : List Point} (nonempty : run ≠ []) :
    (∃ p ∈ run, p.ts ≤ (runEvent run).time) ∧ ∃ q ∈ run, (runEvent run).time ≤ q.ts := by
  obtain ⟨middle, found⟩ := exists_median (fun none => perTarget_ne_nil nonempty (List.map_eq_nil_iff.mp none) :
    (perTarget run).map Point.ts ≠ [])
  obtain ⟨⟨x, first, above⟩, y, second, below⟩ := median_span found
  obtain ⟨p, early, rfl⟩ := List.mem_map.mp first
  obtain ⟨q, late, rfl⟩ := List.mem_map.mp second
  have time : (runEvent run).time = middle := by rw [runEvent, found, Option.getD_some]
  rw [time]
  exact ⟨⟨p, (perTarget_spec run).2 p early, above⟩, q, (perTarget_spec run).2 q late, below⟩

structure Describes (run : List Point) (event : CommonEvent) : Prop where
  support : event.support = (distinctTargets run).length
  supporters : event.supporters = (distinctTargets run).insertionSort (· ≤ ·)
  not_before : ∃ p ∈ run, p.ts ≤ event.time
  not_after : ∃ q ∈ run, event.time ≤ q.ts

theorem runEvent_describes {run : List Point} (nonempty : run ≠ []) : Describes run (runEvent run) where
  support := rfl
  supporters := rfl
  not_before := (runEvent_span nonempty).1
  not_after := (runEvent_span nonempty).2

theorem Describes.time_lt {run later : List Point} {event next : CommonEvent} (describes : Describes run event)
    (after : Describes later next) (earlier : Earlier run later) : event.time < next.time := by
  obtain ⟨q, last, below⟩ := describes.not_after
  obtain ⟨p, first, above⟩ := after.not_before
  linarith [earlier q last p first]

theorem eq_of_common_point {runs : List (List Point)} (separated : runs.Pairwise Earlier) {run other : List Point}
    (member : run ∈ runs) (among : other ∈ runs) {point : Point} (inside : point ∈ run) (also : point ∈ other) :
    run = other := by
  obtain ⟨i, bound, rfl⟩ := List.getElem_of_mem member
  obtain ⟨j, limit, rfl⟩ := List.getElem_of_mem among
  have apart := List.pairwise_iff_getElem.mp separated
  rcases lt_trichotomy i j with before | rfl | after
  · exact absurd (apart i j bound limit before point inside point also) (lt_irrefl _)
  · rfl
  · exact absurd (apart j i limit bound after point also point inside) (lt_irrefl _)

theorem exists_unique_run (tolerance : 0 ≤ toleranceS) {point : Point}
    (member : point ∈ windowPoints states targets now windowS) :
    ∃! run, run ∈ windowRuns states targets now windowS toleranceS ∧ point ∈ run := by
  rw [← @windowRuns_flatten states targets now windowS toleranceS] at member
  obtain ⟨run, among, inside⟩ := List.mem_flatten.mp member
  refine ⟨run, ⟨among, inside⟩, ?_⟩
  rintro other ⟨listed, also⟩
  exact eq_of_common_point (windowRuns_separated tolerance) listed among also inside

theorem times_increasing (tolerance : 0 ≤ toleranceS) :
    ((clusterCommonEvents states targets now windowS toleranceS minTargets).map CommonEvent.time).Pairwise
      (· < ·) := by
  rw [clusterCommonEvents_eq, List.map_map, List.pairwise_map]
  refine ((windowRuns_separated tolerance).filter _).imp_of_mem ?_
  intro run later member among earlier
  exact (runEvent_describes (windowRuns_ne_nil run (List.mem_of_mem_filter member))).time_lt
    (runEvent_describes (windowRuns_ne_nil later (List.mem_of_mem_filter among))) earlier

/-- The clusters are the consecutive runs of the sorted points, strictly separated in time, with one event
for each run that has enough targets; the order of the target list does not matter. -/
theorem clustering_partition (states : String → TargetState) (targets : List String)
    (now windowS toleranceS : ℚ) (minTargets : ℤ) (tolerance : 0 ≤ toleranceS) :
    (windowPoints states targets now windowS).Pairwise Point.le ∧
    (∀ point, point ∈ windowPoints states targets now windowS ↔
      point.target ∈ targets ∧ point.ts ∈ (states point.target).events ∧ now - windowS ≤ point.ts) ∧
    ∃ runs : List (List Point),
      runs.flatten = windowPoints states targets now windowS ∧
      (∀ run ∈ runs, run ≠ []) ∧
      (∀ point ∈ windowPoints states targets now windowS, ∃! run, run ∈ runs ∧ point ∈ run) ∧
      runs.Pairwise (fun run later => ∀ p ∈ run, ∀ q ∈ later, p.ts < q.ts) ∧
      List.Forall₂ Describes (runs.filter fun run => minTargets ≤ (distinctTargets run).length)
        (clusterCommonEvents states targets now windowS toleranceS minTargets) ∧
      ((clusterCommonEvents states targets now windowS toleranceS minTargets).map CommonEvent.time).Pairwise
        (· < ·) ∧
      ∀ others : List String, others.Perm targets →
        clusterCommonEvents states others now windowS toleranceS minTargets =
          clusterCommonEvents states targets now windowS toleranceS minTargets := by
  refine ⟨pairwise_windowPoints, fun point => mem_windowPoints,
    windowRuns states targets now windowS toleranceS, windowRuns_flatten, windowRuns_ne_nil,
    fun point member => exists_unique_run tolerance member, windowRuns_separated tolerance, ?_,
    times_increasing tolerance, ?_⟩
  · rw [clusterCommonEvents_eq, List.forall₂_map_right_iff, List.forall₂_same]
    intro run member
    exact runEvent_describes (windowRuns_ne_nil run (List.mem_of_mem_filter member))
  · intro others perm
    unfold clusterCommonEvents
    rw [windowPoints_perm perm]

/-! ## How far a supporter is from the event -/

section Drift

variable {run : List Point}

theorem runCenter_le_getElem {before : List Point} (nonempty : before ≠ [])
    (sorted : before.Pairwise fun p q => p.ts ≤ q.ts) (lt : before.length / 2 < before.length) :
    runCenter before ≤ (before[before.length / 2]).ts := by
  obtain ⟨middle, found⟩ := exists_median (fun none => nonempty (List.map_eq_nil_iff.mp none) :
    before.map Point.ts ≠ [])
  have below := (median_between_sorted (List.pairwise_map.mpr sorted) found).2
  rw [List.length_map, List.getD_eq_getElem _ _ (by rwa [List.length_map]), List.getElem_map] at below
  rwa [runCenter, found]

theorem Chained.le_half (chained : Chained toleranceS run) (sorted : run.Pairwise fun p q => p.ts ≤ q.ts)
    {i : Nat} (lt : i + 1 < run.length) :
    (run[i + 1]).ts ≤ (run[(i + 1) / 2]).ts + toleranceS := by
  have size : (run.take (i + 1)).length = i + 1 := by
    rw [List.length_take]
    omega
  have nonempty : run.take (i + 1) ≠ [] := by
    rw [← List.length_pos_iff]
    omega
  have split : run = run.take (i + 1) ++ run[i + 1] :: run.drop (i + 2) := by
    rw [← List.drop_eq_getElem_cons lt, List.take_append_drop]
  have near := chained _ _ _ split nonempty
  have center := runCenter_le_getElem nonempty (sorted.sublist (List.take_sublist _ _)) (by omega)
  simp only [List.getElem_take, size] at center
  linarith

theorem Chained.spread (chained : Chained toleranceS run) (sorted : run.Pairwise fun p q => p.ts ≤ q.ts)
    (i : Nat) (lt : i < run.length) :
    (run[i]).ts ≤ (run[0]).ts + toleranceS * Nat.clog 2 (i + 1) := by
  induction i using Nat.strong_induction_on with
  | _ i ih =>
      cases i with
      | zero => simp
      | succ i =>
          have step := chained.le_half sorted lt
          have earlier := ih ((i + 1) / 2) (by omega) (by omega)
          have halved : Nat.clog 2 (i + 1 + 1) = Nat.clog 2 ((i + 1) / 2 + 1) + 1 := by
            rw [Nat.clog_of_one_lt (by omega) (by omega)]
            congr 2
            omega
          rw [halved]
          push_cast
          linarith

theorem Chained.sub_le (chained : Chained toleranceS run) (sorted : run.Pairwise fun p q => p.ts ≤ q.ts)
    (tolerance : 0 ≤ toleranceS) {p q : Point} (member : p ∈ run) (among : q ∈ run) :
    q.ts - p.ts ≤ toleranceS * Nat.clog 2 run.length := by
  obtain ⟨i, bound, rfl⟩ := List.getElem_of_mem member
  obtain ⟨j, limit, rfl⟩ := List.getElem_of_mem among
  have start : (run[0]).ts ≤ (run[i]).ts := by
    rcases Nat.eq_zero_or_pos i with rfl | positive
    · exact le_refl _
    · exact List.pairwise_iff_getElem.mp sorted 0 i _ bound positive
  have spread := chained.spread sorted j limit
  have logarithm : (Nat.clog 2 (j + 1) : ℚ) ≤ Nat.clog 2 run.length := by
    exact_mod_cast Nat.clog_mono_right 2 limit
  have scaled := mul_le_mul_of_nonneg_left logarithm tolerance
  linarith

theorem Chained.near_time (chained : Chained toleranceS run) (sorted : run.Pairwise fun p q => p.ts ≤ q.ts)
    (tolerance : 0 ≤ toleranceS) {point : Point} (member : point ∈ run) :
    |point.ts - (runEvent run).time| ≤ toleranceS * Nat.clog 2 run.length := by
  obtain ⟨⟨p, first, above⟩, q, last, below⟩ := runEvent_span (List.ne_nil_of_mem member)
  have down := chained.sub_le sorted tolerance first member
  have up := chained.sub_le sorted tolerance member last
  rw [abs_le]
  constructor <;> linarith

theorem perTarget_three (p q r : Point) :
    perTarget [p, q, r] = [p] ∨ perTarget [p, q, r] = [p, q] ∨ perTarget [p, q, r] = [p, r] ∨
      perTarget [p, q, r] = [p, q, r] := by
  simp only [perTarget, List.foldl_cons, List.foldl_nil, List.any_nil, Bool.false_eq_true, if_false, List.nil_append]
  split_ifs <;> simp

theorem Chained.near_time_of_three {p q r : Point} (chained : Chained toleranceS [p, q, r])
    (sorted : [p, q, r].Pairwise fun p q => p.ts ≤ q.ts) {point : Point}
    (first : point ∈ perTarget [p, q, r]) :
    |point.ts - (runEvent [p, q, r]).time| ≤ toleranceS := by
  have second := chained [p] q [r] rfl (by simp)
  have third := chained [p, q] r [] rfl (by simp)
  simp only [List.pairwise_cons, List.mem_cons, List.not_mem_nil, or_false, forall_eq_or_imp, forall_eq,
    false_imp_iff, implies_true, List.Pairwise.nil, and_true] at sorted
  obtain ⟨⟨pq, pr⟩, qr⟩ := sorted
  simp only [runCenter, List.map_cons, List.map_nil, median_singleton, median_pair pq, Option.getD_some]
    at second third
  unfold runEvent
  rcases perTarget_three p q r with firsts | firsts | firsts | firsts
  · rw [firsts] at first ⊢
    rw [List.mem_singleton.mp first, List.map_singleton, median_singleton, Option.getD_some, sub_self, abs_zero]
    linarith
  · rw [firsts] at first ⊢
    rw [List.map_cons, List.map_singleton, median_pair pq, Option.getD_some, abs_le]
    simp only [List.mem_cons, List.not_mem_nil, or_false] at first
    rcases first with rfl | rfl <;> constructor <;> linarith
  · rw [firsts] at first ⊢
    rw [List.map_cons, List.map_singleton, median_pair pr, Option.getD_some, abs_le]
    simp only [List.mem_cons, List.not_mem_nil, or_false] at first
    rcases first with rfl | rfl <;> constructor <;> linarith
  · rw [firsts] at first ⊢
    rw [List.map_cons, List.map_cons, List.map_singleton, median_triple pq qr, Option.getD_some, abs_le]
    simp only [List.mem_cons, List.not_mem_nil, or_false] at first
    rcases first with rfl | rfl | rfl <;> constructor <;> linarith

theorem Chained.near_time_of_short (chained : Chained toleranceS run)
    (sorted : run.Pairwise fun p q => p.ts ≤ q.ts) (tolerance : 0 ≤ toleranceS) (short : run.length ≤ 3)
    {point : Point} (first : point ∈ perTarget run) : |point.ts - (runEvent run).time| ≤ toleranceS := by
  rcases Nat.lt_or_eq_of_le short with shorter | three
  · apply (chained.near_time sorted tolerance ((perTarget_spec run).2 point first)).trans
    have logarithm : (Nat.clog 2 run.length : ℚ) ≤ 1 := by
      exact_mod_cast Nat.clog_le_of_le_pow (by omega : run.length ≤ 2 ^ 1)
    exact mul_le_of_le_one_right tolerance logarithm
  · obtain ⟨p, q, r, rfl⟩ := List.length_eq_three.mp three
    exact chained.near_time_of_three sorted first

end Drift

/-- A supporter has a candidate in the run of the event that was within the tolerance of the median of the
run when it was added. From the time reported in the end it is as many tolerances away as the run was
doubled, and within the tolerance if there are no more than three points. -/
theorem supporters_near_event (states : String → TargetState) (targets : List String)
    (now windowS toleranceS : ℚ) (minTargets : ℤ) (tolerance : 0 ≤ toleranceS) :
    ∀ event ∈ clusterCommonEvents states targets now windowS toleranceS minTargets,
      ∃ run ∈ windowRuns states targets now windowS toleranceS,
        Describes run event ∧ Chained toleranceS run ∧
        ∀ target ∈ event.supporters, ∃ ts ∈ (states target).events, ⟨ts, target⟩ ∈ run ∧
          |ts - event.time| ≤ toleranceS * Nat.clog 2 run.length ∧
          (run.length ≤ 3 → |ts - event.time| ≤ toleranceS) := by
  intro event reported
  rw [clusterCommonEvents_eq] at reported
  obtain ⟨run, kept, rfl⟩ := List.mem_map.mp reported
  have member := List.mem_of_mem_filter kept
  have chained := windowRuns_chained run member
  have sorted := windowRuns_sorted member
  refine ⟨run, member, runEvent_describes (windowRuns_ne_nil run member), chained, ?_⟩
  intro target supporter
  have listed : target ∈ (perTarget run).map Point.target := by
    rw [(perTarget_targets run).mem_iff]
    exact (List.mem_insertionSort _).mp supporter
  obtain ⟨point, first, rfl⟩ := List.mem_map.mp listed
  have inside := (perTarget_spec run).2 point first
  have window : point ∈ windowPoints states targets now windowS := by
    rw [← @windowRuns_flatten states targets now windowS toleranceS]
    exact List.mem_flatten.mpr ⟨run, member, inside⟩
  exact ⟨point.ts, (mem_windowPoints.mp window).2.1, inside, chained.near_time sorted tolerance inside,
    fun short => chained.near_time_of_short sorted tolerance short first⟩

def reportedStates (events : List (String × List ℚ)) (target : String) : TargetState :=
  { TargetState.fresh with events := (events.lookup target).getD [] }

def fourTargets : List String := ["1.0.0.1", "1.1.1.1", "8.8.8.8", "9.9.9.9"]

/-- Four targets notice the same outage one after the other. -/
def driftingStates : String → TargetState :=
  reportedStates [("1.0.0.1", [0]), ("1.1.1.1", [1 / 10]), ("8.8.8.8", [15 / 100]), ("9.9.9.9", [2 / 10])]

theorem clustering_partition_drifting :
    clusterCommonEvents driftingStates fourTargets.reverse 1 300 (1 / 10) 2 =
      clusterCommonEvents driftingStates fourTargets 1 300 (1 / 10) 2 := by
  obtain ⟨-, -, runs, -, -, -, -, -, -, orderFree⟩ :=
    clustering_partition driftingStates fourTargets 1 300 (1 / 10) 2 (by norm_num)
  exact orderFree _ (List.reverse_perm _)

theorem supporters_near_event_drifting :
    ∃ event ∈ clusterCommonEvents driftingStates fourTargets 1 300 (1 / 10) 2, event.supporters = fourTargets ∧
      ∃ run ∈ windowRuns driftingStates fourTargets 1 300 (1 / 10), Describes run event ∧
        Chained (1 / 10) run := by
  have reported : ⟨125 / 1000, 4, fourTargets⟩ ∈ clusterCommonEvents driftingStates fourTargets 1 300 (1 / 10) 2 := by
    decide +kernel
  obtain ⟨run, member, describes, chained, -⟩ :=
    supporters_near_event driftingStates fourTargets 1 300 (1 / 10) 2 (by norm_num) _ reported
  exact ⟨_, reported, rfl, run, member, describes, chained⟩

/-- The event is reported at 125 ms and its first supporter has no candidate but the one at 0. -/
theorem first_supporter_left_behind :
    clusterCommonEvents driftingStates fourTargets 1 300 (1 / 10) 2 = [⟨125 / 1000, 4, fourTargets⟩] ∧
    ¬ ∀ event ∈ clusterCommonEvents driftingStates fourTargets 1 300 (1 / 10) 2, ∀ target ∈ event.supporters,
      ∃ ts ∈ (driftingStates target).events, |ts - event.time| ≤ 1 / 10 := by
  refine ⟨by decide +kernel, by decide +kernel⟩

end StarlinkTcp.Proof

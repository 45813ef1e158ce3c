import StarlinkTcp.Machine.Alignment
import StarlinkTcp.Proof.Activation
import StarlinkTcp.Proof.Clusters

/-!
# The handovers behind the common events

A target notices a handover a little earlier or later than the others, and has candidates of its own in
between. While candidates of different origin stay further apart than the tolerance, a run of the clustering
has a single origin. The runs of a single target are not reported, and every handover that enough targets
notice has one run, so the common events are the handovers, one for one and in their order.
-/

namespace StarlinkTcp.Monitor

/-- What a candidate comes from: the handover it is near, or else its own target. -/
def Point.origin (handovers : List ℚ) (delta : ℚ) (p : Point) : ℚ ⊕ String :=
  match handovers.find? fun handover => |p.ts - handover| ≤ delta with
  | some handover => .inl handover
  | none => .inr p.target

/-- The targets with a candidate near the handover. -/
def sightedBy (states : String → TargetState) (targets : List String) (now windowS delta handover : ℚ) :
    List String :=
  targets.filter fun target =>
    (states target).events.any fun ts => now - windowS ≤ ts ∧ |ts - handover| ≤ delta

def periodicHandovers (first T : ℚ) (n : Nat) : List ℚ := (List.range n).map fun k : Nat => first + k * T

end StarlinkTcp.Monitor

namespace StarlinkTcp.Proof
open Kernel Machine Monitor

/-- Enough targets notice every handover up to `delta`, and what is near in time has the same origin. A
single target is enough only if it has no candidates of its own. -/
structure Sighted (states : String → TargetState) (targets : List String) (now windowS toleranceS : ℚ)
    (minTargets : ℤ) (handovers : List ℚ) (delta : ℚ) : Prop where
  listed : targets.Nodup
  positive : 1 ≤ minTargets
  strays : 2 ≤ minTargets ∨ ∀ p ∈ windowPoints states targets now windowS,
    ∃ handover ∈ handovers, |p.ts - handover| ≤ delta
  precise : 0 ≤ delta
  narrow : 2 * delta ≤ toleranceS
  apart : handovers.Pairwise fun handover next => handover + 2 * delta < next
  enough : ∀ handover ∈ handovers,
    minTargets ≤ (sightedBy states targets now windowS delta handover).length
  told : ∀ p ∈ windowPoints states targets now windowS, ∀ q ∈ windowPoints states targets now windowS,
    |p.ts - q.ts| ≤ toleranceS → p.origin handovers delta = q.origin handovers delta

/-- Every point of the run is near the handover. -/
def ComesFrom (handovers : List ℚ) (delta : ℚ) (run : List Point) (handover : ℚ) : Prop :=
  ∀ p ∈ run, p.origin handovers delta = .inl handover

/-! ## Runs and what is near -/

section Runs

variable {states : String → TargetState} {targets : List String} {now windowS toleranceS : ℚ}
variable {run cur rest : List Point}

theorem runCenter_span (nonempty : run ≠ []) :
    (∃ p ∈ run, p.ts ≤ runCenter run) ∧ ∃ q ∈ run, runCenter run ≤ q.ts := by
  obtain ⟨middle, found⟩ := exists_median (fun none => nonempty (List.map_eq_nil_iff.mp none) :
    run.map Point.ts ≠ [])
  obtain ⟨⟨x, first, above⟩, y, second, below⟩ := median_span found
  obtain ⟨p, early, rfl⟩ := List.mem_map.mp first
  obtain ⟨q, late, rfl⟩ := List.mem_map.mp second
  rw [runCenter, found, Option.getD_some]
  exact ⟨⟨p, early, above⟩, q, late, below⟩

/-- What any two near points of a run share, all its points share. -/
theorem Chained.shared {α : Type} {key : Point → α} (chained : Chained toleranceS run)
    (sorted : run.Pairwise fun p q => p.ts ≤ q.ts)
    (told : ∀ p ∈ run, ∀ q ∈ run, |p.ts - q.ts| ≤ toleranceS → key p = key q) :
    ∀ p ∈ run, ∀ q ∈ run, key p = key q := by
  induction run using List.reverseRecOn with
  | nil => simp
  | append_singleton before last ih =>
      have earlier : Chained toleranceS before := fun start point after split =>
        chained start point (after ++ [last]) (by rw [split]; simp)
      obtain ⟨ordered, -, upTo⟩ := List.pairwise_append.mp sorted
      have old := ih earlier ordered fun p member q among =>
        told p (List.mem_append_left _ member) q (List.mem_append_left _ among)
      -- the last point was near the median, and some point is not before that
      have new : ∀ p ∈ before, key p = key last := by
        intro p member
        obtain ⟨-, q, among, below⟩ := runCenter_span (List.ne_nil_of_mem member)
        have joined := chained before last [] rfl (List.ne_nil_of_mem member)
        have after := upTo q among last List.mem_cons_self
        rw [old p member q among]
        refine told q (List.mem_append_left _ among) last (by simp) ?_
        rw [abs_le]
        constructor <;> linarith
      intro p member q among
      rcases List.mem_append.mp member with first | isLast <;> rcases List.mem_append.mp among with second | alsoLast
      · exact old p first q second
      · rw [List.mem_singleton.mp alsoLast]
        exact new p first
      · rw [List.mem_singleton.mp isLast]
        exact (new q second).symm
      · rw [List.mem_singleton.mp isLast, List.mem_singleton.mp alsoLast]

theorem clusterRuns_beyond (sorted : (cur ++ rest).Pairwise fun p q => p.ts ≤ q.ts) :
    (clusterRuns toleranceS cur rest).Pairwise fun run later => ∀ q ∈ later, runCenter run + toleranceS < q.ts := by
  induction rest generalizing cur with
  | nil => simp [clusterRuns]
  | cons point rest ih =>
      unfold clusterRuns
      dsimp only
      split
      · apply ih
        rwa [List.append_assoc, List.singleton_append]
      · rename_i far
        have after := (List.pairwise_append.mp sorted).2.1
        refine List.Pairwise.cons ?_ (ih after)
        intro run member q new
        have listed : q ∈ point :: rest := by
          rw [← List.singleton_append, ← @clusterRuns_flatten toleranceS]
          exact List.mem_flatten.mpr ⟨run, member, new⟩
        have reaches : point.ts ≤ q.ts := by
          rcases List.mem_cons.mp listed with rfl | later
          · exact le_refl _
          · exact (List.pairwise_cons.mp after).1 q later
        change ¬ point.ts - runCenter cur ≤ toleranceS at far
        linarith

theorem windowRuns_beyond : (windowRuns states targets now windowS toleranceS).Pairwise fun run later =>
    ∀ q ∈ later, runCenter run + toleranceS < q.ts := by
  have sorted := (@pairwise_windowPoints states targets now windowS).imp Point.le_ts
  unfold windowRuns
  split
  · exact List.Pairwise.nil
  · rename_i first rest points
    rw [points] at sorted
    exact clusterRuns_beyond sorted

theorem mem_windowRuns {point : Point} :
    (∃ run ∈ windowRuns states targets now windowS toleranceS, point ∈ run) ↔
      point ∈ windowPoints states targets now windowS := by
  rw [← @windowRuns_flatten states targets now windowS toleranceS, List.mem_flatten]

end Runs

/-! ## One run for each handover -/

section Sighted

variable {states : String → TargetState} {targets : List String} {now windowS toleranceS delta : ℚ}
variable {minTargets : ℤ} {handovers : List ℚ} {run : List Point} {handover : ℚ}

theorem origin_stray {p : Point} {target : String} (stray : p.origin handovers delta = .inr target) :
    p.target = target := by
  unfold Point.origin at stray
  split at stray
  · cases stray
  · exact Sum.inr.inj stray

theorem mem_sightedBy {target : String} :
    target ∈ sightedBy states targets now windowS delta handover ↔
      ∃ p ∈ windowPoints states targets now windowS, p.target = target ∧ |p.ts - handover| ≤ delta := by
  simp only [sightedBy, List.mem_filter, List.any_eq_true, decide_eq_true_eq, mem_windowPoints]
  constructor
  · rintro ⟨listed, ts, event, recent, near⟩
    exact ⟨⟨ts, target⟩, ⟨listed, event, recent⟩, rfl, near⟩
  · rintro ⟨p, ⟨listed, event, recent⟩, rfl, near⟩
    exact ⟨listed, p.ts, event, recent, near⟩

variable (sighted : Sighted states targets now windowS toleranceS minTargets handovers delta)

include sighted

theorem Sighted.tolerance : 0 ≤ toleranceS := by
  linarith [sighted.precise, sighted.narrow]

theorem Sighted.origin_iff {p : Point} :
    p.origin handovers delta = .inl handover ↔ handover ∈ handovers ∧ |p.ts - handover| ≤ delta := by
  unfold Point.origin
  constructor
  · intro same
    split at same
    · rename_i found
      cases same
      exact ⟨List.mem_of_find?_eq_some found, by simpa using List.find?_some found⟩
    · cases same
  · rintro ⟨member, near⟩
    split
    · rename_i other found
      have close : |p.ts - other| ≤ delta := by simpa using List.find?_some found
      by_contra different
      obtain ⟨below, above⟩ := abs_le.mp near
      obtain ⟨low, high⟩ := abs_le.mp close
      rcases pairwise_either sighted.apart member (List.mem_of_find?_eq_some found)
        (fun same => different (congrArg Sum.inl same.symm)) with before | after
      · linarith
      · linarith
    · rename_i none
      exact absurd (decide_eq_true near) (by simpa using List.find?_eq_none.mp none handover member)

theorem Sighted.one_origin (member : run ∈ windowRuns states targets now windowS toleranceS) :
    ∀ p ∈ run, ∀ q ∈ run, p.origin handovers delta = q.origin handovers delta :=
  (windowRuns_chained run member).shared (windowRuns_sorted member) fun p inside q also =>
    sighted.told p (mem_windowRuns.mp ⟨run, member, inside⟩) q (mem_windowRuns.mp ⟨run, member, also⟩)

theorem Sighted.center_not_before (nonempty : run ≠ [])
    (whole : ComesFrom handovers delta run handover) : handover - delta ≤ runCenter run := by
  obtain ⟨⟨p, inside, below⟩, -⟩ := runCenter_span nonempty
  have near := (sighted.origin_iff.mp (whole p inside)).2
  linarith [(abs_le.mp near).1]

theorem Sighted.same_run {other : List Point} (member : run ∈ windowRuns states targets now windowS toleranceS)
    (among : other ∈ windowRuns states targets now windowS toleranceS)
    (whole : ComesFrom handovers delta run handover)
    (also : ComesFrom handovers delta other handover) : run = other := by
  have beyond {early late : List Point} (first : early ≠ []) (second : late ≠ [])
      (left : ComesFrom handovers delta early handover)
      (right : ComesFrom handovers delta late handover)
      (cut : ∀ q ∈ late, runCenter early + toleranceS < q.ts) : False := by
    obtain ⟨q, inside⟩ := List.exists_mem_of_ne_nil _ second
    have near := (sighted.origin_iff.mp (right q inside)).2
    linarith [cut q inside, sighted.center_not_before first left, (abs_le.mp near).2, sighted.narrow]
  have first := windowRuns_ne_nil run member
  have second := windowRuns_ne_nil other among
  by_contra different
  rcases pairwise_either windowRuns_beyond member among different with cut | cut
  · exact beyond first second whole also cut
  · exact beyond second first also whole cut

theorem Sighted.supporters (member : run ∈ windowRuns states targets now windowS toleranceS)
    (whole : ComesFrom handovers delta run handover) :
    (distinctTargets run).Perm (sightedBy states targets now windowS delta handover) := by
  have sighters : (sightedBy states targets now windowS delta handover).Nodup := sighted.listed.filter _
  refine (List.perm_ext_iff_of_nodup (List.nodup_dedup _) sighters).mpr fun target => ?_
  rw [List.mem_dedup, List.mem_map, mem_sightedBy]
  constructor
  · rintro ⟨p, inside, rfl⟩
    exact ⟨p, mem_windowRuns.mp ⟨run, member, inside⟩, rfl, (sighted.origin_iff.mp (whole p inside)).2⟩
  · rintro ⟨p, recent, rfl, near⟩
    obtain ⟨q, inside⟩ := List.exists_mem_of_ne_nil _ (windowRuns_ne_nil run member)
    have expected := (sighted.origin_iff.mp (whole q inside)).1
    obtain ⟨other, among, within⟩ := mem_windowRuns.mpr recent
    have origin := sighted.origin_iff.mpr ⟨expected, near⟩
    have also : ComesFrom handovers delta other handover := fun r listed =>
      (sighted.one_origin among r listed p within).trans origin
    rw [← sighted.same_run member among whole also] at within
    exact ⟨p, within, rfl⟩

/-- A run that is reported comes from a handover. -/
theorem Sighted.matched (member : run ∈ windowRuns states targets now windowS toleranceS)
    (reported : minTargets ≤ (distinctTargets run).length) :
    ∃ handover ∈ handovers, ComesFrom handovers delta run handover := by
  obtain ⟨p, inside⟩ := List.exists_mem_of_ne_nil _ (windowRuns_ne_nil run member)
  have shared : ∀ q ∈ run, q.origin handovers delta = p.origin handovers delta := fun q among =>
    sighted.one_origin member q among p inside
  cases origin : p.origin handovers delta with
  | inl handover =>
      rw [origin] at shared
      exact ⟨handover, (sighted.origin_iff.mp origin).1, shared⟩
  | inr target =>
      rw [origin] at shared
      have alone : distinctTargets run ⊆ [target] := by
        intro other listed
        obtain ⟨q, among, rfl⟩ := List.mem_map.mp (List.mem_dedup.mp listed)
        rw [origin_stray (shared q among)]
        exact List.mem_singleton_self _
      have single := (List.subperm_of_subset (List.nodup_dedup _) alone).length_le
      rw [List.length_singleton] at single
      change (distinctTargets run).length ≤ 1 at single
      rcases sighted.strays with several | near
      · omega
      · obtain ⟨handover, expected, close⟩ := near p (mem_windowRuns.mp ⟨run, member, inside⟩)
        cases origin.symm.trans (sighted.origin_iff.mpr ⟨expected, close⟩)

theorem Sighted.covered (expected : handover ∈ handovers) :
    ∃ run ∈ windowRuns states targets now windowS toleranceS, minTargets ≤ (distinctTargets run).length ∧
      ComesFrom handovers delta run handover := by
  have enough := sighted.enough handover expected
  have positive := sighted.positive
  obtain ⟨target, sights⟩ := List.exists_mem_of_length_pos
    (by omega : 0 < (sightedBy states targets now windowS delta handover).length)
  obtain ⟨p, recent, -, near⟩ := mem_sightedBy.mp sights
  obtain ⟨run, member, inside⟩ := mem_windowRuns.mpr recent
  have origin := sighted.origin_iff.mpr ⟨expected, near⟩
  have whole : ComesFrom handovers delta run handover := fun q among =>
    (sighted.one_origin member q among p inside).trans origin
  refine ⟨run, member, ?_, whole⟩
  rwa [(sighted.supporters member whole).length_eq]

theorem Sighted.time_near (nonempty : run ≠ [])
    (whole : ComesFrom handovers delta run handover) : |(runEvent run).time - handover| ≤ delta := by
  obtain ⟨⟨p, first, above⟩, q, last, below⟩ := runEvent_span nonempty
  obtain ⟨low, -⟩ := abs_le.mp (sighted.origin_iff.mp (whole p first)).2
  obtain ⟨-, high⟩ := abs_le.mp (sighted.origin_iff.mp (whole q last)).2
  rw [abs_le]
  constructor <;> linarith

theorem Sighted.same_order {later : List Point} {next : ℚ}
    (member : run ∈ windowRuns states targets now windowS toleranceS)
    (among : later ∈ windowRuns states targets now windowS toleranceS) (expected : handover ∈ handovers)
    (listed : next ∈ handovers) (whole : ComesFrom handovers delta run handover)
    (also : ComesFrom handovers delta later next) :
    (runEvent run).time < (runEvent later).time ↔ handover < next := by
  by_cases same : handover = next
  · subst same
    rw [sighted.same_run member among whole also]
    exact iff_of_false (lt_irrefl _) (lt_irrefl _)
  · have precise := sighted.precise
    obtain ⟨low, high⟩ := abs_le.mp (sighted.time_near (windowRuns_ne_nil run member) whole)
    obtain ⟨below, above⟩ := abs_le.mp (sighted.time_near (windowRuns_ne_nil later among) also)
    rcases pairwise_either sighted.apart expected listed same with before | after
    · exact iff_of_true (by linarith) (by linarith)
    · exact iff_of_false (not_lt.mpr (by linarith)) (not_lt.mpr (by linarith))

/-- The runs that are reported are the handovers. -/
theorem Sighted.runs : List.Forall₂
    (fun run handover => run ∈ windowRuns states targets now windowS toleranceS ∧
      ComesFrom handovers delta run handover)
    ((windowRuns states targets now windowS toleranceS).filter fun run =>
      minTargets ≤ (distinctTargets run).length) handovers := by
  have increasing := @times_increasing states targets now windowS toleranceS minTargets sighted.tolerance
  rw [clusterCommonEvents_eq, List.map_map, List.pairwise_map] at increasing
  have ordered : handovers.Pairwise (· < ·) :=
    sighted.apart.imp fun before => by linarith [sighted.precise]
  refine aligned increasing ordered ?_ ?_ ?_
  · rintro run kept later among handover expected next listed ⟨member, whole⟩ ⟨also, follows⟩
    exact sighted.same_order member also expected listed whole follows
  · intro run kept
    obtain ⟨member, reported⟩ := List.mem_filter.mp kept
    obtain ⟨handover, expected, whole⟩ := sighted.matched member (of_decide_eq_true reported)
    exact ⟨handover, expected, member, whole⟩
  · intro handover expected
    obtain ⟨run, member, reported, whole⟩ := sighted.covered expected
    exact ⟨run, List.mem_filter.mpr ⟨member, decide_eq_true reported⟩, member, whole⟩

theorem Sighted.events : List.Forall₂
    (fun event handover => |event.time - handover| ≤ delta ∧
      event.supporters.Perm (sightedBy states targets now windowS delta handover))
    (clusterCommonEvents states targets now windowS toleranceS minTargets) handovers := by
  rw [clusterCommonEvents_eq, List.forall₂_map_left_iff]
  refine sighted.runs.imp ?_
  rintro run handover ⟨member, whole⟩
  exact ⟨sighted.time_near (windowRuns_ne_nil run member) whole,
    (List.perm_insertionSort _ _).trans (sighted.supporters member whole)⟩

end Sighted

/-! ## Periodic handovers -/

theorem periodic_differences {times : List ℚ} {first T delta : ℚ} {n : Nat}
    (near : List.Forall₂ (fun time handover => |time - handover| ≤ delta) times (periodicHandovers first T n)) :
    ∀ pair ∈ times.zip times.tail, |pair.2 - pair.1 - T| ≤ 2 * delta := by
  intro pair consecutive
  obtain ⟨k, bound, rfl⟩ := List.getElem_of_mem consecutive
  have later : k + 1 < times.length := by
    rw [List.length_zip, List.length_tail] at bound
    omega
  obtain ⟨-, close⟩ := List.forall₂_iff_get.mp near
  have count := near.length_eq
  have this := close k (by omega) (by omega)
  have next := close (k + 1) later (by omega)
  simp only [periodicHandovers, List.get_eq_getElem, List.getElem_map, List.getElem_range] at this next
  rw [List.getElem_zip, List.getElem_tail]
  obtain ⟨low, high⟩ := abs_le.mp this
  obtain ⟨below, above⟩ := abs_le.mp next
  push_cast at below above
  rw [abs_le]
  constructor <;> linarith

/-- Where enough targets notice every periodic handover up to `delta` and different things are further apart
than the tolerance, the analysis sees one event for each handover, and, once they are enough events, a period
up to twice `delta`. -/
theorem handovers_evident (setup : Setup) (reading : Reading) (observation : MonitorState)
    (first T delta : ℚ) (n : Nat)
    (sighted : Sighted observation.states observation.currentTargets reading.wall setup.args.analysisWindow
      (setup.args.crossTargetMs / 1000) setup.args.minTargets (periodicHandovers first T n) delta) :
    List.Forall₂
      (fun event handover => |event.time - handover| ≤ delta ∧
        event.supporters.Perm (sightedBy observation.states observation.currentTargets reading.wall
          setup.args.analysisWindow delta handover))
      (observation.commonEvents setup reading) (periodicHandovers first T n) ∧
    (3 ≤ n → setup.args.minEvents ≤ n →
      Evident setup T (2 * delta) (observation.commonTimes setup reading)) := by
  have events := sighted.events
  have near : List.Forall₂ (fun time handover => |time - handover| ≤ delta)
      (observation.commonTimes setup reading) (periodicHandovers first T n) := by
    rw [MonitorState.commonTimes, List.forall₂_map_left_iff]
    exact events.imp fun _ _ seen => seen.1
  have count : (observation.commonTimes setup reading).length = n := by
    rw [near.length_eq, periodicHandovers, List.length_map, List.length_range]
  refine ⟨events, fun three enough => ⟨?_, ?_, periodic_differences near⟩⟩
  · rwa [count]
  · rwa [count]

/-- Two targets notice six handovers, and each has a candidate of its own in between. -/
def sightingState : MonitorState :=
  { initialState defaultSetup tcpSkInit 0 0 (fun _ => true) with
    states := reportedStates
      [("1.1.1.1", [12, 27 - 1 / 50, 35, 42, 57, 72, 87]),
        ("8.8.8.8", [12 + 1 / 50, 27, 42, 57, 72 - 1 / 100, 80, 87])] }

theorem handovers_evident_default :
    Evident defaultSetup 15 (2 * (1 / 50)) (sightingState.commonTimes defaultSetup (readingAt 100 [])) := by
  have sighted : Sighted sightingState.states sightingState.currentTargets (readingAt 100 []).wall
      defaultSetup.args.analysisWindow (defaultSetup.args.crossTargetMs / 1000) defaultSetup.args.minTargets
      (periodicHandovers 12 15 6) (1 / 50) :=
    ⟨by decide, by decide, .inl (by decide), by decide +kernel, by decide +kernel, by decide +kernel,
      by decide +kernel, by decide +kernel⟩
  exact (handovers_evident defaultSetup (readingAt 100 []) sightingState 12 15 (1 / 50) 6 sighted).2
    (by decide) (by decide +kernel)

end StarlinkTcp.Proof

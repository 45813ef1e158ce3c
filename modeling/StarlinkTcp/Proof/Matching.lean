import StarlinkTcp.Monitor.Evaluate

/-!
# Matched events

`nearest_errors` pairs each test event with its nearest reference event, unless that one is too far away or
already used. The counts it returns add up to the lengths of both lists, except when exactly one of them is
empty: then it returns zeros before it has counted anything.
-/

namespace StarlinkTcp.Monitor
open Machine

structure Conserved (testEvents refEvents : List ℚ) (tolS : ℚ) (result : NearestErrors) : Prop where
  tests : result.tp + result.fp = testEvents.length
  references : result.tp + result.fn = refEvents.length
  size : (result.errors.length : ℤ) = result.tp
  near : ∀ error ∈ result.errors, |error| ≤ tolS
  /-- Each error belongs to a test event of its own and to a reference event of its own. -/
  pairs : ∃ pairs : List (ℚ × Nat), (pairs.map Prod.fst).Sublist testEvents ∧ (pairs.map Prod.snd).Nodup ∧
    (∀ pair ∈ pairs, pair.2 < refEvents.length) ∧
    result.errors = pairs.map fun pair => pair.1 - refEvents.getD pair.2 0

def detectedEvents (rows : List CsvRow) : List ℚ :=
  unique ((recordsOf "activate" rows ++ recordsOf "resync" rows).filterMap CsvRow.eventEpoch)

/-- `summarize` reports the matches over the detected and over the reference events. -/
def Rated (testEvents refEvents : List ℚ) (tolS : ℚ) : Prop :=
  ∀ rows referencePeriod matchTolMs summary perTarget eval, detectedEvents rows = testEvents →
    matchTolMs / 1000 = tolS →
    summarize rows referencePeriod (some refEvents) matchTolMs = some (summary, perTarget) →
    summary.eventEval = some eval →
      eval.precision = ratio eval.tp testEvents.length ∧ eval.recallRatio = ratio eval.tp refEvents.length

end StarlinkTcp.Monitor

namespace StarlinkTcp.Proof
open Machine Monitor

theorem argmin_lt_length {xs : List ℚ} (nonempty : xs ≠ []) : argmin xs < xs.length := by
  apply List.findIdx_lt_length_of_exists
  obtain ⟨least, found⟩ := Option.isSome_iff_exists.mp (List.isSome_min?_of_ne_nil nonempty)
  obtain ⟨member, below⟩ := List.min?_eq_some_iff.mp found
  exact ⟨least, member, by simpa using below⟩

variable {testEvents refEvents : List ℚ} {tolS : ℚ}

/-! ## The loop -/

structure Paired (testEvents refEvents : List ℚ) (tolS : ℚ) (found : Matches) (pairs : List (ℚ × Nat)) : Prop where
  tests : (pairs.map Prod.fst).Sublist testEvents
  references : found.matchedRef = pairs.map Prod.snd
  distinct : (pairs.map Prod.snd).Nodup
  valid : ∀ pair ∈ pairs, pair.2 < refEvents.length
  near : ∀ error ∈ found.errors, |error| ≤ tolS
  errors : found.errors = pairs.map fun pair => pair.1 - refEvents.getD pair.2 0
  tp : found.tp = pairs.length

theorem matchEvent_paired {found : Matches} {pairs : List (ℚ × Nat)} (some_refs : refEvents ≠ [])
    (paired : Paired testEvents refEvents tolS found pairs) (t : ℚ) :
    ∃ pairs, Paired (testEvents ++ [t]) refEvents tolS (matchEvent refEvents tolS found t) pairs := by
  have inside := @argmin_lt_length (refEvents.map fun ref => |ref - t|) (by simpa using some_refs)
  rw [List.length_map] at inside
  unfold matchEvent
  dsimp only
  split
  · rename_i matched
    obtain ⟨close, unused⟩ := matched
    rw [paired.references] at unused
    refine ⟨pairs ++ [(t, argmin (refEvents.map fun ref => |ref - t|))], ?_, ?_, ?_, ?_, ?_, ?_, ?_⟩
    · simpa using paired.tests.append (List.Sublist.refl [t])
    · simp [paired.references]
    · rw [List.map_append, List.map_singleton, List.nodup_append_comm]
      exact List.nodup_cons.mpr ⟨unused, paired.distinct⟩
    · intro pair member
      rcases List.mem_append.mp member with old | new
      · exact paired.valid pair old
      · rw [List.mem_singleton.mp new]
        exact inside
    · intro error member
      rcases List.mem_append.mp member with old | new
      · exact paired.near error old
      · rw [List.mem_singleton.mp new]
        exact close
    · simp [paired.errors]
    · simp [paired.tp]
  · exact ⟨pairs, paired.tests.trans (List.sublist_append_left _ _), paired.references, paired.distinct,
      paired.valid, paired.near, paired.errors, paired.tp⟩

theorem matchEvents_paired (some_refs : refEvents ≠ []) (testEvents : List ℚ) :
    ∃ pairs, Paired testEvents refEvents tolS (testEvents.foldl (matchEvent refEvents tolS) ⟨[], [], 0⟩) pairs := by
  induction testEvents using List.reverseRecOn with
  | nil => exact ⟨[], .refl _, rfl, List.nodup_nil, by simp, by simp, rfl, rfl⟩
  | append_singleton testEvents t ih =>
      obtain ⟨pairs, paired⟩ := ih
      rw [List.foldl_append]
      exact matchEvent_paired some_refs paired t

/-! ## The counts -/

theorem nearestErrors_conserved (together : testEvents = [] ↔ refEvents = []) :
    Conserved testEvents refEvents tolS (nearestErrors testEvents refEvents tolS) := by
  unfold nearestErrors
  split
  · rename_i empty
    simp only [List.length_eq_zero_iff] at empty
    have noTests : testEvents = [] := empty.elim id together.mpr
    have noRefs : refEvents = [] := together.mp noTests
    rw [noTests, noRefs]
    exact ⟨rfl, rfl, rfl, by simp, [], .refl _, List.nodup_nil, by simp, rfl⟩
  · rename_i nonempty
    simp only [not_or, List.length_eq_zero_iff] at nonempty
    obtain ⟨pairs, paired⟩ := @matchEvents_paired refEvents tolS nonempty.2 testEvents
    refine ⟨by simp, by simp, ?_, paired.near, pairs, paired.tests, paired.distinct, paired.valid, paired.errors⟩
    dsimp only
    rw [paired.errors, List.length_map, paired.tp]

theorem summarize_eventEval {rows : List CsvRow} {referencePeriod : Option ℚ} {refs : Option (List ℚ)}
    {matchTolMs : ℚ} {summary : Summary} {perTarget : List TargetSummary}
    (ok : summarize rows referencePeriod refs matchTolMs = some (summary, perTarget)) :
    summary.eventEval = (refs.filter fun refEvents => refEvents.length ≠ 0).map fun refEvents =>
      evaluateEvents (detectedEvents rows) refEvents matchTolMs := by
  simp only [summarize, Option.bind_eq_bind, Option.bind_eq_some_iff, Option.pure_def, Option.some.injEq,
    Prod.mk.injEq] at ok
  obtain ⟨start, -, finish, -, last, -, rfl, -⟩ := ok
  rfl

theorem rated_of_conserved
    (conserved : Conserved testEvents refEvents tolS (nearestErrors testEvents refEvents tolS)) :
    Rated testEvents refEvents tolS := by
  intro rows referencePeriod matchTolMs summary perTarget eval events tolerance ok evaluated
  rw [summarize_eventEval ok, events] at evaluated
  obtain ⟨refs, kept, rfl⟩ := Option.map_eq_some_iff.mp evaluated
  cases Option.some.inj (Option.filter_eq_some_iff.mp kept).1
  rw [evaluateEvents, tolerance]
  dsimp only
  rw [conserved.tests, conserved.references]
  exact ⟨rfl, rfl⟩

theorem nearestErrors_conserved_iff (testEvents refEvents : List ℚ) (tolS : ℚ) :
    (Conserved testEvents refEvents tolS (nearestErrors testEvents refEvents tolS) ∧
      Rated testEvents refEvents tolS) ↔ (testEvents = [] ↔ refEvents = []) := by
  constructor
  · rintro ⟨conserved, -⟩
    -- an early return counts nothing, so both lists are empty
    have counts := conserved.tests
    have refs := conserved.references
    by_cases empty : testEvents.length = 0 ∨ refEvents.length = 0
    · rw [nearestErrors, if_pos empty] at counts refs
      rw [← List.length_eq_zero_iff, ← List.length_eq_zero_iff (l := refEvents)]
      dsimp only at counts refs
      omega
    · simp only [not_or, List.length_eq_zero_iff] at empty
      simp [empty.1, empty.2]
  · intro together
    have conserved := @nearestErrors_conserved testEvents refEvents tolS together
    exact ⟨conserved, rated_of_conserved conserved⟩

/-- Nothing detected against one reference event: no miss is counted, and the recall is missing instead of 0. -/
theorem nearestErrors_loses_misses :
    ¬ (∀ testEvents refEvents tolS, Conserved testEvents refEvents tolS (nearestErrors testEvents refEvents tolS)) ∧
      (evaluateEvents [] [10] 200).recallRatio = none ∧ ratio (evaluateEvents [] [10] 200).tp 1 = some 0 := by
  refine ⟨fun always => ?_, by decide +kernel, by decide +kernel⟩
  have refs := (always [] [10] (1 / 5)).references
  simp [nearestErrors] at refs

end StarlinkTcp.Proof

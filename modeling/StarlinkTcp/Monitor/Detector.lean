import Mathlib.Data.List.DropRight
import Mathlib.Data.List.Forall2
import StarlinkTcp.Monitor.Period

/-!
# Gap detection and common events

One `TargetState` per probe target turns reply times into candidate events; `cluster_common_events`
keeps those seen on several targets. The functions after it relate common events to a periodic
lattice and choose the targets that stay in use.
-/

namespace StarlinkTcp.Monitor
open Machine

inductive MonitorError where
  | statistics
  | zeroDivision
  | sysctl
deriving DecidableEq, Repr

def dequeAppend {α : Type} (maxlen : Nat) (xs : List α) (x : α) : List α :=
  let all := xs ++ [x]
  all.drop (all.length - maxlen)

theorem dequeAppend_rtake {α : Type} (n : Nat) (xs : List α) (x : α) :
    dequeAppend n (xs.rtake n) x = (xs ++ [x]).rtake n := by
  simp only [dequeAppend, List.rtake, List.length_append, List.length_drop, List.length_singleton]
  rcases Nat.le_total n xs.length with le | le
  · rw [← List.drop_append_of_le_length (Nat.sub_le xs.length n), List.drop_drop]
    congr 1
    omega
  · rw [Nat.sub_eq_zero_of_le le, List.drop_zero]
    simp

theorem forall₂_dequeAppend {α β : Type} {rel : α → β → Prop} {xs : List α} {ys : List β} {x : α} {y : β}
    (n : Nat) (related : List.Forall₂ rel xs ys) (next : rel x y) :
    List.Forall₂ rel (dequeAppend n xs x) (dequeAppend n ys y) := by
  have extended : List.Forall₂ rel (xs ++ [x]) (ys ++ [y]) := List.rel_append related (.cons next .nil)
  unfold dequeAppend
  dsimp only
  rw [extended.length_eq]
  exact List.forall₂_drop _ extended

structure TargetState where
  lastReplyTs : Option ℚ
  intervals : List ℚ
  events : List ℚ
  replies : Nat
  candidateCount : Nat
  commonSupportCount : Nat
  recentCommonSupport : List Nat
deriving DecidableEq, Repr

def TargetState.fresh : TargetState where
  lastReplyTs := none
  intervals := []
  events := []
  replies := 0
  candidateCount := 0
  commonSupportCount := 0
  recentCommonSupport := []

namespace TargetState

def baseline (st : TargetState) (minSamples : ℤ) : Except MonitorError (Option (ℚ × ℚ)) :=
  if (st.intervals.length : ℤ) < minSamples then .ok none
  else
    let vals := st.intervals.insertionSort (· ≤ ·)
    let cut := max minSamples (vals.length * 95 / 100 : Nat)
    let core := vals.take cut.toNat
    match median core with
    | none => .error .statistics
    | some med => .ok (some (med, 14826 / 10000 * mad core med))

structure GapSettings where
  minBaselineSamples : ℤ
  minGapMs : ℚ
  gapFactor : ℚ
  madSigma : ℚ
  mergeGapS : ℚ
deriving DecidableEq, Repr

def gapThreshold (settings : GapSettings) (med sigma : ℚ) : ℚ :=
  max (max (settings.minGapMs / 1000) (settings.gapFactor * med)) (med + settings.madSigma * sigma)

def addReply (settings : GapSettings) (st : TargetState) (ts : ℚ) :
    Except MonitorError (TargetState × Option (ℚ × ℚ × ℚ)) :=
  let st := { st with replies := st.replies + 1 }
  match st.lastReplyTs with
  | none => .ok ({ st with lastReplyTs := some ts }, none)
  | some prev =>
      let dt := ts - prev
      let st := { st with lastReplyTs := some ts }
      if dt ≤ 0 ∨ dt > 10 then .ok (st, none)
      else do
        let baseBefore ← st.baseline settings.minBaselineSamples
        -- the candidate itself cannot move its own threshold
        let st := { st with intervals := dequeAppend 10000 st.intervals dt }
        match baseBefore with
        | none => .ok (st, none)
        | some (med, sigma) =>
            let threshold := gapThreshold settings med sigma
            let eventTs := prev + med
            if dt ≤ threshold then .ok (st, none)
            else if ∃ last ∈ st.events.getLast?, eventTs - last ≤ settings.mergeGapS then .ok (st, none)
            else
              .ok ({ st with
                  events := dequeAppend 2048 st.events eventTs
                  candidateCount := st.candidateCount + 1 },
                some (eventTs, dt, threshold))

end TargetState

/-! ## Common events -/

structure Point where
  ts : ℚ
  target : String
deriving DecidableEq, Repr

def Point.le (p q : Point) : Prop := p.ts < q.ts ∨ p.ts = q.ts ∧ p.target ≤ q.target

instance : DecidableRel Point.le := fun _ _ => inferInstanceAs (Decidable (_ ∨ _))

structure CommonEvent where
  time : ℚ
  support : Nat
  supporters : List String
deriving DecidableEq, Repr

def windowPoints (states : String → TargetState) (targets : List String) (now windowS : ℚ) : List Point :=
  (targets.flatMap fun target =>
    ((states target).events.filter fun ts => ts ≥ now - windowS).map fun ts => ⟨ts, target⟩).insertionSort
      Point.le

/-- The runs of sorted points: a point joins the current run while it is near the run's median. -/
def clusterRuns (toleranceS : ℚ) (cur : List Point) : List Point → List (List Point)
  | [] => [cur]
  | point :: rest =>
      let center := (median (cur.map Point.ts)).getD 0
      if point.ts - center ≤ toleranceS then clusterRuns toleranceS (cur ++ [point]) rest
      else cur :: clusterRuns toleranceS [point] rest

def perTarget (cluster : List Point) : List Point :=
  cluster.foldl (fun seen point =>
    if seen.any fun earlier => earlier.target = point.target then seen else seen ++ [point]) []

def commonEvent (minTargets : ℤ) (cluster : List Point) : Option CommonEvent :=
  let firsts := perTarget cluster
  let supporters := (firsts.map Point.target).insertionSort (· ≤ ·)
  if (supporters.length : ℤ) < minTargets then none
  else some ⟨(median (firsts.map Point.ts)).getD 0, firsts.length, supporters⟩

def clusterCommonEvents (states : String → TargetState) (targets : List String)
    (now windowS toleranceS : ℚ) (minTargets : ℤ) : List CommonEvent :=
  match windowPoints states targets now windowS with
  | [] => []
  | first :: rest => (clusterRuns toleranceS [first] rest).filterMap (commonEvent minTargets)

/-! ## The periodic lattice -/

def phaseResidual (event anchor period : ℚ) : Option ℚ :=
  if period ≤ 0 then none
  else
    let k := roundHalfEven ((event - anchor) / period)
    some |event - (anchor + k * period)|

def onLattice (anchor period toleranceS event : ℚ) : Bool :=
  match phaseResidual event anchor period with
  | some residual => residual ≤ toleranceS
  | none => false

def signedPhaseError (event anchor period : ℚ) : Option (ℚ × ℚ) :=
  if period ≤ 0 then none
  else
    let k := roundHalfEven ((event - anchor) / period)
    let predicted := anchor + k * period
    some (event - predicted, predicted)

def bestInliers (events : List ℚ) (period toleranceS : ℚ) : List ℚ :=
  events.foldl (fun best anchor =>
    let inliers := events.filter (onLattice anchor period toleranceS)
    if inliers.length > best.length then inliers else best) []

def chooseInitialAnchor (events : List ℚ) (period toleranceS : ℚ) : Option ℚ :=
  (bestInliers events period toleranceS).max?

def newestPhaseConsistentEvent (events : List ℚ) (anchor period toleranceS : ℚ) : Option ℚ :=
  (events.filter (onLattice anchor period toleranceS)).max?

def computePredictionGuardMs (errorsMs : List ℚ) (safetyMs : ℚ) (minMs maxMs : ℤ) : ℤ :=
  match percentile errorsMs 95 with
  | none => minMs
  | some q95 => max minMs (min maxMs ⌈q95 + safetyMs⌉)

/-! ## Target selection -/

def targetParticipationRatio (st : TargetState) : ℚ :=
  if st.recentCommonSupport.isEmpty then 0
  else st.recentCommonSupport.sum / st.recentCommonSupport.length

structure ScoredTarget where
  ratio : ℚ
  commonSupportCount : Nat
  target : String
deriving DecidableEq, Repr

def ScoredTarget.ge (a b : ScoredTarget) : Prop :=
  a.ratio > b.ratio ∨ a.ratio = b.ratio ∧
    (a.commonSupportCount > b.commonSupportCount ∨
      a.commonSupportCount = b.commonSupportCount ∧ b.target ≤ a.target)

instance : DecidableRel ScoredTarget.ge := fun _ _ => inferInstanceAs (Decidable (_ ∨ _))

def scoredTargets (states : String → TargetState) (allTargets : List String) (minRatio : ℚ) :
    List ScoredTarget :=
  (allTargets.filterMap fun target =>
    let ratio := targetParticipationRatio (states target)
    if ratio < minRatio then none
    else some ⟨ratio, (states target).commonSupportCount, target⟩).insertionSort ScoredTarget.ge

/-- The selection loop: it looks at the limit only after it has appended. -/
def selectTargets (maxTargets : ℤ) (selected : List String) : List String → List String
  | [] => selected
  | target :: rest =>
      if target ∈ selected then selectTargets maxTargets selected rest
      else
        let selected := selected ++ [target]
        if (selected.length : ℤ) ≥ maxTargets then selected else selectTargets maxTargets selected rest

def chooseActiveTargets (states : String → TargetState) (allTargets bootstraps : List String)
    (maxTargets : ℤ) (minRatio : ℚ) : List String :=
  let scored := scoredTargets states allTargets minRatio
  -- keep at least one stable public endpoint
  let selected := ((scored.filter fun item => item.target ∈ bootstraps).head?.map ScoredTarget.target).toList
  selectTargets maxTargets selected (scored.map ScoredTarget.target)

end StarlinkTcp.Monitor

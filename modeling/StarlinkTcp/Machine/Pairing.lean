import Mathlib.Data.List.Nodup
import Mathlib.Data.List.Perm.Subperm

/-!
# Greedy pairings

Things come one after another, and each takes the one place it claims unless that place is taken. When a
place is near a thing only if the thing claims it, this takes every place that has a thing near it, and no
pairing of things with places near them takes more.
-/

namespace StarlinkTcp.Machine

variable {Thing Place : Type*} [DecidableEq Place]

def takeOnce (taken : List Place) : Option Place → List Place
  | none => taken
  | some place => if place ∈ taken then taken else taken ++ [place]

theorem takeOnce_nodup {taken : List Place} (distinct : taken.Nodup) (claim : Option Place) :
    (takeOnce taken claim).Nodup := by
  cases claim with
  | none => exact distinct
  | some place =>
      simp only [takeOnce]
      split
      · exact distinct
      · rename_i free
        rw [List.nodup_append_comm]
        exact List.nodup_cons.mpr ⟨free, distinct⟩

theorem mem_takeOnce {taken : List Place} {claim : Option Place} {place : Place} :
    place ∈ takeOnce taken claim ↔ place ∈ taken ∨ claim = some place := by
  cases claim with
  | none => simp [takeOnce]
  | some claimed =>
      simp only [takeOnce]
      split
      · rename_i occupied
        constructor
        · exact Or.inl
        · rintro (member | same)
          · exact member
          · cases same
            exact occupied
      · simp [eq_comm]

theorem takenOnce_nodup {taken : List Place} (distinct : taken.Nodup) (claims : List (Option Place)) :
    (claims.foldl takeOnce taken).Nodup := by
  induction claims generalizing taken with
  | nil => exact distinct
  | cons claim claims ih => exact ih (takeOnce_nodup distinct claim)

theorem mem_takenOnce {taken : List Place} {claims : List (Option Place)} {place : Place} :
    place ∈ claims.foldl takeOnce taken ↔ place ∈ taken ∨ some place ∈ claims := by
  induction claims generalizing taken with
  | nil => simp
  | cons claim claims ih => rw [List.foldl_cons, ih, mem_takeOnce, List.mem_cons, or_assoc, eq_comm (a := claim)]

section Near

variable {near : Thing → Place → Prop} {claim : Thing → Option Place} {things : List Thing} {places : List Place}
  (only : ∀ thing, ∀ place ∈ places, near thing place → claim thing = some place)

include only

/-- No pairing takes more places. -/
theorem pairing_length_le {pairs : List (Thing × Place)}
    (among : ∀ pair ∈ pairs, pair.1 ∈ things ∧ pair.2 ∈ places ∧ near pair.1 pair.2)
    (distinct : (pairs.map Prod.snd).Nodup) :
    pairs.length ≤ ((things.map claim).foldl takeOnce []).length := by
  have taken : pairs.map Prod.snd ⊆ (things.map claim).foldl takeOnce [] := by
    intro place member
    obtain ⟨pair, paired, rfl⟩ := List.mem_map.mp member
    obtain ⟨thing, inside, close⟩ := among pair paired
    rw [mem_takenOnce, ← only _ _ inside close]
    exact .inr (List.mem_map_of_mem thing)
  rw [← List.length_map (f := Prod.snd)]
  exact (distinct.subperm taken).length_le

/-- Every place with a thing near it is taken, and no other. -/
theorem takenOnce_length [∀ place, Decidable (∃ thing ∈ things, near thing place)] (distinct : places.Nodup)
    (sound : ∀ thing place, claim thing = some place → place ∈ places ∧ near thing place) :
    ((things.map claim).foldl takeOnce []).length =
      places.countP fun place => ∃ thing ∈ things, near thing place := by
  rw [List.countP_eq_length_filter]
  apply List.Perm.length_eq
  rw [List.perm_ext_iff_of_nodup (takenOnce_nodup List.nodup_nil _) (distinct.filter _)]
  intro place
  rw [mem_takenOnce, List.mem_map, List.mem_filter, decide_eq_true_eq]
  constructor
  · rintro (absent | ⟨thing, among, claimed⟩)
    · exact (List.not_mem_nil absent).elim
    · obtain ⟨member, close⟩ := sound thing place claimed
      exact ⟨member, thing, among, close⟩
  · rintro ⟨member, thing, among, close⟩
    exact .inr ⟨thing, among, only thing place member close⟩

end Near

end StarlinkTcp.Machine

import Mathlib.Data.List.Forall2
import Mathlib.Data.List.Pairwise
import Mathlib.Order.Basic

/-!
# Aligned lists

Of two entries of an ordered list one comes before the other. Two increasing lists whose entries correspond
both ways are aligned entry by entry if the correspondence respects the order.
-/

namespace StarlinkTcp.Machine

variable {α β : Type*}

theorem pairwise_either {rel : α → α → Prop} {xs : List α} (ordered : xs.Pairwise rel) {x y : α} (member : x ∈ xs)
    (among : y ∈ xs) (different : x ≠ y) : rel x y ∨ rel y x := by
  have symmetric : Std.Symm fun x y => rel x y ∨ rel y x := ⟨fun _ _ => Or.symm⟩
  have either : xs.Pairwise fun x y => rel x y ∨ rel y x := ordered.imp fun before => .inl before
  exact either.forall member among different

theorem aligned [Preorder β] {key : α → β} {rel : α → β → Prop} {xs : List α} {ys : List β}
    (left : xs.Pairwise fun x x' => key x < key x') (right : ys.Pairwise (· < ·))
    (order : ∀ x ∈ xs, ∀ x' ∈ xs, ∀ y ∈ ys, ∀ y' ∈ ys, rel x y → rel x' y' → (key x < key x' ↔ y < y'))
    (matched : ∀ x ∈ xs, ∃ y ∈ ys, rel x y) (covered : ∀ y ∈ ys, ∃ x ∈ xs, rel x y) : List.Forall₂ rel xs ys := by
  induction xs generalizing ys with
  | nil =>
      cases ys with
      | nil => exact .nil
      | cons y ys =>
          obtain ⟨x, absent, -⟩ := covered y List.mem_cons_self
          exact (List.not_mem_nil absent).elim
  | cons x xs ih =>
      obtain ⟨firstX, left⟩ := List.pairwise_cons.mp left
      cases ys with
      | nil =>
          obtain ⟨y, absent, -⟩ := matched x List.mem_cons_self
          exact (List.not_mem_nil absent).elim
      | cons y ys =>
          obtain ⟨firstY, right⟩ := List.pairwise_cons.mp right
          -- the first entries correspond: nothing comes before them
          have head : rel x y := by
            obtain ⟨x', among, related⟩ := covered y List.mem_cons_self
            rcases List.mem_cons.mp among with rfl | laterX
            · exact related
            · obtain ⟨y', listed, relates⟩ := matched x List.mem_cons_self
              rcases List.mem_cons.mp listed with rfl | laterY
              · exact relates
              · have reversed := order x' among x List.mem_cons_self y List.mem_cons_self y' listed related relates
                exact absurd (firstX x' laterX) (lt_asymm (reversed.mpr (firstY y' laterY)))
          refine .cons head (ih left right ?_ ?_ ?_)
          · exact fun a inA b inB c inC d inD => order a (.tail _ inA) b (.tail _ inB) c (.tail _ inC) d (.tail _ inD)
          · intro a later
            obtain ⟨c, listed, related⟩ := matched a (.tail _ later)
            rcases List.mem_cons.mp listed with rfl | laterY
            · have same := order x List.mem_cons_self a (.tail _ later) c listed c listed head related
              exact absurd (same.mp (firstX a later)) (lt_irrefl _)
            · exact ⟨c, laterY, related⟩
          · intro c later
            obtain ⟨a, among, related⟩ := covered c (.tail _ later)
            rcases List.mem_cons.mp among with rfl | laterX
            · have same := order a among a among y List.mem_cons_self c (.tail _ later) head related
              exact absurd (same.mpr (firstY c later)) (lt_irrefl _)
            · exact ⟨a, laterX, related⟩

end StarlinkTcp.Machine

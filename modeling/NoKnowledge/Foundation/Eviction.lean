import Mathlib.Algebra.Order.Ring.Int

/-!
# Eviction from the front of a queue

Items are given up from the front until the weight of the rest is within a cap.
The cap is an integer: a negative one is met by no queue at all.
-/

namespace NoKnowledge.Eviction

variable {α : Type} (weight : α → Nat)

/-- The weight of a whole queue. -/
def total (items : List α) : Nat := (items.map weight).sum

/-- A prefix whose removal brings the rest within the cap, and no shorter one does. -/
structure Shortest (cap : Int) (items : List α) (dropped : Nat) : Prop where
  within : dropped ≤ items.length
  fits : (total weight (items.drop dropped) : Int) ≤ cap
  needed : ∀ fewer < dropped, cap < total weight (items.drop fewer)

/-- How many items have to go from the front. -/
def surplus (cap : Int) : List α → Nat
  | [] => 0
  | item :: items =>
      if (total weight (item :: items) : Int) ≤ cap then 0 else surplus cap items + 1

variable {weight} {cap : Int}

@[simp] theorem total_nil : total weight [] = 0 := rfl

@[simp] theorem total_cons (item : α) (items : List α) :
    total weight (item :: items) = weight item + total weight items := by
  simp [total]

theorem surplus_of_le {items : List α} (fits : (total weight items : Int) ≤ cap) :
    surplus weight cap items = 0 := by
  cases items with
  | nil => rfl
  | cons item items => exact if_pos fits

theorem surplus_of_lt {item : α} {items : List α}
    (above : cap < total weight (item :: items)) :
    surplus weight cap (item :: items) = surplus weight cap items + 1 :=
  if_neg (not_le.mpr above)

/-- What goes is the shortest prefix that has to. -/
theorem shortest_surplus (possible : 0 ≤ cap) (items : List α) :
    Shortest weight cap items (surplus weight cap items) := by
  induction items with
  | nil => exact ⟨le_refl 0, possible, fun fewer below => absurd below (Nat.not_lt_zero fewer)⟩
  | cons item items induction =>
      by_cases fits : (total weight (item :: items) : Int) ≤ cap
      · rw [surplus_of_le fits]
        exact ⟨Nat.zero_le _, fits, fun fewer below => absurd below (Nat.not_lt_zero fewer)⟩
      · have above := not_le.mp fits
        rw [surplus_of_lt above]
        refine ⟨Nat.succ_le_succ induction.within, induction.fits, ?_⟩
        intro fewer below
        cases fewer with
        | zero => exact above
        | succ fewer => exact induction.needed fewer (Nat.lt_of_succ_lt_succ below)

/-- Under a negative cap everything goes. -/
theorem surplus_of_neg (negative : cap < 0) (items : List α) :
    surplus weight cap items = items.length := by
  induction items with
  | nil => rfl
  | cons item items induction =>
      have above : cap < total weight (item :: items) :=
        lt_of_lt_of_le negative (Int.natCast_nonneg _)
      rw [surplus_of_lt above, induction, List.length_cons]

/-- Nothing that is given up meets a negative cap. -/
theorem not_shortest_of_neg (negative : cap < 0) (items : List α) (dropped : Nat) :
    ¬ Shortest weight cap items dropped := by
  intro shortest
  exact absurd (shortest.fits.trans_lt negative) (not_lt.mpr (Int.natCast_nonneg _))

end NoKnowledge.Eviction

import Mathlib.Data.List.Nodup

/-!
# First arrivals

Items arrive one after another, some of them more than once.  Each is noted when it
arrives for the first time, behind those that were noted before.
-/

namespace NoKnowledge

variable {α β : Type}

/-- From what was noted, through the items that arrive, to what is noted after them. -/
inductive Noted : List α → List α → List α → Prop where
  | nil (noted : List α) : Noted noted [] noted
  | again {item : α} {noted arrived later : List α} :
      item ∈ noted →
      Noted noted arrived later →
      Noted noted (item :: arrived) later
  | first {item : α} {noted arrived later : List α} :
      item ∉ noted →
      Noted (noted ++ [item]) arrived later →
      Noted noted (item :: arrived) later

/-- The items that have arrived, in the order of their first arrival. -/
def FirstArrivals (arrived items : List α) : Prop := Noted [] arrived items

namespace Noted

variable {noted middle later arrived rest : List α} {item : α}

theorem same (old : item ∈ noted) : Noted noted [item] noted := .again old (.nil noted)

theorem snoc (new : item ∉ noted) : Noted noted [item] (noted ++ [item]) := .first new (.nil _)

theorem append (before : Noted noted arrived middle) (after : Noted middle rest later) :
    Noted noted (arrived ++ rest) later := by
  induction before with
  | nil noted => exact after
  | again old _ induction => exact .again old (induction after)
  | first new _ induction => exact .first new (induction after)

theorem mem_iff (notes : Noted noted arrived later) :
    item ∈ later ↔ item ∈ noted ∨ item ∈ arrived := by
  induction notes with
  | nil noted => simp
  | again old _ induction =>
      rw [induction, List.mem_cons, ← or_assoc]
      exact or_congr_left (or_iff_left_of_imp (by rintro rfl; exact old)).symm
  | first new _ induction =>
      rw [induction, List.mem_append, List.mem_singleton, List.mem_cons, or_assoc]

/-- Items that are told apart by a function are noted as its values are. -/
theorem map {view : α → β} (notes : Noted noted arrived later)
    (apart : ∀ item ∈ later, ∀ other ∈ later, view item = view other → item = other) :
    Noted (noted.map view) (arrived.map view) (later.map view) := by
  induction notes with
  | nil noted => exact .nil _
  | again old _ induction => exact .again (List.mem_map_of_mem old) (induction apart)
  | @first item noted arrived later new rest induction =>
      have kept : ∀ {other}, other ∈ noted ++ [item] → other ∈ later :=
        fun member => rest.mem_iff.mpr (.inl member)
      refine .first ?_ ?_
      · intro member
        obtain ⟨other, old, same⟩ := List.mem_map.mp member
        rw [apart other (kept (List.mem_append_left _ old)) item (kept (by simp)) same] at old
        exact new old
      · have mapped := induction apart
        rwa [List.map_append] at mapped

end Noted

end NoKnowledge

import Mathlib.Algebra.GroupWithZero.Nat
import Mathlib.Data.List.Induction
import Mathlib.Data.List.Nodup

/-!
# Greedy selection under a budget

Keys are considered once each, in the order they are first offered.  A key is
taken when it is available and fits on top of what was taken before it.
-/

namespace NoKnowledge.Greedy

variable {κ : Type}

section FirstOffers

variable [DecidableEq κ]

theorem eraseDups_append_singleton (keys : List κ) (key : κ) :
    (keys ++ [key]).eraseDups =
      if key ∈ keys then keys.eraseDups else keys.eraseDups ++ [key] := by
  rw [List.eraseDups_append]
  by_cases offered : key ∈ keys
  · simp [List.removeAll, offered]
  · simp [List.removeAll, offered, List.eraseDups_cons]

theorem nodup_eraseDups (keys : List κ) : keys.eraseDups.Nodup := by
  induction keys using List.reverseRecOn with
  | nil => simp
  | append_singleton keys key induction =>
      rw [eraseDups_append_singleton]
      split
      · exact induction
      · rename_i new
        rw [List.nodup_append]
        refine ⟨induction, List.nodup_singleton key, ?_⟩
        intro other member last lastMember same
        rw [List.mem_singleton.mp lastMember] at same
        exact new (same ▸ List.mem_eraseDups.mp member)

end FirstOffers

variable (size : κ → Option Nat) (budget : Int)

/-- The total size of keys; an unavailable one counts nothing. -/
def weight (keys : List κ) : Nat := (keys.map fun key => (size key).getD 0).sum

/-- A key that is available and fits on top of what was taken. -/
def Affordable (taken : List κ) (key : κ) : Prop :=
  ∃ bytes, size key = some bytes ∧ (weight size taken : Int) + bytes ≤ budget

instance (taken : List κ) (key : κ) : Decidable (Affordable size budget taken key) :=
  match found : size key with
  | none => isFalse fun ⟨_, available, _⟩ => by simp [found] at available
  | some bytes =>
      decidable_of_iff ((weight size taken : Int) + bytes ≤ budget) (by
        simp [Affordable, found])

def consider (taken : List κ) (key : κ) : List κ :=
  if Affordable size budget taken key then taken ++ [key] else taken

def select (keys : List κ) : List κ := keys.foldl (consider size budget) []

variable {size budget}

theorem weight_append_singleton (keys : List κ) (key : κ) :
    weight size (keys ++ [key]) = weight size keys + (size key).getD 0 := by
  simp [weight]

theorem select_append_singleton (keys : List κ) (key : κ) :
    select size budget (keys ++ [key]) =
      consider size budget (select size budget keys) key := by
  simp [select]

theorem select_prefix (before after : List κ) :
    select size budget before <+: select size budget (before ++ after) := by
  induction after using List.reverseRecOn with
  | nil => simp
  | append_singleton after key induction =>
      rw [← List.append_assoc, select_append_singleton]
      unfold consider
      split
      · exact induction.trans (List.prefix_append _ _)
      · exact induction

theorem mem_of_mem_select {keys : List κ} {key : κ}
    (member : key ∈ select size budget keys) : key ∈ keys := by
  induction keys using List.reverseRecOn with
  | nil => simp [select] at member
  | append_singleton keys last induction =>
      rw [select_append_singleton] at member
      unfold consider at member
      split at member
      · rcases List.mem_append.mp member with old | new
        · exact List.mem_append_left _ (induction old)
        · exact List.mem_append_right _ new
      · exact List.mem_append_left _ (induction member)

/-- What is taken was available. -/
theorem available_of_mem_select {keys : List κ} {key : κ}
    (member : key ∈ select size budget keys) : ∃ bytes, size key = some bytes := by
  induction keys using List.reverseRecOn with
  | nil => simp [select] at member
  | append_singleton keys last induction =>
      rw [select_append_singleton] at member
      unfold consider at member
      split at member
      · rename_i affordable
        rcases List.mem_append.mp member with old | new
        · exact induction old
        · obtain ⟨bytes, available, -⟩ := affordable
          rw [List.mem_singleton.mp new]
          exact ⟨bytes, available⟩
      · exact induction member

/-- A key that comes once is taken exactly when it is affordable at its turn. -/
theorem mem_select_iff {before after : List κ} {key : κ}
    (once : (before ++ key :: after).Nodup) :
    key ∈ select size budget (before ++ key :: after) ↔
      Affordable size budget (select size budget before) key := by
  have unseen : key ∉ before := fun member =>
    List.disjoint_of_nodup_append once member List.mem_cons_self
  have split : before ++ key :: after = (before ++ [key]) ++ after := by simp
  have here : key ∈ select size budget (before ++ [key]) ↔
      Affordable size budget (select size budget before) key := by
    rw [select_append_singleton]
    unfold consider
    by_cases affordable : Affordable size budget (select size budget before) key
    · simp [affordable]
    · rw [if_neg affordable, iff_false_right affordable]
      exact fun member => unseen (mem_of_mem_select member)
  rw [← here, split]
  rw [split] at once
  clear split
  constructor
  · intro member
    induction after using List.reverseRecOn with
    | nil => simpa using member
    | append_singleton after last induction =>
        have last_ne : key ≠ last := by
          rintro rfl
          exact List.disjoint_of_nodup_append once
            (List.mem_append_right before (List.mem_singleton_self key))
            (List.mem_append_right after (List.mem_singleton_self key))
        rw [← List.append_assoc] at once member
        apply induction once.of_append_left
        rw [select_append_singleton] at member
        unfold consider at member
        split at member
        · rcases List.mem_append.mp member with old | new
          · exact old
          · exact absurd (List.mem_singleton.mp new) last_ne
        · exact member
  · intro member
    have taken : select size budget (before ++ [key]) <+:
        select size budget (before ++ [key] ++ after) :=
      select_prefix _ _
    exact taken.subset member

theorem nodup_select {keys : List κ} (once : keys.Nodup) :
    (select size budget keys).Nodup := by
  induction keys using List.reverseRecOn with
  | nil => simp [select]
  | append_singleton keys key induction =>
      rw [select_append_singleton]
      have earlier := induction once.of_append_left
      unfold consider
      split
      · rw [List.nodup_append]
        refine ⟨earlier, List.nodup_singleton key, ?_⟩
        intro other member last lastMember same
        rw [List.mem_singleton.mp lastMember] at same
        exact List.disjoint_of_nodup_append once (mem_of_mem_select member)
          (same ▸ List.mem_singleton_self _)
      · exact earlier

/-- What is taken stays within the budget, or nothing is taken. -/
theorem weight_select (keys : List κ) :
    select size budget keys = [] ∨ (weight size (select size budget keys) : Int) ≤ budget := by
  induction keys using List.reverseRecOn with
  | nil => exact .inl rfl
  | append_singleton keys key induction =>
      rw [select_append_singleton]
      unfold consider
      split
      · rename_i affordable
        obtain ⟨bytes, available, fits⟩ := affordable
        right
        rw [weight_append_singleton, available]
        exact_mod_cast fits
      · exact induction

variable [DecidableEq κ]

variable (size budget) in
/-- The keys that were offered and not taken. -/
def leave (keys : List κ) : List κ :=
  keys.filter fun key => key ∉ select size budget keys

theorem leave_append_singleton {keys : List κ} {key : κ} (new : key ∉ keys) :
    leave size budget (keys ++ [key]) =
      if Affordable size budget (select size budget keys) key then leave size budget keys
      else leave size budget keys ++ [key] := by
  unfold leave
  rw [List.filter_append, select_append_singleton]
  unfold consider
  split
  · have last : ([key].filter fun other =>
        other ∉ select size budget keys ++ [key]) = [] := by simp
    rw [last, List.append_nil]
    apply List.filter_congr
    intro other member
    have distinct : other ≠ key := by
      rintro rfl
      exact new member
    simp [distinct]
  · have untaken : key ∉ select size budget keys := fun member =>
      new (mem_of_mem_select member)
    simp [untaken]

/-- The keys taken among the first ones are what these alone would yield. -/
theorem filter_select {before after : List κ} (once : (before ++ after).Nodup) :
    ((select size budget (before ++ after)).filter fun key => key ∈ before) =
      select size budget before := by
  induction after using List.reverseRecOn with
  | nil =>
      rw [List.append_nil, List.filter_eq_self]
      exact fun key taken => decide_eq_true (mem_of_mem_select taken)
  | append_singleton after key induction =>
      have later : key ∉ before := fun member =>
        List.disjoint_of_nodup_append once member
          (List.mem_append_right after (List.mem_singleton_self key))
      rw [← List.append_assoc] at once ⊢
      rw [select_append_singleton]
      unfold consider
      split
      · rw [List.filter_append, induction once.of_append_left]
        simp [later]
      · exact induction once.of_append_left

theorem mem_select_or_leave {keys : List κ} {key : κ} :
    key ∈ select size budget keys ++ leave size budget keys ↔ key ∈ keys := by
  rw [List.mem_append, leave, List.mem_filter]
  constructor
  · rintro (taken | ⟨member, -⟩)
    · exact mem_of_mem_select taken
    · exact member
  · intro member
    by_cases taken : key ∈ select size budget keys
    · exact .inl taken
    · exact .inr ⟨member, by simpa using taken⟩

theorem nodup_select_leave {keys : List κ} (once : keys.Nodup) :
    (select size budget keys ++ leave size budget keys).Nodup := by
  rw [List.nodup_append]
  refine ⟨nodup_select once, once.filter _, ?_⟩
  rintro key taken other left rfl
  have untaken := (List.mem_filter.mp left).2
  exact absurd taken (by simpa using untaken)

end NoKnowledge.Greedy

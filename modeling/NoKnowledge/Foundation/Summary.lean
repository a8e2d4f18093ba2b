import Mathlib.Data.List.Nodup
import Mathlib.Order.Bounds.Basic

/-!
# Summaries of ranked facts

A fact gives a key a rank.  A list of rows summarizes a set of facts when it has
one row for each key, at the highest rank the facts give that key.  What a
summary says depends on the facts alone, so any two ways of arriving at a
summary of the same facts agree.
-/

namespace NoKnowledge

variable {ρ κ ν : Type} [PartialOrder ν]

/-- One row per key, at its highest rank. -/
structure Summarizes (key : ρ → κ) (rank : ρ → ν) (rows : List ρ)
    (facts : Set (κ × ν)) : Prop where
  distinct : (rows.map key).Nodup
  covered : ∀ fact ∈ facts, ∃ row ∈ rows, key row = fact.1
  highest : ∀ row ∈ rows, IsGreatest {value | (key row, value) ∈ facts} (rank row)

namespace Summarizes

variable {key : ρ → κ} {rank : ρ → ν} {rows : List ρ} {facts : Set (κ × ν)}

/-- A row with a new key. -/
theorem append (summary : Summarizes key rank rows facts) {new : ρ}
    (absent : key new ∉ rows.map key) :
    Summarizes key rank (rows ++ [new]) (insert (key new, rank new) facts) where
  distinct := by
    rw [List.map_append, List.nodup_append]
    refine ⟨summary.distinct, by simp, ?_⟩
    intro first member second secondMember same
    rw [List.map_singleton, List.mem_singleton] at secondMember
    exact absent (secondMember ▸ same ▸ member)
  covered := by
    rintro fact (rfl | member)
    · exact ⟨new, by simp, rfl⟩
    · obtain ⟨row, rowMember, same⟩ := summary.covered fact member
      exact ⟨row, by simp [rowMember], same⟩
  highest := by
    intro row member
    rcases List.mem_append.mp member with old | isNew
    · have different : key row ≠ key new := fun same =>
        absent (same ▸ List.mem_map_of_mem old)
      simpa [different] using summary.highest row old
    · rw [List.mem_singleton] at isNew
      subst isNew
      refine ⟨by simp, ?_⟩
      rintro value (same | member)
      · exact (Prod.mk.inj same).2.le
      · obtain ⟨other, otherMember, same⟩ := summary.covered _ member
        exact absurd (List.mem_map.mpr ⟨other, otherMember, same⟩) absent

/-- A fact that is no news. -/
theorem keep (summary : Summarizes key rank rows facts) {row : ρ} (member : row ∈ rows)
    {value : ν} (low : value ≤ rank row) :
    Summarizes key rank rows (insert (key row, value) facts) where
  distinct := summary.distinct
  covered := by
    rintro fact (rfl | old)
    · exact ⟨row, member, rfl⟩
    · exact summary.covered fact old
  highest := by
    intro other otherMember
    have greatest := summary.highest other otherMember
    refine ⟨Or.inr greatest.1, ?_⟩
    rintro found (same | old)
    · obtain ⟨sameKey, rfl⟩ := Prod.mk.inj same
      rw [List.inj_on_of_nodup_map summary.distinct otherMember member sameKey]
      exact low
    · exact greatest.2 old

/-- A fact that raises one row; the others stay as they are. -/
theorem raise (summary : Summarizes key rank rows facts) {row : ρ} (member : row ∈ rows)
    {value : ν} (high : rank row ≤ value) {change : ρ → ρ}
    (sameKey : ∀ other, key (change other) = key other)
    (raised : rank (change row) = value)
    (others : ∀ other ∈ rows, key other ≠ key row → rank (change other) = rank other) :
    Summarizes key rank (rows.map change) (insert (key row, value) facts) where
  distinct := by
    rw [List.map_map]
    exact (List.map_congr_left fun other _ => sameKey other) ▸ summary.distinct
  covered := by
    rintro fact (rfl | old)
    · exact ⟨change row, List.mem_map_of_mem member, sameKey row⟩
    · obtain ⟨other, otherMember, same⟩ := summary.covered fact old
      exact ⟨change other, List.mem_map_of_mem otherMember, (sameKey other).trans same⟩
  highest := by
    intro changed changedMember
    obtain ⟨other, otherMember, rfl⟩ := List.mem_map.mp changedMember
    have greatest := summary.highest other otherMember
    rw [sameKey other]
    by_cases selected : key other = key row
    · have same := List.inj_on_of_nodup_map summary.distinct otherMember member selected
      subst same
      rw [raised]
      refine ⟨Or.inl rfl, ?_⟩
      rintro found (same | old)
      · exact (Prod.mk.inj same).2.le
      · exact (greatest.2 old).trans high
    · rw [others other otherMember selected]
      simpa [selected] using greatest

end Summarizes

end NoKnowledge

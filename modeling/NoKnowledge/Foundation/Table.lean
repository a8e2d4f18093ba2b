import Mathlib.Data.List.Nodup
import Mathlib.Data.List.Perm.Basic

/-!
# Tables with a primary key

A table is a list of rows whose primary keys are pairwise distinct.  Every
operation keeps the key of a row it changes, so no operation can break that.
-/

namespace NoKnowledge

/-- Rows in the order they were inserted, told apart by `key`. -/
structure Table {ρ κ : Type} (key : ρ → κ) where
  rows : List ρ
  distinct : (rows.map key).Nodup

namespace Table

variable {ρ κ : Type} {key : ρ → κ}

theorem ext {left right : Table key} (same : left.rows = right.rows) :
    left = right := by
  cases left
  cases right
  cases same
  rfl

instance [DecidableEq ρ] : DecidableEq (Table key) :=
  fun left right => decidable_of_iff (left.rows = right.rows)
    ⟨ext, fun equality => by rw [equality]⟩

def empty : Table key := ⟨[], List.nodup_nil⟩

instance : Inhabited (Table key) := ⟨empty⟩

instance : Membership ρ (Table key) := ⟨fun table row => row ∈ table.rows⟩

theorem mem_iff {table : Table key} {row : ρ} : row ∈ table ↔ row ∈ table.rows :=
  Iff.rfl

theorem unique {table : Table key} {left right : ρ} (leftMember : left ∈ table)
    (rightMember : right ∈ table) (same : key left = key right) : left = right :=
  List.inj_on_of_nodup_map table.distinct leftMember rightMember same

/-- Rows that fulfil a condition. -/
def filter (table : Table key) (keep : ρ → Bool) : Table key :=
  ⟨table.rows.filter keep, (List.filter_sublist.map key).nodup table.distinct⟩

@[simp] theorem mem_filter {table : Table key} {keep : ρ → Bool} {row : ρ} :
    row ∈ table.filter keep ↔ row ∈ table ∧ keep row = true :=
  List.mem_filter

/-- A change of rows that leaves their keys alone. -/
structure Change (key : ρ → κ) where
  apply : ρ → ρ
  keeps : ∀ row, key (apply row) = key row

/-- No change: `DO NOTHING`. -/
def Change.none : Change key := ⟨id, fun _ => rfl⟩

/-- Change every row. -/
def update (table : Table key) (change : Change key) : Table key :=
  ⟨table.rows.map change.apply, by
    rw [List.map_map]
    exact (List.map_congr_left fun row _ => change.keeps row) ▸ table.distinct⟩

@[simp] theorem mem_update {table : Table key} {change : Change key} {row : ρ} :
    row ∈ table.update change ↔ ∃ old ∈ table, change.apply old = row :=
  List.mem_map

/-- Some row has the key. -/
def HasKey (table : Table key) (wanted : κ) : Prop := ∃ row ∈ table, key row = wanted

theorem HasKey.update {table : Table key} {wanted : κ} (has : table.HasKey wanted)
    (change : Change key) : (table.update change).HasKey wanted := by
  obtain ⟨row, member, same⟩ := has
  exact ⟨change.apply row, mem_update.mpr ⟨row, member, rfl⟩,
    (change.keeps row).trans same⟩

variable [DecidableEq κ]

/-- A change of the row with one key. -/
def Change.at (selected : κ) (change : Change key) : Change key where
  apply := fun row => if key row = selected then change.apply row else row
  keeps := by
    intro row
    split
    · exact change.keeps row
    · rfl

def get? (table : Table key) (wanted : κ) : Option ρ :=
  table.rows.find? fun row => key row = wanted

theorem get?_eq_some {table : Table key} {wanted : κ} {row : ρ} :
    table.get? wanted = some row ↔ row ∈ table ∧ key row = wanted := by
  constructor
  · intro found
    exact ⟨List.mem_of_find?_eq_some found, by simpa using List.find?_some found⟩
  · rintro ⟨member, rfl⟩
    cases found : table.get? (key row) with
    | none =>
        have absent := List.find?_eq_none.mp found row member
        simp at absent
    | some other =>
        have otherMember : other ∈ table := List.mem_of_find?_eq_some found
        have same : key other = key row := by simpa using List.find?_some found
        rw [unique otherMember member same]

theorem get?_eq_none {table : Table key} {wanted : κ} :
    table.get? wanted = none ↔ ∀ row ∈ table, key row ≠ wanted := by
  simp [get?, mem_iff]

/-- A new row whose key is not in use. -/
def insert (table : Table key) (new : ρ) (absent : table.get? (key new) = none) :
    Table key where
  rows := table.rows ++ [new]
  distinct := by
    rw [List.map_append, List.nodup_append]
    refine ⟨table.distinct, by simp, ?_⟩
    intro first member second secondMember same
    obtain ⟨row, rowMember, rfl⟩ := List.mem_map.mp member
    rw [List.map_singleton, List.mem_singleton] at secondMember
    exact get?_eq_none.mp absent row rowMember (same.trans secondMember)

/-- `INSERT ... ON CONFLICT DO UPDATE`: a new row, or a change of the row that
has its key already. -/
def upsert (table : Table key) (new : ρ) (conflict : Change key) : Table key :=
  match found : table.get? (key new) with
  | some _ => table.update (conflict.at (key new))
  | none => table.insert new found

theorem upsert_of_none {table : Table key} {new : ρ} {conflict : Change key}
    (absent : table.get? (key new) = none) :
    (table.upsert new conflict).rows = table.rows ++ [new] := by
  unfold upsert
  split
  · rename_i found
    rw [absent] at found
    cases found
  · rfl

theorem upsert_of_some {table : Table key} {new old : ρ} {conflict : Change key}
    (present : table.get? (key new) = some old) :
    table.upsert new conflict = table.update (conflict.at (key new)) := by
  unfold upsert
  split
  · rfl
  · rename_i found
    rw [present] at found
    cases found

/-- The rows of a table after an upsert. -/
theorem mem_upsert {table : Table key} {new row : ρ} {conflict : Change key} :
    row ∈ table.upsert new conflict ↔
      (table.get? (key new) = none ∧ (row ∈ table ∨ row = new)) ∨
      ((table.get? (key new)).isSome = true ∧
        ∃ old ∈ table, (conflict.at (key new)).apply old = row) := by
  cases found : table.get? (key new) with
  | none => simp [mem_iff, upsert_of_none found]
  | some old => simp [upsert_of_some found]

/-- The row with the key of an upsert. -/
theorem get?_upsert_self (table : Table key) (new : ρ) (conflict : Change key) :
    (table.upsert new conflict).get? (key new) =
      some (((table.get? (key new)).map conflict.apply).getD new) := by
  rw [get?_eq_some]
  cases found : table.get? (key new) with
  | none =>
      refine ⟨?_, rfl⟩
      rw [mem_iff, upsert_of_none found]
      exact List.mem_append_right _ List.mem_cons_self
  | some old =>
      obtain ⟨member, same⟩ := get?_eq_some.mp found
      refine ⟨?_, (conflict.keeps old).trans same⟩
      rw [upsert_of_some found, mem_update]
      refine ⟨old, member, ?_⟩
      simp [Change.at, same]

/-- An upsert leaves the rows with other keys alone. -/
theorem mem_upsert_iff {table : Table key} {new row : ρ} {conflict : Change key} :
    row ∈ table.upsert new conflict ↔
      row = ((table.get? (key new)).map conflict.apply).getD new ∨
        row ∈ table ∧ key row ≠ key new := by
  have stored := get?_eq_some.mp (get?_upsert_self table new conflict)
  constructor
  · intro member
    by_cases same : key row = key new
    · exact Or.inl (unique member stored.1 (same.trans stored.2.symm))
    · refine Or.inr ⟨?_, same⟩
      rcases mem_upsert.mp member with ⟨-, old | rfl⟩ | ⟨-, old, oldMember, rfl⟩
      · exact old
      · exact absurd rfl same
      · rw [(conflict.at (key new)).keeps] at same
        simpa [Change.at, same] using oldMember
  · rintro (rfl | ⟨member, other⟩)
    · exact stored.1
    · rw [mem_upsert]
      cases table.get? (key new) with
      | none => exact Or.inl ⟨rfl, Or.inl member⟩
      | some old => exact Or.inr ⟨rfl, row, member, by simp [Change.at, other]⟩

theorem get?_update (table : Table key) (change : Change key) (wanted : κ) :
    (table.update change).get? wanted = (table.get? wanted).map change.apply := by
  have sameKeys : ((fun row => decide (key row = wanted)) ∘ change.apply) =
      fun row => decide (key row = wanted) := by
    funext row
    rw [Function.comp_apply, change.keeps]
  rw [get?, update, List.find?_map, sameKeys, get?]

theorem get?_upsert_other {table : Table key} {new : ρ} {wanted : κ}
    (other : wanted ≠ key new) (conflict : Change key) :
    (table.upsert new conflict).get? wanted = table.get? wanted := by
  cases stored : table.get? wanted with
  | none =>
      rw [get?_eq_none] at stored ⊢
      intro row member
      rcases mem_upsert_iff.mp member with rfl | ⟨old, -⟩
      · rw [(get?_eq_some.mp (get?_upsert_self table new conflict)).2]
        exact other.symm
      · exact stored row old
  | some row =>
      obtain ⟨member, rfl⟩ := get?_eq_some.mp stored
      exact get?_eq_some.mpr ⟨mem_upsert_iff.mpr (Or.inr ⟨member, other⟩), rfl⟩

theorem hasKey_iff {table : Table key} {wanted : κ} :
    table.HasKey wanted ↔ table.get? wanted ≠ none := by
  rw [Ne, get?_eq_none]
  simp [HasKey]

theorem hasKey_upsert_self (table : Table key) (new : ρ) (conflict : Change key) :
    (table.upsert new conflict).HasKey (key new) := by
  rw [hasKey_iff, get?_upsert_self]
  exact Option.some_ne_none _

theorem HasKey.upsert {table : Table key} {wanted : κ} (has : table.HasKey wanted)
    (new : ρ) (conflict : Change key) : (table.upsert new conflict).HasKey wanted := by
  cases found : table.get? (key new) with
  | none =>
      obtain ⟨row, member, same⟩ := has
      refine ⟨row, ?_, same⟩
      rw [mem_iff, upsert_of_none found]
      exact List.mem_append_left _ member
  | some old =>
      rw [upsert_of_some found]
      exact has.update _

end Table

end NoKnowledge

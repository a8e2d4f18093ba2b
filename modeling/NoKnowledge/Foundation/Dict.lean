import Mathlib.Data.List.Induction
import Mathlib.Data.List.Nodup

/-!
# Insertion-ordered dictionaries

A dictionary is an association list whose keys are pairwise distinct.
Overwriting a key keeps its position and a new key goes to the end, so
iteration follows insertion order.
-/

namespace NoKnowledge

/-- A finite map that remembers the order in which its keys were inserted. -/
@[ext] structure Dict (κ ν : Type) where
  entries : List (κ × ν)
  keysNodup : (entries.map Prod.fst).Nodup

namespace Dict

variable {κ ν : Type}

instance [DecidableEq κ] [DecidableEq ν] : DecidableEq (Dict κ ν) :=
  fun left right => decidable_of_iff (left.entries = right.entries)
    ⟨fun equality => Dict.ext equality, fun equality => by rw [equality]⟩

def empty : Dict κ ν := ⟨[], List.nodup_nil⟩

instance : Inhabited (Dict κ ν) := ⟨empty⟩

variable [DecidableEq κ]

def get? (dict : Dict κ ν) (key : κ) : Option ν := dict.entries.lookup key

def contains (dict : Dict κ ν) (key : κ) : Bool := (dict.get? key).isSome

/-- Overwrite in place, or append when the key is new. -/
def upsert (key : κ) (value : ν) : List (κ × ν) → List (κ × ν)
  | [] => [(key, value)]
  | (head, old) :: tail =>
      if head = key then (key, value) :: tail
      else (head, old) :: upsert key value tail

theorem mem_keys_upsert (key other : κ) (value : ν) (entries : List (κ × ν)) :
    other ∈ (upsert key value entries).map Prod.fst ↔
      other = key ∨ other ∈ entries.map Prod.fst := by
  induction entries with
  | nil => simp [upsert]
  | cons entry entries induction =>
      obtain ⟨head, old⟩ := entry
      by_cases same : head = key
      · simp [upsert, same]
      · simp only [upsert, if_neg same, List.map_cons, List.mem_cons, induction]
        tauto

theorem nodup_keys_upsert (key : κ) (value : ν) {entries : List (κ × ν)}
    (nodup : (entries.map Prod.fst).Nodup) :
    ((upsert key value entries).map Prod.fst).Nodup := by
  induction entries with
  | nil => simp [upsert]
  | cons entry entries induction =>
      obtain ⟨head, old⟩ := entry
      simp only [List.map_cons, List.nodup_cons] at nodup
      by_cases same : head = key
      · subst head
        simpa [upsert] using nodup
      · simp only [upsert, if_neg same, List.map_cons, List.nodup_cons]
        refine ⟨?_, induction nodup.2⟩
        rw [mem_keys_upsert]
        rintro (equality | member)
        · exact same equality
        · exact nodup.1 member

def insert (dict : Dict κ ν) (key : κ) (value : ν) : Dict κ ν :=
  ⟨upsert key value dict.entries, nodup_keys_upsert key value dict.keysNodup⟩

def erase (dict : Dict κ ν) (key : κ) : Dict κ ν :=
  ⟨dict.entries.filter fun entry => entry.1 ≠ key,
    (List.filter_sublist.map Prod.fst).nodup dict.keysNodup⟩

theorem lookup_cons_eq_ite (key head : κ) (value : ν)
    (entries : List (κ × ν)) :
    ((head, value) :: entries).lookup key =
      if key = head then some value else entries.lookup key := by
  by_cases same : key = head
  · simp [same]
  · have different : (key == head) = false := beq_eq_false_iff_ne.mpr same
    simp only [List.lookup_cons, different, if_neg same]

theorem lookup_upsert (key other : κ) (value : ν) (entries : List (κ × ν)) :
    (upsert key value entries).lookup other =
      if other = key then some value else entries.lookup other := by
  induction entries with
  | nil => simp [upsert, lookup_cons_eq_ite]
  | cons entry entries induction =>
      obtain ⟨head, old⟩ := entry
      by_cases headSame : head = key
      · subst head
        simp only [upsert, if_pos, lookup_cons_eq_ite]
        split <;> rfl
      · simp only [upsert, if_neg headSame, lookup_cons_eq_ite, induction]
        by_cases same : other = head
        · subst other
          simp [headSame]
        · simp [same]

theorem lookup_filter_ne (key other : κ) (entries : List (κ × ν)) :
    (entries.filter fun entry => entry.1 ≠ key).lookup other =
      if other = key then none else entries.lookup other := by
  induction entries with
  | nil => simp
  | cons entry entries induction =>
      obtain ⟨head, old⟩ := entry
      by_cases headSame : head = key
      · subst head
        rw [List.filter_cons_of_neg (by simp), induction, lookup_cons_eq_ite]
        split <;> rfl
      · rw [List.filter_cons_of_pos (by simpa using headSame),
          lookup_cons_eq_ite, induction, lookup_cons_eq_ite]
        by_cases same : other = head
        · subst other
          simp [headSame]
        · simp [same]

@[simp] theorem get?_empty (key : κ) : (empty : Dict κ ν).get? key = none := rfl

theorem get?_insert (dict : Dict κ ν) (key other : κ) (value : ν) :
    (dict.insert key value).get? other =
      if other = key then some value else dict.get? other :=
  lookup_upsert key other value dict.entries

@[simp] theorem get?_insert_self (dict : Dict κ ν) (key : κ) (value : ν) :
    (dict.insert key value).get? key = some value := by
  simp [get?_insert]

theorem get?_insert_of_ne {key other : κ} (different : other ≠ key)
    (dict : Dict κ ν) (value : ν) :
    (dict.insert key value).get? other = dict.get? other := by
  simp [get?_insert, different]

theorem get?_erase (dict : Dict κ ν) (key other : κ) :
    (dict.erase key).get? other =
      if other = key then none else dict.get? other :=
  lookup_filter_ne key other dict.entries

theorem mem_entries_iff (dict : Dict κ ν) (key : κ) (value : ν) :
    (key, value) ∈ dict.entries ↔ dict.get? key = some value := by
  obtain ⟨entries, nodup⟩ := dict
  simp only [get?]
  induction entries with
  | nil => simp
  | cons entry entries induction =>
      obtain ⟨head, old⟩ := entry
      simp only [List.map_cons, List.nodup_cons] at nodup
      by_cases same : key = head
      · subst head
        have absent : (key, value) ∉ entries := fun member =>
          nodup.1 (List.mem_map.mpr ⟨_, member, rfl⟩)
        simp [absent, eq_comm]
      · simp [lookup_cons_eq_ite, same, induction nodup.2]

theorem mem_entries_insert {dict : Dict κ ν} {key other : κ}
    {value found : ν} (member : (other, found) ∈ (dict.insert key value).entries) :
    (other = key ∧ found = value) ∨ (other ≠ key ∧ (other, found) ∈ dict.entries) := by
  rw [mem_entries_iff, get?_insert] at member
  by_cases same : other = key
  · rw [if_pos same] at member
    cases member
    exact Or.inl ⟨same, rfl⟩
  · rw [if_neg same] at member
    exact Or.inr ⟨same, (dict.mem_entries_iff other found).mpr member⟩

def size (dict : Dict κ ν) : Nat := dict.entries.length

theorem length_upsert (key : κ) (value : ν) (entries : List (κ × ν)) :
    (upsert key value entries).length =
      entries.length + if (entries.lookup key).isNone then 1 else 0 := by
  induction entries with
  | nil => rfl
  | cons entry entries induction =>
      obtain ⟨head, old⟩ := entry
      by_cases same : head = key
      · subst same
        simp [upsert]
      · rw [upsert, if_neg same, List.length_cons, induction, lookup_cons_eq_ite,
          if_neg (Ne.symm same), List.length_cons, Nat.add_right_comm]

theorem size_insert (dict : Dict κ ν) (key : κ) (value : ν) :
    (dict.insert key value).size = dict.size + if (dict.get? key).isNone then 1 else 0 :=
  length_upsert key value dict.entries

theorem size_erase {dict : Dict κ ν} {key : κ} {value : ν}
    (held : dict.get? key = some value) : (dict.erase key).size + 1 = dict.size := by
  have member := (dict.mem_entries_iff key value).mpr held
  obtain ⟨before, after, split⟩ := List.append_of_mem member
  have nodup := dict.keysNodup
  rw [split, List.map_append, List.map_cons, List.nodup_middle, List.nodup_cons] at nodup
  have kept : ∀ entry ∈ before ++ after, decide (entry.1 ≠ key) = true := by
    intro entry other
    apply decide_eq_true
    intro same
    apply nodup.1
    rw [← List.map_append]
    exact List.mem_map.mpr ⟨entry, other, same⟩
  show (dict.entries.filter _).length + 1 = dict.entries.length
  rw [split, List.filter_append, List.filter_cons_of_neg (by simp), ← List.filter_append,
    List.filter_eq_self.mpr kept, List.length_append, List.length_append, List.length_cons,
    Nat.add_assoc]

/-- The same entries under other keys. -/
def mapKeys {κ' : Type} (dict : Dict κ ν) (rename : κ → κ')
    (injective : Function.Injective rename) : Dict κ' ν :=
  ⟨dict.entries.map fun entry => (rename entry.1, entry.2), by
    rw [List.map_map]
    have keys := dict.keysNodup.map injective
    rwa [List.map_map] at keys⟩

def mapValues {ν' : Type} (dict : Dict κ ν) (change : ν → ν') : Dict κ ν' :=
  ⟨dict.entries.map fun entry => (entry.1, change entry.2), by
    rw [List.map_map]
    exact dict.keysNodup⟩

omit [DecidableEq κ] in
theorem mapKeys_injective {κ' : Type} {rename : κ → κ'}
    (injective : Function.Injective rename) :
    Function.Injective fun dict : Dict κ ν => dict.mapKeys rename injective := by
  intro left right same
  have entries := congrArg Dict.entries same
  apply Dict.ext
  refine List.map_injective_iff.mpr ?_ entries
  rintro ⟨key, value⟩ ⟨key', value'⟩ equal
  obtain ⟨keys, values⟩ := Prod.ext_iff.mp equal
  exact Prod.ext (injective keys) values

omit [DecidableEq κ] in
theorem mapValues_injective {ν' : Type} {change : ν → ν'}
    (injective : Function.Injective change) :
    Function.Injective fun dict : Dict κ ν => dict.mapValues change := by
  intro left right same
  have entries := congrArg Dict.entries same
  apply Dict.ext
  refine List.map_injective_iff.mpr ?_ entries
  rintro ⟨key, value⟩ ⟨key', value'⟩ equal
  obtain ⟨keys, values⟩ := Prod.ext_iff.mp equal
  exact Prod.ext keys (injective values)

theorem upsert_of_not_mem {key : κ} (value : ν) {entries : List (κ × ν)}
    (absent : key ∉ entries.map Prod.fst) : upsert key value entries = entries ++ [(key, value)] := by
  induction entries with
  | nil => rfl
  | cons entry entries induction =>
      rw [List.map_cons, List.mem_cons, not_or] at absent
      rw [upsert, if_neg (Ne.symm absent.1), induction absent.2, List.cons_append]

/-- Insertion of all entries one after the other builds the dictionary. -/
theorem foldl_insert_entries (dict : Dict κ ν) :
    dict.entries.foldl (fun built entry => built.insert entry.1 entry.2) empty = dict := by
  have prefixes : ∀ entries : List (κ × ν), (entries.map Prod.fst).Nodup →
      (entries.foldl (fun built entry => built.insert entry.1 entry.2)
        (empty : Dict κ ν)).entries = entries := by
    intro entries nodup
    induction entries using List.reverseRecOn with
    | nil => rfl
    | append_singleton entries entry induction =>
        rw [List.map_append, List.nodup_append] at nodup
        rw [List.foldl_append, List.foldl_cons, List.foldl_nil]
        show upsert entry.1 entry.2 _ = _
        rw [induction nodup.1]
        apply upsert_of_not_mem
        intro member
        exact nodup.2.2 entry.1 member entry.1 (by simp) rfl
  exact Dict.ext (prefixes dict.entries dict.keysNodup)

section Index

variable {ρ : Type} {key : ρ → κ}

/-- An index finds one of its items, or what it held before. -/
theorem get?_foldl_insert {items : List ρ} {dict : Dict κ ρ} {wanted : κ} {found : ρ}
    (present : (items.foldl (fun dict item => dict.insert (key item) item) dict).get?
      wanted = some found) :
    found ∈ items ∧ key found = wanted ∨ dict.get? wanted = some found := by
  induction items generalizing dict with
  | nil => exact Or.inr present
  | cons item items induction =>
      rcases induction present with ⟨member, same⟩ | earlier
      · exact Or.inl ⟨List.mem_cons_of_mem item member, same⟩
      · rw [get?_insert] at earlier
        split at earlier
        · rename_i same
          cases earlier
          exact Or.inl ⟨List.mem_cons_self, same.symm⟩
        · exact Or.inr earlier

theorem get?_foldl_insert_eq_none {items : List ρ} {dict : Dict κ ρ} {wanted : κ} :
    (items.foldl (fun dict item => dict.insert (key item) item) dict).get? wanted = none ↔
      dict.get? wanted = none ∧ ∀ item ∈ items, key item ≠ wanted := by
  induction items generalizing dict with
  | nil => simp
  | cons item items induction =>
      rw [List.foldl_cons, induction, get?_insert]
      by_cases same : wanted = key item
      · simp [same]
      · simp [same, Ne.symm same]

/-- An index of ordered items holds the last one of each key. -/
theorem last_of_foldl_insert {older : ρ → ρ → Prop} {items : List ρ}
    (ordered : items.Pairwise older) {wanted : κ} {found : ρ}
    (present : (items.foldl (fun dict item => dict.insert (key item) item)
      Dict.empty).get? wanted = some found) :
    found ∈ items ∧ key found = wanted ∧
      ∀ other ∈ items, key other = wanted → other = found ∨ older other found := by
  induction items using List.reverseRecOn with
  | nil =>
      rw [List.foldl_nil, get?_empty] at present
      cases present
  | append_singleton items last induction =>
      rw [List.foldl_append, List.foldl_cons, List.foldl_nil, get?_insert] at present
      rw [List.pairwise_append] at ordered
      split at present
      · rename_i same
        cases present
        refine ⟨List.mem_append_right _ (List.mem_singleton_self _), same.symm, ?_⟩
        intro other member _
        rcases List.mem_append.mp member with earlier | itself
        · exact .inr (ordered.2.2 other earlier _ (List.mem_singleton_self _))
        · exact .inl (List.mem_singleton.mp itself)
      · rename_i different
        obtain ⟨member, same, others⟩ := induction ordered.1 present
        refine ⟨List.mem_append_left _ member, same, ?_⟩
        intro other otherMember otherKey
        rcases List.mem_append.mp otherMember with earlier | itself
        · exact others other earlier otherKey
        · rw [List.mem_singleton.mp itself] at otherKey
          exact absurd otherKey.symm different

end Index

end Dict

end NoKnowledge

import Mathlib.Data.String.Basic
import NoKnowledge.Foundation.Binary64
import NoKnowledge.Foundation.Dict

/-!
# JSON values

JSON values as a dynamically typed program sees them after parsing.  Objects
are kept as field lists in increasing key order, the order in which the
deterministic serialisation writes them; `mkObj` builds such an object from
any list of bindings, a later binding of a key replacing an earlier one.  A
list of fields in another order stands for an object with that order of insertion,
which nothing but its text in the language itself shows.

Texts are made of characters, so a text with a lone surrogate is no value here.
-/

namespace NoKnowledge

inductive Json where
  | null
  | bool (value : Bool)
  | int (value : Int)
  | float (value : Binary64)
  | str (value : String)
  | arr (items : List Json)
  | obj (fields : List (String × Json))
deriving Inhabited, Repr

namespace Json

mutual

/-- Structural equality test; objects are compared field by field. -/
def same : Json → Json → Bool
  | null, null => true
  | bool left, bool right => left == right
  | int left, int right => left == right
  | float left, float right => left == right
  | str left, str right => left == right
  | arr left, arr right => sameItems left right
  | obj left, obj right => sameFields left right
  | _, _ => false

def sameItems : List Json → List Json → Bool
  | [], [] => true
  | left :: lefts, right :: rights => same left right && sameItems lefts rights
  | _, _ => false

def sameFields : List (String × Json) → List (String × Json) → Bool
  | [], [] => true
  | (leftKey, left) :: lefts, (rightKey, right) :: rights =>
      leftKey == rightKey && same left right && sameFields lefts rights
  | _, _ => false

end

mutual

theorem same_iff : (left right : Json) → (same left right = true ↔ left = right)
  | null, right => by cases right <;> simp [same]
  | bool _, right => by cases right <;> simp [same]
  | int _, right => by cases right <;> simp [same]
  | float _, right => by cases right <;> simp [same]
  | str _, right => by cases right <;> simp [same]
  | arr items, right => by
      cases right <;> simp [same, sameItems_iff items]
  | obj fields, right => by
      cases right <;> simp [same, sameFields_iff fields]

theorem sameItems_iff : (left right : List Json) →
    (sameItems left right = true ↔ left = right)
  | [], right => by cases right <;> simp [sameItems]
  | item :: items, right => by
      cases right <;> simp [sameItems, same_iff item, sameItems_iff items]

theorem sameFields_iff : (left right : List (String × Json)) →
    (sameFields left right = true ↔ left = right)
  | [], right => by cases right <;> simp [sameFields]
  | (key, item) :: fields, right => by
      rcases right with _ | ⟨⟨rightKey, rightItem⟩, rights⟩ <;>
        simp [sameFields, same_iff item, sameFields_iff fields]

end

instance : DecidableEq Json := fun left right =>
  decidable_of_iff (same left right = true) (same_iff left right)

/-- Insert or replace one field, keeping increasing key order. -/
def insertField (key : String) (value : Json) :
    List (String × Json) → List (String × Json)
  | [] => [(key, value)]
  | (head, old) :: tail =>
      if key = head then (key, value) :: tail
      else if key < head then (key, value) :: (head, old) :: tail
      else (head, old) :: insertField key value tail

/-- Sorted fields of an object given by bindings in source order. -/
def sortFields (bindings : List (String × Json)) : List (String × Json) :=
  bindings.foldl (fun fields binding =>
    insertField binding.1 binding.2 fields) []

/-- The object with the given bindings; later bindings win. -/
def mkObj (bindings : List (String × Json)) : Json := obj (sortFields bindings)

/-- The value of a field, `none` when absent or when this is no object. -/
def get? (target : Json) (key : String) : Option Json :=
  match target with
  | obj fields => fields.lookup key
  | _ => none

/-- The value of a field with `null` for an absent one. -/
def getD (target : Json) (key : String) : Json := (target.get? key).getD null

/-- An object with one field set; anything else is left alone. -/
def setField (target : Json) (key : String) (value : Json) : Json :=
  match target with
  | obj fields => obj (insertField key value fields)
  | other => other

/-- An object without one of its fields. -/
def eraseField (target : Json) (key : String) : Json :=
  match target with
  | obj fields => obj (fields.filter fun field => field.1 ≠ key)
  | other => other

def isObj : Json → Bool
  | obj _ => true
  | _ => false

theorem lookup_insertField (key other : String) (value : Json)
    (fields : List (String × Json)) :
    (insertField key value fields).lookup other =
      if other = key then some value else fields.lookup other := by
  induction fields with
  | nil => simp [insertField, Dict.lookup_cons_eq_ite]
  | cons field fields induction =>
      obtain ⟨head, old⟩ := field
      by_cases headSame : key = head
      · subst head
        simp only [insertField, if_pos, Dict.lookup_cons_eq_ite]
        split <;> rfl
      · by_cases before : key < head
        · simp only [insertField, if_neg headSame, if_pos before,
            Dict.lookup_cons_eq_ite]
        · simp only [insertField, if_neg headSame, if_neg before,
            Dict.lookup_cons_eq_ite, induction]
          by_cases otherSame : other = head
          · subst other
            simp [Ne.symm headSame]
          · simp [otherSame]

private theorem lookup_foldl_insertField (other : String)
    (bindings fields : List (String × Json)) :
    (bindings.foldl (fun fields binding =>
      insertField binding.1 binding.2 fields) fields).lookup other =
      (bindings.reverse ++ fields).lookup other := by
  induction bindings generalizing fields with
  | nil => rfl
  | cons binding bindings induction =>
      obtain ⟨key, value⟩ := binding
      rw [List.foldl_cons, induction, List.reverse_cons, List.append_assoc]
      simp only [List.lookup_append, lookup_insertField,
        List.cons_append, List.nil_append, Dict.lookup_cons_eq_ite]

theorem get?_mkObj (key : String) (bindings : List (String × Json)) :
    (mkObj bindings).get? key = bindings.reverse.lookup key := by
  simp [mkObj, get?, sortFields, lookup_foldl_insertField]

theorem get?_setField (fields : List (String × Json)) (key other : String)
    (value : Json) :
    ((obj fields).setField key value).get? other =
      if other = key then some value else (obj fields).get? other :=
  lookup_insertField key other value fields

theorem get?_eraseField (target : Json) (key other : String) :
    (target.eraseField key).get? other =
      if other = key then none else target.get? other := by
  cases target with
  | obj fields => exact Dict.lookup_filter_ne key other fields
  | _ => simp [eraseField, get?]

private theorem filter_insertField (key : String) (value : Json)
    (fields : List (String × Json)) :
    (insertField key value fields).filter (fun field => field.1 ≠ key) =
      fields.filter fun field => field.1 ≠ key := by
  induction fields with
  | nil => simp [insertField]
  | cons field fields induction =>
      obtain ⟨head, old⟩ := field
      unfold insertField
      split
      · rename_i same
        simp [same]
      · split
        · simp
        · rename_i different _
          simp only [List.filter_cons, induction]

theorem eraseField_setField (target : Json) (key : String) (value : Json) :
    (target.setField key value).eraseField key = target.eraseField key := by
  cases target with
  | obj fields => exact congrArg obj (filter_insertField key value fields)
  | _ => rfl

/-- Field keys in strictly increasing order. -/
def Sorted (fields : List (String × Json)) : Prop :=
  (fields.map Prod.fst).Pairwise (· < ·)

instance (fields : List (String × Json)) : Decidable (Sorted fields) :=
  inferInstanceAs (Decidable ((fields.map Prod.fst).Pairwise (· < ·)))

theorem mem_keys_insertField (key other : String) (value : Json)
    (fields : List (String × Json)) :
    other ∈ (insertField key value fields).map Prod.fst ↔
      other = key ∨ other ∈ fields.map Prod.fst := by
  induction fields with
  | nil => simp [insertField]
  | cons field fields induction =>
      obtain ⟨head, old⟩ := field
      by_cases headSame : key = head
      · simp [insertField, headSame]
      · by_cases before : key < head
        · simp [insertField, headSame, before]
        · simp only [insertField, if_neg headSame, if_neg before,
            List.map_cons, List.mem_cons, induction]
          tauto

theorem sorted_insertField (key : String) (value : Json)
    {fields : List (String × Json)} (sorted : Sorted fields) :
    Sorted (insertField key value fields) := by
  induction fields with
  | nil => simp [insertField, Sorted]
  | cons field fields induction =>
      obtain ⟨head, old⟩ := field
      obtain ⟨headBelow, tailSorted⟩ := List.pairwise_cons.mp sorted
      by_cases headSame : key = head
      · subst head
        simpa [insertField, Sorted] using sorted
      · by_cases before : key < head
        · simp only [insertField, if_neg headSame, if_pos before]
          refine List.pairwise_cons.mpr ⟨?_, sorted⟩
          intro other member
          rcases List.mem_cons.mp member with equality | later
          · exact equality ▸ before
          · exact before.trans (headBelow other later)
        · have after : head < key :=
            lt_of_le_of_ne (not_lt.mp before) (Ne.symm headSame)
          simp only [insertField, if_neg headSame, if_neg before]
          refine List.pairwise_cons.mpr ⟨?_, induction tailSorted⟩
          intro other member
          rcases (mem_keys_insertField key other value fields).mp member with
            equality | later
          · exact equality ▸ after
          · exact headBelow other later

private theorem sorted_foldl_insertField
    (bindings : List (String × Json)) {fields : List (String × Json)}
    (sorted : Sorted fields) :
    Sorted (bindings.foldl (fun fields binding =>
      insertField binding.1 binding.2 fields) fields) := by
  induction bindings generalizing fields with
  | nil => exact sorted
  | cons binding bindings induction =>
      exact induction (sorted_insertField binding.1 binding.2 sorted)

theorem sorted_sortFields (bindings : List (String × Json)) :
    Sorted (sortFields bindings) :=
  sorted_foldl_insertField bindings List.Pairwise.nil

private theorem insertField_append (key : String) (value : Json)
    {fields : List (String × Json)}
    (above : ∀ other ∈ fields.map Prod.fst, other < key) :
    insertField key value fields = fields ++ [(key, value)] := by
  induction fields with
  | nil => rfl
  | cons field fields induction =>
      obtain ⟨head, old⟩ := field
      have headBelow : head < key := above head (by simp)
      have tailBelow : ∀ other ∈ fields.map Prod.fst, other < key := by
        intro other member
        exact above other (by simp only [List.map_cons, List.mem_cons, member, or_true])
      simp [insertField, headBelow.ne', not_lt.mpr headBelow.le,
        induction tailBelow]

private theorem foldl_insertField_sorted
    (done rest : List (String × Json)) (sorted : Sorted (done ++ rest)) :
    rest.foldl (fun fields binding =>
      insertField binding.1 binding.2 fields) done = done ++ rest := by
  induction rest generalizing done with
  | nil => simp
  | cons field rest induction =>
      have split : Sorted (done ++ [field] ++ rest) := by
        simpa using sorted
      have above : ∀ other ∈ done.map Prod.fst, other < field.1 := by
        intro other member
        unfold Sorted at sorted
        rw [List.map_append, List.pairwise_append] at sorted
        exact sorted.2.2 other member field.1 (by simp)
      rw [List.foldl_cons, insertField_append field.1 field.2 above]
      simpa using induction (done ++ [field]) split

/-- Sorting fields that are already in order changes nothing. -/
theorem sortFields_sorted {fields : List (String × Json)}
    (sorted : Sorted fields) : sortFields fields = fields := by
  simpa [sortFields] using foldl_insertField_sorted [] fields (by simpa using sorted)

theorem mem_insertField {key : String} {value : Json}
    {fields : List (String × Json)} {field : String × Json}
    (member : field ∈ insertField key value fields) :
    field = (key, value) ∨ field ∈ fields := by
  induction fields with
  | nil => simpa [insertField] using member
  | cons head fields induction =>
      obtain ⟨headKey, old⟩ := head
      unfold insertField at member
      split at member
      · rcases List.mem_cons.mp member with equality | later
        · exact Or.inl equality
        · exact Or.inr (List.mem_cons_of_mem _ later)
      · split at member
        · rcases List.mem_cons.mp member with equality | later
          · exact Or.inl equality
          · exact Or.inr later
        · rcases List.mem_cons.mp member with equality | later
          · exact Or.inr (equality ▸ List.mem_cons_self)
          · exact (induction later).imp_right (List.mem_cons_of_mem _)

private theorem mem_foldl_insertField {bindings fields : List (String × Json)}
    {field : String × Json}
    (member : field ∈ bindings.foldl (fun fields binding =>
      insertField binding.1 binding.2 fields) fields) :
    field ∈ bindings ∨ field ∈ fields := by
  induction bindings generalizing fields with
  | nil => exact Or.inr member
  | cons binding bindings induction =>
      rcases induction member with later | inserted
      · exact Or.inl (List.mem_cons_of_mem _ later)
      · rcases mem_insertField inserted with equality | old
        · exact Or.inl (equality ▸ List.mem_cons_self)
        · exact Or.inr old

theorem mem_sortFields {bindings : List (String × Json)} {field : String × Json}
    (member : field ∈ sortFields bindings) : field ∈ bindings := by
  rcases mem_foldl_insertField member with found | absent
  · exact found
  · cases absent

end Json

end NoKnowledge

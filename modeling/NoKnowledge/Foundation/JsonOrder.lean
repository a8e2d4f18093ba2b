import Mathlib.Data.List.Induction
import NoKnowledge.Foundation.JsonRoundTrip

/-!
# Values up to the order of their fields

An object keeps its fields in the order they came in, and the deterministic text
sorts them.  The sorted value is what the text is read back as, and two values have
one text exactly when they are one value once sorted.
-/

namespace NoKnowledge

namespace Json

mutual

theorem canonical_normalize : (value : Json) → Canonical value.normalize
  | null => trivial
  | bool _ => trivial
  | int _ => trivial
  | float _ => trivial
  | str _ => trivial
  | arr items => canonicalItems_normalizeItems items
  | obj fields =>
      canonical_mkObj ((canonicalFields_iff _).mp (canonicalFields_normalizeFields fields))

theorem canonicalItems_normalizeItems : (items : List Json) →
    CanonicalItems (normalizeItems items)
  | [] => trivial
  | item :: items => ⟨canonical_normalize item, canonicalItems_normalizeItems items⟩

theorem canonicalFields_normalizeFields : (fields : List (String × Json)) →
    CanonicalFields (normalizeFields fields)
  | [] => trivial
  | (_, value) :: fields =>
      ⟨canonical_normalize value, canonicalFields_normalizeFields fields⟩

end

theorem normalize_normalize (value : Json) : value.normalize.normalize = value.normalize :=
  normalize_canonical _ (canonical_normalize value)

@[simp] theorem canonicalJson_normalize (value : Json) :
    canonicalJson value.normalize = canonicalJson value := by
  rw [canonicalJson, normalize_normalize, canonicalJson]

/-- A serialised value is read back with its fields sorted. -/
theorem loadJson_canonicalJson_eq (value : Json) :
    loadJson (canonicalJson value) = some value.normalize := by
  rw [← canonicalJson_normalize]
  exact loadJson_canonicalJson (canonical_normalize value)

/-- Values are serialised alike when they differ in the order of fields only. -/
theorem canonicalJson_eq_iff {left right : Json} :
    canonicalJson left = canonicalJson right ↔ left.normalize = right.normalize := by
  constructor
  · intro same
    have loaded := congrArg loadJson same
    rw [loadJson_canonicalJson_eq, loadJson_canonicalJson_eq] at loaded
    exact Option.some.inj loaded
  · intro same
    rw [← canonicalJson_normalize left, same, canonicalJson_normalize]

theorem isObj_normalize (value : Json) : value.normalize.isObj = value.isObj := by
  cases value <;> rfl

theorem normalizeItems_eq_map (items : List Json) :
    normalizeItems items = items.map normalize := by
  induction items with
  | nil => rfl
  | cons item items induction => rw [normalizeItems, induction, List.map_cons]

theorem normalizeFields_eq_map (fields : List (String × Json)) :
    normalizeFields fields = fields.map fun field => (field.1, field.2.normalize) := by
  induction fields with
  | nil => rfl
  | cons field fields induction => rw [normalizeFields, induction, List.map_cons]

theorem lookup_map_normalize (fields : List (String × Json)) (key : String) :
    (fields.map fun field => (field.1, field.2.normalize)).lookup key =
      (fields.lookup key).map normalize := by
  induction fields with
  | nil => rfl
  | cons field fields induction =>
      obtain ⟨head, value⟩ := field
      rw [List.map_cons, Dict.lookup_cons_eq_ite, Dict.lookup_cons_eq_ite, induction]
      split <;> rfl

/-- Distinct keys are looked up in any order. -/
theorem lookup_reverse {fields : List (String × Json)}
    (distinct : (fields.map Prod.fst).Nodup) (key : String) :
    fields.reverse.lookup key = fields.lookup key := by
  induction fields with
  | nil => rfl
  | cons field fields induction =>
      obtain ⟨head, value⟩ := field
      obtain ⟨absent, rest⟩ := List.nodup_cons.mp distinct
      rw [List.reverse_cons, List.lookup_append, induction rest, Dict.lookup_cons_eq_ite,
        Dict.lookup_cons_eq_ite, List.lookup_nil]
      by_cases same : key = head
      · subst same
        have missing : fields.lookup key = none :=
          List.lookup_eq_none_iff.mpr fun other member => by
            rw [bne_iff_ne]
            rintro rfl
            exact absent (List.mem_map.mpr ⟨other, member, rfl⟩)
        rw [if_pos rfl, if_pos rfl, missing, Option.none_or]
      · rw [if_neg same, if_neg same, Option.or_none]

/-- The fields of an object once they are sorted. -/
theorem get?_normalize {fields : List (String × Json)}
    (distinct : (fields.map Prod.fst).Nodup) (key : String) :
    (obj fields).normalize.get? key = ((obj fields).get? key).map normalize := by
  rw [normalize, get?_mkObj, normalizeFields_eq_map, ← List.map_reverse,
    lookup_map_normalize, lookup_reverse distinct]
  rfl

/-- Sorting after a change of the values. -/
theorem insertField_map (change : Json → Json) (key : String) (value : Json)
    (fields : List (String × Json)) :
    insertField key (change value) (fields.map fun field => (field.1, change field.2)) =
      (insertField key value fields).map fun field => (field.1, change field.2) := by
  induction fields with
  | nil => rfl
  | cons field fields induction =>
      obtain ⟨head, old⟩ := field
      simp only [List.map_cons, insertField, induction]
      split
      · rfl
      · split <;> rfl

theorem sortFields_map (change : Json → Json) (bindings : List (String × Json)) :
    sortFields (bindings.map fun binding => (binding.1, change binding.2)) =
      (sortFields bindings).map fun field => (field.1, change field.2) := by
  induction bindings using List.reverseRecOn with
  | nil => rfl
  | append_singleton bindings binding induction =>
      unfold sortFields at induction ⊢
      simp only [List.map_append, List.map_cons, List.map_nil, List.foldl_append,
        List.foldl_cons, List.foldl_nil, induction, insertField_map]

/-- An object made of bindings, sorted, is made of the sorted values. -/
theorem normalize_mkObj (bindings : List (String × Json)) :
    (mkObj bindings).normalize =
      mkObj (bindings.map fun binding => (binding.1, binding.2.normalize)) := by
  rw [mkObj, normalize, normalizeFields_eq_map, ← sortFields_map, mkObj, mkObj,
    sortFields_sorted (sorted_sortFields _)]

theorem setField_mkObj (bindings : List (String × Json)) (key : String) (value : Json) :
    (mkObj bindings).setField key value = mkObj (bindings ++ [(key, value)]) := by
  simp only [mkObj, setField, sortFields, List.foldl_append, List.foldl_cons, List.foldl_nil]

theorem normalize_setField {target : Json}
    (built : ∃ bindings, target = mkObj bindings) (key : String) (value : Json) :
    (target.setField key value).normalize = target.normalize.setField key value.normalize := by
  obtain ⟨bindings, rfl⟩ := built
  rw [setField_mkObj, normalize_mkObj, List.map_append, normalize_mkObj, setField_mkObj]
  rfl

theorem get?_normalize_mkObj (bindings : List (String × Json)) (key : String) :
    (mkObj bindings).normalize.get? key = ((mkObj bindings).get? key).map normalize :=
  get?_normalize ((sorted_sortFields bindings).imp fun less => ne_of_lt less) key

end Json

end NoKnowledge

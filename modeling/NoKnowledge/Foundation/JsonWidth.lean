import NoKnowledge.Foundation.Base64
import NoKnowledge.Foundation.JsonRoundTrip

/-!
# The width of JSON texts

How many octets a serialised value takes.  An object takes an octet, and for each
field its key, its value and two more; the order of the fields does not matter.
-/

namespace NoKnowledge

/-- Octets of the UTF-8 encoding of a text. -/
def octets (text : List Char) : Nat := (text.flatMap String.utf8EncodeChar).length

@[simp] theorem octets_nil : octets [] = 0 := rfl

@[simp] theorem octets_cons (character : Char) (text : List Char) :
    octets (character :: text) = character.utf8Size + octets text := by
  rw [octets, List.flatMap_cons, List.length_append, String.length_utf8EncodeChar, octets]

@[simp] theorem octets_append (left right : List Char) :
    octets (left ++ right) = octets left + octets right := by
  simp [octets]

theorem length_utf8 (text : String) : (utf8 text).length = octets text.toList := rfl

namespace Json

/-- Octets of a serialised value. -/
def width (value : Json) : Nat := octets value.dump

/-- Octets of a key, with its quotes. -/
def keyWidth (key : String) : Nat := octets (dumpString key)

/-- What the fields of an object take. -/
def fieldsWidth (fields : List (String × Json)) : Nat :=
  (fields.map fun field => 2 + keyWidth field.1 + field.2.width).sum

theorem length_canonicalJson {value : Json} (canonical : Canonical value) :
    (canonicalJson value).length = value.width := by
  rw [canonicalJson, normalize_canonical value canonical, length_utf8, String.toList_ofList,
    width]

theorem width_str (text : String) : (str text).width = keyWidth text := rfl

theorem octets_dumpFields (fields : List (String × Json)) :
    octets (dumpFields fields) = 1 + fieldsWidth fields := by
  induction fields with
  | nil => rfl
  | cons field fields induction =>
      obtain ⟨key, value⟩ := field
      have comma : ','.utf8Size = 1 := rfl
      have colon : ':'.utf8Size = 1 := rfl
      simp only [dumpFields, octets_cons, octets_append, induction, comma, colon, fieldsWidth,
        List.map_cons, List.sum_cons, keyWidth, width]
      omega

/-- An object with fields. -/
theorem width_obj {fields : List (String × Json)} (filled : fields ≠ []) :
    (obj fields).width = 1 + fieldsWidth fields := by
  obtain ⟨⟨key, value⟩, rest, rfl⟩ := List.exists_cons_of_ne_nil filled
  have brace : '\x7b'.utf8Size = 1 := rfl
  have colon : ':'.utf8Size = 1 := rfl
  simp only [width, dump, octets_cons, octets_append, octets_dumpFields, brace, colon,
    fieldsWidth, List.map_cons, List.sum_cons, keyWidth]
  omega

theorem fieldsWidth_perm {fields others : List (String × Json)}
    (permuted : fields.Perm others) : fieldsWidth fields = fieldsWidth others :=
  (permuted.map _).sum_nat

@[simp] theorem fieldsWidth_nil : fieldsWidth [] = 0 := rfl

@[simp] theorem fieldsWidth_cons (field : String × Json) (fields : List (String × Json)) :
    fieldsWidth (field :: fields) =
      2 + keyWidth field.1 + field.2.width + fieldsWidth fields := by
  simp [fieldsWidth]

theorem insertField_perm {key : String} (value : Json) {fields : List (String × Json)}
    (fresh : key ∉ fields.map Prod.fst) :
    (insertField key value fields).Perm ((key, value) :: fields) := by
  induction fields with
  | nil => exact .refl _
  | cons field fields induction =>
      obtain ⟨head, old⟩ := field
      rw [List.map_cons, List.mem_cons, not_or] at fresh
      rw [insertField, if_neg fresh.1]
      split
      · exact .refl _
      · exact ((induction fresh.2).cons (head, old)).trans (.swap _ _ _)

theorem sortFields_perm {bindings : List (String × Json)}
    (distinct : (bindings.map Prod.fst).Nodup) : (sortFields bindings).Perm bindings := by
  have inserted : ∀ rest done : List (String × Json),
      ((done ++ rest).map Prod.fst).Nodup → ∀ sorted : List (String × Json),
        sorted.Perm done →
        (rest.foldl (fun fields binding => insertField binding.1 binding.2 fields)
          sorted).Perm (done ++ rest) := by
    intro rest
    induction rest with
    | nil =>
        intro done _ sorted permuted
        rwa [List.append_nil]
    | cons binding rest induction =>
        intro done nodup sorted permuted
        have fresh : binding.1 ∉ sorted.map Prod.fst := by
          intro member
          have inDone := (permuted.map Prod.fst).mem_iff.mp member
          rw [List.map_append, List.nodup_append] at nodup
          exact nodup.2.2 binding.1 inDone binding.1 (by simp) rfl
        have next := induction (done ++ [binding]) (by simpa using nodup)
          (insertField binding.1 binding.2 sorted)
          ((insertField_perm binding.2 fresh).trans
            ((permuted.cons _).trans (List.perm_append_singleton _ _).symm))
        simpa using next
  exact inserted bindings [] (by simpa using distinct) [] (.refl _)

/-- An object with distinct keys. -/
theorem width_mkObj {bindings : List (String × Json)} (filled : bindings ≠ [])
    (distinct : (bindings.map Prod.fst).Nodup) :
    (mkObj bindings).width = 1 + fieldsWidth bindings := by
  have permuted := sortFields_perm distinct
  have nonempty : sortFields bindings ≠ [] := by
    intro empty
    rw [empty] at permuted
    exact filled permuted.symm.eq_nil
  rw [mkObj, width_obj nonempty, fieldsWidth_perm permuted]

/-- An object with one more field. -/
theorem width_setField {bindings : List (String × Json)} {key : String} (value : Json)
    (distinct : ((key, value) :: bindings |>.map Prod.fst).Nodup) :
    ((mkObj bindings).setField key value).width =
      1 + fieldsWidth ((key, value) :: bindings) := by
  rw [List.map_cons, List.nodup_cons] at distinct
  have permuted := sortFields_perm distinct.2
  have fresh : key ∉ (sortFields bindings).map Prod.fst := by
    rw [(permuted.map Prod.fst).mem_iff]
    exact distinct.1
  have inserted := (insertField_perm value fresh).trans (permuted.cons (key, value))
  have nonempty : insertField key value (sortFields bindings) ≠ [] := by
    intro empty
    rw [empty] at inserted
    exact List.cons_ne_nil _ _ inserted.symm.eq_nil
  show (obj (insertField key value (sortFields bindings))).width = _
  rw [width_obj nonempty, fieldsWidth_perm inserted]

/-- A character that is written as it is, in one octet. -/
def Bare (character : Char) : Prop :=
  escapeChar character = [character] ∧ character.utf8Size = 1

instance : DecidablePred Bare := fun _ => inferInstanceAs (Decidable (_ ∧ _))

theorem octets_bare {text : List Char} (bare : ∀ character ∈ text, Bare character) :
    octets text = text.length := by
  induction text with
  | nil => rfl
  | cons character text induction =>
      have rest := induction fun other member => bare other (List.mem_cons_of_mem _ member)
      rw [octets_cons, (bare character List.mem_cons_self).2, rest, List.length_cons,
        Nat.add_comm]

theorem keyWidth_bare {text : List Char} (bare : ∀ character ∈ text, Bare character) :
    keyWidth (String.ofList text) = 2 + text.length := by
  have inner : octets (escape text) = text.length := by
    induction text with
    | nil => rfl
    | cons character text induction =>
        obtain ⟨escaped, single⟩ := bare character List.mem_cons_self
        have rest := induction fun other member => bare other (List.mem_cons_of_mem _ member)
        rw [escape, List.flatMap_cons, octets_append, escaped, ← escape, rest, octets_cons,
          single, octets_nil, List.length_cons]
        omega
  have quote : '"'.utf8Size = 1 := rfl
  rw [keyWidth, dumpString, String.toList_ofList, octets_cons, octets_append, inner,
    octets_cons, quote, octets_nil]
  omega

end Json

end NoKnowledge

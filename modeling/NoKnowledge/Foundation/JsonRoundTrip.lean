import Mathlib.Data.List.TakeWhile
import NoKnowledge.Foundation.JsonCodec

/-!
# The JSON reader inverts the writer

Every canonical value is recovered from its serialisation.  The two facts the
formats above this library rely on follow: a serialised value can be read
back, and canonical values with the same serialisation are equal.
-/

namespace NoKnowledge

namespace Json

open Binary64 (isDigit_of_mem_toDigits isExponent isFloatLiteral isIntegerPart
  isIntegerPart_toDigits toDigits_eq_cons unsigned unsigned_of_ne)

mutual

/-- Values the writer serialises without changing them: objects with increasing
keys, at every depth. -/
def Canonical : Json → Prop
  | null => True
  | bool _ => True
  | int _ => True
  | str _ => True
  | float _ => True
  | arr items => CanonicalItems items
  | obj fields => Sorted fields ∧ CanonicalFields fields

def CanonicalItems : List Json → Prop
  | [] => True
  | item :: items => Canonical item ∧ CanonicalItems items

def CanonicalFields : List (String × Json) → Prop
  | [] => True
  | (_, value) :: fields => Canonical value ∧ CanonicalFields fields

end

theorem canonicalFields_iff (fields : List (String × Json)) :
    CanonicalFields fields ↔ ∀ field ∈ fields, Canonical field.2 := by
  induction fields with
  | nil => simp [CanonicalFields]
  | cons field fields induction =>
      obtain ⟨key, value⟩ := field
      simp [CanonicalFields, induction]

theorem canonicalItems_iff (items : List Json) :
    CanonicalItems items ↔ ∀ item ∈ items, Canonical item := by
  induction items with
  | nil => simp [CanonicalItems]
  | cons item items induction => simp [CanonicalItems, induction]

theorem canonical_mkObj {bindings : List (String × Json)}
    (values : ∀ field ∈ bindings, Canonical field.2) :
    Canonical (mkObj bindings) := by
  refine ⟨sorted_sortFields bindings, ?_⟩
  rw [canonicalFields_iff]
  intro field member
  exact values field (mem_sortFields member)

theorem canonical_eraseField {target : Json} (canonical : Canonical target)
    (key : String) : Canonical (target.eraseField key) := by
  cases target with
  | obj fields =>
      obtain ⟨sorted, values⟩ := canonical
      refine ⟨sorted.sublist (List.filter_sublist.map Prod.fst), ?_⟩
      rw [canonicalFields_iff] at values ⊢
      intro field member
      exact values field (List.mem_of_mem_filter member)
  | _ => exact canonical

theorem canonical_setField {target value : Json} (canonical : Canonical target)
    (valueCanonical : Canonical value) (key : String) :
    Canonical (target.setField key value) := by
  cases target with
  | obj fields =>
      obtain ⟨sorted, values⟩ := canonical
      refine ⟨sorted_insertField key value sorted, ?_⟩
      rw [canonicalFields_iff] at values ⊢
      intro field member
      rcases mem_insertField member with rfl | old
      · exact valueCanonical
      · exact values field old
  | _ => exact canonical

mutual

theorem normalize_canonical : (value : Json) → Canonical value →
    normalize value = value
  | null, _ => rfl
  | bool _, _ => rfl
  | int _, _ => rfl
  | float _, _ => rfl
  | str _, _ => rfl
  | arr items, canonical => by
      simp only [normalize, normalizeItems_canonical items canonical]
  | obj fields, canonical => by
      simp only [normalize, normalizeFields_canonical fields canonical.2, mkObj,
        sortFields_sorted canonical.1]

theorem normalizeItems_canonical : (items : List Json) → CanonicalItems items →
    normalizeItems items = items
  | [], _ => rfl
  | item :: items, canonical => by
      simp only [normalizeItems, normalize_canonical item canonical.1,
        normalizeItems_canonical items canonical.2]

theorem normalizeFields_canonical : (fields : List (String × Json)) →
    CanonicalFields fields → normalizeFields fields = fields
  | [], _ => rfl
  | (key, value) :: fields, canonical => by
      simp only [normalizeFields, normalize_canonical value canonical.1,
        normalizeFields_canonical fields canonical.2]

end

private theorem hexValue_hexDigit : ∀ value, value < 16 →
    hexValue (hexDigit value) = some value := by
  decide

private theorem char_of_toNat {character : Char} {code : Nat}
    (equality : character.toNat = code) : Char.ofNat code = character := by
  rw [← equality, Char.ofNat_toNat]

private theorem parseString_escapeChar (character : Char) (fuel : Nat)
    (rest : List Char) :
    parseString (fuel + 1) (escapeChar character ++ rest) =
      (parseString fuel rest).map fun result =>
        (character :: result.1, result.2) := by
  have finish : ∀ result : Option (List Char × List Char),
      (result.bind fun parsed => some (character :: parsed.1, parsed.2)) =
        result.map fun parsed => (character :: parsed.1, parsed.2) := by
    intro result
    cases result <;> rfl
  unfold escapeChar
  split
  · subst character
    simpa [parseString, unescape] using finish _
  split
  · subst character
    simpa [parseString, unescape] using finish _
  split
  · subst character
    simpa [parseString, unescape] using finish _
  split
  · subst character
    simpa [parseString, unescape] using finish _
  split
  · subst character
    simpa [parseString, unescape] using finish _
  split
  · rename_i code
    obtain rfl := char_of_toNat code
    simpa [parseString, unescape] using finish _
  split
  · rename_i code
    obtain rfl := char_of_toNat code
    simpa [parseString, unescape] using finish _
  split
  · rename_i control
    have high := hexValue_hexDigit (character.toNat / 16) (by omega)
    have low := hexValue_hexDigit (character.toNat % 16) (by omega)
    have zero : hexValue '0' = some 0 := by decide
    have code : character.toNat / 16 * 16 + character.toNat % 16 =
        character.toNat := by omega
    have small : ¬ (0xD800 ≤ character.toNat) := by omega
    have small' : ¬ (0xDC00 ≤ character.toNat) := by omega
    simpa [parseString, unescape, unescapeUnicode, hexFour, high, low, zero,
      code, small, small', Char.ofNat_toNat] using finish _
  · rename_i notQuote notSlash _ _ _ _ _ printable
    simpa [parseString, notQuote, notSlash, printable] using finish _

theorem parseString_escape (text rest : List Char) (fuel : Nat)
    (enough : text.length < fuel) :
    parseString fuel (escape text ++ '"' :: rest) = some (text, rest) := by
  induction text generalizing fuel with
  | nil =>
      obtain ⟨fuel, rfl⟩ := Nat.exists_eq_succ_of_ne_zero (by omega : fuel ≠ 0)
      simp [escape, parseString]
  | cons character text induction =>
      obtain ⟨fuel, rfl⟩ := Nat.exists_eq_succ_of_ne_zero (by omega : fuel ≠ 0)
      have tail := induction fuel (by simpa using enough)
      simp only [escape, List.flatMap_cons, List.append_assoc] at tail ⊢
      rw [parseString_escapeChar, tail]
      rfl

private theorem length_le_length_escape (text : List Char) :
    text.length ≤ (escape text).length := by
  induction text with
  | nil => simp
  | cons character text induction =>
      have nonempty : 1 ≤ (escapeChar character).length := by
        unfold escapeChar
        split_ifs <;> simp
      simp only [escape, List.flatMap_cons, List.length_append,
        List.length_cons] at induction ⊢
      omega

private theorem parseString_dump (text : String) (rest : List Char) :
    parseString ((escape text.toList ++ '"' :: rest).length + 1)
      (escape text.toList ++ '"' :: rest) = some (text.toList, rest) := by
  apply parseString_escape
  have bound := length_le_length_escape text.toList
  simp only [List.length_append, List.length_cons]
  omega

/-- The continuation of a value never extends a number. -/
def Delimited (rest : List Char) : Prop :=
  ∀ head ∈ rest.head?, isNumberChar head = false

private theorem span_number {text rest : List Char}
    (numeric : ∀ character ∈ text, isNumberChar character = true)
    (delimited : Delimited rest) :
    (text ++ rest).takeWhile isNumberChar = text ∧
      (text ++ rest).dropWhile isNumberChar = rest := by
  have stops : rest.takeWhile isNumberChar = [] ∧
      rest.dropWhile isNumberChar = rest := by
    cases rest with
    | nil => simp
    | cons head rest =>
        have stop := delimited head (by simp)
        simp [stop]
  rw [List.takeWhile_append_of_pos numeric, List.dropWhile_append_of_pos numeric,
    stops.1, stops.2]
  simp

private theorem isNumberChar_of_isDigit {character : Char}
    (digit : character.isDigit = true) : isNumberChar character = true := by
  simp [isNumberChar, digit]

private theorem parseNatural_toDigits (value : Nat) :
    parseNatural (Nat.toDigits 10 value) = some value := by
  simp [parseNatural, isIntegerPart_toDigits, Nat.ofDigitChars_ten_toDigits]

private theorem digit_ne_minus {character : Char}
    (digit : character.isDigit = true) : character ≠ '-' := by
  rintro rfl
  exact absurd digit (by decide)

private theorem parseInteger_dumpInt (value : Int) :
    parseInteger (dumpInt value) = some value := by
  by_cases negative : value < 0
  · have magnitude : -((value.natAbs : Nat) : Int) = value := by omega
    have printed : dumpInt value = '-' :: Nat.toDigits 10 value.natAbs := by
      simp [dumpInt, negative]
    rw [printed, parseInteger, parseNatural_toDigits]
    exact congrArg some magnitude
  · obtain ⟨head, tail, digits, digit⟩ := toDigits_eq_cons value.natAbs
    have natural := parseNatural_toDigits value.natAbs
    rw [digits] at natural
    have positive : ((value.natAbs : Nat) : Int) = value := by omega
    simp only [dumpInt, if_neg negative, digits]
    unfold parseInteger
    split
    · rename_i minus
      cases minus
      exact (digit_ne_minus digit rfl).elim
    · simp [natural, positive]

theorem dumpInt_injective : Function.Injective dumpInt := by
  intro left right same
  have parsed := congrArg parseInteger same
  rw [parseInteger_dumpInt, parseInteger_dumpInt] at parsed
  exact Option.some.inj parsed

private theorem isNumberChar_dumpInt (value : Int) :
    ∀ character ∈ dumpInt value, isNumberChar character = true := by
  intro character member
  unfold dumpInt at member
  split at member
  · rcases List.mem_cons.mp member with minus | digit
    · subst character
      decide
    · exact isNumberChar_of_isDigit (isDigit_of_mem_toDigits digit)
  · exact isNumberChar_of_isDigit (isDigit_of_mem_toDigits member)

private theorem parseNumber_dumpInt (value : Int) {rest : List Char}
    (delimited : Delimited rest) :
    parseNumber (dumpInt value ++ rest) = some (int value, rest) := by
  obtain ⟨taken, dropped⟩ :=
    span_number (isNumberChar_dumpInt value) delimited
  simp [parseNumber, taken, dropped, parseInteger_dumpInt]

/-- What the reader requires of the text of a number: its first character
starts neither a literal name nor a structured value. -/
def NumberStart (input : List Char) : Prop :=
  ∃ head tail, input = head :: tail ∧
    (head.isDigit = true ∨
      (head = '-' ∧ ∃ next ∈ tail.head?, next.isDigit = true))

private theorem digit_cases {head : Char} (digit : head.isDigit = true) :
    head ≠ 'n' ∧ head ≠ 't' ∧ head ≠ 'f' ∧ head ≠ 'N' ∧ head ≠ 'I' ∧
      head ≠ '-' ∧ head ≠ '"' ∧ head ≠ '[' ∧ head ≠ '{' := by
  refine ⟨?_, ?_, ?_, ?_, ?_, ?_, ?_, ?_, ?_⟩ <;>
    (rintro rfl; exact absurd digit (by decide))

private theorem parseLiteral_number {input : List Char}
    (start : NumberStart input) :
    parseLiteral input = parseNumber input := by
  obtain ⟨head, tail, rfl, digit | ⟨rfl, next, member, digit⟩⟩ := start
  · obtain ⟨notN, notT, notF, notNan, notI, notMinus, -⟩ := digit_cases digit
    unfold parseLiteral
    split <;> simp_all
  · obtain ⟨-, -, -, -, notI, -⟩ := digit_cases digit
    cases tail with
    | nil => simp at member
    | cons second tail =>
        have same : second = next := by simpa using member
        subst same
        unfold parseLiteral
        split <;> simp_all

private theorem isSpace_number {head : Char}
    (start : head.isDigit = true ∨ head = '-') : isSpace head = false := by
  rcases start with digit | rfl
  · cases space : isSpace head with
    | false => rfl
    | true =>
        simp only [isSpace, Bool.or_eq_true, decide_eq_true_eq] at space
        rcases space with ((rfl | rfl) | rfl) | rfl <;>
          exact absurd digit (by decide)
  · decide

private theorem parseValue_number {input : List Char} (fuel : Nat)
    (start : NumberStart input) :
    parseValue (fuel + 1) input = parseNumber input := by
  have literal := parseLiteral_number start
  obtain ⟨head, tail, rfl, shape⟩ := start
  have space : isSpace head = false :=
    isSpace_number (shape.imp_right And.left)
  have skipped : skipSpace (head :: tail) = head :: tail := by
    simp [skipSpace, space]
  have notQuote : head ≠ '"' ∧ head ≠ '[' ∧ head ≠ '{' := by
    rcases shape with digit | ⟨rfl, -⟩
    · exact (digit_cases digit).2.2.2.2.2.2
    · decide
  simp [parseValue, skipped, notQuote, literal]

private theorem numberStart_dumpInt (value : Int) (rest : List Char) :
    NumberStart (dumpInt value ++ rest) := by
  obtain ⟨head, tail, digits, digit⟩ := toDigits_eq_cons value.natAbs
  by_cases negative : value < 0
  · refine ⟨'-', head :: tail ++ rest, by simp [dumpInt, negative, digits],
      Or.inr ⟨rfl, head, by simp, digit⟩⟩
  · exact ⟨head, tail ++ rest, by simp [dumpInt, negative, digits], Or.inl digit⟩

private theorem mem_takeWhile_or_dropWhile {α : Type} (test : α → Bool)
    {items : List α} {item : α} (member : item ∈ items) :
    item ∈ items.takeWhile test ∨ item ∈ items.dropWhile test := by
  rw [← List.mem_append, List.takeWhile_append_dropWhile]
  exact member

private theorem isDigit_of_mem_takeWhile {items : List Char} {item : Char}
    (member : item ∈ items.takeWhile Char.isDigit) : item.isDigit = true :=
  List.mem_takeWhile_imp member

private theorem isNumberChar_exponent {text : List Char}
    (exponent : isExponent text = true) :
    ∀ character ∈ text, isNumberChar character = true := by
  intro character member
  cases text with
  | nil => cases member
  | cons head rest =>
      simp only [isExponent, Bool.and_eq_true, Bool.or_eq_true,
        decide_eq_true_eq] at exponent
      obtain ⟨letter, digits, -⟩ := exponent
      rcases List.mem_cons.mp member with rfl | later
      · rcases letter with rfl | rfl <;> decide
      · split at digits
        · rcases List.mem_cons.mp later with rfl | digit
          · decide
          · exact isNumberChar_of_isDigit (List.all_eq_true.mp digits _ digit)
        · rcases List.mem_cons.mp later with rfl | digit
          · decide
          · exact isNumberChar_of_isDigit (List.all_eq_true.mp digits _ digit)
        · exact isNumberChar_of_isDigit (List.all_eq_true.mp digits _ later)

private theorem isNumberChar_floatLiteral {text : List Char}
    (float : isFloatLiteral text = true) :
    ∀ character ∈ text, isNumberChar character = true := by
  have unsignedNumeric : ∀ character ∈ unsigned text,
      isNumberChar character = true := by
    intro character member
    rw [isFloatLiteral, Bool.and_eq_true] at float
    rcases mem_takeWhile_or_dropWhile Char.isDigit member with digit | later
    · exact isNumberChar_of_isDigit (isDigit_of_mem_takeWhile digit)
    · have tail := float.2
      split at tail
      · cases tail
      · rename_i fraction shape
        rw [shape] at later
        simp only [Bool.and_eq_true] at tail
        rcases List.mem_cons.mp later with rfl | later
        · decide
        · rcases mem_takeWhile_or_dropWhile Char.isDigit later with digit | later
          · exact isNumberChar_of_isDigit (isDigit_of_mem_takeWhile digit)
          · exact isNumberChar_exponent tail.2 character later
      · exact isNumberChar_exponent tail character later
  intro character member
  cases text with
  | nil => cases member
  | cons head rest =>
      by_cases minus : head = '-'
      · subst head
        rcases List.mem_cons.mp member with rfl | later
        · decide
        · exact unsignedNumeric character later
      · have same : unsigned (head :: rest) = head :: rest := by
          unfold unsigned
          split
          · rename_i shape
            exact (minus (List.cons.inj shape).1).elim
          · rfl
        rw [same] at unsignedNumeric
        exact unsignedNumeric character member

private theorem unsigned_float_start {text : List Char}
    (float : isFloatLiteral text = true) :
    ∃ head tail, unsigned text = head :: tail ∧ head.isDigit = true := by
  rw [isFloatLiteral, Bool.and_eq_true] at float
  have integral := float.1
  cases shape : unsigned text with
  | nil => simp [shape, isIntegerPart] at integral
  | cons head tail =>
      refine ⟨head, tail, rfl, ?_⟩
      cases digit : head.isDigit with
      | true => rfl
      | false => simp [shape, digit, isIntegerPart] at integral

private theorem numberStart_floatLiteral {text : List Char} (rest : List Char)
    (float : isFloatLiteral text = true) : NumberStart (text ++ rest) := by
  obtain ⟨head, tail, shape, digit⟩ := unsigned_float_start float
  cases text with
  | nil => cases shape
  | cons first others =>
      by_cases minus : first = '-'
      · subst first
        have others_eq : others = head :: tail := shape
        exact ⟨'-', others ++ rest, rfl, Or.inr ⟨rfl, head, by simp [others_eq], digit⟩⟩
      · rw [unsigned_of_ne others minus] at shape
        obtain ⟨rfl, rfl⟩ := List.cons.inj shape
        exact ⟨first, others ++ rest, rfl, Or.inl digit⟩

/-- A literal with a fraction or exponent is never read as an integer. -/
private theorem parseInteger_floatLiteral {text : List Char}
    (float : isFloatLiteral text = true) : parseInteger text = none := by
  have notAllDigits : (unsigned text).all Char.isDigit = false := by
    by_contra allDigits
    rw [Bool.not_eq_false, List.all_eq_true] at allDigits
    rw [isFloatLiteral, Bool.and_eq_true] at float
    have consumed : (unsigned text).dropWhile Char.isDigit = [] :=
      List.dropWhile_eq_nil_iff.mpr allDigits
    simp [consumed] at float
  have refused : parseNatural (unsigned text) = none := by
    simp [parseNatural, isIntegerPart, notAllDigits]
  unfold parseInteger
  split
  · rename_i digits
    have natural : parseNatural digits = none := refused
    simp [natural]
  · rename_i notMinus
    have same : unsigned text = text := by
      unfold unsigned
      split
      · rename_i digits
        exact (notMinus digits rfl).elim
      · rfl
    rw [same] at refused
    simp [refused]

private theorem parseNumber_floatLiteral {literal rest : List Char}
    (float : isFloatLiteral literal = true) (delimited : Delimited rest) :
    parseNumber (literal ++ rest) = some (Json.float (.ofLiteral literal), rest) := by
  obtain ⟨taken, dropped⟩ :=
    span_number (isNumberChar_floatLiteral float) delimited
  simp [parseNumber, taken, dropped, parseInteger_floatLiteral float, float]

private theorem parseValue_float (value : Binary64) (fuel : Nat) {rest : List Char}
    (delimited : Delimited rest) :
    parseValue (fuel + 1) (value.dump ++ rest) = some (Json.float value, rest) := by
  cases value with
  | nan => simp [Binary64.dump, parseValue, skipSpace, isSpace, parseLiteral]
  | infinite negative =>
      cases negative <;>
        simp [Binary64.dump, Binary64.signed, parseValue, skipSpace, isSpace, parseLiteral]
  | finite negative magnitude =>
      obtain ⟨shape, denotes⟩ := Binary64.literal_spec negative magnitude
      rw [Binary64.dump, parseValue_number fuel (numberStart_floatLiteral rest shape),
        parseNumber_floatLiteral shape delimited, denotes]

private theorem delimited_dumpItems (items : List Json) (rest : List Char) :
    Delimited (dumpItems items ++ rest) := by
  intro head member
  cases items <;> simp [dumpItems] at member <;> subst head <;> decide

private theorem delimited_dumpFields (fields : List (String × Json))
    (rest : List Char) : Delimited (dumpFields fields ++ rest) := by
  intro head member
  rcases fields with _ | ⟨⟨key, value⟩, fields⟩ <;>
    simp [dumpFields] at member <;> subst head <;> decide

private theorem dump_head (value : Json) (rest : List Char) :
    ∃ head tail, dump value ++ rest = head :: tail ∧
      isSpace head = false ∧ head ≠ ']' ∧ head ≠ '}' := by
  have number : ∀ input, NumberStart input → ∃ head tail,
      input = head :: tail ∧ isSpace head = false ∧ head ≠ ']' ∧ head ≠ '}' := by
    rintro input ⟨head, tail, rfl, shape⟩
    refine ⟨head, tail, rfl, isSpace_number (shape.imp_right And.left), ?_⟩
    rcases shape with digit | ⟨rfl, -⟩
    · constructor <;> (rintro rfl; exact absurd digit (by decide))
    · decide
  rcases value with _ | flag | value | value | text | items | fields
  · exact ⟨'n', _, rfl, by decide⟩
  · cases flag
    · exact ⟨'f', _, rfl, by decide⟩
    · exact ⟨'t', _, rfl, by decide⟩
  · exact number _ (numberStart_dumpInt value rest)
  · rcases value with _ | negative | ⟨negative, magnitude⟩
    · exact ⟨'N', _, rfl, by decide⟩
    · cases negative
      · exact ⟨'I', _, rfl, by decide⟩
      · exact ⟨'-', _, rfl, by decide⟩
    · exact number _ (numberStart_floatLiteral rest
        (Binary64.literal_spec negative magnitude).1)
  · exact ⟨'"', _, rfl, by decide⟩
  · cases items
    · exact ⟨'[', _, rfl, by decide⟩
    · exact ⟨'[', _, rfl, by decide⟩
  · rcases fields with _ | ⟨⟨key, value⟩, fields⟩
    · exact ⟨'{', _, rfl, by decide⟩
    · exact ⟨'{', _, rfl, by decide⟩

private theorem parseValue_string (fuel : Nat) (text : String)
    (rest : List Char) :
    parseValue (fuel + 1) (dumpString text ++ rest) = some (str text, rest) := by
  have body := parseString_dump text rest
  simp only [List.length_append, List.length_cons] at body
  simp [parseValue, dumpString, skipSpace, isSpace, body]

mutual

theorem parseValue_dump : (value : Json) → (fuel : Nat) → (rest : List Char) →
    Canonical value → Delimited rest → (dump value).length ≤ fuel →
    parseValue fuel (dump value ++ rest) = some (value, rest)
  | value, 0, _, _, _, enough => by
      obtain ⟨head, tail, shape, -⟩ := dump_head value []
      rw [List.append_nil] at shape
      simp [shape] at enough
  | null, fuel + 1, rest, _, _, _ => by
      simp [dump, parseValue, skipSpace, isSpace, parseLiteral]
  | bool true, fuel + 1, rest, _, _, _ => by
      simp [dump, parseValue, skipSpace, isSpace, parseLiteral]
  | bool false, fuel + 1, rest, _, _, _ => by
      simp [dump, parseValue, skipSpace, isSpace, parseLiteral]
  | int value, fuel + 1, rest, _, delimited, _ => by
      rw [dump, parseValue_number fuel (numberStart_dumpInt value rest)]
      exact parseNumber_dumpInt value delimited
  | float value, fuel + 1, rest, _, delimited, _ => by
      rw [dump]
      exact parseValue_float value fuel delimited
  | str text, fuel + 1, rest, _, _, _ => by
      rw [dump]
      exact parseValue_string fuel text rest
  | arr [], fuel + 1, rest, _, _, _ => by
      simp [dump, parseValue, skipSpace, isSpace]
  | arr (item :: items), fuel + 1, rest, canonical, _, enough => by
      have bound : (dump item ++ dumpItems items).length ≤ fuel := by
        simpa [dump] using enough
      have parsed := parseItems_dump item items fuel rest canonical bound
      obtain ⟨head, tail, shape, space, notClose, -⟩ :=
        dump_head item (dumpItems items ++ rest)
      rw [← List.append_assoc] at shape
      have skipped : skipSpace (head :: tail) = head :: tail := by
        simp [skipSpace, space]
      have opening : skipSpace ('[' :: head :: tail) = '[' :: head :: tail := by
        simp [skipSpace, isSpace]
      rw [shape] at parsed
      simp only [dump, List.cons_append, shape]
      simp [parseValue, opening, skipped, notClose, parsed]
  | obj [], fuel + 1, rest, _, _, _ => by
      simp [dump, parseValue, skipSpace, isSpace]
  | obj ((key, value) :: fields), fuel + 1, rest, canonical, _, enough => by
      have bound : (dumpString key ++ ':' :: (dump value ++
          dumpFields fields)).length ≤ fuel := by
        simpa [dump] using enough
      have parsed :=
        parseFields_dump key value fields fuel rest canonical.2 bound
      have sorted := sortFields_sorted canonical.1
      simp only [dumpString, List.append_assoc, List.cons_append,
        List.nil_append] at parsed
      simp [dump, dumpString, parseValue, skipSpace, isSpace, mkObj, parsed,
        sorted]

theorem parseItems_dump : (item : Json) → (items : List Json) →
    (fuel : Nat) → (rest : List Char) → CanonicalItems (item :: items) →
    (dump item ++ dumpItems items).length ≤ fuel →
    parseItems fuel (dump item ++ dumpItems items ++ rest) =
      some (item :: items, rest)
  | item, items, 0, _, _, enough => by
      obtain ⟨head, tail, shape, -⟩ := dump_head item (dumpItems items)
      simp [shape] at enough
  | item, [], fuel + 1, rest, canonical, enough => by
      have bound : (dump item).length ≤ fuel := by
        simpa [dumpItems] using enough
      have value := parseValue_dump item fuel (']' :: rest) canonical.1
        (delimited_dumpItems [] rest) bound
      simp [parseItems, dumpItems, value, skipSpace, isSpace]
  | item, next :: items, fuel + 1, rest, canonical, enough => by
      have bounds : (dump item).length ≤ fuel ∧
          (dump next ++ dumpItems items).length ≤ fuel := by
        simp only [dumpItems, List.length_append, List.length_cons] at enough ⊢
        omega
      have value := parseValue_dump item fuel
        (dumpItems (next :: items) ++ rest) canonical.1
        (delimited_dumpItems (next :: items) rest) bounds.1
      have others := parseItems_dump next items fuel rest canonical.2 bounds.2
      simp only [dumpItems, List.append_assoc, List.cons_append] at value others
      simp [parseItems, dumpItems, value, skipSpace, isSpace, others]

theorem parseFields_dump : (key : String) → (value : Json) →
    (fields : List (String × Json)) → (fuel : Nat) → (rest : List Char) →
    CanonicalFields ((key, value) :: fields) →
    (dumpString key ++ ':' :: (dump value ++ dumpFields fields)).length ≤ fuel →
    parseFields fuel
        (dumpString key ++ ':' :: (dump value ++ dumpFields fields) ++ rest) =
      some ((key, value) :: fields, rest)
  | key, value, fields, 0, _, _, enough => by
      simp [dumpString] at enough
  | key, value, [], fuel + 1, rest, canonical, enough => by
      have bound : (dump value).length ≤ fuel := by
        simp only [dumpString, dumpFields, List.length_append,
          List.length_cons] at enough
        omega
      have parsed := parseValue_dump value fuel ('}' :: rest) canonical.1
        (delimited_dumpFields [] rest) bound
      have body := parseString_dump key (':' :: (dump value ++ '}' :: rest))
      simp only [List.length_append, List.length_cons] at body
      simp [parseFields, dumpString, dumpFields, skipSpace, isSpace, body, parsed]
  | key, value, (nextKey, next) :: fields, fuel + 1, rest, canonical, enough => by
      have bounds : (dump value).length ≤ fuel ∧
          (dumpString nextKey ++ ':' :: (dump next ++
            dumpFields fields)).length ≤ fuel := by
        simp only [dumpFields, dumpString, List.length_append,
          List.length_cons] at enough ⊢
        omega
      have parsed := parseValue_dump value fuel
        (dumpFields ((nextKey, next) :: fields) ++ rest) canonical.1
        (delimited_dumpFields ((nextKey, next) :: fields) rest) bounds.1
      have others :=
        parseFields_dump nextKey next fields fuel rest canonical.2 bounds.2
      have body := parseString_dump key
        (':' :: (dump value ++ (dumpFields ((nextKey, next) :: fields) ++ rest)))
      simp only [dumpFields, dumpString, List.append_assoc, List.cons_append,
        List.nil_append, List.length_append, List.length_cons] at parsed others body
      simp [parseFields, dumpString, dumpFields, skipSpace, isSpace, body,
        parsed, others]

end

theorem parse_dump {value : Json} (canonical : Canonical value) :
    parse (dump value) = some value := by
  have delimited : Delimited [] := by simp [Delimited]
  have fits : (dump value).length ≤ (dump value).length + 1 := Nat.le_succ _
  have parsed := parseValue_dump value ((dump value).length + 1) [] canonical
    delimited fits
  rw [List.append_nil] at parsed
  unfold parse
  rw [parsed]
  rfl

private theorem canonical_parseNumber {input rest : List Char} {value : Json}
    (parsed : parseNumber input = some (value, rest)) : Canonical value := by
  unfold parseNumber at parsed
  simp only at parsed
  split at parsed
  · cases parsed
    trivial
  · split at parsed
    · cases parsed
      trivial
    · cases parsed

private theorem canonical_parseLiteral {input rest : List Char} {value : Json}
    (parsed : parseLiteral input = some (value, rest)) : Canonical value := by
  unfold parseLiteral at parsed
  split at parsed
  · cases parsed
    trivial
  · cases parsed
    trivial
  · cases parsed
    trivial
  · cases parsed
    trivial
  · cases parsed
    trivial
  · cases parsed
    trivial
  · exact canonical_parseNumber parsed

/-- One fuel bound serves the three mutually recursive readers. -/
private theorem canonical_readers (fuel : Nat) :
    (∀ input value rest, parseValue fuel input = some (value, rest) →
      Canonical value) ∧
    (∀ input items rest, parseItems fuel input = some (items, rest) →
      CanonicalItems items) ∧
    (∀ input fields rest, parseFields fuel input = some (fields, rest) →
      CanonicalFields fields) := by
  induction fuel with
  | zero => simp [parseValue, parseItems, parseFields]
  | succ fuel induction =>
      obtain ⟨values, itemLists, fieldLists⟩ := induction
      refine ⟨?_, ?_, ?_⟩
      · intro input value rest parsed
        unfold parseValue at parsed
        split at parsed
        · cases parsed
        · split_ifs at parsed
          · simp only [Option.bind_eq_bind, Option.bind_eq_some_iff] at parsed
            obtain ⟨text, -, result⟩ := parsed
            cases result
            trivial
          · cases parsed
            trivial
          · simp only [Option.bind_eq_bind, Option.bind_eq_some_iff] at parsed
            obtain ⟨⟨items, after⟩, parsedItems, result⟩ := parsed
            cases result
            exact itemLists _ _ _ parsedItems
          · cases parsed
            exact ⟨List.Pairwise.nil, trivial⟩
          · simp only [Option.bind_eq_bind, Option.bind_eq_some_iff] at parsed
            obtain ⟨⟨fields, after⟩, parsedFields, result⟩ := parsed
            cases result
            apply canonical_mkObj
            exact (canonicalFields_iff fields).mp (fieldLists _ _ _ parsedFields)
          · exact canonical_parseLiteral parsed
      · intro input items rest parsed
        unfold parseItems at parsed
        simp only [Option.bind_eq_bind, Option.bind_eq_some_iff] at parsed
        obtain ⟨⟨item, after⟩, parsedItem, result⟩ := parsed
        have first := values _ _ _ parsedItem
        simp only at result
        split at result
        · simp only [Option.bind_eq_some_iff] at result
          obtain ⟨⟨others, last⟩, parsedOthers, result⟩ := result
          cases result
          exact ⟨first, itemLists _ _ _ parsedOthers⟩
        · cases result
          exact ⟨first, trivial⟩
        · cases result
      · intro input fields rest parsed
        unfold parseFields at parsed
        split at parsed
        · simp only [Option.bind_eq_bind, Option.bind_eq_some_iff] at parsed
          obtain ⟨⟨key, afterKey⟩, -, parsed⟩ := parsed
          simp only at parsed
          split at parsed
          · simp only [Option.bind_eq_some_iff] at parsed
            obtain ⟨⟨value, after⟩, parsedValue, result⟩ := parsed
            have first := values _ _ _ parsedValue
            simp only at result
            split at result
            · simp only [Option.bind_eq_some_iff] at result
              obtain ⟨⟨others, last⟩, parsedOthers, result⟩ := result
              cases result
              exact ⟨first, fieldLists _ _ _ parsedOthers⟩
            · cases result
              exact ⟨first, trivial⟩
            · cases result
          · cases parsed
        · cases parsed

theorem canonical_parse {input : List Char} {value : Json}
    (parsed : parse input = some value) : Canonical value := by
  simp only [parse, Option.bind_eq_bind, Option.bind_eq_some_iff] at parsed
  obtain ⟨⟨found, rest⟩, parsedValue, result⟩ := parsed
  simp only [Option.ite_none_right_eq_some, Option.some.injEq] at result
  exact result.2 ▸ (canonical_readers _).1 _ _ _ parsedValue

end Json

open Json

theorem canonical_loadJson {data : Bytes} {value : Json}
    (loaded : loadJson data = some value) : Canonical value := by
  simp only [loadJson, Option.bind_eq_bind, Option.bind_eq_some_iff] at loaded
  obtain ⟨text, -, parsed⟩ := loaded
  exact canonical_parse parsed

theorem loadJson_canonicalJson {value : Json} (canonical : Canonical value) :
    loadJson (canonicalJson value) = some value := by
  simp [loadJson, canonicalJson, normalize_canonical value canonical,
    parse_dump canonical]

theorem canonicalJson_injective {left right : Json}
    (leftCanonical : Canonical left) (rightCanonical : Canonical right)
    (equality : canonicalJson left = canonicalJson right) : left = right := by
  have loaded := congrArg loadJson equality
  rw [loadJson_canonicalJson leftCanonical,
    loadJson_canonicalJson rightCanonical] at loaded
  exact Option.some.inj loaded

end NoKnowledge

import NoKnowledge.Errors
import NoKnowledge.Foundation.Escapes
import NoKnowledge.Foundation.JsonReader

/-!
# Using values of any shape

What a program does with a value that its reader returned: it takes an item,
tests it, converts it and writes it as JSON again.  What the interpreter and its
libraries make of texts, floats and compressed data is a parameter.
-/

namespace NoKnowledge

/-- An exception; its text may quote the input. -/
structure Thrown where
  class_ : ErrorClass
  text : Text := []

/-- What functions of the interpreter and its libraries raise. -/
inductive Foreign where
  | type
  | value
  | overflow

def Foreign.thrown : Foreign → Thrown
  | type => { class_ := .type }
  | value => { class_ := .value }
  | overflow => { class_ := .overflow }

def Foreign.lift {α : Type} : Except Foreign α → Except Thrown α
  | .ok result => .ok result
  | .error raised => .error raised.thrown

/-- The classes a reader of untyped data guards against. -/
def Thrown.isMalformed (thrown : Thrown) : Bool := thrown.class_.isMalformed

theorem Foreign.not_escapes_lift {α : Type} (body : Except Foreign α) :
    ¬ Escapes (fun raised => ¬ raised.class_ = .identity) (Foreign.lift body) := by
  cases body with
  | ok result => exact not_escapes_ok result
  | error raised =>
      cases raised with
      | type => exact not_escapes_error nofun
      | value => exact not_escapes_error nofun
      | overflow => exact not_escapes_error nofun

theorem Foreign.lift_eq_ok {α : Type} {body : Except Foreign α} {result : α} :
    Foreign.lift body = .ok result ↔ body = .ok result := by
  cases body with
  | ok other =>
      exact ⟨fun same => congrArg Except.ok (Except.ok.inj same),
        fun same => congrArg Except.ok (Except.ok.inj same)⟩
  | error raised => exact iff_of_false nofun nofun

theorem class_ne_identity_of_isMalformed {thrown : Thrown} (malformed : thrown.isMalformed = true) :
    ¬ thrown.class_ = .identity := by
  intro same
  rw [Thrown.isMalformed, same] at malformed
  cases malformed

structure Interpreter where
  /-- The digits that an integer may have in a text; 0 is no limit. -/
  digitLimit : Nat
  /-- Lower case of a text. -/
  lower : Text → Text
  /-- `zlib.decompress` -/
  decompress : Bytes → Option Bytes
  /-- The text of JSON octets in one of the encodings of Unicode. -/
  decodeJson : Bytes → Option Text
  /-- A float literal denotes an integer. -/
  floatEquals : String → Int → Bool
  floatTruthy : String → Bool
  floatToInt : String → Except Foreign Int
  textToInt : Text → Option Int
  /-- The representation of a float, and that in JSON. -/
  showFloat : String → String
  dumpFloat : String → String
  /-- The representation of a text as a member of a container. -/
  showText : Text → Text

namespace Text

def HasLone (text : Text) : Prop := ∃ point ∈ text, point.char? = none

instance (text : Text) : Decidable text.HasLone :=
  inferInstanceAs (Decidable (∃ point ∈ text, point.char? = none))

theorem encode_eq_none {text : Text} : text.encode = none ↔ text.HasLone := by
  rw [encode, toString?, Option.map_eq_none_iff, Option.map_eq_none_iff]
  induction text with
  | nil => exact iff_of_false nofun (by rintro ⟨point, member, -⟩; cases member)
  | cons point text induction =>
      rw [HasLone, List.exists_mem_cons_iff, List.mapM_cons]
      cases known : point.char? with
      | none => exact iff_of_true rfl (.inl rfl)
      | some character =>
          refine Iff.trans ?_ (induction.trans (Iff.symm (or_iff_right nofun)))
          cases text.mapM Point.char? with
          | none => exact iff_of_true rfl rfl
          | some characters => exact iff_of_false nofun nofun

theorem hasLone_append {left right : Text} :
    (left ++ right : Text).HasLone ↔ left.HasLone ∨ right.HasLone := by
  simp [HasLone, or_and_right, exists_or]

theorem hasLone_cons {point : Point} {text : Text} :
    HasLone (point :: text) ↔ point.char? = none ∨ text.HasLone :=
  List.exists_mem_cons_iff _ _ _

theorem not_hasLone_map (characters : List Char) : ¬ HasLone (characters.map Point.char) := by
  rintro ⟨point, member, lone⟩
  obtain ⟨character, -, rfl⟩ := List.mem_map.mp member
  cases lone

theorem not_hasLone_ofString (text : String) : ¬ (ofString text).HasLone :=
  not_hasLone_map text.toList

end Text

namespace Value

def mkObj (fields : List (String × Value)) : Value :=
  obj (fields.map fun field => (Text.ofString field.1, field.2))

def isObj : Value → Bool
  | obj _ => true
  | _ => false

def get? (value : Value) (key : String) : Option Value :=
  match value with
  | obj fields => fields.lookup (Text.ofString key)
  | _ => none

/-- `value.get(key)` of a dictionary -/
def getD (value : Value) (key : String) : Value := (value.get? key).getD null

/-- `value.get(key)` -/
def attempt (value : Value) (key : String) : Except Thrown Value :=
  match value with
  | obj fields => .ok ((fields.lookup (Text.ofString key)).getD null)
  | _ => .error { class_ := .attribute, text := Text.ofString "get" }

/-- `value[key]` -/
def item (value : Value) (key : String) : Except Thrown Value :=
  match value with
  | obj fields =>
      match fields.lookup (Text.ofString key) with
      | some found => .ok found
      | none => .error { class_ := .key, text := Text.ofString key }
  | _ => .error { class_ := .type }

/-- `b64d(value)` -/
def toBytes : Value → Except Thrown Bytes
  | text content =>
      match content.toString?.bind b64d with
      | some data => .ok data
      | none => .error { class_ := .value }
  | _ => .error { class_ := .type }

/-- `list(value)` -/
def elements : Value → Except Thrown (List Value)
  | arr items => .ok items
  | obj fields => .ok (fields.map fun field => text field.1)
  | text content => .ok (content.map fun point => text [point])
  | _ => .error { class_ := .type }

/-- A value is this text. -/
def isText (value : Value) (expected : Text) : Bool :=
  match value with
  | text content => content = expected
  | _ => false

variable (python : Interpreter)

/-- `value == expected` for an integer -/
def equalsInt (value : Value) (expected : Int) : Bool :=
  match value with
  | bool flag => (if flag then 1 else 0) = expected
  | int number => number = expected
  | float literal => python.floatEquals literal expected
  | _ => false

def truthy : Value → Bool
  | null => false
  | bool flag => flag
  | int number => number ≠ 0
  | float literal => python.floatTruthy literal
  | text content => !content.isEmpty
  | arr items => !items.isEmpty
  | obj fields => !fields.isEmpty

/-- `value or default` -/
def orElse (value default : Value) : Value := if value.truthy python then value else default

/-- `int(value)` -/
def toInt : Value → Except Thrown Int
  | bool flag => .ok (if flag then 1 else 0)
  | int number => .ok number
  | float literal => Foreign.lift (python.floatToInt literal)
  | text content =>
      match python.textToInt content with
      | some number => .ok number
      | none => .error { class_ := .value }
  | _ => .error { class_ := .type }

/-- Texts one after the other, with a separator between them. -/
def separated (separator : String) : List Text → Text
  | [] => []
  | [last] => last
  | first :: rest => first ++ Text.ofString separator ++ separated separator rest

mutual

/-- The representation of a member of a container. -/
def shown : Value → Text
  | null => Text.ofString "None"
  | bool true => Text.ofString "True"
  | bool false => Text.ofString "False"
  | int number => (Json.dumpInt number).map .char
  | float literal => Text.ofString (python.showFloat literal)
  | text content => python.showText content
  | arr items => Text.ofString "[" ++ separated ", " (shownItems items) ++ Text.ofString "]"
  | obj fields =>
      Text.ofString "\x7b" ++ separated ", " (shownFields fields) ++ Text.ofString "\x7d"

def shownItems : List Value → List Text
  | [] => []
  | item :: items => shown item :: shownItems items

def shownFields : List (Text × Value) → List Text
  | [] => []
  | (key, value) :: fields =>
      (python.showText key ++ Text.ofString ": " ++ shown value) :: shownFields fields

end

/-- `str(value)` -/
def toText : Value → Text
  | text content => content
  | other => other.shown python

def escapePoint : Point → Text
  | .char character => (Json.escapeChar character).map .char
  | .lone unit surrogate => [.lone unit surrogate]

def dumpText (content : Text) : Text :=
  Text.ofString "\"" ++ content.flatMap escapePoint ++ Text.ofString "\""

def code : Point → Nat
  | .char character => character.toNat
  | .lone unit _ => unit

/-- Fields in the order of the code points of their keys. -/
def sortFields (fields : List (Text × Value)) : List (Text × Value) :=
  fields.mergeSort fun left right => !decide (right.1.map code < left.1.map code)

mutual

/-- Objects at every depth with their fields sorted. -/
def sorted : Value → Value
  | arr items => arr (sortedItems items)
  | obj fields => obj (sortFields (sortedFields fields))
  | other => other

def sortedItems : List Value → List Value
  | [] => []
  | item :: items => sorted item :: sortedItems items

def sortedFields : List (Text × Value) → List (Text × Value)
  | [] => []
  | (key, value) :: fields => (key, sorted value) :: sortedFields fields

end

mutual

def dump : Value → Text
  | null => Text.ofString "null"
  | bool true => Text.ofString "true"
  | bool false => Text.ofString "false"
  | int number => (Json.dumpInt number).map .char
  | float literal => Text.ofString (python.dumpFloat literal)
  | text content => dumpText content
  | arr items => Text.ofString "[" ++ separated "," (dumpItems items) ++ Text.ofString "]"
  | obj fields =>
      Text.ofString "\x7b" ++ separated "," (dumpFields fields) ++ Text.ofString "\x7d"

def dumpItems : List Value → List Text
  | [] => []
  | item :: items => dump item :: dumpItems items

def dumpFields : List (Text × Value) → List Text
  | [] => []
  | (key, value) :: fields =>
      (dumpText key ++ Text.ofString ":" ++ dump value) :: dumpFields fields

end

/-- `canonical_json`: a lone surrogate has no octets. -/
def canonicalJson (value : Value) : Except Thrown Bytes :=
  match (value.sorted.dump python).encode with
  | some data => .ok data
  | none => .error { class_ := .value }

/-- `b64d(value[key])` -/
def bytesAt (value : Value) (key : String) : Except Thrown Bytes := do
  (← value.item key).toBytes

/-- `str(value[key])` -/
def textAt (value : Value) (key : String) : Except Thrown Text := do
  return (← value.item key).toText python

/-- `int(value[key])` -/
def intAt (value : Value) (key : String) : Except Thrown Int := do
  (← value.item key).toInt python

/-- A field holds the base64 of these octets. -/
def HoldsBytes (value : Value) (key : String) (data : Bytes) : Prop :=
  ∃ content, value.get? key = some (text content) ∧ content.toString?.bind b64d = some data

/-- A field holds what has this text. -/
def HoldsText (value : Value) (key : String) (content : Text) : Prop :=
  ∃ held, value.get? key = some held ∧ held.toText python = content

/-- A field holds what is converted to this integer. -/
def HoldsInt (value : Value) (key : String) (number : Int) : Prop :=
  ∃ held, value.get? key = some held ∧ held.toInt python = .ok number

variable {python}

theorem item_eq_ok {value held : Value} {key : String} :
    value.item key = .ok held ↔ value.get? key = some held := by
  cases value with
  | obj fields =>
      rw [item, get?]
      cases fields.lookup (Text.ofString key) with
      | none => exact iff_of_false nofun nofun
      | some found => simp
  | _ => exact iff_of_false nofun nofun

theorem toBytes_text {content : Text} {data : Bytes} :
    (text content).toBytes = .ok data ↔ content.toString?.bind b64d = some data := by
  rw [toBytes]
  cases content.toString?.bind b64d with
  | none => exact iff_of_false nofun nofun
  | some found => simp

theorem toBytes_eq_ok {value : Value} {data : Bytes} :
    value.toBytes = .ok data ↔
      ∃ content, value = text content ∧ content.toString?.bind b64d = some data := by
  constructor
  · intro read
    cases value with
    | text content => exact ⟨content, rfl, toBytes_text.mp read⟩
    | _ => cases read
  · intro ⟨content, same, decoded⟩
    rw [same]
    exact toBytes_text.mpr decoded

theorem bytesAt_eq_ok {value : Value} {key : String} {data : Bytes} :
    value.bytesAt key = .ok data ↔ value.HoldsBytes key data := by
  rw [bytesAt, except_bind_eq_ok, HoldsBytes]
  constructor
  · intro ⟨held, taken, read⟩
    obtain ⟨content, rfl, decoded⟩ := toBytes_eq_ok.mp read
    exact ⟨content, item_eq_ok.mp taken, decoded⟩
  · intro ⟨content, held, decoded⟩
    exact ⟨text content, item_eq_ok.mpr held, toBytes_eq_ok.mpr ⟨content, rfl, decoded⟩⟩

theorem textAt_eq_ok {value : Value} {key : String} {content : Text} :
    value.textAt python key = .ok content ↔ value.HoldsText python key content := by
  rw [textAt, except_bind_eq_ok, HoldsText]
  refine exists_congr fun held => and_congr item_eq_ok ?_
  exact ⟨fun same => Except.ok.inj same, fun same => congrArg Except.ok same⟩

theorem intAt_eq_ok {value : Value} {key : String} {number : Int} :
    value.intAt python key = .ok number ↔ value.HoldsInt python key number := by
  rw [intAt, except_bind_eq_ok, HoldsInt]
  exact exists_congr fun held => and_congr_left' item_eq_ok

theorem not_escapes_item (value : Value) (key : String) :
    ¬ Escapes (·.isMalformed = true) (value.item key) := by
  cases value with
  | obj fields =>
      rw [item]
      cases fields.lookup (Text.ofString key) with
      | none => exact not_escapes_error rfl
      | some found => exact not_escapes_ok found
  | _ => exact not_escapes_error rfl

theorem not_escapes_toBytes_text (content : Text) :
    ¬ Escapes (·.class_ = .value) (text content).toBytes := by
  rw [toBytes]
  cases content.toString?.bind b64d with
  | none => exact not_escapes_error rfl
  | some found => exact not_escapes_ok found

theorem not_escapes_bytesAt (value : Value) (key : String) :
    ¬ Escapes (·.isMalformed = true) (value.bytesAt key) := by
  rw [bytesAt, escapes_bind_of_quiet (not_escapes_item value key)]
  intro ⟨held, _, escapes⟩
  cases held with
  | text content =>
      exact not_escapes_toBytes_text content
        (escapes.mono fun raised same => congrArg ErrorClass.isMalformed same)
  | _ => exact escapes_error.mp escapes rfl

theorem not_escapes_textAt (value : Value) (key : String) :
    ¬ Escapes (·.isMalformed = true) (value.textAt python key) := by
  rw [textAt, escapes_bind_of_quiet (not_escapes_item value key)]
  intro ⟨held, _, escapes⟩
  exact not_escapes_ok _ escapes

/-- Taking and converting an integer raises no error of the program. -/
theorem not_escapes_intAt (value : Value) (key : String) :
    ¬ Escapes (fun raised => ¬ raised.class_ = .identity) (value.intAt python key) := by
  rw [intAt, escapes_bind_of_quiet fun escapes =>
    not_escapes_item value key (escapes.mono fun raised => class_ne_identity_of_isMalformed)]
  intro ⟨held, _, escapes⟩
  revert escapes
  cases held with
  | bool flag => exact not_escapes_ok _
  | int number => exact not_escapes_ok _
  | float literal => exact Foreign.not_escapes_lift _
  | text content =>
      rw [toInt]
      cases python.textToInt content with
      | none => exact not_escapes_error nofun
      | some number => exact not_escapes_ok number
  | _ => exact not_escapes_error nofun

theorem not_escapes_elements (value : Value) :
    ¬ Escapes (·.isMalformed = true) value.elements := by
  cases value with
  | arr items => exact not_escapes_ok _
  | obj fields => exact not_escapes_ok _
  | text content => exact not_escapes_ok _
  | _ => exact not_escapes_error rfl

mutual

/-- A text at any depth holds a lone surrogate. -/
def hasLone : Value → Bool
  | text content => content.HasLone
  | arr items => hasLoneItems items
  | obj fields => hasLoneFields fields
  | _ => false

def hasLoneItems : List Value → Bool
  | [] => false
  | item :: items => hasLone item || hasLoneItems items

def hasLoneFields : List (Text × Value) → Bool
  | [] => false
  | (key, value) :: fields => decide key.HasLone || hasLone value || hasLoneFields fields

end

theorem hasLoneItems_eq_any (items : List Value) : hasLoneItems items = items.any hasLone := by
  induction items with
  | nil => rfl
  | cons item items induction => rw [hasLoneItems, List.any_cons, induction]

theorem hasLoneFields_eq_any (fields : List (Text × Value)) :
    hasLoneFields fields =
      fields.any fun field => decide field.1.HasLone || hasLone field.2 := by
  induction fields with
  | nil => rfl
  | cons field fields induction => rw [hasLoneFields, List.any_cons, induction]

theorem hasLoneFields_sortFields (fields : List (Text × Value)) :
    hasLoneFields (sortFields fields) = hasLoneFields fields := by
  rw [hasLoneFields_eq_any, hasLoneFields_eq_any, sortFields]
  exact (List.mergeSort_perm fields _).any_eq

mutual

theorem hasLone_sorted : (value : Value) → value.sorted.hasLone = value.hasLone
  | null | bool _ | int _ | float _ | text _ => rfl
  | arr items => hasLoneItems_sorted items
  | obj fields => (hasLoneFields_sortFields _).trans (hasLoneFields_sorted fields)

theorem hasLoneItems_sorted : (items : List Value) →
    hasLoneItems (sortedItems items) = hasLoneItems items
  | [] => rfl
  | item :: items => by
      rw [sortedItems, hasLoneItems, hasLoneItems, hasLone_sorted item,
        hasLoneItems_sorted items]

theorem hasLoneFields_sorted : (fields : List (Text × Value)) →
    hasLoneFields (sortedFields fields) = hasLoneFields fields
  | [] => rfl
  | (key, value) :: fields => by
      rw [sortedFields, hasLoneFields, hasLoneFields, hasLone_sorted value,
        hasLoneFields_sorted fields]

end

theorem hasLone_separated (separator : String) (texts : List Text) :
    (separated separator texts).HasLone ↔ ∃ content ∈ texts, content.HasLone := by
  induction texts with
  | nil => simp [separated, Text.HasLone]
  | cons first texts induction =>
      cases texts with
      | nil => simp [separated]
      | cons second rest =>
          have apart : separated separator (first :: second :: rest) =
              first ++ Text.ofString separator ++ separated separator (second :: rest) := rfl
          rw [apart, Text.hasLone_append, Text.hasLone_append, induction,
            or_iff_left (Text.not_hasLone_ofString separator),
            List.exists_mem_cons_iff Text.HasLone first]

theorem hasLone_enclosed (front back : String) (content : Text) :
    (Text.ofString front ++ content ++ Text.ofString back : Text).HasLone ↔
      content.HasLone := by
  rw [Text.hasLone_append, Text.hasLone_append,
    or_iff_left (Text.not_hasLone_ofString back),
    or_iff_right (Text.not_hasLone_ofString front)]

theorem hasLone_dumpText (content : Text) : (dumpText content).HasLone ↔ content.HasLone := by
  rw [dumpText, hasLone_enclosed]
  induction content with
  | nil => rfl
  | cons point content induction =>
      rw [List.flatMap_cons, Text.hasLone_append, Text.hasLone_cons, induction]
      cases point with
      | char character =>
          exact or_congr_left (iff_of_false (Text.not_hasLone_map _) nofun)
      | lone unit surrogate =>
          exact or_congr_left (iff_of_true ⟨_, List.mem_singleton_self _, rfl⟩ rfl)

mutual

/-- A value is written with a lone surrogate exactly when it holds one. -/
theorem hasLone_dump : (value : Value) → ((value.dump python).HasLone ↔ value.hasLone = true)
  | null => iff_of_false (Text.not_hasLone_ofString "null") nofun
  | bool true => iff_of_false (Text.not_hasLone_ofString "true") nofun
  | bool false => iff_of_false (Text.not_hasLone_ofString "false") nofun
  | int number => iff_of_false (Text.not_hasLone_map _) nofun
  | float literal => iff_of_false (Text.not_hasLone_ofString _) nofun
  | text content => by
      rw [dump, hasLone_dumpText, hasLone, decide_eq_true_iff]
  | arr items => by
      rw [dump, hasLone_enclosed, hasLone_separated, hasLone, hasLone_dumpItems items]
  | obj fields => by
      rw [dump, hasLone_enclosed, hasLone_separated, hasLone, hasLone_dumpFields fields]

theorem hasLone_dumpItems : (items : List Value) →
    ((∃ content ∈ dumpItems python items, content.HasLone) ↔ hasLoneItems items = true)
  | [] => by simp [dumpItems, hasLoneItems]
  | item :: items => by
      rw [dumpItems, List.exists_mem_cons_iff, hasLone_dump item, hasLone_dumpItems items,
        hasLoneItems, Bool.or_eq_true]

theorem hasLone_dumpFields : (fields : List (Text × Value)) →
    ((∃ content ∈ dumpFields python fields, content.HasLone) ↔ hasLoneFields fields = true)
  | [] => by simp [dumpFields, hasLoneFields]
  | (key, value) :: fields => by
      rw [dumpFields, List.exists_mem_cons_iff, Text.hasLone_append, Text.hasLone_append,
        hasLone_dumpText, hasLone_dump value, hasLone_dumpFields fields, hasLoneFields,
        or_iff_left (Text.not_hasLone_ofString ":"), Bool.or_eq_true, Bool.or_eq_true,
        decide_eq_true_iff]

end

theorem hasLone_of_not_truthy {value : Value} (falsy : value.truthy python = false) :
    value.hasLone = false := by
  cases value with
  | text content =>
      rw [truthy, Bool.not_eq_false', List.isEmpty_iff] at falsy
      rw [falsy]
      rfl
  | arr items =>
      rw [truthy, Bool.not_eq_false', List.isEmpty_iff] at falsy
      rw [falsy]
      rfl
  | obj fields =>
      rw [truthy, Bool.not_eq_false', List.isEmpty_iff] at falsy
      rw [falsy]
      rfl
  | _ => rfl

/-- Only a lone surrogate keeps a value from being written. -/
theorem canonicalJson_eq_error {value : Value} :
    (∃ thrown, value.canonicalJson python = .error thrown) ↔ value.hasLone = true := by
  rw [← hasLone_sorted, ← @hasLone_dump python, ← Text.encode_eq_none,
    canonicalJson]
  cases (value.sorted.dump python).encode with
  | none => exact iff_of_true ⟨_, rfl⟩ rfl
  | some data => exact iff_of_false (fun ⟨thrown, same⟩ => nomatch same) nofun

theorem class_of_canonicalJson {value : Value} {thrown : Thrown}
    (raised : value.canonicalJson python = .error thrown) : thrown.class_ = .value := by
  rw [canonicalJson] at raised
  split at raised
  · cases raised
  · cases raised
    rfl

end Value

end NoKnowledge

import NoKnowledge.Foundation.Base64
import NoKnowledge.Foundation.Dynamic
import NoKnowledge.Foundation.JsonRoundTrip

/-!
# Exceptions

What a computation of the program raises: the exception class, as far as a
handler of the program distinguishes it, and the text.  The accessors below
read untyped JSON and raise what the corresponding expression raises.
-/

namespace NoKnowledge

inductive ErrorClass where
  | wire
  | relayNotFound
  | allRelaysFailed
  | sync
  | history
  | deviceList
  | deviceKey
  | card
  | prekey
  | handshake
  | padding
  | ratchet
  | aead
  | attachment
  | client
  | unknownContact
  | key
  | type
  | value
  | overflow
  | attribute
  | database
  | identity
deriving DecidableEq, Repr

structure Raised where
  class_ : ErrorClass
  text : String := ""
deriving DecidableEq, Repr

/-- The wire errors and their subclasses. -/
def ErrorClass.isWire : ErrorClass → Bool
  | wire | relayNotFound | allRelaysFailed => true
  | _ => false

/-- The classes a reader of untyped data guards against. -/
def ErrorClass.isMalformed : ErrorClass → Bool
  | key | type | value => true
  | _ => false

/-- Replace the exceptions of some classes. -/
def Except.rewrap {α : Type} (caught : ErrorClass → Bool) (as_ : Raised → Raised)
    (body : Except Raised α) : Except Raised α :=
  match body with
  | .ok value => .ok value
  | .error raised => .error (if caught raised.class_ then as_ raised else raised)

theorem Except.rewrap_eq_ok {α : Type} {caught : ErrorClass → Bool}
    {as_ : Raised → Raised} {body : Except Raised α} {value : α} :
    Except.rewrap caught as_ body = .ok value ↔ body = .ok value := by
  cases body <;> simp [Except.rewrap]

/-- `if condition: raise ...` -/
def refuse (condition : Bool) (raised : Raised) : Except Raised Unit :=
  if condition then .error raised else .ok ()

theorem refuse_eq_ok {condition : Bool} {raised : Raised} {result : Unit} :
    refuse condition raised = .ok result ↔ condition = false := by
  cases condition <;> simp [refuse]

theorem except_ok_bind {ε α β : Type} (value : α) (next : α → Except ε β) :
    (Except.ok value >>= next) = next value := rfl

theorem except_bind_eq_ok {ε α β : Type} {first : Except ε α}
    {next : α → Except ε β} {result : β} :
    (first >>= next) = .ok result ↔
      ∃ value, first = .ok value ∧ next value = .ok result := by
  cases first with
  | error raised => simp [bind, Except.bind]
  | ok value => simp [bind, Except.bind]

/-- What every step of a loop keeps, the loop keeps when it returns. -/
theorem foldlM_preserves {ε α β : Type} {step : β → α → Except ε β} {holds : β → Prop}
    {items : List α}
    (kept : ∀ accumulated, ∀ item ∈ items, ∀ next, holds accumulated →
      step accumulated item = .ok next → holds next)
    {start final : β} (initially : holds start)
    (ran : items.foldlM step start = .ok final) : holds final := by
  induction items generalizing start with
  | nil =>
      cases ran
      exact initially
  | cons item items induction =>
      rw [List.foldlM_cons, except_bind_eq_ok] at ran
      obtain ⟨next, stepped, rest⟩ := ran
      exact induction (fun accumulated other member => kept accumulated other (by simp [member]))
        (kept start item (by simp) next initially stepped) rest

/-- What a returning `mapM` collects comes from its items. -/
theorem mem_of_mapM_eq_ok {ε α β : Type} {body : α → Except ε β} {items : List α}
    {results : List β} (ran : items.mapM body = .ok results) {result : β}
    (member : result ∈ results) : ∃ item ∈ items, body item = .ok result := by
  induction items generalizing results with
  | nil =>
      cases ran
      cases member
  | cons item items induction =>
      rw [List.mapM_cons] at ran
      obtain ⟨first, here, ran⟩ := except_bind_eq_ok.mp ran
      obtain ⟨rest, later, ran⟩ := except_bind_eq_ok.mp ran
      cases ran
      rcases List.mem_cons.mp member with rfl | member
      · exact ⟨item, List.mem_cons_self, here⟩
      · obtain ⟨found, foundMember, same⟩ := induction later member
        exact ⟨found, List.mem_cons_of_mem _ foundMember, same⟩

/-- Reading item by item what was written item by item. -/
theorem mapM_map_eq_ok {ε α β : Type} {write : β → α} {read : α → Except ε β}
    {items : List β} (inverse : ∀ item ∈ items, read (write item) = .ok item) :
    (items.map write).mapM read = .ok items := by
  induction items with
  | nil => rfl
  | cons item items induction =>
      have rest := induction fun other member => inverse other (List.mem_cons_of_mem _ member)
      rw [List.map_cons, List.mapM_cons, inverse item List.mem_cons_self, except_ok_bind, rest]
      rfl

/-- `value.to_bytes(4, "big")` -/
def fourBytes (value : Int) : Except Raised Bytes :=
  if value < 0 then .error { class_ := .overflow }
  else match toBigEndian 4 value.toNat with
    | some octets => .ok octets
    | none => .error { class_ := .overflow }

namespace Json

/-- `value[key]` -/
def item (value : Json) (key : String) : Except Raised Json :=
  match value with
  | obj fields =>
      match fields.lookup key with
      | some found => .ok found
      | none => .error { class_ := .key, text := key }
  | _ => .error { class_ := .type }

/-- `value.get(key)` -/
def attempt (value : Json) (key : String) : Except Raised Json :=
  match value with
  | obj fields => .ok ((fields.lookup key).getD null)
  | _ => .error { class_ := .attribute, text := "get" }

/-- `int(value)` -/
def toInt (value : Json) : Except Raised Int :=
  match value.toInt? with
  | some number => .ok number
  | none =>
      match value with
      | str _ => .error { class_ := .value }
      | float value => .error { class_ := if value = .nan then .value else .overflow }
      | _ => .error { class_ := .type }

/-- Base64 decoding of an untyped value. -/
def toBytes (value : Json) : Except Raised Bytes :=
  match value with
  | str text =>
      match b64d text with
      | some data => .ok data
      | none => .error { class_ := .value }
  | _ => .error { class_ := .type }

/-- Iteration over an untyped value. -/
def elements (value : Json) : Except Raised (List Json) :=
  match value with
  | arr items => .ok items
  | obj fields => .ok (fields.map fun field => str field.1)
  | str text => .ok (text.toList.map fun character => str (String.ofList [character]))
  | _ => .error { class_ := .type }

theorem item_eq_ok {value found : Json} {key : String} :
    value.item key = .ok found ↔ value.get? key = some found := by
  cases value with
  | obj fields =>
      simp only [item, get?]
      cases fields.lookup key <;> simp
  | _ => simp [item, get?]

theorem toInt_of_toInt? {value : Json} {number : Int}
    (converted : value.toInt? = some number) : value.toInt = .ok number := by
  unfold toInt
  split
  · rename_i found same
    rw [converted] at same
    cases same
    rfl
  · rename_i missing
    rw [converted] at missing
    cases missing

/-- `int(value or 0)` of an integer -/
theorem toInt_orElse_int (number : Int) :
    ((int number).orElse (int 0)).toInt = .ok number :=
  toInt_of_toInt? (toIntOrZero?_int number)

theorem toBytes_str_eq_ok {text : String} {data : Bytes} :
    (str text).toBytes = .ok data ↔ b64d text = some data := by
  simp only [toBytes]
  split
  · rename_i found
    simp [found]
  · rename_i missing
    simp [missing]

theorem attempt_eq_ok {value found : Json} {key : String}
    (attempted : value.attempt key = .ok found) : value.getD key = found := by
  cases value with
  | obj fields =>
      cases attempted
      rfl
  | _ => cases attempted

theorem attempt_obj (fields : List (String × Json)) (key : String) :
    (obj fields).attempt key = .ok ((obj fields).getD key) := rfl

end Json

end NoKnowledge

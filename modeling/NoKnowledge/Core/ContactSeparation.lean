import NoKnowledge.Core.MessageMerge
import NoKnowledge.Crypto.SymbolicSuite

/-!
# What a contact can touch

A decrypted envelope changes two tables: the messages and the outbox.  A text or
file adds a row; a receipt sets the state of a message and clears outbox rows.
The target of a receipt and the id of a text are looked up without regard to the
contact, so an envelope can touch the rows and the texts of another one.
-/

namespace NoKnowledge.Core.Separation

open Prog

variable (suite : Suite) (environment : Environment) (account : Account)

def bodyOf (envelope : Json) : Json := (envelope.getD "body").orElse (.obj [])

/-- A receipt, with its target and its state as they are bound. -/
structure Receipt where
  target : Json
  id : Option String
  state : Option String
deriving DecidableEq

namespace Receipt

/-- The receipt an envelope holds, if its values can be bound. -/
def read (envelope : Json) : Except Raised (Option Receipt) := do
  let target ← (bodyOf envelope).attempt "of"
  if !target.truthy then return none
  else
    let state ← Sql.text (((bodyOf envelope).getD "kind").orElse (.str "read"))
    let id ← Sql.text target
    return some { target, id, state }

def pattern (receipt : Receipt) : String := receipt.target.toText ++ ":%"

/-- The outbox is not searched for a pattern that is too long. -/
def refused (receipt : Receipt) (outbox : Table OutboxRow.id) : Bool :=
  Sql.maxPatternBytes < (utf8 receipt.pattern).length &&
    outbox.rows.any fun row => receipt.id ≠ some row.id

def takes (receipt : Receipt) (row : OutboxRow) : Bool :=
  Store.outboxMatches receipt.id receipt.pattern row

def messages (receipt : Receipt) (messages : Table Message.id) : Table Message.id :=
  match receipt.id with
  | none => messages
  | some id => Store.setMessageState messages id receipt.state

def outbox (receipt : Receipt) (outbox : Table OutboxRow.id) : Table OutboxRow.id :=
  if receipt.refused outbox then outbox
  else outbox.filter fun row => !receipt.takes row

end Receipt

/-- Whether an envelope is dropped as one that is stored already. -/
def seen (store : Store) (envelopeId : Json) : Except Raised (Option Message) :=
  ((Store.findByRemoteId (Client.identityId suite account) envelopeId
    (some "received")).run store).1

/-- The identifier a received message is stored under. -/
def receivedId (tick : Nat) : String :=
  Channel.hex (uuidBits (drawnAt environment 16 tick))

/-- The row of a text or file that is not stored yet. -/
def newRow (contactId : String) (envelope : Json) (world : World) :
    Except Raised Message := do
  let ts ← Sync.integerOr (envelope.getD "ts")
    (environment.clock (world.tick + 1) / 1000)
  Store.messageRow {
    id := .str (receivedId environment world.tick)
    identityId := Client.identityId suite account
    contactId := .str contactId, direction := .str "received"
    type := envelope.getD "type", body := bodyOf envelope, remoteId := envelope.getD "id"
    ts, state := .str "received" }

def isMessage (envelope : Json) : Bool :=
  envelope.getD "type" = .str "text" || envelope.getD "type" = .str "file"

/-- What an envelope does to the two tables. -/
inductive Request where
  | nothing
  | store (row : Message)
  | acknowledge (receipt : Receipt)
deriving DecidableEq

/-- A text or file that is stored, a receipt, or nothing. -/
def requestOf (contactId : String) (envelope : Json) (world : World) : Request :=
  if isMessage envelope then
    if !(envelope.getD "id").truthy then .nothing
    else
      match seen suite account world.store (envelope.getD "id") with
      | .ok none =>
          match newRow suite environment account contactId envelope world with
          | .ok row => .store row
          | .error _ => .nothing
      | _ => .nothing
  else if envelope.getD "type" = .str "receipt" then
    match Receipt.read envelope with
    | .ok (some receipt) => .acknowledge receipt
    | _ => .nothing
  else .nothing

def Request.messages (messages : Table Message.id) : Request → Table Message.id
  | nothing => messages
  | store row => Store.insertMessage messages row
  | acknowledge receipt => receipt.messages messages

def Request.outbox (outbox : Table OutboxRow.id) : Request → Table OutboxRow.id
  | acknowledge receipt => receipt.outbox outbox
  | _ => outbox

variable {suite environment account}

/-- The tables an envelope may change. -/
def tables : Frame World :=
  keeping fun world => (world.store.messages, world.store.outbox)

theorem quiet_tables : Quiet tables where
  tick := fun _ _ => rfl
  put := fun _ _ => rfl
  siblingKeys := fun _ _ => rfl
  deviceList := fun _ _ _ => rfl
  deviceKeys := fun _ _ => rfl

theorem keeps_sendReceipt (contact : ContactRow) (ofId : Json) (kind : String) :
    Keeps tables (Client.sendReceipt suite environment account contact ofId kind) :=
  quiet_tables.sendReceipt (fun _ _ _ => rfl) contact ofId kind

theorem keeps_mirrorState (contactId : String) (message : Message) :
    Keeps tables (Sync.mirrorState suite environment account contactId message) :=
  quiet_tables.mirrorState (AllowsRecord.mirrors fun _ _ _ => rfl) contactId message

/-- The two tables are those a request leaves. -/
def Leaves (request : Request) (world final : World) : Prop :=
  final.store.messages = request.messages world.store.messages ∧
    final.store.outbox = request.outbox world.store.outbox

theorem Leaves.later {request : Request} {world middle final : World}
    (left : Leaves request world middle) (passed : tables.rel middle final) :
    Leaves request world final := by
  obtain ⟨messages, outbox⟩ := Prod.mk.inj passed
  exact ⟨messages.trans left.1, outbox.trans left.2⟩

theorem leaves_nothing {world final : World} (passed : tables.rel world final) :
    Leaves .nothing world final :=
  Prod.mk.inj passed

/-- What is left when the first part leaves it and the rest does not matter. -/
theorem leaves_bind {α β : Type} {first : ClientProg α} {next : α → ClientProg β}
    {request : Request} {origin world : World}
    (left : Leaves request origin (first.after world))
    (rest : ∀ value, Keeps tables (next value)) :
    Leaves request origin ((first >>= next).after world) := by
  rcases ran : first.run world with ⟨_ | value, middle⟩
  · rw [after_bind_error ran]
    rwa [after_eq ran] at left
  · rw [after_bind_ok ran]
    rw [after_eq ran] at left
    exact left.later (rest value middle)

theorem storeReceived_leaves {contact : ContactRow} {kind : String} {envelope : Json}
    (isKind : envelope.getD "type" = .str kind) (world : World) :
    Leaves (match newRow suite environment account contact.id envelope world with
        | .ok row => .store row
        | .error _ => .nothing) world
      ((Client.storeReceived suite environment account contact kind envelope
        (bodyOf envelope)).after world) := by
  unfold newRow
  rw [isKind]
  show Leaves _ world ((do
    let ts ← Prog.lift (Sync.integerOr (envelope.getD "ts")
      (environment.clock (world.tick + 1) / 1000))
    onStore (Store.addMessage {
      id := .str (receivedId environment world.tick)
      identityId := Client.identityId suite account
      contactId := .str contact.id, direction := .str "received"
      type := .str kind, body := bodyOf envelope, remoteId := envelope.getD "id", ts
      state := .str "received" }) : ClientProg Unit).after
        { world with tick := world.tick + 2 })
  cases converted : Sync.integerOr (envelope.getD "ts")
      (environment.clock (world.tick + 1) / 1000) with
  | error raised => exact leaves_nothing rfl
  | ok ts =>
      rw [after_bind_ok (run_lift_ok ts _), except_ok_bind]
      unfold Store.addMessage
      cases Store.messageRow _ with
      | error raised => exact leaves_nothing rfl
      | ok row => exact ⟨rfl, rfl⟩

theorem receiveMessage_leaves {contact : ContactRow} {kind : String} {envelope : Json}
    (isKind : envelope.getD "type" = .str kind) (world : World) :
    Leaves (if !(envelope.getD "id").truthy then .nothing
        else
          match seen suite account world.store (envelope.getD "id") with
          | .ok none =>
              match newRow suite environment account contact.id envelope world with
              | .ok row => .store row
              | .error _ => .nothing
          | _ => .nothing) world
      ((Client.receiveMessage suite environment account contact kind envelope
        (bodyOf envelope)).after world) := by
  unfold Client.receiveMessage
  dsimp only
  split
  · exact leaves_nothing rfl
  · have same := findByRemoteId_after (Client.identityId suite account)
      (envelope.getD "id") (some "received") world.store
    rcases looked : (Store.findByRemoteId (Client.identityId suite account)
      (envelope.getD "id") (some "received")).run world.store with ⟨result, store⟩
    have unchanged : store = world.store := by rw [← same, after_eq looked]
    subst unchanged
    have ran : (onStore (Store.findByRemoteId (Client.identityId suite account)
        (envelope.getD "id") (some "received"))).run world = (result, world) := by
      unfold onStore
      simp only [Prog.run] at looked ⊢
      rw [looked]
    unfold seen
    rw [looked]
    cases result with
    | error raised =>
        rw [after_bind_error ran]
        exact leaves_nothing rfl
    | ok found =>
        rw [after_bind_ok ran]
        cases found with
        | some row => exact leaves_nothing rfl
        | none =>
            exact leaves_bind (storeReceived_leaves isKind world)
              fun _ => keeps_sendReceipt _ _ _

theorem Receipt.run_updateMessage {target state : Json} {bound : Option String}
    {id : Option String} (stateBound : Sql.text state = .ok bound)
    (idBound : Sql.text target = .ok id) (world : World) :
    (onStore (Store.updateMessage target state)).run world = (.ok (), { world with
      store := { world.store with
        messages := (Receipt.mk target id bound).messages world.store.messages } }) := by
  simp only [Store.updateMessage, stateBound, idBound, Receipt.messages]
  cases id <;> rfl

def withOutbox (world : World) (outbox : Table OutboxRow.id) : World :=
  { world with store := { world.store with outbox } }

theorem Receipt.outboxRemoveForMessage_after (receipt : Receipt)
    (idBound : Sql.text receipt.target = .ok receipt.id) (world : World) :
    (onStore (Store.outboxRemoveForMessage receipt.target)).after world =
      withOutbox world (receipt.outbox world.store.outbox) := by
  have removed : (Store.outboxRemoveForMessage receipt.target).after world.store =
      { world.store with outbox := receipt.outbox world.store.outbox } := by
    unfold Store.outboxRemoveForMessage Receipt.outbox
    rw [idBound, after_bind_ok (run_lift_ok _ world.store),
      after_bind_ok (run_get world.store)]
    by_cases refuses : receipt.refused world.store.outbox = true
    · have long := refuses
      unfold Receipt.refused Receipt.pattern at long
      rw [if_pos long, if_pos refuses]
      rfl
    · have short := refuses
      unfold Receipt.refused Receipt.pattern at short
      rw [if_neg short, if_neg refuses]
      rfl
  show ({ world with
    store := (Store.outboxRemoveForMessage receipt.target).after world.store } : World) = _
  rw [removed]
  rfl

theorem receiveReceipt_leaves (contact : ContactRow) (envelope : Json) (world : World) :
    Leaves (match Receipt.read envelope with
        | .ok (some receipt) => .acknowledge receipt
        | _ => .nothing) world
      ((Client.receiveReceipt suite environment account contact (bodyOf envelope)).after
        world) := by
  unfold Receipt.read Client.receiveReceipt
  cases found : (bodyOf envelope).attempt "of" with
  | error raised => exact leaves_nothing rfl
  | ok target =>
      rw [after_bind_ok (run_lift_ok target world), except_ok_bind]
      by_cases falsy : (!target.truthy) = true
      · rw [if_pos falsy, if_pos falsy]
        exact leaves_nothing rfl
      rw [if_neg falsy, if_neg falsy]
      dsimp only
      cases stateBound : Sql.text (((bodyOf envelope).getD "kind").orElse
          (.str "read")) with
      | error raised =>
          have refused : (onStore (Store.updateMessage target
              (((bodyOf envelope).getD "kind").orElse (.str "read")))).run world =
                (.error raised, world) := by
            simp only [Store.updateMessage, stateBound]
            rfl
          rw [after_bind_error refused]
          exact leaves_nothing rfl
      | ok state =>
          cases idBound : Sql.text target with
          | error raised =>
              have refused : (onStore (Store.updateMessage target
                  (((bodyOf envelope).getD "kind").orElse (.str "read")))).run world =
                    (.error raised, world) := by
                simp only [Store.updateMessage, stateBound, idBound]
                rfl
              rw [after_bind_error refused]
              exact leaves_nothing rfl
          | ok id =>
              rw [after_bind_ok (Receipt.run_updateMessage stateBound idBound world)]
              refine leaves_bind ?_ fun _ => ?_
              · let receipt : Receipt := { target, id, state }
                have removed : ∀ middle,
                    (onStore (Store.outboxRemoveForMessage target)).after middle =
                      withOutbox middle (receipt.outbox middle.store.outbox) :=
                  receipt.outboxRemoveForMessage_after idBound
                rw [removed]
                exact ⟨rfl, rfl⟩
              · apply keeps_bind (keeps_onStore (queryMessage_after _))
                intro row
                split
                · exact keeps_pure _
                · exact keeps_bind (keeps_attempt (keeps_mirrorState _ _)) fun _ =>
                    keeps_pure _

/-- The two tables after an envelope. -/
theorem processEnvelope_leaves (contact : ContactRow) (envelope : Json) (world : World) :
    Leaves (requestOf suite environment account contact.id envelope world) world
      ((Client.processEnvelope suite environment account contact envelope).after world) := by
  unfold requestOf isMessage Client.processEnvelope
  dsimp only
  by_cases isText : envelope.getD "type" = .str "text"
  · rw [if_pos isText]
    simp only [isText, decide_true, Bool.true_or, if_true]
    exact receiveMessage_leaves isText world
  · rw [if_neg isText]
    by_cases isFile : envelope.getD "type" = .str "file"
    · rw [if_pos isFile]
      simp only [isFile, decide_true, Bool.or_true, if_true]
      exact receiveMessage_leaves isFile world
    · rw [if_neg isFile]
      simp only [isText, isFile, decide_false, Bool.or_self, Bool.false_eq_true, if_false]
      by_cases isReceipt : envelope.getD "type" = .str "receipt"
      · rw [if_pos isReceipt, if_pos isReceipt]
        exact receiveReceipt_leaves contact envelope world
      · rw [if_neg isReceipt, if_neg isReceipt]
        exact leaves_nothing rfl

variable (suite account) in
/-- What belongs to another contact, or to another identity. -/
def Foreign (contactId identity contact : String) : Prop :=
  identity ≠ Client.identityId suite account ∨ contact ≠ contactId

variable (suite account) in
/-- An envelope of a contact leaves the rows of others alone, and whether the
envelope `other` is dropped as a duplicate. -/
structure Separate (contactId : String) (other : Json) (world final : World) : Prop where
  messages : ∀ row : Message, Foreign suite account contactId row.identityId row.contactId →
    (row ∈ final.store.messages ↔ row ∈ world.store.messages)
  outbox : ∀ row : OutboxRow, Foreign suite account contactId row.identityId row.contactId →
    (row ∈ final.store.outbox ↔ row ∈ world.store.outbox)
  stored : seen suite account final.store (other.getD "id") = .ok none ↔
    seen suite account world.store (other.getD "id") = .ok none

variable (suite environment account) in
/-- The receipt of an envelope names nothing of another contact that it changes,
and its text has another id than the envelope `other`. -/
def Harmless (contactId : String) (envelope other : Json) (world : World) : Prop :=
  match requestOf suite environment account contactId envelope world with
  | .nothing => True
  | .store row => row.remoteId ≠ none → Sql.text (other.getD "id") ≠ .ok row.remoteId
  | .acknowledge receipt =>
      (∀ row ∈ world.store.messages,
        Foreign suite account contactId row.identityId row.contactId →
          receipt.id = some row.id → row.state = receipt.state) ∧
      (receipt.refused world.store.outbox = false → ∀ row ∈ world.store.outbox,
        Foreign suite account contactId row.identityId row.contactId →
          receipt.takes row = false)

/-- What is looked up in vain. -/
theorem seen_eq_none {store : Store} {envelopeId : Json} :
    seen suite account store envelopeId = .ok none ↔
      ∃ bound, Sql.text envelopeId = .ok bound ∧ ∀ text, bound = some text →
        ∀ row ∈ store.messages, row.identityId = Client.identityId suite account →
          row.remoteId = some text → row.direction ≠ "received" := by
  unfold seen Store.findByRemoteId
  cases Sql.text envelopeId with
  | error raised =>
      constructor
      · intro impossible
        cases impossible
      · rintro ⟨bound, impossible, -⟩
        cases impossible
  | ok bound =>
      rw [run_bind_ok (run_lift_ok bound store)]
      cases bound with
      | none => exact ⟨fun _ => ⟨none, rfl, fun _ impossible => by cases impossible⟩,
          fun _ => rfl⟩
      | some text =>
          rw [run_bind_ok (run_get store)]
          simp [Table.mem_iff]

/-- The row of a text belongs to its contact and is a received one. -/
theorem newRow_fields {contactId : String} {envelope : Json} {world : World} {row : Message}
    (converted : newRow suite environment account contactId envelope world = .ok row) :
    row.id = receivedId environment world.tick ∧
      row.identityId = Client.identityId suite account ∧ row.contactId = contactId ∧
      row.direction = "received" ∧
      Sql.text (envelope.getD "id") = .ok row.remoteId := by
  simp only [newRow, Store.messageRow, except_bind_eq_ok] at converted
  obtain ⟨_, _, _, named, _, filed, _, directed, _, _, remoteId, bound, _, _, _, _,
    built⟩ := converted
  cases named
  cases filed
  cases directed
  cases built
  exact ⟨rfl, rfl, rfl, rfl, bound⟩

theorem requestOf_store {contactId : String} {envelope : Json} {world : World}
    {row : Message}
    (asked : requestOf suite environment account contactId envelope world = .store row) :
    seen suite account world.store (envelope.getD "id") = .ok none ∧
      newRow suite environment account contactId envelope world = .ok row := by
  unfold requestOf at asked
  split at asked
  · split at asked
    · cases asked
    · split at asked
      · rename_i unseen
        split at asked
        · rename_i converted
          cases asked
          exact ⟨unseen, converted⟩
        · cases asked
      · cases asked
  · split at asked
    · split at asked <;> cases asked
    · cases asked

/-- Only a text or a file is stored. -/
theorem isMessage_of_store {contactId : String} {envelope : Json} {world : World}
    {row : Message}
    (asked : requestOf suite environment account contactId envelope world = .store row) :
    isMessage envelope = true := by
  unfold requestOf at asked
  split at asked
  · assumption
  · split at asked
    · split at asked <;> cases asked
    · cases asked

theorem mem_insertMessage {messages : Table Message.id} {new row : Message}
    (fresh : ∀ row ∈ messages, row.id ≠ new.id) :
    row ∈ Store.insertMessage messages new ↔ row = new ∨ row ∈ messages := by
  have absent : messages.get? new.id = none := Table.get?_eq_none.mpr fresh
  rw [Store.insertMessage, Table.mem_upsert_iff, absent]
  constructor
  · rintro (same | ⟨member, -⟩)
    · exact Or.inl same
    · exact Or.inr member
  · rintro (same | member)
    · exact Or.inl same
    · exact Or.inr ⟨member, fresh row member⟩

/-- A text of a contact is separate unless it takes the id of the other one. -/
theorem separate_store {contactId : String} {envelope other : Json} {world final : World}
    {row : Message}
    (unseen : seen suite account world.store (envelope.getD "id") = .ok none)
    (converted : newRow suite environment account contactId envelope world = .ok row)
    (fresh : ∀ old ∈ world.store.messages, old.id ≠ receivedId environment world.tick)
    (left : Leaves (.store row) world final) :
    Separate suite account contactId other world final ↔
      (row.remoteId ≠ none → Sql.text (other.getD "id") ≠ .ok row.remoteId) := by
  obtain ⟨named, own, filed, received, bound⟩ := newRow_fields converted
  have members : ∀ other, other ∈ final.store.messages ↔
      other = row ∨ other ∈ world.store.messages := by
    intro other
    rw [left.1]
    exact mem_insertMessage (named ▸ fresh)
  constructor
  · intro separate given same
    cases text : row.remoteId with
    | none => exact given text
    | some id =>
        rw [text] at same
        have unseenOther : seen suite account world.store (other.getD "id") = .ok none := by
          obtain ⟨_, boundTo, absent⟩ := seen_eq_none.mp unseen
          rw [bound] at boundTo
          cases boundTo
          exact seen_eq_none.mpr ⟨some id, same, text ▸ absent⟩
        obtain ⟨_, boundTo, absent⟩ := seen_eq_none.mp (separate.stored.mpr unseenOther)
        rw [same] at boundTo
        cases boundTo
        exact absent id rfl row ((members row).mpr (Or.inl rfl)) own text received
  · intro apart
    refine ⟨?_, ?_, ?_⟩
    · intro old foreign
      rw [members]
      constructor
      · rintro (rfl | member)
        · exact absurd foreign (by simp [Foreign, own, filed])
        · exact member
      · exact Or.inr
    · intro old _
      rw [left.2]
      exact Iff.rfl
    · rw [seen_eq_none, seen_eq_none]
      constructor
      · rintro ⟨bound, boundTo, absent⟩
        exact ⟨bound, boundTo, fun text same old member =>
          absent text same old ((members old).mpr (Or.inr member))⟩
      · rintro ⟨bound, boundTo, absent⟩
        refine ⟨bound, boundTo, fun text same old member oldOwn oldNamed => ?_⟩
        rcases (members old).mp member with rfl | earlier
        · rw [same, ← oldNamed] at boundTo
          exact absurd boundTo (apart (by simp [oldNamed]))
        · exact absent text same old earlier oldOwn oldNamed

/-- The rows after a receipt. -/
theorem Receipt.mem_messages {receipt : Receipt} {messages : Table Message.id}
    {row : Message} :
    row ∈ receipt.messages messages ↔ ∃ old ∈ messages,
      row = if receipt.id = some old.id then { old with state := receipt.state } else old := by
  unfold Receipt.messages
  cases receipt.id with
  | none => simp
  | some id =>
      simp only [Store.setMessageState, Table.mem_update, Table.Change.at, Store.withState,
        Option.some.injEq]
      constructor
      · rintro ⟨old, member, changed⟩
        exact ⟨old, member, by rw [← changed]; simp [eq_comm]⟩
      · rintro ⟨old, member, changed⟩
        exact ⟨old, member, by rw [changed]; simp [eq_comm]⟩

theorem Receipt.mem_outbox {receipt : Receipt} {outbox : Table OutboxRow.id}
    {row : OutboxRow} :
    row ∈ receipt.outbox outbox ↔
      row ∈ outbox ∧ (receipt.refused outbox = false → receipt.takes row = false) := by
  unfold Receipt.outbox
  cases receipt.refused outbox <;> simp

/-- A receipt is separate exactly when it changes nothing of another contact. -/
theorem separate_acknowledge {contactId : String} {other : Json} {world final : World}
    {receipt : Receipt} (left : Leaves (.acknowledge receipt) world final) :
    Separate suite account contactId other world final ↔
      (∀ row ∈ world.store.messages,
        Foreign suite account contactId row.identityId row.contactId →
          receipt.id = some row.id → row.state = receipt.state) ∧
      (receipt.refused world.store.outbox = false → ∀ row ∈ world.store.outbox,
        Foreign suite account contactId row.identityId row.contactId →
          receipt.takes row = false) := by
  have members : ∀ row, row ∈ final.store.messages ↔ ∃ old ∈ world.store.messages,
      row = if receipt.id = some old.id then { old with state := receipt.state }
        else old := by
    intro row
    rw [left.1]
    exact Receipt.mem_messages
  have outboxMembers : ∀ row, row ∈ final.store.outbox ↔ row ∈ world.store.outbox ∧
      (receipt.refused world.store.outbox = false → receipt.takes row = false) := by
    intro row
    rw [left.2]
    exact Receipt.mem_outbox
  constructor
  · intro separate
    constructor
    · intro row member foreign named
      let changed : Message := { row with state := receipt.state }
      have inFinal : changed ∈ final.store.messages :=
        (members changed).mpr ⟨row, member, by rw [if_pos named]⟩
      have before := (separate.messages changed foreign).mp inFinal
      have same : changed = row := Table.unique before member rfl
      exact (congrArg Message.state same).symm
    · intro runs row member foreign
      exact ((outboxMembers row).mp ((separate.outbox row foreign).mpr member)).2 runs
  · rintro ⟨sameState, kept⟩
    have unchanged : ∀ old ∈ world.store.messages,
        Foreign suite account contactId old.identityId old.contactId →
        (if receipt.id = some old.id then { old with state := receipt.state } else old) =
          old := by
      intro old member foreign
      split
      · rename_i named
        rw [← sameState old member foreign named]
      · rfl
    refine ⟨?_, ?_, ?_⟩
    · intro row foreign
      rw [members]
      constructor
      · rintro ⟨old, member, rfl⟩
        have oldForeign : Foreign suite account contactId old.identityId old.contactId := by
          split at foreign <;> exact foreign
        rwa [unchanged old member oldForeign]
      · intro member
        exact ⟨row, member, (unchanged row member foreign).symm⟩
    · intro row foreign
      rw [outboxMembers]
      exact ⟨And.left, fun member => ⟨member, fun runs => kept runs row member foreign⟩⟩
    · have looked : ∀ text, (∀ row ∈ final.store.messages,
          row.identityId = Client.identityId suite account →
          row.remoteId = some text → row.direction ≠ "received") ↔
          (∀ row ∈ world.store.messages,
            row.identityId = Client.identityId suite account →
            row.remoteId = some text → row.direction ≠ "received") := by
        intro text
        constructor
        · intro absent old member own named
          have found := absent _ ((members _).mpr ⟨old, member, rfl⟩)
          split at found <;> exact found own named
        · intro absent row member own named
          obtain ⟨old, oldMember, rfl⟩ := (members row).mp member
          by_cases isTarget : receipt.id = some old.id
          · rw [if_pos isTarget] at own named ⊢
            exact absent old oldMember own named
          · rw [if_neg isTarget] at own named ⊢
            exact absent old oldMember own named
      simp only [seen_eq_none, looked]

/-- An envelope leaves the rows of other contacts and the envelope `other` of another
contact alone exactly when it is harmless. -/
theorem envelopes_are_separate (contact : ContactRow) (envelope other : Json)
    (world : World)
    (fresh : ∀ old ∈ world.store.messages, old.id ≠ receivedId environment world.tick) :
    Separate suite account contact.id other world
        ((Client.processEnvelope suite environment account contact envelope).after world) ↔
      Harmless suite environment account contact.id envelope other world := by
  have left := @processEnvelope_leaves suite environment account contact envelope world
  unfold Harmless
  cases asked : requestOf suite environment account contact.id envelope world with
  | nothing =>
      rw [asked] at left
      refine ⟨fun _ => trivial, fun _ => ⟨?_, ?_, ?_⟩⟩
      · intro row _
        rw [left.1]
        exact Iff.rfl
      · intro row _
        rw [left.2]
        exact Iff.rfl
      · rw [seen_eq_none, seen_eq_none, left.1]
        exact Iff.rfl
  | store row =>
      rw [asked] at left
      obtain ⟨unseen, converted⟩ := requestOf_store asked
      exact separate_store unseen converted fresh left
  | acknowledge receipt =>
      rw [asked] at left
      exact separate_acknowledge left

/-- A message we sent to one contact. -/
def sentMessage : Message where
  id := "m"
  identityId := Client.identityId Symbolic.suite .specimen
  contactId := "peer"
  direction := "sent"
  type := "text"
  body := .obj []
  remoteId := none
  ts := 5
  state := some "sent"

/-- Its copy in the outbox. -/
def queuedCopy : OutboxRow where
  id := "m:device"
  identityId := Client.identityId Symbolic.suite .specimen
  contactId := "peer"
  mailboxId := some "inbox"
  relay := "https://relay"
  payload := ""
  seq := none
  createdAt := 5

/-- Some contact. -/
def contactNamed (id : String) : ContactRow where
  identityId := Client.identityId Symbolic.suite .specimen
  id := id
  nickname := none
  isign := []
  idh := []
  bundleId := none
  inbox := .obj []
  relays := []
  session := none
  verified := false
  createdAt := 1

def queuedWorld : World where
  store := {
    messages := ⟨[sentMessage], List.nodup_singleton _⟩
    outbox := ⟨[queuedCopy], List.nodup_singleton _⟩ }

def envelopeOf (kind id : String) (body : List (String × Json)) : Json :=
  .mkObj [("type", .str kind), ("id", .str id), ("body", .mkObj body)]

def afterEnvelope (contactId : String) (envelope : Json) : World :=
  (Client.processEnvelope Symbolic.suite .idle .specimen (contactNamed contactId)
    envelope).after queuedWorld

theorem queuedWorld_fresh : ∀ old ∈ queuedWorld.store.messages,
    old.id ≠ receivedId .idle queuedWorld.tick := by
  decide +kernel

/-- What belongs to the contact `peer` is not foreign to it. -/
theorem not_foreign_peer :
    ¬ Foreign Symbolic.suite .specimen "peer"
      (Client.identityId Symbolic.suite .specimen) "peer" :=
  fun foreign => foreign.elim (fun other => other rfl) (fun other => other rfl)

/-- A receipt of the contact itself. -/
theorem envelopes_are_separate_peer :
    Separate Symbolic.suite .specimen "peer" (envelopeOf "text" "x" []) queuedWorld
      (afterEnvelope "peer" (envelopeOf "receipt" "a" [("of", .str "m")])) := by
  have asked : requestOf Symbolic.suite .idle .specimen "peer"
      (envelopeOf "receipt" "a" [("of", .str "m")]) queuedWorld =
        .acknowledge { target := .str "m", id := some "m", state := some "read" } := by
    decide +kernel
  apply (@envelopes_are_separate Symbolic.suite .idle .specimen (contactNamed "peer")
    (envelopeOf "receipt" "a" [("of", .str "m")]) (envelopeOf "text" "x" []) queuedWorld
    queuedWorld_fresh).mpr
  show Harmless Symbolic.suite .idle .specimen "peer" _ _ _
  unfold Harmless
  rw [asked]
  constructor
  · intro row member foreign
    rw [List.mem_singleton.mp member] at foreign
    exact absurd foreign not_foreign_peer
  · intro _ row member foreign
    rw [List.mem_singleton.mp member] at foreign
    exact absurd foreign not_foreign_peer

/-- Another contact marks the message as read and clears it from the outbox. -/
theorem foreign_receipt_is_obeyed :
    ((afterEnvelope "other" (envelopeOf "receipt" "a" [("of", .str "m")])
        ).store.messages.rows.map Message.state = [some "read"]) ∧
      (afterEnvelope "other" (envelopeOf "receipt" "a" [("of", .str "m")])
        ).store.outbox.rows = [] ∧
      ¬ Separate Symbolic.suite .specimen "other" (envelopeOf "text" "x" []) queuedWorld
        (afterEnvelope "other" (envelopeOf "receipt" "a" [("of", .str "m")])) := by
  have marked : (afterEnvelope "other" (envelopeOf "receipt" "a" [("of", .str "m")])
      ).store.messages.rows.map Message.state = [some "read"] := by decide +kernel
  have cleared : (afterEnvelope "other" (envelopeOf "receipt" "a" [("of", .str "m")])
      ).store.outbox.rows = [] := by decide +kernel
  refine ⟨marked, cleared, fun separate => ?_⟩
  have kept := (separate.outbox queuedCopy (Or.inr (by decide))).mpr
    (List.mem_singleton_self _)
  rw [Table.mem_iff, cleared] at kept
  cases kept

end NoKnowledge.Core.Separation

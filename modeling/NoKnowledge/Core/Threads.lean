import NoKnowledge.Core.Reception
import NoKnowledge.Foundation.Thread

/-!
# Client calls in atomic steps

The interface thread and the worker thread of a client share its store.  Here
the calls that touch contacts are cut at every access to the contacts table;
what lies between two accesses is one piece that leaves the contacts alone.
Run without interference, each thread is the call it was cut from.
-/

namespace NoKnowledge.Core

open Prog NoKnowledge.Wire NoKnowledge.Core.Client NoKnowledge.Core.Sync

/-- Programs that leave the contacts alone. -/
def apart : Frame World := keeping fun world => world.store.contacts

/-- One atomic access. -/
inductive ContactAccess : Type → Type 1 where
  | getContact (contactId : String) : ContactAccess (Option ContactRow)
  | listContacts : ContactAccess (List ContactRow)
  | upsertContact (row : ContactRow) : ContactAccess Unit
  | setContactSession (contactId : String) (session : Option SessionBlob) :
      ContactAccess Unit
  | elsewhere {β : Type} (program : ClientProg β) (leaves : Keeps apart program) :
      ContactAccess β

abbrev ClientThread (α : Type) : Type 1 := Thread ContactAccess Raised α

variable (suite : Suite) (environment : Environment) (account : Account)

namespace ContactAccess

def perform : {β : Type} → ContactAccess β → ClientProg β
  | _, getContact contactId =>
      askStore fun store => store.getContact (identityId suite account) contactId
  | _, listContacts =>
      askStore fun store => store.listContacts (identityId suite account)
  | _, upsertContact row => onStore (Store.upsertContact row)
  | _, setContactSession contactId session =>
      onStore (Store.setContactSession (identityId suite account) contactId session)
  | _, elsewhere program _ => program

end ContactAccess

section Apart

variable {suite environment account}

theorem quiet_apart : Quiet apart where
  tick := fun _ _ => rfl
  put := fun _ _ => rfl
  siblingKeys := fun _ _ => rfl
  deviceList := fun _ _ _ => rfl
  deviceKeys := fun _ _ => rfl

theorem apart_mirrors : AllowsMirrors apart :=
  fun _ _ _ passed _ _ => passed

theorem apart_onStore {α : Type} {body : StoreProg α}
    (leaves : ∀ store, (body.after store).contacts = store.contacts) :
    Keeps apart (onStore body) :=
  fun world => leaves world.store

theorem addMessage_contacts (input : MessageInput) (store : Store) :
    ((Store.addMessage input).after store).contacts = store.contacts := by
  unfold Store.addMessage
  cases Store.messageRow input <;> rfl

theorem updateMessage_contacts (messageId state : Json) (store : Store) :
    ((Store.updateMessage messageId state).after store).contacts = store.contacts := by
  unfold Store.updateMessage
  cases Sql.text state with
  | error raised => rfl
  | ok bound =>
      cases Sql.text messageId with
      | error raised => rfl
      | ok target => cases target <;> rfl

theorem outboxRemoveForMessage_contacts (messageId : Json) (store : Store) :
    ((Store.outboxRemoveForMessage messageId).after store).contacts = store.contacts := by
  obtain ⟨outbox, changed⟩ := outboxRemoveForMessage_after messageId store
  rw [changed]

theorem outboxAdd_contacts (row : OutboxRow) (store : Store) :
    ((Store.outboxAdd row).after store).contacts = store.contacts := by
  unfold Store.outboxAdd
  rw [after_bind_ok (run_get store)]
  split
  · rfl
  · split <;> rfl

theorem apart_recordSentMessage (contactId messageId kind : String) (body : Json)
    (copies : List (DeviceEntry × Bytes)) :
    Keeps apart (recordSentMessage suite environment account contactId messageId kind
      body copies) := by
  apply keeps_bind quiet_apart.nowMs
  intro ts
  apply keeps_bind (apart_onStore (addMessage_contacts _))
  intro _
  apply keeps_bind
  · apply keeps_forM
    intro copy _
    apply keeps_bind (keeps_lift _)
    intro mailboxId
    apply keeps_bind (keeps_lift _)
    intro relay
    apply keeps_bind quiet_apart.nowSeconds
    intro now
    apply keeps_bind (keeps_lift _)
    intro bound
    exact apart_onStore (outboxAdd_contacts _)
  · intro _
    apply keeps_bind (keeps_askStore _)
    intro found
    split
    · exact keeps_pure _
    · exact keeps_bind (keeps_attempt (quiet_apart.mirrorMessage apart_mirrors _ _))
        fun _ => keeps_pure _

theorem apart_storeReceived (contact : ContactRow) (kind : String)
    (envelope body : Json) :
    Keeps apart (storeReceived suite environment account contact kind envelope body) := by
  apply keeps_bind quiet_apart.newId
  intro messageId
  apply keeps_bind quiet_apart.nowMs
  intro now
  apply keeps_bind (keeps_lift _)
  intro ts
  exact apart_onStore (addMessage_contacts _)

theorem apart_receiveReceipt (contact : ContactRow) (body : Json) :
    Keeps apart (receiveReceipt suite environment account contact body) := by
  apply keeps_bind (keeps_lift _)
  intro target
  apply keeps_ite
  · exact fun _ => keeps_pure _
  intro _
  apply keeps_bind (apart_onStore (updateMessage_contacts _ _))
  intro _
  apply keeps_bind (apart_onStore (outboxRemoveForMessage_contacts _))
  intro _
  apply keeps_bind (keeps_onStore (queryMessage_after _))
  intro row
  split
  · exact keeps_pure _
  · exact keeps_bind (keeps_attempt (quiet_apart.mirrorState apart_mirrors _ _))
      fun _ => keeps_pure _

theorem apart_consumeOpk (opkId : Json) : Keeps apart (consumeOpk opkId) := by
  apply keeps_ite
  · exact fun _ => keeps_pure _
  intro _
  apply keeps_bind (keeps_askStore _)
  intro prekeys
  split
  · exact keeps_pure _
  · exact keeps_ite (fun _ _ => rfl) fun _ => keeps_pure _

end Apart

namespace Threads

/-- A piece between two accesses. -/
def piece {α : Type} (program : ClientProg α) (leaves : Keeps apart program) :
    ClientThread α :=
  Thread.once (.elsewhere program leaves)

def attempt {α : Type} (body : ClientThread α) : ClientThread (Option α) :=
  tryCatch (do return some (← body)) fun _ => pure none

def storeCard (card : ContactCard) (nickname : Option String) :
    ClientThread ContactRow := do
  let existing ← Thread.once (.getContact card.identityId)
  let nickname ← Thread.lift (Sql.text (chooseNickname nickname existing card))
  let now ← piece (nowSeconds environment) quiet_apart.nowSeconds
  let row := cardRow suite account card existing nickname now
  Thread.once (.upsertContact row)
  let stored ← Thread.once (.getContact card.identityId)
  return stored.getD row

def addContact (data : Json) (nickname : Option String) : ClientThread ContactRow := do
  let card ← Thread.lift (Except.rewrap (· = .card)
    (fun raised => clientError ("invalid contact card: " ++ raised.text))
    (ContactCard.fromDict suite data))
  if card.identityId = identityId suite account then
    throw (clientError "cannot add your own card as a contact")
  else storeCard suite environment account card nickname

def requireContact (contactId : String) : ClientThread ContactRow := do
  match ← Thread.once (.getContact contactId) with
  | some contact => return contact
  | none => throw { class_ := .unknownContact, text := contactId }

def saveState (contactId : String) (state : SessionState) : ClientThread Unit :=
  Thread.once (.setContactSession contactId (some state.save))

def ensureOutboundSessions (contact : ContactRow) (state : SessionState) :
    ClientThread SessionState :=
  piece (Client.ensureOutboundSessions suite environment account contact state)
    (quiet_apart.ensureOutboundSessions contact state)

/-- Deliver the same envelope to every device. -/
def fanOut (state : SessionState) (envelope : Json) (kind : String) :
    ClientThread FanOut :=
  piece (Client.fanOut suite environment account state (fun _ => pure envelope) kind)
    (quiet_apart.fanOut state (fun _ => keeps_pure _) kind)

def sendText (contactId text : String) : ClientThread String := do
  let contact ← requireContact contactId
  let state ← ensureOutboundSessions suite environment account contact
    (SessionState.load contact.session)
  let messageId ← piece (newId environment) quiet_apart.newId
  let body := Json.mkObj [("text", .str text)]
  let now ← piece (nowMs environment) quiet_apart.nowMs
  let envelope := Wire.makeEnvelope "text" body messageId now
  let sent ← fanOut suite environment account state envelope "text"
  saveState contactId { state with outbound := sent.sessions }
  piece (recordSentMessage suite environment account contactId messageId "text" body
    sent.copies) (apart_recordSentMessage _ _ _ _ _)
  return messageId

def receiptBody (contact : ContactRow) (envelope : Json) : ClientThread Unit := do
  let reread ← Thread.once (.getContact contact.id)
  let contact := reread.getD contact
  let state ← ensureOutboundSessions suite environment account contact
    (SessionState.load contact.session)
  let sent ← fanOut suite environment account state envelope "receipt"
  saveState contact.id { state with outbound := sent.sessions }

def sendReceipt (contact : ContactRow) (ofId : Json) (kind : String) :
    ClientThread Unit := do
  let receiptId ← piece (newId environment) quiet_apart.newId
  let now ← piece (nowMs environment) quiet_apart.nowMs
  let envelope := Wire.makeEnvelope "receipt"
    (.mkObj [("of", ofId), ("kind", .str kind)]) receiptId now
  let _ ← attempt (receiptBody suite environment account contact envelope)

def receiveMessage (contact : ContactRow) (kind : String) (envelope body : Json) :
    ClientThread Unit := do
  let envelopeId := envelope.getD "id"
  if !envelopeId.truthy then return
  else
    match ← piece (onStore (Store.findByRemoteId (identityId suite account) envelopeId
        (some "received"))) (keeps_onStore (findByRemoteId_after _ _ _)) with
    | some _ => return
    | none =>
        piece (storeReceived suite environment account contact kind envelope body)
          (apart_storeReceived _ _ _ _)
        sendReceipt suite environment account contact envelopeId "delivered"

def processEnvelope (contact : ContactRow) (envelope : Json) : ClientThread Unit := do
  let kind := envelope.getD "type"
  let body := (envelope.getD "body").orElse (.obj [])
  if kind = .str "text" then
    receiveMessage suite environment account contact "text" envelope body
  else if kind = .str "file" then
    receiveMessage suite environment account contact "file" envelope body
  else if kind = .str "receipt" then
    piece (receiveReceipt suite environment account contact body)
      (apart_receiveReceipt _ _)
  else return

def finishInbound (session : Session) (envelope opkId : Json) :
    ClientThread (Option ContactRow) := do
  match ← Thread.lift (provenCard suite session envelope) with
  | none => return none
  | some card =>
      let contact ← storeCard suite environment account card none
      piece (consumeOpk opkId) (apart_consumeOpk opkId)
      return some contact

def receiveKnown (contact : ContactRow) (bucket : SessionState.Bucket)
    (key : String) (session : Session) (blob : Bytes) : ClientThread Unit := do
  let newPrivate ← piece (urandom environment 32) (quiet_apart.urandom 32)
  match (Wire.unsealWire suite newPrivate blob).run session.ratchet with
  | (.error raised, _) =>
      if raised.class_.isWire then return else throw raised
  | (.ok (envelope, _, _), ratchet) =>
      let state := SessionState.load contact.session
      saveState contact.id
        (state.file bucket key (Session.confirm { session with ratchet }))
      processEnvelope suite environment account contact envelope

def receiveFresh (session : Session) (opkId : Json) (blob : Bytes) :
    ClientThread Unit := do
  let newPrivate ← piece (urandom environment 32) (quiet_apart.urandom 32)
  match (Wire.unsealWire suite newPrivate blob).run session.ratchet with
  | (.error raised, _) =>
      if raised.class_.isWire then return else throw raised
  | (.ok (envelope, _, _), ratchet) =>
      match ← finishInbound suite environment account session envelope opkId with
      | none => return
      | some contact =>
          let state := SessionState.load contact.session
          saveState contact.id (state.file .inbound account.deviceId
            { session with ratchet, established := true, sk := none })
          processEnvelope suite environment account contact envelope

/-- The session with a wire id among the listed contacts. -/
def sessionAmong (contacts : List ContactRow) (sid : Bytes) :
    Option (ContactRow × SessionState.Bucket × String × Session) :=
  contacts.findSome? fun contact =>
    ((SessionState.load contact.session).find sid).map fun found => (contact, found)

/-- Read the prekeys and start a session from a handshake header. -/
def beginInbound (wire : Json) : ClientProg (Option (Session × Json)) := do
  let store ← askStore id
  Prog.lift (Client.beginInbound suite account store wire)

variable {suite account} in
theorem apart_beginInbound (wire : Json) : Keeps apart (beginInbound suite account wire) :=
  keeps_bind (keeps_askStore _) fun _ => keeps_lift _

def handleBlob (blob : Bytes) : ClientThread Unit := do
  let wire ← Thread.lift (Wire.parseWire blob)
  let sid ← Thread.lift (do (← wire.item "sid").toBytes)
  let contacts ← Thread.once .listContacts
  match sessionAmong contacts sid with
  | some (contact, bucket, key, session) =>
      receiveKnown suite environment account contact bucket key session blob
  | none =>
      if (wire.get? "init").isNone then return
      else
        match ← piece (beginInbound suite account wire) (apart_beginInbound wire) with
        | none => return
        | some (session, opkId) =>
            receiveFresh suite environment account session opkId blob

/-- The program of a thread that runs alone. -/
abbrev alone {α : Type} (thread : ClientThread α) : ClientProg α :=
  thread.run (ContactAccess.perform suite account)

variable {suite environment account}

theorem alone_piece {α : Type} (program : ClientProg α) (leaves : Keeps apart program) :
    alone suite account (piece program leaves) = program :=
  Thread.run_once _

theorem alone_attempt {α : Type} (body : ClientThread α) :
    alone suite account (attempt body) = Sync.attempt (alone suite account body) := by
  rw [alone, attempt, Thread.run_tryCatch, Thread.run_bind]
  rfl

theorem alone_storeCard (card : ContactCard) (nickname : Option String) :
    alone suite account (storeCard suite environment account card nickname) =
      Client.storeCard suite environment account card nickname := by
  simp only [storeCard, alone, Thread.run_bind, Thread.run_once, Thread.run_lift,
    Thread.run_pure, piece, ContactAccess.perform]
  rfl

theorem alone_addContact (data : Json) (nickname : Option String) :
    alone suite account (addContact suite environment account data nickname) =
      Client.addContact suite environment account data nickname := by
  unfold addContact Client.addContact
  rw [alone, Thread.run_bind]
  congr 1
  funext card
  rw [Thread.run_ite, ← alone_storeCard]
  rfl

theorem alone_requireContact (contactId : String) :
    alone suite account (requireContact contactId) =
      Client.requireContact suite account contactId := by
  unfold requireContact Client.requireContact
  rw [alone, Thread.run_bind, Thread.run_once]
  congr 1
  funext found
  cases found <;> rfl

theorem alone_sendText (contactId text : String) :
    alone suite account (sendText suite environment account contactId text) =
      Client.sendText suite environment account contactId text := by
  unfold sendText Client.sendText
  simp only [ensureOutboundSessions, fanOut, saveState, piece, alone, Thread.run_bind,
    Thread.run_once, Thread.run_pure, ContactAccess.perform]
  rw [← alone_requireContact]
  rfl

theorem alone_receiptBody (contact : ContactRow) (envelope : Json) :
    alone suite account (receiptBody suite environment account contact envelope) =
      Client.receiptBody suite environment account contact envelope := by
  simp only [receiptBody, ensureOutboundSessions, fanOut, saveState, piece, alone,
    Thread.run_bind, Thread.run_once, ContactAccess.perform]
  rfl

theorem alone_sendReceipt (contact : ContactRow) (ofId : Json) (kind : String) :
    alone suite account (sendReceipt suite environment account contact ofId kind) =
      Client.sendReceipt suite environment account contact ofId kind := by
  unfold sendReceipt Client.sendReceipt
  simp only [← alone_receiptBody, ← alone_attempt, piece, alone, Thread.run_bind,
    Thread.run_once, Thread.run_pure, ContactAccess.perform]

theorem alone_receiveMessage (contact : ContactRow) (kind : String)
    (envelope body : Json) :
    alone suite account
        (receiveMessage suite environment account contact kind envelope body) =
      Client.receiveMessage suite environment account contact kind envelope body := by
  unfold receiveMessage Client.receiveMessage
  rw [alone, Thread.run_ite]
  congr 1
  rw [Thread.run_bind]
  simp only [piece, Thread.run_once, ContactAccess.perform]
  congr 1
  funext found
  cases found with
  | some row => rfl
  | none =>
      rw [Thread.run_bind, ← alone_sendReceipt, Thread.run_once]
      rfl

theorem alone_processEnvelope (contact : ContactRow) (envelope : Json) :
    alone suite account (processEnvelope suite environment account contact envelope) =
      Client.processEnvelope suite environment account contact envelope := by
  unfold processEnvelope Client.processEnvelope
  dsimp only
  rw [alone, Thread.run_ite, Thread.run_ite, Thread.run_ite, ← alone_receiveMessage,
    ← alone_receiveMessage, piece, Thread.run_once]
  rfl

theorem alone_finishInbound (session : Session) (envelope opkId : Json) :
    alone suite account (finishInbound suite environment account session envelope opkId) =
      Client.finishInbound suite environment account session envelope opkId := by
  unfold finishInbound Client.finishInbound
  rw [alone, Thread.run_bind]
  congr 1
  funext proven
  cases proven with
  | none => rfl
  | some card =>
      dsimp only
      rw [Thread.run_bind, ← alone_storeCard]
      congr 1
      funext contact
      rw [Thread.run_bind, piece, Thread.run_once]
      rfl

theorem alone_receiveKnown (contact : ContactRow) (bucket : SessionState.Bucket)
    (key : String) (session : Session) (blob : Bytes) :
    alone suite account
        (receiveKnown suite environment account contact bucket key session blob) =
      Client.receiveKnown suite environment account contact bucket key session blob := by
  unfold receiveKnown Client.receiveKnown
  rw [alone, Thread.run_bind, piece, Thread.run_once]
  congr 1
  funext newPrivate
  rcases (Wire.unsealWire suite newPrivate blob).run session.ratchet with
    ⟨result, ratchet⟩
  cases result with
  | error raised =>
      dsimp only
      rw [Thread.run_ite]
      rfl
  | ok opened =>
      dsimp only
      rw [Thread.run_bind, ← alone_processEnvelope, saveState, Thread.run_once]
      rfl

theorem alone_receiveFresh (session : Session) (opkId : Json) (blob : Bytes) :
    alone suite account (receiveFresh suite environment account session opkId blob) =
      Client.receiveFresh suite environment account session opkId blob := by
  unfold receiveFresh Client.receiveFresh
  rw [alone, Thread.run_bind, piece, Thread.run_once]
  congr 1
  funext newPrivate
  rcases (Wire.unsealWire suite newPrivate blob).run session.ratchet with
    ⟨result, ratchet⟩
  cases result with
  | error raised =>
      dsimp only
      rw [Thread.run_ite]
      rfl
  | ok opened =>
      dsimp only
      rw [Thread.run_bind, ← alone_finishInbound]
      congr 1
      funext contact
      cases contact with
      | none => rfl
      | some contact =>
          dsimp only
          rw [Thread.run_bind, ← alone_processEnvelope, saveState, Thread.run_once]
          rfl

theorem alone_handleBlob (blob : Bytes) :
    alone suite account (handleBlob suite environment account blob) =
      Client.handleBlob suite environment account blob := by
  unfold handleBlob Client.handleBlob
  rw [alone, Thread.run_bind]
  congr 1
  funext wire
  rw [Thread.run_bind]
  congr 1
  funext sid
  rw [Thread.run_bind, Thread.run_once]
  funext world
  have known : sessionAmong (world.store.listContacts (identityId suite account)) sid =
      findSession world.store (identityId suite account) sid := rfl
  show (askStore (fun store => store.listContacts (identityId suite account)) >>= _).run
    world = (askStore id >>= _).run world
  rw [run_bind_ok (run_askStore _ world), run_bind_ok (run_askStore id world), known, id]
  cases findSession world.store (identityId suite account) sid with
  | some found =>
      obtain ⟨contact, bucket, key, session⟩ := found
      dsimp only
      rw [← alone_receiveKnown]
  | none =>
      dsimp only
      rw [Thread.run_ite]
      split
      · rfl
      · rw [Thread.run_bind, piece, Thread.run_once]
        refine (congrArg (fun program => Prog.run program world)
          (bind_assoc_eq _ _ _)).trans ?_
        refine (run_bind_ok (run_askStore id world)).trans ?_
        congr 1
        congr 1
        funext started
        cases started with
        | none => rfl
        | some started => exact alone_receiveFresh started.1 started.2 blob

end Threads

end NoKnowledge.Core

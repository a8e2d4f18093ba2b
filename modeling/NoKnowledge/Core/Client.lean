import NoKnowledge.Core.Sync
import NoKnowledge.Crypto.X3dh
import NoKnowledge.Wire.Protocol

/-!
# The client

Contacts, sessions with each device of a contact, sending to all of them, and
the handling of what arrives in the own inbox.

A program that raises leaves the store as it was at that point: the ratchets
that a failing send has advanced are lost with the local variable that held
them, while the blobs it has put are on the wire.
-/

namespace NoKnowledge.Core.Client

open NoKnowledge.Wire NoKnowledge.Core.History NoKnowledge.Core.Sync

variable (suite : Suite) (environment : Environment) (account : Account)

def clientError (text : String) : Raised := { class_ := .client, text }

def identityId : String := account.identity.identityId suite

def card : ContactCard :=
  ContactCard.create suite account.identity account.bundleId account.inbox
    account.relays account.name

/-- The first truthy one of the names a contact may be shown under. -/
def chooseNickname (nickname : Option String) (existing : Option ContactRow)
    (card : ContactCard) : Json :=
  ((nullable nickname).orElse (nullable (existing.bind ContactRow.nickname))).orElse
    (card.name.orElse (.str (String.ofList (card.identityId.toList.take 8))))

def cardRow (card : ContactCard) (existing : Option ContactRow)
    (nickname : Option String) (now : Int) : ContactRow where
  identityId := identityId suite account
  id := card.identityId
  nickname := nickname
  isign := card.isign
  idh := card.idh
  bundleId := some card.bundleId
  inbox := card.inbox.cardView
  relays := card.relays
  session := existing.bind ContactRow.session
  verified := (existing.map ContactRow.verified).getD false
  createdAt := (existing.map ContactRow.createdAt).getD now

/-- File a card; a known contact keeps its sessions and its name. -/
def storeCard (card : ContactCard) (nickname : Option String) :
    ClientProg ContactRow := do
  let existing ← askStore fun store =>
    store.getContact (identityId suite account) card.identityId
  let nickname ← Prog.lift (Sql.text (chooseNickname nickname existing card))
  let row := cardRow suite account card existing nickname (← nowSeconds environment)
  onStore (Store.upsertContact row)
  let stored ← askStore fun store =>
    store.getContact (identityId suite account) card.identityId
  return stored.getD row

/-- Add the contact of a decoded card. -/
def addContact (data : Json) (nickname : Option String) : ClientProg ContactRow := do
  let card ← Prog.lift (Except.rewrap (· = .card)
    (fun raised => clientError ("invalid contact card: " ++ raised.text))
    (ContactCard.fromDict suite data))
  if card.identityId = identityId suite account then
    throw (clientError "cannot add your own card as a contact")
  else storeCard suite environment account card nickname

def requireContact (contactId : String) : ClientProg ContactRow := do
  match ← askStore fun store =>
      store.getContact (identityId suite account) contactId with
  | some contact => return contact
  | none => throw { class_ := .unknownContact, text := contactId }

def saveState (contactId : String) (state : SessionState) : ClientProg Unit :=
  onStore (Store.setContactSession (identityId suite account) contactId
    (some state.save))

/-- The single inbox of a contact card. -/
def legacyEntry (contact : ContactRow) : DeviceEntry where
  deviceId := legacyDevice
  inbox := contact.inbox
  relays := contact.relays
  bundleId := contact.bundleId.getD "None"
  name := contact.nickname.getD ""

def cachedDevices (contact : ContactRow) : List DeviceEntry :=
  match (SessionState.load contact.session).devices with
  | [] => [legacyEntry contact]
  | devices => devices

/-- A session by its wire id across every contact and both tables. -/
def findSession (store : Store) (identityId : String) (sid : Bytes) :
    Option (ContactRow × SessionState.Bucket × String × Session) :=
  (store.listContacts identityId).findSome? fun contact =>
    ((SessionState.load contact.session).find sid).map fun found => (contact, found)

def fetchPeerDeviceList (contact : ContactRow) : ClientProg (Option DeviceList) := do
  let address := deviceListId suite contact.isign contact.idh
  match ← attempt (do
      let urls ← Prog.lift (backendFor account contact.relays)
      fetchBundle environment urls address) with
  | none => return none
  | some payload =>
      match openDeviceList suite payload contact.isign contact.idh with
      | .error raised =>
          if raised.class_ = .deviceList then return none else throw raised
      | .ok listing =>
          if listing.belongsTo contact.id contact.isign contact.idh then
            return some listing
          else return none

/-- The peer's devices, freshly fetched, else the last known ones. -/
def peerDevices (contact : ContactRow) : ClientProg (List DeviceEntry) := do
  match ← fetchPeerDeviceList suite environment account contact with
  | some listing => return listing.devices
  | none => return cachedDevices contact

def fetchDeviceBundle (contact : ContactRow) (device : DeviceEntry) :
    ClientProg PrekeyBundle := do
  match ← attempt (do
      let urls ← Prog.lift (backendFor account device.relays)
      fetchBundle environment urls device.bundleId) with
  | none => throw (clientError "could not fetch prekey bundle")
  | some payload =>
      match PrekeyBundle.fromPublic payload contact.isign contact.idh with
      | .error _ => throw (clientError "invalid prekey bundle")
      | .ok bundle => return bundle

def startSession (contact : ContactRow) (device : DeviceEntry) :
    ClientProg Session := do
  let bundle ← fetchDeviceBundle environment account contact device
  let ephemeral ← urandom environment 32
  let initiation ← Prog.lift
    (X3dh.initiate suite bundle contact.isign contact.idh ephemeral)
  let sid ← urandom environment 16
  let newPrivate ← urandom environment 32
  match Ratchet.initiator suite initiation.sk bundle.spk newPrivate with
  | .error raised => throw raised.raised
  | .ok ratchet =>
      return { sid, ratchet, sk := some initiation.sk
               init := some initiation.initDict, established := false }

/-- One outbound session per device of the peer, creating any missing. -/
def ensureSessions (contact : ContactRow) (devices : List DeviceEntry)
    (outbound : Dict String Session) : ClientProg (Dict String Session) :=
  devices.foldlM (fun outbound device => do
    if outbound.contains device.deviceId then return outbound
    else
      let session ← startSession suite environment account contact device
      return outbound.insert device.deviceId session) outbound

def ensureOutboundSessions (contact : ContactRow) (state : SessionState) :
    ClientProg SessionState := do
  let found ← peerDevices suite environment account contact
  let devices := if found.isEmpty then [legacyEntry contact] else found
  let outbound ← ensureSessions suite environment account contact devices
    state.outbound
  return { state with devices, outbound }

/-- The envelope as sealed: a pending session proves who we are. -/
def handshakeEnvelope (session : Session) (envelope : Json) :
    Except Raised (Json × Option Json) :=
  if session.isPending then
    match session.sk, session.init with
    | some sk, some init =>
        .ok ((envelope.setField "auth"
            (X3dh.buildAuth suite account.identity session.sid init sk)).setField
          "card" (card suite account).signedDict, some init)
    | _, _ => .error (clientError "pending session is missing handshake material")
  else .ok (envelope, none)

/-- Seal an envelope with a session; the session comes back advanced. -/
def sealEnvelope (session : Session) (envelope : Json) (kind : String) :
    ClientProg (Bytes × Session) := do
  let (envelope, init) ← Prog.lift (handshakeEnvelope suite account session envelope)
  let pad ← consult fun tick => fun place => (environment.draw tick place).toNat
  let nonce ← urandom environment nonceSize
  match (Wire.sealWire suite pad nonce envelope session.sid init
      (some (Wire.envelopeMaxSize kind))).run session.ratchet with
  | (.error raised, _) => throw raised
  | (.ok blob, ratchet) => return (blob, { session with ratchet })

def sendEnvelope (device : DeviceEntry) (session : Session) (envelope : Json)
    (kind : String) : ClientProg (Bytes × Session) := do
  let (blob, session) ← sealEnvelope suite environment account session envelope kind
  let urls ← Prog.lift (backendFor account device.relays)
  let capability ← Prog.lift (MailboxCapability.fromCardView device.inbox)
  put environment urls capability blob
  return (blob, session)

/-- The copies made so far and the sessions they have advanced. -/
structure FanOut where
  sessions : Dict String Session
  copies : List (DeviceEntry × Bytes) := []

def sendCopy (envelopeFor : DeviceEntry → ClientProg Json) (kind : String)
    (progress : FanOut) (device : DeviceEntry) : ClientProg FanOut := do
  match progress.sessions.get? device.deviceId with
  | none => throw { class_ := .key, text := device.deviceId }
  | some session =>
      let envelope ← envelopeFor device
      let (blob, session) ←
        sendEnvelope suite environment account device session envelope kind
      return ⟨progress.sessions.insert device.deviceId session,
        progress.copies ++ [(device, blob)]⟩

/-- Deliver one copy per device, sealed with that device's own session. -/
def fanOut (state : SessionState) (envelopeFor : DeviceEntry → ClientProg Json)
    (kind : String) : ClientProg FanOut :=
  state.devices.foldlM (sendCopy suite environment account envelopeFor kind)
    { sessions := state.outbound }

/-- The relay column of an outbox row. -/
def joinRelays (relays : List Json) : Except Raised String := do
  let texts ← relays.mapM fun relay =>
    match relay with
    | .str url => Except.ok url
    | _ => .error { class_ := .type }
  return ",".intercalate texts

def queueOutbox (contactId messageId : String) (copy : DeviceEntry × Bytes) :
    ClientProg Unit := do
  let mailboxId ← Prog.lift (copy.1.inbox.item "id")
  let relay ← Prog.lift (joinRelays copy.1.relays)
  let now ← nowSeconds environment
  let mailboxId ← Prog.lift (Sql.text mailboxId)
  onStore (Store.outboxAdd {
    id := messageId ++ ":" ++ copy.1.deviceId
    identityId := identityId suite account
    contactId, mailboxId, relay
    payload := b64e copy.2, seq := some 1, createdAt := now })

/-- Copy a message we just sent to the devices we approved. -/
def mirrorSent (contactId messageId : String) : ClientProg Unit := do
  match ← askStore fun store => store.getMessage messageId with
  | none => return
  | some row =>
      let _ ← attempt (mirrorMessage suite environment account contactId row)

/-- Record a sent message with its copies and mirror it. -/
def recordSentMessage (contactId messageId kind : String) (body : Json)
    (copies : List (DeviceEntry × Bytes)) : ClientProg Unit := do
  let ts ← nowMs environment
  onStore (Store.addMessage {
    id := .str messageId, identityId := identityId suite account
    contactId := .str contactId, direction := .str "sent", type := .str kind
    body, remoteId := .null, ts, state := .str "sent" })
  copies.forM (queueOutbox suite environment account contactId messageId)
  mirrorSent suite environment account contactId messageId

def sendText (contactId text : String) : ClientProg String := do
  let contact ← requireContact suite account contactId
  let state ← ensureOutboundSessions suite environment account contact
    (SessionState.load contact.session)
  let messageId ← newId environment
  let body := Json.mkObj [("text", .str text)]
  let envelope := Wire.makeEnvelope "text" body messageId (← nowMs environment)
  let sent ← fanOut suite environment account state (fun _ => pure envelope) "text"
  saveState suite account contactId { state with outbound := sent.sessions }
  recordSentMessage suite environment account contactId messageId "text" body
    sent.copies
  return messageId

def chunkSize : Nat := 256 * 1024
def maxFileSize : Nat := 25 * 1024 * 1024

structure Attachment where
  key : Bytes
  /-- Nonce and ciphertext of each chunk. -/
  chunks : List (Bytes × Bytes)
  size : Nat
  sha256 : String

/-- The pieces a file is split into; an empty file is one empty piece. -/
def pieces (data : Bytes) : List Bytes :=
  (List.range ((max data.length 1 + chunkSize - 1) / chunkSize)).map fun index =>
    (data.drop (index * chunkSize)).take chunkSize

def encryptPiece (key piece : Bytes) : ClientProg (Bytes × Bytes) := do
  let nonce ← urandom environment nonceSize
  match suite.aeadEncrypt key nonce piece [] with
  | none => throw { class_ := .aead }
  | some ciphertext => return (nonce, ciphertext)

def encryptAttachment (data : Bytes) : ClientProg Attachment := do
  if maxFileSize < data.length then
    throw {
      class_ := .attachment
      text := "file is " ++ toString data.length ++ " bytes; maximum is " ++
        toString maxFileSize }
  else
    let key ← urandom environment keySize
    let chunks ← (pieces data).mapM (encryptPiece suite environment key)
    return ⟨key, chunks, data.length, Channel.hex (suite.sha256 data)⟩

def manifestDict (attachment : Attachment) (chunkIds : List String) : Json :=
  .mkObj [
    ("key", .str (b64e attachment.key)),
    ("size", .int attachment.size),
    ("sha256", .str attachment.sha256),
    ("chunks", .arr ((chunkIds.zip attachment.chunks).map fun entry =>
      .mkObj [("id", .str entry.1), ("nonce", .str (b64e entry.2.1))]))]

/-- Upload the chunks to one device's mailbox; the body of its copy and the
chunk ids. -/
def uploadFor (attachment : Attachment) (caption name mime : String)
    (device : DeviceEntry) : ClientProg (Json × List String) := do
  let urls ← Prog.lift (backendFor account device.relays)
  let capability ← Prog.lift (MailboxCapability.fromCardView device.inbox)
  let chunkIds ← attachment.chunks.mapM fun chunk =>
    putBlob environment urls capability chunk.2
  let manifest := ((manifestDict attachment chunkIds).setField "name"
    (.str name)).setField "mime" (.str mime)
  return (.mkObj [("caption", .str caption), ("attachment", manifest)], chunkIds)

def uploadAll (attachment : Attachment) (caption name mime : String)
    (devices : List DeviceEntry) : ClientProg (Dict String (Json × List String)) :=
  devices.foldlM (fun bodies device => do
    let body ← uploadFor environment account attachment caption name mime device
    return bodies.insert device.deviceId body) Dict.empty

def keepCopies (chunkIds : List String) (attachment : Attachment) : ClientProg Unit :=
  (chunkIds.zip attachment.chunks).forM fun entry => do
    onStore (Store.putLocalBlob entry.1 entry.2.2 (← time environment))

def bodyFor (bodies : Dict String (Json × List String)) (device : DeviceEntry) :
    Except Raised (Json × List String) :=
  match bodies.get? device.deviceId with
  | some body => .ok body
  | none => .error { class_ := .key, text := device.deviceId }

def fileEnvelope (bodies : Dict String (Json × List String)) (messageId : String)
    (device : DeviceEntry) : ClientProg Json := do
  let (body, _) ← Prog.lift (bodyFor bodies device)
  return Wire.makeEnvelope "file" body messageId (← nowMs environment)

/-- The device whose manifest is kept locally. -/
def firstDevice (devices : List DeviceEntry) : Except Raised DeviceEntry :=
  match devices with
  | device :: _ => .ok device
  | [] => .error { class_ := .value, text := "list index out of range" }

def sendFile (contactId name mime caption : String) (data : Bytes) :
    ClientProg String := do
  let contact ← requireContact suite account contactId
  let state ← ensureOutboundSessions suite environment account contact
    (SessionState.load contact.session)
  let attachment ← encryptAttachment suite environment data
  let bodies ← uploadAll environment account attachment caption name mime state.devices
  let first ← Prog.lift (firstDevice state.devices)
  let (body, chunkIds) ← Prog.lift (bodyFor bodies first)
  keepCopies environment chunkIds attachment
  let messageId ← newId environment
  let sent ← fanOut suite environment account state
    (fileEnvelope environment bodies messageId) "file"
  saveState suite account contactId { state with outbound := sent.sessions }
  recordSentMessage suite environment account contactId messageId "file" body
    sent.copies
  return messageId

/-- Re-read the contact, send the receipt to each of its devices and save. -/
def receiptBody (contact : ContactRow) (envelope : Json) : ClientProg Unit := do
  let reread ← askStore fun store =>
    store.getContact (identityId suite account) contact.id
  let contact := reread.getD contact
  let state ← ensureOutboundSessions suite environment account contact
    (SessionState.load contact.session)
  let sent ← fanOut suite environment account state (fun _ => pure envelope) "receipt"
  saveState suite account contact.id { state with outbound := sent.sessions }

/-- Tell every device of the peer that we opened its copy; best effort. -/
def sendReceipt (contact : ContactRow) (ofId : Json) (kind : String) :
    ClientProg Unit := do
  let receiptId ← newId environment
  let envelope := Wire.makeEnvelope "receipt"
    (.mkObj [("of", ofId), ("kind", .str kind)]) receiptId (← nowMs environment)
  let _ ← attempt (receiptBody suite environment account contact envelope)

def markRead (contactId messageId : String) : ClientProg Unit := do
  let contact ← requireContact suite account contactId
  match ← askStore fun store => store.getMessage messageId with
  | none => throw (clientError ("unknown message: " ++ messageId))
  | some message =>
      let target := match message.remoteId with
        | some remoteId => if remoteId = "" then messageId else remoteId
        | none => messageId
      sendReceipt suite environment account contact (.str target) "read"
      let _ ← attempt (mirrorState suite environment account contactId
        { message with state := some "read" })

/-- Store the message of a text or file envelope. -/
def storeReceived (contact : ContactRow) (kind : String) (envelope body : Json) :
    ClientProg Unit := do
  let messageId ← newId environment
  let now ← nowMs environment
  let ts ← Prog.lift (integerOr (envelope.getD "ts") now)
  onStore (Store.addMessage {
    id := .str messageId, identityId := identityId suite account
    contactId := .str contact.id, direction := .str "received"
    type := .str kind, body, remoteId := envelope.getD "id", ts
    state := .str "received" })

/-- A text or file envelope; one with the id of a stored message is dropped. -/
def receiveMessage (contact : ContactRow) (kind : String) (envelope body : Json) :
    ClientProg Unit := do
  let envelopeId := envelope.getD "id"
  if !envelopeId.truthy then return
  else
    match ← onStore (Store.findByRemoteId (identityId suite account) envelopeId
        (some "received")) with
    | some _ => return
    | none =>
        storeReceived suite environment account contact kind envelope body
        sendReceipt suite environment account contact envelopeId "delivered"

/-- A receipt for one of our messages. -/
def receiveReceipt (contact : ContactRow) (body : Json) : ClientProg Unit := do
  let target ← Prog.lift (body.attempt "of")
  if !target.truthy then return
  else
    let state := (body.getD "kind").orElse (.str "read")
    onStore (Store.updateMessage target state)
    onStore (Store.outboxRemoveForMessage target)
    match ← onStore (Store.queryMessage target) with
    | none => return
    | some row =>
        let _ ← attempt (mirrorState suite environment account contact.id row)

def processEnvelope (contact : ContactRow) (envelope : Json) : ClientProg Unit := do
  let kind := envelope.getD "type"
  let body := (envelope.getD "body").orElse (.obj [])
  if kind = .str "text" then
    receiveMessage suite environment account contact "text" envelope body
  else if kind = .str "file" then
    receiveMessage suite environment account contact "file" envelope body
  else if kind = .str "receipt" then
    receiveReceipt suite environment account contact body
  else return

/-- The one-time prekey a handshake names, if it is still there. -/
def oneTimePrekey (prekeys : Prekeys) (opkId : Json) : Option (Option Bytes) :=
  if opkId = .null then some none
  else (prekeys.opks.get? opkId.toText).map fun entry => some entry.1

/-- Start a session from the handshake header of a wire message. -/
def beginInbound (store : Store) (wire : Json) :
    Except Raised (Option (Session × Json)) := do
  let init ← wire.item "init"
  match store.prekeys with
  | none => return none
  | some prekeys =>
      if (← (← init.item "spk_id").toInt) ≠ prekeys.spkId then return none
      else
        let opkId ← init.attempt "opk_id"
        match oneTimePrekey prekeys opkId with
        | none => return none
        | some opkPrivate =>
            match (do
                let ephemeral ← (← init.item "ek").toBytes
                X3dh.respond suite account.identity.xPrivate prekeys.spkPrivate
                  opkPrivate ephemeral) with
            | .error _ => return none
            | .ok sessionKey =>
                let sid ← (← wire.item "sid").toBytes
                return some ({
                  sid
                  ratchet := Ratchet.responder sessionKey prekeys.spkPrivate
                    prekeys.spkPublic
                  sk := some sessionKey, init := some init
                  established := false }, opkId)

def consumeOpk (opkId : Json) : ClientProg Unit := do
  if opkId = .null then return
  else
    match ← askStore Store.prekeys with
    | none => return
    | some prekeys =>
        if (prekeys.opks.get? opkId.toText).isSome then
          onStore (Store.savePrekeys
            { prekeys with opks := prekeys.opks.erase opkId.toText })
        else return

/-- The card of an accepted sender; `none` when the proof does not hold. -/
def provenCard (session : Session) (envelope : Json) :
    Except Raised (Option ContactCard) := do
  let auth := envelope.getD "auth"
  let cardDict := envelope.getD "card"
  if !auth.isObj || !cardDict.isObj then return none
  else
    match session.sk, session.init with
    | some sk, some init =>
        if !X3dh.verifyAuth suite auth session.sid init sk then return none
        else
          match ContactCard.fromDict suite cardDict with
          | .error raised =>
              if raised.class_ = .card then return none else throw raised
          | .ok card =>
              if .str card.identityId ≠ auth.getD "id" then return none
              else if card.isign ≠ (← (← auth.item "isign").toBytes) then return none
              else return some card
    | _, _ => return none

def finishInbound (session : Session) (envelope opkId : Json) :
    ClientProg (Option ContactRow) := do
  match ← Prog.lift (provenCard suite session envelope) with
  | none => return none
  | some card =>
      let contact ← storeCard suite environment account card none
      consumeOpk opkId
      return some contact

/-- A session the peer has confirmed; its handshake secret goes. -/
def Session.confirm (session : Session) : Session :=
  if session.established then session
  else { session with established := true, sk := none }

/-- A blob of a session we hold. -/
def receiveKnown (contact : ContactRow) (bucket : SessionState.Bucket)
    (key : String) (session : Session) (blob : Bytes) : ClientProg Unit := do
  let newPrivate ← urandom environment 32
  match (Wire.unsealWire suite newPrivate blob).run session.ratchet with
  | (.error raised, _) =>
      if raised.class_.isWire then return else throw raised
  | (.ok (envelope, _, _), ratchet) =>
      let state := SessionState.load contact.session
      saveState suite account contact.id
        (state.file bucket key (Session.confirm { session with ratchet }))
      processEnvelope suite environment account contact envelope

/-- A blob that starts a session. -/
def receiveFresh (session : Session) (opkId : Json) (blob : Bytes) :
    ClientProg Unit := do
  let newPrivate ← urandom environment 32
  match (Wire.unsealWire suite newPrivate blob).run session.ratchet with
  | (.error raised, _) =>
      if raised.class_.isWire then return else throw raised
  | (.ok (envelope, _, _), ratchet) =>
      match ← finishInbound suite environment account session envelope opkId with
      | none => return
      | some contact =>
          let state := SessionState.load contact.session
          saveState suite account contact.id (state.file .inbound account.deviceId
            { session with ratchet, established := true, sk := none })
          processEnvelope suite environment account contact envelope

def handleBlob (blob : Bytes) : ClientProg Unit := do
  let wire ← Prog.lift (Wire.parseWire blob)
  let sid ← Prog.lift (do (← wire.item "sid").toBytes)
  let store ← askStore id
  match findSession store (identityId suite account) sid with
  | some (contact, bucket, key, session) =>
      receiveKnown suite environment account contact bucket key session blob
  | none =>
      if (wire.get? "init").isNone then return
      else
        match ← Prog.lift (beginInbound suite account store wire) with
        | none => return
        | some (session, opkId) =>
            receiveFresh suite environment account session opkId blob

/-- One fetched blob; its exceptions never stop the others. -/
def handleItem (item : FetchedMessage) : ClientProg Unit := do
  let _ ← attempt (
    if Channel.isDeviceRecord item.blob then
      handleRecord suite environment account item.blob
    else handleBlob suite environment account item.blob)

/-- Fetch the inbox, handle every blob and acknowledge. -/
def sync : ClientProg Unit := do
  let fetched ← fetchInbox environment account.relays
  fetched.forM (handleItem suite environment account)
  let maxSeq := fetched.foldl tally Dict.empty
  if maxSeq.entries.isEmpty then return
  else ack environment account.relays maxSeq

end NoKnowledge.Core.Client

import Mathlib.Data.List.Sort
import NoKnowledge.Core.Session
import NoKnowledge.Foundation.Sql
import NoKnowledge.Foundation.Table

/-!
# The local store

The tables of a client and the operations on them.  Values that come from
untyped data are converted on the way into a column, or refused.  What is
sealed at rest is kept in the clear: only its owner can read it.
-/

namespace NoKnowledge

structure ContactRow where
  identityId : String
  id : String
  nickname : Option String
  isign : Bytes
  idh : Bytes
  bundleId : Option String
  inbox : Json
  relays : List Json
  session : Option SessionBlob
  verified : Bool
  createdAt : Int
deriving DecidableEq

def ContactRow.key (row : ContactRow) : String × String := (row.identityId, row.id)

/-- A message as the table holds it. -/
structure Message where
  id : String
  identityId : String
  contactId : String
  direction : String
  type : String
  body : Json
  remoteId : Option String
  ts : Int
  state : Option String
deriving DecidableEq

/-- A message as a caller hands it to the table. -/
structure MessageInput where
  id : Json
  identityId : String
  contactId : Json
  direction : Json
  type : Json
  body : Json
  remoteId : Json
  ts : Int
  state : Json

structure OutboxRow where
  id : String
  identityId : String
  contactId : String
  mailboxId : Option String
  relay : String
  payload : String
  seq : Option Int
  createdAt : Int
deriving DecidableEq

structure LocalBlob where
  chunkId : String
  ciphertext : Bytes
  createdAt : Int
deriving DecidableEq

structure Prekeys where
  spkId : Int
  spkPrivate : Bytes
  spkPublic : Bytes
  /-- One-time prekeys by identifier: private and public half. -/
  opks : Dict String (Bytes × Bytes)
  nextOpkId : Int
deriving DecidableEq

structure Store where
  contacts : Table ContactRow.key := Table.empty
  messages : Table Message.id := Table.empty
  outbox : Table OutboxRow.id := Table.empty
  localBlobs : Table LocalBlob.chunkId := Table.empty
  prekeys : Option Prekeys := none
  /-- Key/value state of the identity. -/
  state : Dict String Json := Dict.empty
deriving DecidableEq

abbrev StoreProg := Prog Store Raised

namespace Store

def constraint : Raised := { class_ := .database }

/-- A value of a column that must not be NULL. -/
def required (value : Json) : Except Raised String := do
  match ← Sql.text value with
  | some text => return text
  | none => throw constraint

def getContact (store : Store) (identityId contactId : String) : Option ContactRow :=
  store.contacts.get? (identityId, contactId)

def listContacts (store : Store) (identityId : String) : List ContactRow :=
  (store.contacts.filter fun row => row.identityId = identityId).rows.insertionSort
    fun left right => left.createdAt ≤ right.createdAt

/-- What an upsert takes over from the new row. -/
def takeOver (new : ContactRow) : Table.Change ContactRow.key where
  apply := fun row =>
    { new with identityId := row.identityId, id := row.id, createdAt := row.createdAt }
  keeps := fun _ => rfl

def upsertContact (row : ContactRow) : StoreProg Unit := do
  let _ ← Prog.lift (Sql.integer row.createdAt)
  modify fun store => { store with contacts := store.contacts.upsert row (takeOver row) }

def deleteContact (identityId contactId : String) : StoreProg Unit :=
  modify fun store =>
    { store with
      contacts := store.contacts.filter fun row => row.key ≠ (identityId, contactId) }

def withSession (session : Option SessionBlob) : Table.Change ContactRow.key where
  apply := fun row => { row with session }
  keeps := fun _ => rfl

def setContactSession (identityId contactId : String) (session : Option SessionBlob) :
    StoreProg Unit :=
  modify fun store =>
    { store with
      contacts := store.contacts.update ((withSession session).at (identityId, contactId)) }

/-- The row a message input is stored as. -/
def messageRow (message : MessageInput) : Except Raised Message := do
  let id ← required message.id
  let contactId ← required message.contactId
  let direction ← required message.direction
  let type ← required message.type
  let remoteId ← Sql.text message.remoteId
  let ts ← Sql.integer message.ts
  let state ← Sql.text message.state
  return { id, identityId := message.identityId, contactId, direction, type
           body := message.body, remoteId, ts, state }

/-- What adding a message with a known id takes over from it. -/
def rewrite (new : Message) : Table.Change Message.id where
  apply := fun row =>
    { row with body := new.body, remoteId := new.remoteId, state := new.state }
  keeps := fun _ => rfl

def insertMessage (messages : Table Message.id) (new : Message) : Table Message.id :=
  messages.upsert new (rewrite new)

def addMessage (message : MessageInput) : StoreProg Unit := do
  let row ← Prog.lift (messageRow message)
  modify fun store => { store with messages := insertMessage store.messages row }

def getMessage (store : Store) (messageId : String) : Option Message :=
  store.messages.get? messageId

/-- A lookup by a value of unknown type. -/
def queryMessage (messageId : Json) : StoreProg (Option Message) := do
  match ← Prog.lift (Sql.text messageId) with
  | none => return none
  | some id => return (← get).getMessage id

/-- Look up a message by the peer-assigned envelope id. -/
def findByRemoteId (identityId : String) (remoteId : Json)
    (direction : Option String) : StoreProg (Option Message) := do
  match ← Prog.lift (Sql.text remoteId) with
  | none => return none
  | some remoteId =>
      return (← get).messages.rows.find? fun row =>
        row.identityId = identityId && row.remoteId = some remoteId &&
          direction.all fun direction => row.direction = direction

def olderFirst (left right : Message) : Prop :=
  left.ts < right.ts ∨ left.ts = right.ts ∧ left.id ≤ right.id

instance (left right : Message) : Decidable (olderFirst left right) :=
  inferInstanceAs (Decidable (_ ∨ _))

/-- Every message of an identity, across contacts. -/
def listAllMessages (store : Store) (identityId : String) : List Message :=
  (store.messages.filter fun row => row.identityId = identityId).rows.insertionSort
    olderFirst

def withState (state : Option String) : Table.Change Message.id where
  apply := fun row => { row with state }
  keeps := fun _ => rfl

def setMessageState (messages : Table Message.id) (messageId : String)
    (state : Option String) : Table Message.id :=
  messages.update ((withState state).at messageId)

def updateMessage (messageId state : Json) : StoreProg Unit := do
  let state ← Prog.lift (Sql.text state)
  match ← Prog.lift (Sql.text messageId) with
  | none => return
  | some id => modify fun store =>
      { store with messages := setMessageState store.messages id state }

def outboxAdd (row : OutboxRow) : StoreProg Unit := do
  let store ← get
  match found : store.outbox.get? row.id with
  | some _ => throw constraint
  | none =>
      if row.mailboxId.isNone then throw constraint
      else set { store with outbox := store.outbox.insert row found }

/-- Whether a row belongs to the message a receipt names: `id = ? OR id LIKE ?`. -/
def outboxMatches (target : Option String) (pattern : String) (row : OutboxRow) :
    Bool :=
  decide (target = some row.id) || Sql.like (Sql.cString pattern) (Sql.cString row.id)

/-- Clear every per-device row of one message. -/
def outboxRemoveForMessage (messageId : Json) : StoreProg Unit := do
  let target ← Prog.lift (Sql.text messageId)
  let pattern := messageId.toText ++ ":%"
  let store ← get
  if Sql.maxPatternBytes < (utf8 pattern).length &&
      store.outbox.rows.any fun row => target ≠ some row.id then
    throw constraint
  else
    set { store with
      outbox := store.outbox.filter fun row => !outboxMatches target pattern row }

def markedSent : Table.Change OutboxRow.id where
  apply := fun row => { row with seq := some 1 }
  keeps := fun _ => rfl

def outboxMarkSent (entryId : String) : StoreProg Unit :=
  modify fun store =>
    { store with outbox := store.outbox.update (markedSent.at entryId) }

def localBlobCapBytes : Nat := 2 * 1024 * 1024 * 1024

def getLocalBlob (store : Store) (chunkId : String) : Option Bytes :=
  (store.localBlobs.get? chunkId).map LocalBlob.ciphertext

def blobBytes (blobs : Table LocalBlob.chunkId) : Nat :=
  (blobs.rows.map fun row => row.ciphertext.length).sum

/-- The chunk that was cached first. -/
def oldestBlob (blobs : Table LocalBlob.chunkId) : Option LocalBlob :=
  (blobs.rows.insertionSort fun left right => left.createdAt ≤ right.createdAt).head?

/-- Drop the oldest chunks, one after the other, until the rest fits. -/
def pruneBlobs (cap : Nat) : Nat → Table LocalBlob.chunkId → Table LocalBlob.chunkId
  | 0, blobs => blobs
  | fuel + 1, blobs =>
      if blobBytes blobs ≤ cap then blobs
      else
        match oldestBlob blobs with
        | none => blobs
        | some oldest =>
            pruneBlobs cap fuel (blobs.filter fun row => row.chunkId ≠ oldest.chunkId)

def pruneLocalBlobs (cap : Nat) : StoreProg Unit :=
  modify fun store =>
    { store with
      localBlobs := pruneBlobs cap store.localBlobs.rows.length store.localBlobs }

def putLocalBlob (chunkId : String) (ciphertext : Bytes) (now : Int) :
    StoreProg Unit := do
  modify fun store =>
    { store with
      localBlobs := store.localBlobs.upsert ⟨chunkId, ciphertext, now⟩ Table.Change.none }
  pruneLocalBlobs localBlobCapBytes

def savePrekeys (prekeys : Prekeys) : StoreProg Unit :=
  modify fun store => { store with prekeys := some prekeys }

def getState (store : Store) (key : String) : Json := (store.state.get? key).getD .null

def setState (key : String) (value : Json) : StoreProg Unit :=
  modify fun store => { store with state := store.state.insert key value }

end Store

end NoKnowledge

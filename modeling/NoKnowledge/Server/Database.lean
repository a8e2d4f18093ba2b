import NoKnowledge.Foundation.Effect
import NoKnowledge.Foundation.Sql

/-!
# The relay's database

The five tables of a relay and the operations on them.  An operation is one
transaction: when its body raises, the tables are those it started from.

Time stamps and the bounds a client sends are integers of any size; binding
one that does not fit 64 bits raises.  Quotas, sizes and sequence numbers
are counts.
-/

namespace NoKnowledge.Server

inductive Failure where
  | mailboxNotFound (mailboxId : String)
  | bundleNotFound (bundleId : String)
  | blobNotFound (chunkId : String)
  | quotaExceeded (mailboxId : String)
  /-- A uniqueness constraint of the schema. -/
  | integrity
  | raised (raised : Raised)
deriving DecidableEq, Repr

structure MailboxRow where
  id : String
  readTokenHash : Bytes
  writeTokenHash : Bytes
  createdAt : Int
  lastSeen : Int
  maxMessages : Nat
  maxBytes : Nat
  nextSeq : Nat
deriving DecidableEq, Repr

structure MessageRow where
  mailboxId : String
  seq : Nat
  ciphertext : Bytes
  createdAt : Int
  size : Nat
deriving DecidableEq, Repr

structure BundleRow where
  bundleId : String
  payload : List (String × Json)
  createdAt : Int
deriving DecidableEq, Repr

structure OneTimeRow where
  id : Nat
  bundleId : String
  opkId : Int
  opk : String
  used : Bool
deriving DecidableEq, Repr

structure BlobRow where
  chunkId : String
  mailboxId : String
  ciphertext : Bytes
  size : Nat
  createdAt : Int
deriving DecidableEq, Repr

/-- Rows stand in the order they were inserted. -/
structure Database where
  mailboxes : List MailboxRow := []
  messages : List MessageRow := []
  bundles : List BundleRow := []
  oneTime : List OneTimeRow := []
  blobs : List BlobRow := []
deriving DecidableEq, Repr

abbrev Transaction := Prog Database Failure

namespace Database

/-- The tables after `initialize` on a new file. -/
def initial : Database := {}

/-- Commit what the body did, or roll all of it back. -/
def transaction {α : Type} (body : Transaction α) : Transaction α := fun database =>
  match body.run database with
  | (.ok value, changed) => (.ok value, changed)
  | (.error failure, _) => (.error failure, database)

def bind {α : Type} (parameter : Except Raised α) : Transaction α :=
  match parameter with
  | .ok value => pure value
  | .error raised => throw (.raised raised)

def selectMailbox (mailboxId : String) : Transaction (Option MailboxRow) := do
  return (← get).mailboxes.find? fun mailbox => mailbox.id = mailboxId

def insertMailbox (row : MailboxRow) : Transaction Unit := do
  if (← get).mailboxes.any fun mailbox => mailbox.id = row.id then
    throw .integrity
  else
    modify fun database =>
      { database with mailboxes := database.mailboxes ++ [row] }

def updateMailbox (mailboxId : String) (change : MailboxRow → MailboxRow) :
    Transaction Unit :=
  modify fun database =>
    { database with
      mailboxes := database.mailboxes.map fun mailbox =>
        if mailbox.id = mailboxId then change mailbox else mailbox }

def deleteMailboxes (selected : MailboxRow → Bool) : Transaction Unit :=
  modify fun database =>
    { database with
      mailboxes := database.mailboxes.filter fun row => !selected row }

def insertMessage (row : MessageRow) : Transaction Unit := do
  if (← get).messages.any fun message =>
      message.mailboxId = row.mailboxId && message.seq = row.seq then
    throw .integrity
  else
    modify fun database =>
      { database with messages := database.messages ++ [row] }

/-- Delete messages and count them. -/
def deleteMessages (selected : MessageRow → Bool) : Transaction Nat := do
  let count := (← get).messages.countP selected
  modify fun database =>
    { database with
      messages := database.messages.filter fun row => !selected row }
  return count

def insertBlob (row : BlobRow) : Transaction Unit := do
  if (← get).blobs.any fun blob => blob.chunkId = row.chunkId then
    throw .integrity
  else
    modify fun database => { database with blobs := database.blobs ++ [row] }

/-- Delete attachment chunks and count them. -/
def deleteBlobs (selected : BlobRow → Bool) : Transaction Nat := do
  let count := (← get).blobs.countP selected
  modify fun database =>
    { database with blobs := database.blobs.filter fun row => !selected row }
  return count

def createMailbox (mailboxId : String) (readTokenHash writeTokenHash : Bytes)
    (now : Int) (maxMessages maxBytes : Nat) : Transaction Unit := do
  let now ← bind (Sql.integer now)
  let _ ← bind (Sql.integer maxMessages)
  let _ ← bind (Sql.integer maxBytes)
  insertMailbox
    { id := mailboxId, readTokenHash, writeTokenHash
      createdAt := now, lastSeen := now, maxMessages, maxBytes, nextSeq := 1 }

def getMailbox (mailboxId : String) : Transaction (Option MailboxRow) :=
  selectMailbox mailboxId

def deleteMailbox (mailboxId : String) : Transaction (Nat × Nat) :=
  transaction do
    let messages ← deleteMessages fun row => row.mailboxId = mailboxId
    let blobs ← deleteBlobs fun row => row.mailboxId = mailboxId
    deleteMailboxes fun row => row.id = mailboxId
    return (messages, blobs)

def touchMailbox (mailboxId : String) (now : Int) : Transaction Unit := do
  let now ← bind (Sql.integer now)
  updateMailbox mailboxId fun mailbox => { mailbox with lastSeen := now }

def messagesOf (database : Database) (mailboxId : String) : List MessageRow :=
  database.messages.filter fun row => row.mailboxId = mailboxId

def blobsOf (database : Database) (mailboxId : String) : List BlobRow :=
  database.blobs.filter fun row => row.mailboxId = mailboxId

/-- Bytes of the messages and attachment chunks of a mailbox. -/
def bytesOf (database : Database) (mailboxId : String) : Nat :=
  ((database.messagesOf mailboxId).map MessageRow.size).sum +
    ((database.blobsOf mailboxId).map BlobRow.size).sum

def usage (mailboxId : String) : Transaction (Nat × Nat) := do
  let database ← get
  return ((database.messagesOf mailboxId).length, database.bytesOf mailboxId)

def storeMessage (mailbox : MailboxRow) (ciphertext : Bytes) (now : Int) :
    Transaction Nat := do
  let seq := mailbox.nextSeq
  let now ← bind (Sql.integer now)
  insertMessage
    { mailboxId := mailbox.id, seq, ciphertext
      createdAt := now, size := ciphertext.length }
  let _ ← bind (Sql.integer (seq + 1 : Nat))
  updateMailbox mailbox.id fun mailbox =>
    { mailbox with lastSeen := now, nextSeq := seq + 1 }
  return seq

def putMessage (mailboxId : String) (ciphertext : Bytes) (now : Int) :
    Transaction Nat :=
  transaction do
    match ← selectMailbox mailboxId with
    | none => throw (.mailboxNotFound mailboxId)
    | some mailbox =>
        let (count, used) ← usage mailboxId
        if count ≥ mailbox.maxMessages ∨
            used + ciphertext.length > mailbox.maxBytes then
          throw (.quotaExceeded mailboxId)
        else storeMessage mailbox ciphertext now

/-- `LIMIT limit`: a negative limit is no limit. -/
def limited {α : Type} (limit : Int) (rows : List α) : List α :=
  if limit < 0 then rows else rows.take limit.toNat

def getMessages (mailboxId : String) (afterSeq limit : Int) :
    Transaction (List MessageRow) := do
  let afterSeq ← bind (Sql.integer afterSeq)
  let limit ← bind (Sql.integer limit)
  let database ← get
  let newer := (database.messagesOf mailboxId).filter fun row => afterSeq < row.seq
  return limited limit (newer.mergeSort fun left right => left.seq ≤ right.seq)

def ackMessages (mailboxId : String) (uptoSeq : Int) : Transaction Nat :=
  transaction do
    let uptoSeq ← bind (Sql.integer uptoSeq)
    deleteMessages fun row => row.mailboxId = mailboxId && row.seq ≤ uptoSeq

def storeBundle (bundleId : String) (payload : List (String × Json))
    (now : Int) : Transaction Unit :=
  modify fun database =>
    if database.bundles.any fun row => row.bundleId = bundleId then
      { database with
        bundles := database.bundles.map fun row =>
          if row.bundleId = bundleId then { row with payload } else row }
    else
      { database with
        bundles := database.bundles ++ [{ bundleId, payload, createdAt := now }] }

/-- `INSERT OR IGNORE`: a known one-time prekey keeps its row, and a NULL key
is not inserted. -/
def insertOneTime (bundleId : String) (opkId : Int) (opk : Option String) :
    Transaction Unit :=
  modify fun database =>
    match opk with
    | none => database
    | some opk =>
        if database.oneTime.any fun row =>
            row.bundleId = bundleId && row.opkId = opkId then database
        else
          { database with
            oneTime := database.oneTime ++
              [{ id := database.oneTime.length, bundleId, opkId, opk, used := false }] }

/-- The identifier and the key of one entry of the published list. -/
def readOneTime (entry : Json) : Except Raised (Int × Option String) := do
  let opkId ← (← entry.item "opk_id").toInt
  let opk ← entry.item "opk"
  let opkId ← Sql.integer opkId
  let opk ← Sql.text opk
  return (opkId, opk)

def storeOneTime (bundleId : String) (entry : Json) : Transaction Unit := do
  let (opkId, opk) ← bind (readOneTime entry)
  insertOneTime bundleId opkId opk

def publishBundle (bundleId : String) (payload : List (String × Json))
    (opks : List Json) (now : Int) : Transaction Unit :=
  transaction do
    let now ← bind (Sql.integer now)
    storeBundle bundleId payload now
    opks.forM (storeOneTime bundleId)

/-- The one-time prekey the next fetch hands out. -/
def nextOneTime (database : Database) (bundleId : String) : Option OneTimeRow :=
  database.oneTime.find? fun row => row.bundleId = bundleId && !row.used

def markUsed (id : Nat) : Transaction Unit :=
  modify fun database =>
    { database with
      oneTime := database.oneTime.map fun row =>
        if row.id = id then { row with used := true } else row }

def OneTimeRow.published (row : OneTimeRow) : Json :=
  .mkObj [("opk_id", .int row.opkId), ("opk", .str row.opk)]

/-- A bundle with at most one unused one-time prekey, which is consumed. -/
def fetchBundle (bundleId : String) : Transaction Json :=
  transaction do
    let database ← get
    match database.bundles.find? fun row => row.bundleId = bundleId with
    | none => throw (.bundleNotFound bundleId)
    | some row =>
        match database.nextOneTime bundleId with
        | none => return (Json.obj row.payload).setField "opks" (.arr [])
        | some opk =>
            markUsed opk.id
            return (Json.obj row.payload).setField "opks"
              (.arr [OneTimeRow.published opk])

def putBlob (chunkId mailboxId : String) (ciphertext : Bytes) (now : Int) :
    Transaction Unit :=
  transaction do
    match ← selectMailbox mailboxId with
    | none => throw (.mailboxNotFound mailboxId)
    | some mailbox =>
        let (_, used) ← usage mailboxId
        if used + ciphertext.length > mailbox.maxBytes then
          throw (.quotaExceeded mailboxId)
        else
          let now ← bind (Sql.integer now)
          insertBlob
            { chunkId, mailboxId, ciphertext
              size := ciphertext.length, createdAt := now }

def getBlob (chunkId : String) : Transaction BlobRow := do
  match (← get).blobs.find? fun row => row.chunkId = chunkId with
  | none => throw (.blobNotFound chunkId)
  | some row => return row

def deleteBlob (chunkId : String) : Transaction Unit := do
  let _ ← deleteBlobs fun row => row.chunkId = chunkId

structure Removed where
  mailboxes : Nat
  messages : Nat
  blobs : Nat
deriving DecidableEq, Repr

/-- Remove one idle mailbox with everything stored in it. -/
def removeMailbox (removed : Removed) (mailboxId : String) :
    Transaction Removed := do
  let messages ← deleteMessages fun row => row.mailboxId = mailboxId
  let blobs ← deleteBlobs fun row => row.mailboxId = mailboxId
  deleteMailboxes fun row => row.id = mailboxId
  return { removed with
    messages := removed.messages + messages, blobs := removed.blobs + blobs }

def housekeeping (now mailboxTtl blobTtl : Int) : Transaction Removed :=
  transaction do
    let strayBlobCutoff := now - blobTtl
    let idleCutoff ← bind (Sql.integer (now - mailboxTtl))
    let stale := ((← get).mailboxes.filter fun row => row.lastSeen < idleCutoff).map
      MailboxRow.id
    let removed ← stale.foldlM removeMailbox ⟨stale.length, 0, 0⟩
    let strayBlobCutoff ← bind (Sql.integer strayBlobCutoff)
    let mailboxes := (← get).mailboxes
    let stray ← deleteBlobs fun row =>
      row.createdAt < strayBlobCutoff &&
        !mailboxes.any fun mailbox => mailbox.id = row.mailboxId
    return { removed with blobs := removed.blobs + stray }

end Database

end NoKnowledge.Server

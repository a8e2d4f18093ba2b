import NoKnowledge.Core.World

/-!
# History bundles

Collection of what a device knows, and the merge of such a collection into a
store.  The same merge serves import files, the items of a back-fill and
mirrored messages.
-/

namespace NoKnowledge.Core.History

open NoKnowledge.Wire

def historyVersion : Int := 1

def defaultBudgetBytes : Int := 100 * 1024 * 1024

/-- Message states, ranked so that a merge can never resurrect "unread". -/
def stateRank : Option String → Nat
  | some "delivered" => 1
  | some "read" => 2
  | _ => 0

/-- The rank of a state of unknown type; a container cannot be looked up. -/
def rankOf : Json → Except Raised Nat
  | .str state => .ok (stateRank (some state))
  | .arr _ | .obj _ => .error { class_ := .type }
  | _ => .ok 0

def nullable (value : Option String) : Json := (value.map Json.str).getD .null

def contactItem (contact : ContactRow) : Json :=
  .mkObj [
    ("id", .str contact.id),
    ("isign", .str (b64e contact.isign)),
    ("idh", .str (b64e contact.idh)),
    ("bundle", nullable contact.bundleId),
    ("inbox", contact.inbox.orElse (.obj [])),
    ("relays", .arr contact.relays),
    ("nickname", nullable contact.nickname),
    ("verified", .bool contact.verified),
    ("created_at", .int contact.createdAt)]

def messageFields (contactId : String) (message : Message) : List (String × Json) :=
  [("contact_id", .str contactId),
   ("direction", .str message.direction),
   ("type", .str message.type),
   ("body", message.body),
   ("remote_id", nullable message.remoteId),
   ("ts", .int message.ts),
   ("state", nullable message.state)]

def messageItem (contactId : String) (message : Message) : Json :=
  .mkObj (messageFields contactId message)

variable (suite : Suite)

def bodyDigest (body : Json) : String :=
  let raw := canonicalJson (if body = .null then .obj [] else body)
  String.ofList ((Channel.hex (suite.sha256 raw)).toList.take 16)

/-- A part of a dictionary key: numbers compare across their types, containers
cannot be hashed. -/
def hashed : Json → Except Raised Json
  | .bool value => .ok (.int (if value then 1 else 0))
  | .float value =>
      match value.truncate with
      | some number => .ok (if value.isWhole then .int number else .float value)
      | none => .ok (.float value)
  | .arr _ | .obj _ => .error { class_ := .type }
  | other => .ok other

/-- Identity of a message item for deduplication: the sender's envelope id, or
else who it was with, when, and what it said. -/
def messageKey (item : Json) : Except Raised MessageKey := do
  let contactId ← hashed (← item.attempt "contact_id")
  let direction ← hashed (← item.attempt "direction")
  let remoteId ← item.attempt "remote_id"
  if remoteId.truthy then return .remote contactId direction remoteId.toText
  else
    let ts ← ((← item.attempt "ts").orElse (.int 0)).toInt
    return .own contactId direction ts (← item.attempt "type").toText
      (bodyDigest suite (← item.attempt "body"))

/-- The key of a stored message. -/
def keyOf (message : Message) : MessageKey :=
  match message.remoteId with
  | some remoteId =>
      if remoteId ≠ "" then
        .remote (.str message.contactId) (.str message.direction) remoteId
      else
        .own (.str message.contactId) (.str message.direction) message.ts message.type
          (bodyDigest suite message.body)
  | none =>
      .own (.str message.contactId) (.str message.direction) message.ts message.type
        (bodyDigest suite message.body)

/-- Every message we already hold, by its key. -/
def messageIndex (store : Store) (identityId : String) : MessageIndex :=
  (store.listAllMessages identityId).foldl
    (fun known message => known.insert (keyOf suite message) message) Dict.empty

structure Counts where
  contacts : Nat := 0
  messages : Nat := 0
  updates : Nat := 0
  chunks : Nat := 0
deriving DecidableEq, Repr

variable (environment : Environment) (account : Account)

/-- The row a contact item is stored as. -/
def contactRow (identityId : String) (item : Json) (contactId : String)
    (now : Int) : Except Raised ContactRow := do
  let fields ← Except.rewrap ErrorClass.isMalformed
    (fun _ => { class_ := .history, text := "malformed contact in history bundle" }) do
      let isign ← (Json.str (← item.item "isign").toText).toBytes
      let idh ← (Json.str (← item.item "idh").toText).toBytes
      let relays ← ((item.getD "relays").orElse (.arr [])).elements
      let createdAt ← ((item.getD "created_at").orElse (.int now)).toInt
      return (isign, idh, relays, createdAt)
  let nickname ← Sql.text (item.getD "nickname")
  let bundleId ← Sql.text (item.getD "bundle")
  return {
    identityId, id := contactId, nickname
    isign := fields.1, idh := fields.2.1, bundleId
    inbox := (item.getD "inbox").orElse (.obj [])
    relays := fields.2.2.1, session := none
    verified := (item.getD "verified").truthy
    createdAt := if fields.2.2.2 = 0 then now else fields.2.2.2 }

/-- A contact we do not know yet; routing of a known one is kept as it is. -/
def mergeContact (item : Json) : ClientProg Bool := do
  let id ← Prog.lift (item.attempt "id")
  let contactId := (id.orElse (.str "")).toText
  if contactId = "" then return false
  else
    let identityId := account.identity.identityId suite
    match ← askStore fun store => store.getContact identityId contactId with
    | some _ => return false
    | none =>
        let row ← Prog.lift
          (contactRow identityId item contactId (← nowSeconds environment))
        onStore (Store.upsertContact row)
        return true

def mergeContacts (items : List Json) (counts : Counts) : ClientProg Counts :=
  items.foldlM (fun counts item => do
    if ← mergeContact suite environment account item then
      return { counts with contacts := counts.contacts + 1 }
    else return counts) counts

/-- The table input of a message item that is not known yet. -/
def inputOf (identityId : String) (item : Json) (messageId : String) (ts : Int) :
    MessageInput where
  id := .str messageId
  identityId := identityId
  contactId := item.getD "contact_id"
  direction := (item.getD "direction").orElse (.str "received")
  type := (item.getD "type").orElse (.str "text")
  body := item.getD "body"
  remoteId := item.getD "remote_id"
  ts := ts
  state := item.getD "state"

/-- The identifier of a merged message: the one it brings, or a new one. -/
def mergedId (item : Json) : ClientProg String := do
  let id := item.getD "id"
  if id.truthy then return id.toText
  else return Channel.hex (← urandom environment 16)

/-- Store a message item whose key is new. -/
def insertItem (item : Json) (key : MessageKey) (known : MessageIndex)
    (counts : Counts) : ClientProg (MessageIndex × Counts) := do
  let messageId ← mergedId environment item
  let ts ← Prog.lift ((item.getD "ts").orElse (.int 0)).toInt
  onStore (Store.addMessage
    (inputOf (account.identity.identityId suite) item messageId ts))
  match ← askStore fun store => store.getMessage messageId with
  | none => return (known, counts)
  | some row =>
      return (known.insert key row, { counts with messages := counts.messages + 1 })

/-- Raise the state of a known message, never lower it. -/
def raiseState (item : Json) (existing : Message) (counts : Counts) :
    ClientProg Counts := do
  let incoming := item.getD "state"
  if stateRank existing.state < (← Prog.lift (rankOf incoming)) then
    onStore (Store.updateMessage (.str existing.id) incoming)
    return { counts with updates := counts.updates + 1 }
  else return counts

/-- One item; one without a contact is skipped. -/
def mergeMessage (progress : MessageIndex × Counts) (item : Json) :
    ClientProg (MessageIndex × Counts) := do
  let contactId ← Prog.lift (item.attempt "contact_id")
  if !contactId.truthy then return progress
  else
    let key ← Prog.lift (messageKey suite item)
    match progress.1.get? key with
    | some existing =>
        return (progress.1, ← raiseState item existing progress.2)
    | none => insertItem suite environment account item key progress.1 progress.2

def mergeMessages (items : List Json) (known : MessageIndex) (counts : Counts) :
    ClientProg (MessageIndex × Counts) :=
  items.foldlM (mergeMessage suite environment account) (known, counts)

/-- Merge message items against an index of what is stored. -/
def mergeIndexed (items : List Json) (counts : Counts) : ClientProg Counts := do
  let known ← askStore fun store =>
    messageIndex suite store (account.identity.identityId suite)
  let (_, counts) ← mergeMessages suite environment account items known counts
  return counts

def mergeChunk (counts : Counts) (chunk : Json) : ClientProg Counts := do
  let id ← Prog.lift (chunk.attempt "id")
  let chunkId := (id.orElse (.str "")).toText
  if chunkId = "" then return counts
  else
    let ciphertext ← Prog.lift (Except.rewrap (fun _ => true)
      (fun _ => { class_ := .history
                  text := "malformed attachment chunk in history bundle" })
      (do (Json.str (← chunk.item "ct").toText).toBytes))
    if ← askStore fun store => (store.getLocalBlob chunkId).isSome then return counts
    else
      onStore (Store.putLocalBlob chunkId ciphertext (← time environment))
      return { counts with chunks := counts.chunks + 1 }

def mergeChunks (items : List Json) (counts : Counts) : ClientProg Counts :=
  items.foldlM (mergeChunk environment) counts

/-- `items or []`, iterated. -/
def itemsOf (bundle : Json) (field : String) : Except Raised (List Json) := do
  ((← bundle.attempt field).orElse (.arr [])).elements

/-- Merge a bundle into the local store. -/
def mergeBundle (bundle : Json) : ClientProg Counts := do
  let contacts ← Prog.lift (itemsOf bundle "contacts")
  let counts ← mergeContacts suite environment account contacts {}
  let messages ← Prog.lift (itemsOf bundle "messages")
  let counts ← mergeIndexed suite environment account messages counts
  let chunks ← Prog.lift (itemsOf bundle "chunks")
  mergeChunks environment chunks counts

def bundleFields : List String := ["contacts", "messages", "chunks"]

def isArr : Json → Bool
  | .arr _ => true
  | _ => false

/-- The checks a bundle passes before it is merged. -/
def decodeBundle (bundle : Json) : Except Raised Json := do
  refuse (!bundle.isObj || !(bundle.getD "v").equalsInt historyVersion)
    { class_ := .history, text := "unsupported history bundle version" }
  match bundleFields.find? fun field => !isArr (bundle.getD field) with
  | some field =>
      throw { class_ := .history, text := "history bundle is missing " ++ field }
  | none => return bundle

/-- Merge the bundle of an import file, once the file has been opened. -/
def importHistory (bundle : Json) : ClientProg Counts := do
  mergeBundle suite environment account (← Prog.lift (decodeBundle bundle))

structure Bundle where
  contacts : List Json
  messages : List Json
  chunks : List Json
  skipped : List Json

/-- Chunks collected so far: those seen, their bytes, taken and left out. -/
structure Collected where
  seen : List String := []
  used : Nat := 0
  chunks : List Json := []
  skipped : List Json := []

def skip (collected : Collected) (chunkId reason : String) : Collected :=
  { collected with
    seen := chunkId :: collected.seen
    skipped := collected.skipped ++
      [.mkObj [("id", .str chunkId), ("reason", .str reason)]] }

/-- One chunk reference of an attachment. -/
def collectChunk (store : Store) (budget : Int) (collected : Collected)
    (entry : Json) : Except Raised Collected := do
  let chunkId := (← entry.attempt "id").toText
  if chunkId = "" || collected.seen.contains chunkId then return collected
  else
    match store.getLocalBlob chunkId with
    | none => return skip collected chunkId "not held here"
    | some ciphertext =>
        if budget < collected.used + ciphertext.length then
          return skip collected chunkId "over budget"
        else
          return { collected with
            seen := chunkId :: collected.seen
            used := collected.used + ciphertext.length
            chunks := collected.chunks ++
              [.mkObj [("id", .str chunkId), ("ct", .str (b64e ciphertext))]] }

/-- The chunk references of a message item. -/
def chunkEntries (item : Json) : Except Raised (List Json) := do
  let body := (item.getD "body").orElse (.obj [])
  let attachment := (← body.attempt "attachment").orElse (.obj [])
  ((← attachment.attempt "chunks").orElse (.arr [])).elements

def collectItem (store : Store) (budget : Int) (collected : Collected)
    (item : Json) : Except Raised Collected := do
  (← chunkEntries item).foldlM (collectChunk store budget) collected

/-- The messages of a window, as items. -/
def windowItems (store : Store) (identityId : String) (since until_ : Int) :
    List Json :=
  ((store.listAllMessages identityId).filter fun message =>
    since ≤ message.ts && message.ts ≤ until_).map fun message =>
      messageItem message.contactId message

/-- Collect the history of a window; chunks are added in order until the budget
is reached. -/
def buildBundle (store : Store) (identityId : String) (since until_ budget : Int) :
    Except Raised Bundle := do
  let contacts := (store.listContacts identityId).map contactItem
  let messages := windowItems store identityId since until_
  let collected ← messages.foldlM (collectItem store budget) {}
  return ⟨contacts, messages, collected.chunks, collected.skipped⟩

end NoKnowledge.Core.History

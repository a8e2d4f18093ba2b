import NoKnowledge.Core.History

/-!
# Device sync

Approvals, live mirroring and history back-fill between the devices of one
account, over the sealed device channel.
-/

namespace NoKnowledge.Core.Sync

open NoKnowledge.Core.History

def deviceKeysState : String := "device_keys"
def approvalsState : String := "sync_approvals"
def requestedState : String := "sync_requested"
def incomingState : String := "sync_incoming"
def requestsState : String := "sync_requests"
def seenState : String := "sync_seen"

def maxSeenTransfers : Nat := 200

/-- Sibling key records are cached for a day, in microseconds. -/
def siblingKeysMaxAge : Int := 24 * 3600 * 1000000

/-- The own device list is cached for five minutes. -/
def deviceListMaxAge : Int := 300 * 1000000

def unavailable (text : String) : Raised := { class_ := .sync, text }

variable (suite : Suite) (environment : Environment) (account : Account)

/-- This device's own signing and agreement keys, generated on first use. -/
def ensureDeviceKeys : ClientProg (Bytes × Bytes) := do
  let stored ← askStore fun store => store.getState deviceKeysState
  if (stored.getD "sdev").truthy && (stored.getD "sagree").truthy then
    return (← Prog.lift (stored.getD "sdev").toBytes,
      ← Prog.lift (stored.getD "sagree").toBytes)
  else
    let sdevPrivate ← urandom environment 32
    let sagreePrivate ← urandom environment 32
    onStore (Store.setState deviceKeysState (.mkObj [
      ("sdev", .str (b64e sdevPrivate)), ("sagree", .str (b64e sagreePrivate))]))
    return (sdevPrivate, sagreePrivate)

/-- A fetched key record, before the checks on whose it is. -/
def openDeviceKeys (device : DeviceEntry) : ClientProg DeviceKeys := do
  let edPublic := account.identity.edPublic suite
  let xPublic := account.identity.xPublic suite
  let urls ← Prog.lift (backendFor account device.relays)
  let payload ← fetchBundle environment urls
    (deviceKeysId suite edPublic xPublic device.deviceId)
  let opened ← Prog.lift (openSignedPayload suite payload edPublic xPublic)
  Prog.lift (DeviceKeys.fromDict suite opened)

def cacheDeviceKeys (deviceId : String) (record : DeviceKeys) (now : Int) :
    ClientProg Unit :=
  modify fun world =>
    { world with siblingKeys := world.siblingKeys.insert deviceId (record, now) }

/-- Run a program whose exceptions are swallowed. -/
def attempt {α : Type} (body : ClientProg α) : ClientProg (Option α) :=
  tryCatch (do return some (← body)) fun _ => return none

/-- Another device's key record, cached in memory for a day. -/
def fetchDeviceKeys (device : DeviceEntry) : ClientProg (Option DeviceKeys) := do
  let entry := (← get).siblingKeys.get? device.deviceId
  let now ← time environment
  match entry.filter fun entry => now - entry.2 < siblingKeysMaxAge with
  | some (record, _) => return some record
  | none =>
      match ← attempt (openDeviceKeys suite environment account device) with
      | none => return entry.map Prod.fst
      | some record =>
          if record.deviceId ≠ device.deviceId then return none
          else if !record.belongsTo (account.identity.identityId suite)
              (account.identity.edPublic suite) (account.identity.xPublic suite) then
            return none
          else
            cacheDeviceKeys device.deviceId record now
            return some record

/-- The account's device list as a relay serves it. -/
def fetchOwnDeviceList : ClientProg (Option DeviceList) := do
  let edPublic := account.identity.edPublic suite
  let xPublic := account.identity.xPublic suite
  match ← attempt (fetchBundle environment account.relays
      (deviceListId suite edPublic xPublic)) with
  | none => return none
  | some payload =>
      match openDeviceList suite payload edPublic xPublic with
      | .error raised =>
          if raised.class_ = .deviceList then return none else throw raised
      | .ok listing =>
          if listing.belongsTo (account.identity.identityId suite) edPublic xPublic then
            return some listing
          else return none

def cacheDeviceList (listing : DeviceList) (now : Int) : ClientProg Unit :=
  modify fun world => { world with deviceList := some listing, deviceListTs := now }

/-- This account's device list, fetched again when the cached one is too old. -/
def ownDeviceList (maxAge : Int) : ClientProg (Option DeviceList) := do
  let world ← get
  let now ← time environment
  if world.deviceList.isSome && now - world.deviceListTs < maxAge then
    return world.deviceList
  else
    match ← fetchOwnDeviceList suite environment account with
    | some listing =>
        cacheDeviceList listing (← time environment)
        return some listing
    | none => return (← get).deviceList

def listedDevices (fresh : Bool) : ClientProg (List DeviceEntry) := do
  let listing ← ownDeviceList suite environment account
    (if fresh then 0 else deviceListMaxAge)
  return (listing.map DeviceList.devices).getD []

/-- Every other device of this account, from our own signed list. -/
def siblingDevices : ClientProg (List DeviceEntry) := do
  return (← listedDevices suite environment account false).filter fun device =>
    device.deviceId ≠ account.deviceId

def deviceById (deviceId : String) (fresh : Bool) : ClientProg (Option DeviceEntry) := do
  return (← listedDevices suite environment account fresh).find? fun device =>
    device.deviceId = deviceId

/-- Find a device, fetching the list again if the cached one does not have it. -/
def locateDevice (deviceId : String) : ClientProg (Option DeviceEntry) := do
  match ← deviceById suite environment account deviceId false with
  | some device => return some device
  | none => deviceById suite environment account deviceId true

/-- `value or {}` of a stored object. -/
def stateOrEmpty (store : Store) (key : String) : Json :=
  (store.getState key).orElse (.obj [])

def approvals : ClientProg Json := askStore fun store => stateOrEmpty store approvalsState

/-- The devices the approval table names. -/
def approvedIn (store : Store) (deviceId : String) : Bool :=
  ((stateOrEmpty store approvalsState).get? deviceId).isSome

/-- `int(value or default)` -/
def integerOr (value : Json) (default : Int) : Except Raised Int :=
  (value.orElse (.int default)).toInt

/-- Remember that `deviceId` is approved for a range. -/
def markApproved (deviceId transfer : String) (since until_ : Json) :
    ClientProg Unit := do
  let value ← approvals
  let since ← Prog.lift (integerOr since 0)
  let until_ ← Prog.lift (integerOr until_ (← nowMs environment))
  let entry := Json.mkObj [
    ("transfer", .str transfer), ("since", .int since), ("until", .int until_),
    ("ts", .int (← nowMs environment))]
  onStore (Store.setState approvalsState (value.setField deviceId entry))

def revokeApproval (deviceId : String) : ClientProg Unit := do
  let value ← approvals
  onStore (Store.setState approvalsState (value.eraseField deviceId))

/-- `value in list` for a text in an untyped list. -/
def listed (value : Json) (text : String) : Bool :=
  match value with
  | .arr items => items.contains (.str text)
  | _ => false

def appended (value : Json) (text : String) : List Json :=
  match value with
  | .arr items => items ++ [.str text]
  | _ => [.str text]

/-- Record a transfer id; false when it has been handled already. -/
def markSeen (transfer : String) : ClientProg Bool := do
  let seen ← askStore fun store => store.getState seenState
  if listed seen transfer then return false
  else
    let seen := appended seen transfer
    onStore (Store.setState seenState
      (.arr (seen.drop (seen.length - maxSeenTransfers))))
    return true

/-- Remember that a sibling asked for history and is waiting for a human. -/
def incomingRequest (deviceId transfer : String) (since : Json) : ClientProg Unit := do
  let pending ← askStore fun store => stateOrEmpty store requestsState
  let since ← Prog.lift (integerOr since 0)
  let entry := Json.mkObj [
    ("transfer", .str transfer), ("since", .int since),
    ("ts", .int (← nowMs environment))]
  onStore (Store.setState requestsState (pending.setField deviceId entry))

def newTransferId : ClientProg String := do return b64e (← urandom environment 16)

def recordSent (record : SentRecord) : ClientProg Unit :=
  modify fun world => { world with records := world.records ++ [record] }

def writeRecord (device : DeviceEntry) (kind : Nat) (plaintext : Bytes)
    (transfer : String) (seq : Int) (extra : Channel.ExtraFields) :
    ClientProg Unit := do
  let (sdevPrivate, _) ← ensureDeviceKeys environment
  match ← fetchDeviceKeys suite environment account device with
  | none => throw (unavailable
      ("device " ++ device.deviceId ++ " has not published sync keys"))
  | some record =>
      let call : Channel.SealCall := {
        kind, plaintext
        recipientSagree := record.sagree
        senderDeviceId := account.deviceId
        senderSdevPrivate := sdevPrivate
        transferId := transfer
        seq, extra
        ephemeralPrivate := ← urandom environment 32
        nonce := ← urandom environment 12
        timestamp := ← nowMs environment }
      let blob ← Prog.lift (Channel.sealRecord suite call)
      let urls ← Prog.lift (backendFor account device.relays)
      let capability ← Prog.lift (MailboxCapability.fromCardView device.inbox)
      recordSent ⟨device.deviceId, call⟩
      put environment urls capability blob

/-- Ask every sibling device for the past; returns who was asked. -/
def requestHistory (since : Int) (budget : Option Int) : ClientProg (List String) := do
  let transfer ← newTransferId environment
  let payload := canonicalJson (.mkObj [
    ("since", .int since), ("budget", .int (budget.getD defaultBudgetBytes)),
    ("device", .str account.deviceId)])
  let devices ← siblingDevices suite environment account
  let asked ← devices.foldlM (fun asked device => do
    match ← attempt (writeRecord suite environment account device Channel.request
        payload transfer 0 {}) with
    | some _ => return asked ++ [device.deviceId]
    | none => return asked) []
  if asked.isEmpty then return asked
  else
    onStore (Store.setState requestedState (.mkObj [
      ("transfer", .str transfer), ("since", .int since),
      ("asked", .arr (asked.map Json.str)), ("ts", .int (← nowMs environment))]))
    return asked

/-- The payload of one back-fill item. -/
def itemPayload (kind : String) (item : Json) : Bytes :=
  match item with
  | .obj fields => canonicalJson (.mkObj (("kind", .str kind) :: fields))
  | _ => canonicalJson (.mkObj [("kind", .str kind)])

/-- Everything that goes into a back-fill, and how many chunks are missing. -/
def buildItems (store : Store) (identityId : String) (since until_ budget : Int) :
    Except Raised (List Bytes × Nat) := do
  let bundle ← buildBundle store identityId since until_ budget
  return (bundle.contacts.map (itemPayload "contact") ++
    bundle.messages.map (itemPayload "message") ++
    bundle.chunks.map (itemPayload "chunk"), bundle.skipped.length)

def countField (count : Nat) : Channel.ExtraFields where
  fields := [("count", .int count)]
  canonical := by simp [Json.Canonical]
  additional := by simp [Channel.headerFields]

def completeFields (count : Nat) (chain : String) : Channel.ExtraFields where
  fields := [("count", .int count), ("chain", .str chain)]
  canonical := by simp [Json.Canonical]
  additional := by simp [Channel.headerFields]

def rangeFields (since until_ : Int) : Channel.ExtraFields where
  fields := [("since", .int since), ("until", .int until_)]
  canonical := by simp [Json.Canonical]
  additional := by simp [Channel.headerFields]

/-- Send one item and extend the digest of the transfer. -/
def sendItem (device : DeviceEntry) (transfer : String) (chain : Bytes)
    (entry : Bytes × Nat) : ClientProg Bytes := do
  writeRecord suite environment account device Channel.item entry.1 transfer
    (entry.2 + 1 : Nat) {}
  Prog.lift (Channel.chainAdd suite chain entry.1 (entry.2 + 1 : Nat))

/-- Stream a range of history to one approved device. -/
def sendHistory (device : DeviceEntry) (since until_ budget : Int)
    (transfer : String) : ClientProg (Nat × Nat) := do
  let store ← askStore id
  let (items, skipped) ← Prog.lift (buildItems store
    (account.identity.identityId suite) since until_ budget)
  writeRecord suite environment account device Channel.offer
    (canonicalJson (.mkObj [
      ("count", .int items.length), ("skipped", .int skipped), ("since", .int since),
      ("until", .int until_), ("budget", .int budget)]))
    transfer 0 (countField items.length)
  let chain ← items.zipIdx.foldlM (sendItem suite environment account device transfer)
    (Channel.chainStart suite transfer)
  writeRecord suite environment account device Channel.complete
    (canonicalJson (.mkObj [
      ("count", .int items.length), ("chain", .str (Channel.hex chain))]))
    transfer 0 (completeFields items.length (Channel.hex chain))
  return (items.length, skipped)

/-- The range a human grants: the one asked for, unless they name another. -/
def grantedSince (pending : Json) (deviceId : String) (since : Option Int) :
    Except Raised Int :=
  match since with
  | some since => .ok since
  | none => do
      let request := (pending.getD deviceId).orElse (.obj [])
      integerOr (← request.attempt "since") 0

/-- Approve a device and send it the history it asked for. -/
def approveDevice (deviceId : String) (since budget : Option Int) :
    ClientProg (Nat × Nat) := do
  match ← locateDevice suite environment account deviceId with
  | none => throw (unavailable ("unknown device: " ++ deviceId))
  | some device =>
      let pending ← askStore fun store => stateOrEmpty store requestsState
      let since ← Prog.lift (grantedSince pending deviceId since)
      let budget := budget.getD defaultBudgetBytes
      let transfer ← newTransferId environment
      let until_ ← nowMs environment
      writeRecord suite environment account device Channel.approval
        (canonicalJson (.mkObj [
          ("device", .str deviceId), ("since", .int since), ("until", .int until_),
          ("budget", .int budget)]))
        transfer 0 (rangeFields since until_)
      markApproved environment deviceId transfer (.int since) (.int until_)
      let counts ← sendHistory suite environment account device since until_ budget
        transfer
      onStore (Store.setState requestsState (pending.eraseField deviceId))
      return counts

def denyDevice (deviceId : String) : ClientProg Unit := do
  let pending ← askStore fun store => stateOrEmpty store requestsState
  onStore (Store.setState requestsState (pending.eraseField deviceId))

/-- The siblings that are approved. -/
def mirrorTargets : ClientProg (List DeviceEntry) := do
  let devices ← siblingDevices suite environment account
  let store ← askStore id
  return devices.filter fun device => approvedIn store device.deviceId

/-- Send one mirror to each target; a target that cannot be reached is skipped. -/
def sendMirrors (raw : Bytes) (targets : List DeviceEntry) : ClientProg Nat :=
  targets.foldlM (fun sent device => do
    match ← attempt (do
      let transfer ← newTransferId environment
      writeRecord suite environment account device Channel.mirror raw transfer 0 {}) with
    | some _ => return sent + 1
    | none => return sent) 0

/-- Copy one of our sent messages to the devices we approved. -/
def mirrorMessage (contactId : String) (message : Message) : ClientProg Nat := do
  let targets ← mirrorTargets suite environment account
  if targets.isEmpty then return 0
  else
    let identityId := account.identity.identityId suite
    match ← askStore fun store => store.getContact identityId contactId with
    | none => return 0
    | some contact =>
        let item := (messageItem contactId message).setField "id" (.str message.id)
        sendMirrors suite environment account (canonicalJson (.mkObj [
          ("kind", .str "mirror"), ("contact", contactItem contact),
          ("message", item)])) targets

/-- Copy a state change to the approved devices. -/
def mirrorState (contactId : String) (message : Message) : ClientProg Nat := do
  let targets ← mirrorTargets suite environment account
  if targets.isEmpty then return 0
  else
    sendMirrors suite environment account (canonicalJson (.mkObj [
      ("kind", .str "state"),
      ("state", .mkObj [
        ("id", .str message.id), ("remote_id", nullable message.remoteId),
        ("contact_id", .str (if contactId = "" then message.contactId else contactId)),
        ("state", nullable message.state)])])) targets

def loads (plaintext : Bytes) : Except Raised Json :=
  match loadJson plaintext with
  | none => .error (unavailable "device record payload is malformed")
  | some value =>
      if value.isObj then .ok value
      else .error (unavailable "device record payload is not an object")

/-- A note of an incoming transfer, kept per sending device. -/
def setIncoming (deviceId : String) (entry : Json) : ClientProg Unit := do
  let state ← askStore fun store => stateOrEmpty store incomingState
  onStore (Store.setState incomingState (state.setField deviceId entry))

def dropMessageIndex : ClientProg Unit :=
  modify fun world => { world with syncMessageIndex := none }

/-- A new transfer starts with an index of its own. -/
def startTransfer (previous : Json) (transfer : String) : ClientProg Unit :=
  if previous.getD "transfer" ≠ .str transfer then dropMessageIndex
  else pure ()

def handleOffer (deviceId transfer : String) (plaintext : Bytes) : ClientProg Unit := do
  let offer ← Prog.lift (loads plaintext)
  let state ← askStore fun store => stateOrEmpty store incomingState
  let previous := (state.getD deviceId).orElse (.obj [])
  startTransfer previous transfer
  let expected ← Prog.lift (integerOr (offer.getD "count") 0)
  let skipped ← Prog.lift (integerOr (offer.getD "skipped") 0)
  setIncoming deviceId (.mkObj [
    ("transfer", .str transfer), ("received", .int 0), ("expected", .int expected),
    ("skipped", .int skipped), ("chain", .str ""), ("done", .bool false)])

def handleComplete (deviceId : String) (plaintext : Bytes) : ClientProg Unit := do
  let complete ← Prog.lift (loads plaintext)
  let state ← askStore fun store => stateOrEmpty store incomingState
  let entry := (state.getD deviceId).orElse (.obj [])
  let expected ← Prog.lift (integerOr (complete.getD "count") 0)
  let received ← Prog.lift (integerOr (entry.getD "received") 0)
  let whole := decide (expected ≤ received) &&
    ((entry.getD "chain").orElse (.str "")).toText =
      ((complete.getD "chain").orElse (.str "")).toText
  setIncoming deviceId (((entry.setField "done" (.bool true)).setField
    "expected" (.int expected)).setField "complete" (.bool whole))

/-- The index of the transfer in progress, built when there is none. -/
def transferIndex : ClientProg MessageIndex := do
  let world ← get
  match world.syncMessageIndex with
  | some index => return index
  | none =>
      let index := messageIndex suite world.store (account.identity.identityId suite)
      set { world with syncMessageIndex := some index }
      return index

/-- Merge one message of a back-fill against the index of the transfer.  The
index is the same object before and after, so what it learns stays. -/
def mergeTransferMessage (payload : Json) : ClientProg Unit := do
  let index ← transferIndex suite account
  let (index, _) ← mergeMessages suite environment account [payload] index {}
  modify fun world => { world with syncMessageIndex := some index }

/-- Extend the digest of a transfer by one received item. -/
def extendChain (transfer : String) (chain : Json) (plaintext : Bytes) (seq : Int) :
    Except Raised String := do
  let resumed := (chain.orElse (.str "")).toText
  let digest ← if resumed = "" then pure (Channel.chainStart suite transfer)
    else Channel.unhex resumed.toList
  return Channel.hex (← Channel.chainAdd suite digest plaintext seq)

def mergeItem (kind : Json) (payload : Json) : ClientProg Unit := do
  if kind = .str "contact" then
    let _ ← mergeContacts suite environment account [payload] {}
  else if kind = .str "message" then
    mergeTransferMessage suite environment account payload
  else if kind = .str "chunk" then
    let _ ← mergeChunks environment [payload] {}
  else throw (unavailable ("unknown history item: " ++ kind.toText))

/-- Merge one back-fill item. -/
def applyItem (deviceId transfer : String) (plaintext : Bytes) (seq : Int) :
    ClientProg Unit := do
  let item ← Prog.lift (loads plaintext)
  let state ← askStore fun store => stateOrEmpty store incomingState
  let entry := (state.getD deviceId).orElse (.mkObj [
    ("transfer", .str transfer), ("seq", .int 0), ("count", .int 0),
    ("chain", .str ""), ("done", .bool false)])
  mergeItem suite environment account (item.getD "kind") (item.eraseField "kind")
  let chain ← Prog.lift
    (extendChain suite transfer (entry.getD "chain") plaintext seq)
  let received ← Prog.lift (integerOr (entry.getD "received") 0)
  let expected ← Prog.lift (integerOr (entry.getD "expected") 0)
  let entry := ((((entry.setField "transfer" (.str transfer)).setField
    "received" (.int (received + 1))).setField "expected" (.int expected)).setField
    "chain" (.str chain)).setField "done" (.bool false)
  onStore (Store.setState incomingState (state.setField deviceId entry))

def remoteTarget (remoteId : Json) : ClientProg (Option Message) :=
  if remoteId.truthy then
    onStore (Store.findByRemoteId (account.identity.identityId suite)
      (.str remoteId.toText) none)
  else pure none

/-- The message a mirrored state change is about. -/
def mirroredTarget (change : Json) : ClientProg (Option Message) := do
  let remoteId ← Prog.lift (change.attempt "remote_id")
  match ← remoteTarget suite account remoteId with
  | some target => return some target
  | none =>
      let id ← Prog.lift (change.attempt "id")
      if id.truthy then askStore fun store => store.getMessage id.toText
      else return none

def applyMirroredState (change : Json) : ClientProg Unit := do
  match ← mirroredTarget suite account change with
  | none => return
  | some target =>
      let state := ((change.getD "state").orElse (.str "")).toText
      if stateRank target.state < stateRank (some state) then
        onStore (Store.updateMessage (.str target.id) (.str state))
      else return

/-- The contact that comes with a mirrored message. -/
def mirroredContact (contact : Json) : ClientProg Counts :=
  if contact.truthy then mergeContacts suite environment account [contact] {}
  else pure {}

def applyMirror (item : Json) : ClientProg Unit := do
  let kind := item.getD "kind"
  if kind = .str "mirror" then
    let _ ← mirroredContact suite environment account (item.getD "contact")
    let _ ← mergeIndexed suite environment account [item.getD "message"] {}
  else if kind = .str "state" then
    applyMirroredState suite account ((item.getD "state").orElse (.obj []))
  else return

/-- What an opened record does, by its kind. -/
def dispatch (deviceId transfer : String) (kind : Nat) (header : Json)
    (plaintext : Bytes) : ClientProg Unit := do
  if kind = Channel.request then
    let request ← Prog.lift (loads plaintext)
    incomingRequest environment deviceId transfer (request.getD "since")
  else if kind = Channel.approval then
    if ← markSeen transfer then
      markApproved environment deviceId transfer (header.getD "since")
        (header.getD "until")
    else return
  else if kind = Channel.offer then handleOffer deviceId transfer plaintext
  else if kind = Channel.item then
    let seq ← Prog.lift (integerOr (header.getD "seq") 0)
    applyItem suite environment account deviceId transfer plaintext seq
  else if kind = Channel.complete then handleComplete deviceId plaintext
  else if kind = Channel.mirror then
    applyMirror suite environment account (← Prog.lift (loads plaintext))
  else return

/-- Dispatch one inbound device record. -/
def handleRecord (blob : Bytes) : ClientProg Unit := do
  let (_, header, _) ← Prog.lift (Channel.parseRecord blob)
  let deviceId := ((header.getD "from").orElse (.str "")).toText
  match ← locateDevice suite environment account deviceId with
  | none => throw (unavailable ("record from unknown device: " ++ deviceId))
  | some device =>
      match ← fetchDeviceKeys suite environment account device with
      | none => throw (unavailable ("no sync keys for device: " ++ deviceId))
      | some record =>
          let (_, sagreePrivate) ← ensureDeviceKeys environment
          let (kind, header, plaintext) ← Prog.lift
            (Channel.openRecord suite blob sagreePrivate record.sdev deviceId)
          let transfer := ((header.getD "transfer").orElse (.str "")).toText
          dispatch suite environment account deviceId transfer kind header plaintext

end NoKnowledge.Core.Sync

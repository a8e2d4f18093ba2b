import NoKnowledge.Core.Client

/-!
# What the parts of a client change

Most of what a client does only talks to the relays: it draws randomness, reads
the clock, fills its caches and puts blobs.  A frame is quiet when all of this
stays within it.  The lemmas below give, for each program, what a quiet frame
has to allow besides for the whole program to stay within it.
-/

namespace NoKnowledge.Core

open Prog NoKnowledge.Wire

/-- The world after a key of the key/value state was written. -/
def World.withState (world : World) (key : String) (value : Json) : World :=
  { world with
    store := { world.store with state := world.store.state.insert key value } }

theorem stateOrEmpty_withState {key other : String} (different : key ≠ other)
    (world : World) (value : Json) :
    Sync.stateOrEmpty (world.withState other value).store key =
      Sync.stateOrEmpty world.store key := by
  simp [Sync.stateOrEmpty, World.withState, Store.getState, Dict.get?_insert, different]

/-- A frame that leaves room for talking to the relays. -/
structure Quiet (frame : Frame World) : Prop where
  tick : ∀ world elapsed, frame.rel world { world with tick := world.tick + elapsed }
  put : ∀ world sent, frame.rel world { world with puts := world.puts ++ [sent] }
  siblingKeys : ∀ world siblingKeys, frame.rel world { world with siblingKeys }
  deviceList : ∀ world deviceList deviceListTs,
    frame.rel world { world with deviceList, deviceListTs }
  deviceKeys : ∀ world value, frame.rel world (world.withState Sync.deviceKeysState value)

/-- A frame that allows records of one kind to be sent. -/
def AllowsRecord (frame : Frame World) (kind : Nat) : Prop :=
  ∀ world record, record.call.kind = kind →
    frame.rel world { world with records := world.records ++ [record] }

/-- A frame that allows mirrors to the devices that were approved at its origin. -/
def AllowsMirrors (frame : Frame World) : Prop :=
  ∀ origin world record, frame.rel origin world →
    record.call.kind = Channel.mirror →
    Sync.approvedIn origin.store record.deviceId = true →
      frame.rel origin { world with records := world.records ++ [record] }

theorem AllowsRecord.mirrors {frame : Frame World}
    (allowed : AllowsRecord frame Channel.mirror) : AllowsMirrors frame :=
  fun _ world record passed kind _ => frame.trans passed (allowed world record kind)

/-- A record that was written for a device. -/
structure SentRecord.Carries (record : SentRecord) (device : DeviceEntry) (kind : Nat)
    (plaintext : Bytes) (transfer : String) (seq : Int) (extra : Channel.ExtraFields) :
    Prop where
  device : record.deviceId = device.deviceId
  kind : record.call.kind = kind
  plaintext : record.call.plaintext = plaintext
  transfer : record.call.transferId = transfer
  seq : record.call.seq = seq
  extra : record.call.extra = extra

def AllowsState (frame : Frame World) (key : String) : Prop :=
  ∀ world value, frame.rel world (world.withState key value)

/-- A frame that allows the sessions of contacts to change. -/
def AllowsSessions (frame : Frame World) : Prop :=
  ∀ world contactId session, frame.rel world
    { world with
      store := { world.store with
        contacts := world.store.contacts.update
          ((Store.withSession session).at contactId) } }

variable {frame : Frame World} {suite : Suite} {environment : Environment}
  {account : Account}

@[simp] theorem run_askStore {α : Type} (question : Store → α) (world : World) :
    (askStore question).run world = (.ok (question world.store), world) := rfl

theorem keeps_askStore {α : Type} (question : Store → α) :
    Keeps frame (askStore question) :=
  keeps_bind keeps_get fun _ => keeps_pure _

/-- Mirrors go to devices that are approved by then. -/
theorem mirrorTargets_returns {world final : World} {targets : List DeviceEntry}
    (returned : (Sync.mirrorTargets suite environment account).run world =
      (.ok targets, final)) :
    ∀ device ∈ targets, Sync.approvedIn final.store device.deviceId = true := by
  obtain ⟨devices, middle, -, rest⟩ := bind_returns returned
  cases rest
  intro device member
  exact (List.mem_filter.mp member).2

theorem keeps_attempt {α : Type} {body : ClientProg α} (bodyKeeps : Keeps frame body) :
    Keeps frame (Sync.attempt body) :=
  keeps_tryCatch (keeps_bind bodyKeeps fun _ => keeps_pure _) fun _ => keeps_pure _

theorem keeps_setState {key : String} (allowed : AllowsState frame key) (value : Json) :
    Keeps frame (onStore (Store.setState key value)) :=
  fun world => allowed world value

theorem keeps_setContactSession (allowed : AllowsSessions frame)
    (identityId contactId : String) (session : Option SessionBlob) :
    Keeps frame (onStore (Store.setContactSession identityId contactId session)) :=
  fun world => allowed world (identityId, contactId) session

/-- What a quiet frame allows, a wider frame allows as well. -/
theorem Quiet.mono {frame wider : Frame World} (quiet : Quiet frame)
    (within : ∀ {first second}, frame.rel first second → wider.rel first second) :
    Quiet wider where
  tick := fun world elapsed => within (quiet.tick world elapsed)
  put := fun world sent => within (quiet.put world sent)
  siblingKeys := fun world keys => within (quiet.siblingKeys world keys)
  deviceList := fun world list ts => within (quiet.deviceList world list ts)
  deviceKeys := fun world value => within (quiet.deviceKeys world value)

namespace Quiet

variable (quiet : Quiet frame)

include quiet

theorem consult {α : Type} (answer : Nat → α) : Keeps frame (consult answer) :=
  fun world => quiet.tick world 1

theorem urandom (size : Nat) : Keeps frame (urandom environment size) :=
  quiet.consult _

theorem time : Keeps frame (time environment) := quiet.consult _

theorem nowMs : Keeps frame (nowMs environment) :=
  keeps_bind quiet.time fun _ => keeps_pure _

theorem nowSeconds : Keeps frame (nowSeconds environment) :=
  keeps_bind quiet.time fun _ => keeps_pure _

theorem newId : Keeps frame (newId environment) :=
  keeps_bind (quiet.urandom 16) fun _ => keeps_pure _

theorem putBlobOn (urls : List String) (capability : MailboxCapability)
    (blob : Bytes) : Keeps frame (Core.put environment urls capability blob) :=
  keeps_get_bind fun world => rel_set_bind
    (frame.trans (quiet.put world _) (quiet.tick _ _)) (keeps_lift _)

theorem fetchBundle (urls : List String) (bundleId : String) :
    Keeps frame (fetchBundle environment urls bundleId) := by
  apply keeps_get_bind
  intro world
  apply rel_set_bind (quiet.tick world _)
  split
  · exact keeps_pure _
  · exact keeps_throw _

theorem putBlob (urls : List String) (capability : MailboxCapability)
    (chunk : Bytes) : Keeps frame (putBlob environment urls capability chunk) := by
  apply keeps_bind (quiet.urandom 16)
  intro drawn
  apply keeps_get_bind
  intro world
  apply rel_set_bind (quiet.tick world _)
  apply keeps_ite
  · exact fun _ => keeps_pure _
  · exact fun _ => keeps_throw _

theorem ensureDeviceKeys : Keeps frame (Sync.ensureDeviceKeys environment) := by
  apply keeps_bind (keeps_askStore _)
  intro stored
  apply keeps_ite
  · intro _
    exact keeps_bind (keeps_lift _) fun _ => keeps_bind (keeps_lift _) fun _ =>
      keeps_pure _
  · intro _
    apply keeps_bind (quiet.urandom 32)
    intro sdevPrivate
    apply keeps_bind (quiet.urandom 32)
    intro sagreePrivate
    exact keeps_bind (keeps_setState quiet.deviceKeys _) fun _ => keeps_pure _

theorem openDeviceKeys (device : DeviceEntry) :
    Keeps frame (Sync.openDeviceKeys suite environment account device) := by
  apply keeps_bind (keeps_lift _)
  intro urls
  apply keeps_bind (quiet.fetchBundle _ _)
  intro payload
  exact keeps_bind (keeps_lift _) fun _ => keeps_lift _

theorem fetchDeviceKeys (device : DeviceEntry) :
    Keeps frame (Sync.fetchDeviceKeys suite environment account device) := by
  apply keeps_bind keeps_get
  intro world
  apply keeps_bind quiet.time
  intro now
  split
  · exact keeps_pure _
  · apply keeps_bind (keeps_attempt (quiet.openDeviceKeys device))
    intro opened
    split
    · exact keeps_pure _
    · apply keeps_ite
      · exact fun _ => keeps_pure _
      · intro _
        apply keeps_ite
        · exact fun _ => keeps_pure _
        · intro _
          exact keeps_bind (fun world => quiet.siblingKeys world _) fun _ => keeps_pure _

theorem fetchOwnDeviceList :
    Keeps frame (Sync.fetchOwnDeviceList suite environment account) := by
  apply keeps_bind (keeps_attempt (quiet.fetchBundle _ _))
  intro payload
  split
  · exact keeps_pure _
  · split
    · apply keeps_ite
      · exact fun _ => keeps_pure _
      · exact fun _ => keeps_throw _
    · apply keeps_ite
      · exact fun _ => keeps_pure _
      · exact fun _ => keeps_pure _

theorem ownDeviceList (maxAge : Int) :
    Keeps frame (Sync.ownDeviceList suite environment account maxAge) := by
  apply keeps_bind keeps_get
  intro world
  apply keeps_bind quiet.time
  intro now
  apply keeps_ite
  · exact fun _ => keeps_pure _
  · intro _
    apply keeps_bind quiet.fetchOwnDeviceList
    intro listing
    split
    · apply keeps_bind quiet.time
      intro later
      exact keeps_bind (fun world => quiet.deviceList world _ _) fun _ => keeps_pure _
    · exact keeps_bind keeps_get fun _ => keeps_pure _

theorem listedDevices (fresh : Bool) :
    Keeps frame (Sync.listedDevices suite environment account fresh) :=
  keeps_bind (quiet.ownDeviceList _) fun _ => keeps_pure _

theorem siblingDevices : Keeps frame (Sync.siblingDevices suite environment account) :=
  keeps_bind (quiet.listedDevices false) fun _ => keeps_pure _

theorem deviceById (deviceId : String) (fresh : Bool) :
    Keeps frame (Sync.deviceById suite environment account deviceId fresh) :=
  keeps_bind (quiet.listedDevices fresh) fun _ => keeps_pure _

theorem locateDevice (deviceId : String) :
    Keeps frame (Sync.locateDevice suite environment account deviceId) := by
  apply keeps_bind (quiet.deviceById deviceId false)
  intro found
  split
  · exact keeps_pure _
  · exact quiet.deviceById deviceId true

theorem markApproved (allowed : AllowsState frame Sync.approvalsState)
    (deviceId transfer : String) (since until_ : Json) :
    Keeps frame (Sync.markApproved environment deviceId transfer since until_) := by
  apply keeps_bind (keeps_askStore _)
  intro value
  apply keeps_bind (keeps_lift _)
  intro since
  apply keeps_bind quiet.nowMs
  intro now
  apply keeps_bind (keeps_lift _)
  intro until_
  apply keeps_bind quiet.nowMs
  intro later
  exact keeps_setState allowed _

theorem newTransferId : Keeps frame (Sync.newTransferId environment) :=
  keeps_bind (quiet.urandom 16) fun _ => keeps_pure _

theorem writeRecord {device : DeviceEntry} {kind : Nat} {plaintext : Bytes}
    {transfer : String} {seq : Int} {extra : Channel.ExtraFields}
    (allowed : ∀ world (record : SentRecord),
      record.Carries device kind plaintext transfer seq extra →
        frame.rel world { world with records := world.records ++ [record] }) :
    Keeps frame (Sync.writeRecord suite environment account device kind plaintext
      transfer seq extra) := by
  apply keeps_bind quiet.ensureDeviceKeys
  intro keys
  apply keeps_bind (quiet.fetchDeviceKeys device)
  intro record
  split
  · exact keeps_throw _
  · apply keeps_bind (quiet.urandom 32)
    intro ephemeralPrivate
    apply keeps_bind (quiet.urandom 12)
    intro nonce
    apply keeps_bind quiet.nowMs
    intro timestamp
    apply keeps_bind (keeps_lift _)
    intro blob
    apply keeps_bind (keeps_lift _)
    intro urls
    apply keeps_bind (keeps_lift _)
    intro capability
    exact keeps_bind (fun world => allowed world _ ⟨rfl, rfl, rfl, rfl, rfl, rfl⟩) fun _ =>
      quiet.putBlobOn urls capability blob

theorem mirrorTargets : Keeps frame (Sync.mirrorTargets suite environment account) :=
  keeps_bind quiet.siblingDevices fun _ => keeps_bind (keeps_askStore _) fun _ =>
    keeps_pure _

theorem sendMirrors (allowed : AllowsMirrors frame) {origin : World}
    {targets : List DeviceEntry}
    (approved : ∀ device ∈ targets,
      Sync.approvedIn origin.store device.deviceId = true) (raw : Bytes) :
    Keeps (frame.since origin)
      (Sync.sendMirrors suite environment account raw targets) := by
  have within : Quiet (frame.since origin) := quiet.mono (frame.within_since origin)
  apply keeps_foldlM
  intro sent device member
  have written : ∀ transfer, Keeps (frame.since origin) (Sync.writeRecord suite
      environment account device Channel.mirror raw transfer 0 {}) := by
    intro transfer
    apply within.writeRecord
    intro world record carries passed
    apply allowed origin world record passed carries.kind
    rw [carries.device]
    exact approved device member
  apply keeps_bind (keeps_attempt (keeps_bind within.newTransferId written))
  intro result
  split <;> exact keeps_pure _

theorem mirrorMessage (allowed : AllowsMirrors frame)
    (contactId : String) (message : Message) :
    Keeps frame (Sync.mirrorMessage suite environment account contactId message) := by
  intro world
  apply keeps_bind_run (quiet.mirrorTargets world)
  intro targets middle returned
  have approved := mirrorTargets_returns returned
  suffices sent : (frame.since middle).rel middle _ from sent (frame.refl middle)
  refine keeps_ite (fun _ => keeps_pure _) (fun _ => ?_) middle
  apply keeps_bind (keeps_askStore _)
  intro contact
  split
  · exact keeps_pure _
  · exact quiet.sendMirrors allowed approved _

theorem mirrorState (allowed : AllowsMirrors frame)
    (contactId : String) (message : Message) :
    Keeps frame (Sync.mirrorState suite environment account contactId message) := by
  intro world
  apply keeps_bind_run (quiet.mirrorTargets world)
  intro targets middle returned
  have approved := mirrorTargets_returns returned
  suffices sent : (frame.since middle).rel middle _ from sent (frame.refl middle)
  exact keeps_ite (fun _ => keeps_pure _)
    (fun _ => quiet.sendMirrors allowed approved _) middle

theorem fetchPeerDeviceList (contact : ContactRow) :
    Keeps frame (Client.fetchPeerDeviceList suite environment account contact) := by
  apply keeps_bind (keeps_attempt (keeps_bind (keeps_lift _) fun urls =>
    quiet.fetchBundle urls _))
  intro payload
  split
  · exact keeps_pure _
  · split
    · apply keeps_ite
      · exact fun _ => keeps_pure _
      · exact fun _ => keeps_throw _
    · apply keeps_ite
      · exact fun _ => keeps_pure _
      · exact fun _ => keeps_pure _

theorem peerDevices (contact : ContactRow) :
    Keeps frame (Client.peerDevices suite environment account contact) := by
  apply keeps_bind (quiet.fetchPeerDeviceList contact)
  intro listing
  split <;> exact keeps_pure _

theorem fetchDeviceBundle (contact : ContactRow) (device : DeviceEntry) :
    Keeps frame (Client.fetchDeviceBundle environment account contact device) := by
  apply keeps_bind (keeps_attempt (keeps_bind (keeps_lift _) fun urls =>
    quiet.fetchBundle urls _))
  intro payload
  split
  · exact keeps_throw _
  · split
    · exact keeps_throw _
    · exact keeps_pure _

theorem startSession (contact : ContactRow) (device : DeviceEntry) :
    Keeps frame (Client.startSession suite environment account contact device) := by
  apply keeps_bind (quiet.fetchDeviceBundle contact device)
  intro bundle
  apply keeps_bind (quiet.urandom 32)
  intro ephemeral
  apply keeps_bind (keeps_lift _)
  intro initiation
  apply keeps_bind (quiet.urandom 16)
  intro sid
  apply keeps_bind (quiet.urandom 32)
  intro newPrivate
  split
  · exact keeps_throw _
  · exact keeps_pure _

theorem ensureSessions (contact : ContactRow) (devices : List DeviceEntry)
    (outbound : Dict String Session) :
    Keeps frame
      (Client.ensureSessions suite environment account contact devices outbound) := by
  apply keeps_foldlM
  intro outbound device _
  apply keeps_ite
  · exact fun _ => keeps_pure _
  · intro _
    exact keeps_bind (quiet.startSession contact device) fun _ => keeps_pure _

theorem ensureOutboundSessions (contact : ContactRow) (state : SessionState) :
    Keeps frame
      (Client.ensureOutboundSessions suite environment account contact state) := by
  apply keeps_bind (quiet.peerDevices contact)
  intro found
  exact keeps_bind (quiet.ensureSessions contact _ _) fun _ => keeps_pure _

theorem sealEnvelope (session : Session) (envelope : Json) (kind : String) :
    Keeps frame
      (Client.sealEnvelope suite environment account session envelope kind) := by
  apply keeps_bind (keeps_lift _)
  intro sealed
  apply keeps_bind (quiet.consult _)
  intro pad
  apply keeps_bind (quiet.urandom nonceSize)
  intro nonce
  split
  · exact keeps_throw _
  · exact keeps_pure _

theorem sendEnvelope (device : DeviceEntry) (session : Session) (envelope : Json)
    (kind : String) :
    Keeps frame
      (Client.sendEnvelope suite environment account device session envelope kind) := by
  apply keeps_bind (quiet.sealEnvelope session envelope kind)
  intro sealed
  apply keeps_bind (keeps_lift _)
  intro urls
  apply keeps_bind (keeps_lift _)
  intro capability
  exact keeps_bind (quiet.putBlobOn urls capability _) fun _ => keeps_pure _

theorem fanOut (state : SessionState) {envelopeFor : DeviceEntry → ClientProg Json}
    (envelopeKeeps : ∀ device, Keeps frame (envelopeFor device)) (kind : String) :
    Keeps frame
      (Client.fanOut suite environment account state envelopeFor kind) := by
  apply keeps_foldlM
  intro progress device _
  unfold Client.sendCopy
  split
  · exact keeps_throw _
  · apply keeps_bind (envelopeKeeps device)
    intro envelope
    exact keeps_bind (quiet.sendEnvelope device _ envelope kind) fun _ => keeps_pure _

theorem receiptBody (sessions : AllowsSessions frame) (contact : ContactRow)
    (envelope : Json) :
    Keeps frame (Client.receiptBody suite environment account contact envelope) := by
  apply keeps_bind (keeps_askStore _)
  intro reread
  apply keeps_bind (quiet.ensureOutboundSessions _ _)
  intro state
  apply keeps_bind (quiet.fanOut state (fun _ => keeps_pure envelope) "receipt")
  intro sent
  exact keeps_setContactSession sessions _ _ _

theorem sendReceipt (sessions : AllowsSessions frame) (contact : ContactRow)
    (ofId : Json) (kind : String) :
    Keeps frame (Client.sendReceipt suite environment account contact ofId kind) := by
  apply keeps_bind quiet.newId
  intro receiptId
  apply keeps_bind quiet.nowMs
  intro now
  exact keeps_bind (keeps_attempt (quiet.receiptBody sessions contact _)) fun _ =>
    keeps_pure _

end Quiet

end NoKnowledge.Core

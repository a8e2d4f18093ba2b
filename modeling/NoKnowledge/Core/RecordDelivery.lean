import NoKnowledge.Core.Reception
import NoKnowledge.Core.RecordIntegrity

/-!
# Delivery of a record to an acquainted device

A device that has the list of its account and the key record of a sibling in its
caches opens what the sibling seals without asking a relay, and dispatches it.
-/

namespace NoKnowledge.Core

open Prog Sync

variable {suite : Suite} {environment : Environment} {account : Account}

/-- What a device needs of its caches and its store to open the records of a
sibling. -/
structure Acquainted (environment : Environment) (world : World) (device : DeviceEntry)
    (record : DeviceKeys) (sagreePrivate : Bytes) : Prop where
  listed : ∃ listing, world.deviceList = some listing ∧
    listing.devices.find? (fun entry => entry.deviceId = device.deviceId) = some device
  listRecent : environment.clock world.tick - world.deviceListTs < deviceListMaxAge
  keys : ∃ ts, world.siblingKeys.get? device.deviceId = some (record, ts) ∧
    environment.clock (world.tick + 1) - ts < siblingKeysMaxAge
  own : ∃ sdevPrivate, ∀ tick,
    (ensureDeviceKeys environment).run { world with tick } =
      (.ok (sdevPrivate, sagreePrivate), { world with tick })

theorem toText_orElse_str (text : String) :
    ((Json.str text).orElse (.str "")).toText = text := by
  by_cases empty : text = ""
  · subst empty
    rfl
  · simp [Json.orElse, Json.truthy, empty]

/-- The keys of a device that are cached and recent are not asked for. -/
theorem run_fetchDeviceKeys_cached {world : World} {device : DeviceEntry}
    {record : DeviceKeys} {ts : Int}
    (cached : world.siblingKeys.get? device.deviceId = some (record, ts))
    (recent : environment.clock world.tick - ts < siblingKeysMaxAge) :
    (fetchDeviceKeys suite environment account device).run world =
      (.ok (some record), { world with tick := world.tick + 1 }) := by
  have known : (some (record, ts)).filter (fun entry =>
      decide (environment.clock world.tick - entry.2 < siblingKeysMaxAge)) =
        some (record, ts) := by
    simp [recent]
  have timed : (time environment).run world =
      (.ok (environment.clock world.tick), { world with tick := world.tick + 1 }) := rfl
  unfold fetchDeviceKeys
  rw [run_bind_ok (run_get world)]
  dsimp only
  rw [run_bind_ok timed, cached, known]
  rfl

namespace Acquainted

variable {world : World} {device : DeviceEntry} {record : DeviceKeys}
  {sagreePrivate : Bytes}

theorem run_locateDevice
    (acquainted : Acquainted environment world device record sagreePrivate) :
    (locateDevice suite environment account device.deviceId).run world =
      (.ok (some device), { world with tick := world.tick + 1 }) := by
  obtain ⟨listing, cached, found⟩ := acquainted.listed
  have cachedList : (ownDeviceList suite environment account deviceListMaxAge).run world =
      (.ok (some listing), { world with tick := world.tick + 1 }) := by
    have recent : (world.deviceList.isSome && decide (environment.clock world.tick -
        world.deviceListTs < deviceListMaxAge)) = true := by
      simp [cached, acquainted.listRecent]
    show (if world.deviceList.isSome && decide (environment.clock world.tick -
        world.deviceListTs < deviceListMaxAge) then _ else _ : ClientProg _).run _ = _
    rw [if_pos recent, cached]
    rfl
  have devices : (listedDevices suite environment account false).run world =
      (.ok listing.devices, { world with tick := world.tick + 1 }) :=
    run_bind_ok cachedList
  have located : (deviceById suite environment account device.deviceId false).run world =
      (.ok (some device), { world with tick := world.tick + 1 }) := by
    unfold deviceById
    rw [run_bind_ok devices, found]
    rfl
  unfold locateDevice
  rw [run_bind_ok located]
  rfl

theorem run_fetchDeviceKeys
    (acquainted : Acquainted environment world device record sagreePrivate) :
    (fetchDeviceKeys suite environment account device).run
        { world with tick := world.tick + 1 } =
      (.ok (some record), { world with tick := world.tick + 2 }) := by
  obtain ⟨ts, cached, recent⟩ := acquainted.keys
  exact @run_fetchDeviceKeys_cached _ _ _ { world with tick := world.tick + 1 } _ _ _
    cached recent

/-- A record that opens under the known keys is the one that is dispatched. -/
theorem run_openInbound {blob payload plaintext : Bytes} {parsedKind kind : Nat}
    {header openedHeader : Json}
    (acquainted : Acquainted environment world device record sagreePrivate)
    (parsed : Channel.parseRecord blob = .ok (parsedKind, header, payload))
    (sender : header.getD "from" = .str device.deviceId)
    (unsealed : Channel.openRecord suite blob sagreePrivate record.sdev device.deviceId =
      .ok (kind, openedHeader, plaintext)) :
    (openInbound suite environment account blob).run world =
      (.ok (device.deviceId, kind, openedHeader, plaintext),
        { world with tick := world.tick + 2 }) := by
  obtain ⟨sdevPrivate, own⟩ := acquainted.own
  have named : ((header.getD "from").orElse (.str "")).toText = device.deviceId := by
    rw [sender]
    exact toText_orElse_str device.deviceId
  have opens : (Prog.lift (Channel.openRecord suite blob sagreePrivate record.sdev
      device.deviceId) : ClientProg _).run { world with tick := world.tick + 2 } =
      (.ok (kind, openedHeader, plaintext), { world with tick := world.tick + 2 }) := by
    rw [unsealed]
    rfl
  unfold openInbound
  rw [parsed, run_bind_ok (run_lift_ok _ world)]
  dsimp only
  rw [named, run_bind_ok acquainted.run_locateDevice]
  dsimp only
  rw [run_bind_ok acquainted.run_fetchDeviceKeys]
  dsimp only
  rw [run_bind_ok (own _)]
  dsimp only
  rw [run_bind_ok opens]
  rfl

/-- A record that a symbolic sibling has sealed is dispatched. -/
theorem run_sealed {calls : List Channel.SealCall} {call : Channel.SealCall}
    (called : call ∈ calls) {blob : Bytes}
    (sealed : Channel.sealRecord Channel.tokens call = .ok blob)
    (size : call.nonce.length = 12)
    (recipient : call.recipientSagree = Channel.tokens.dhPublic sagreePrivate)
    (acquainted : Acquainted environment world device record sagreePrivate)
    (sender : call.senderDeviceId = device.deviceId)
    (key : record.sdev = Channel.tokens.signingPublic call.senderSdevPrivate) :
    (handleRecord (Channel.guarded calls) environment account blob).run world =
      (dispatch (Channel.guarded calls) environment account device.deviceId
        call.transferId call.kind (call.header Channel.tokens) call.plaintext).run
          { world with tick := world.tick + 2 } := by
  obtain ⟨sameBlob, sameKind⟩ := Channel.sealRecord_kind sealed
  have opens := Channel.guarded_opens called sealed size recipient
    (UInt8.ofNat call.kind)
  rw [sameBlob, sameKind, sender, ← key] at opens
  obtain ⟨payload, parsed⟩ := (Channel.openRecord_returns opens).parsed
  have named : (call.header Channel.tokens).getD "from" = .str device.deviceId := by
    rw [Json.getD, call.header_get?, if_neg (by decide),
      call.baseHeader_get? (by decide), ← sender]
    rfl
  have transfer : (((call.header Channel.tokens).getD "transfer").orElse
      (.str "")).toText = call.transferId := by
    have field : (call.header Channel.tokens).getD "transfer" = .str call.transferId := by
      rw [Json.getD, call.header_get?, if_neg (by decide),
        call.baseHeader_get? (by decide)]
      rfl
    rw [field, toText_orElse_str]
  rw [handleRecord_eq, run_bind_ok (acquainted.run_openInbound parsed named opens)]
  unfold dispatchOpened
  dsimp only
  rw [transfer]

end Acquainted

theorem run_nowMs (world : World) :
    (nowMs environment).run world =
      (.ok (environment.clock world.tick / 1000), { world with tick := world.tick + 1 }) :=
  rfl

theorem run_lift_eq {α : Type} {outcome : Except Raised α} {value : α}
    (same : outcome = .ok value) (world : World) :
    (Prog.lift outcome : ClientProg α).run world = (.ok value, world) := by
  rw [same]
  rfl

/-- The sealing of a record that is written at a tick. -/
def writtenCall (environment : Environment) (account : Account) (record : DeviceKeys)
    (sdevPrivate : Bytes) (kind : Nat) (plaintext : Bytes) (transfer : String) (seq : Int)
    (extra : Channel.ExtraFields) (tick : Nat) : Channel.SealCall where
  kind := kind
  plaintext := plaintext
  recipientSagree := record.sagree
  senderDeviceId := account.deviceId
  senderSdevPrivate := sdevPrivate
  transferId := transfer
  seq := seq
  extra := extra
  ephemeralPrivate := drawnAt environment 32 (tick + 1)
  nonce := drawnAt environment 12 (tick + 2)
  timestamp := environment.clock (tick + 3) / 1000

/-- The world after a record was handed to the relays. -/
def World.withRecord (world : World) (record : SentRecord) (sent : Put) : World :=
  { world with
    tick := world.tick + 4 + sent.urls.length
    puts := world.puts ++ [sent]
    records := world.records ++ [record] }

/-- A record that can be sealed is handed to the relays, whatever they answer. -/
theorem run_writeRecord {world : World} {device : DeviceEntry} {record : DeviceKeys}
    {sdevPrivate sagreePrivate : Bytes} {ts : Int}
    (own : (ensureDeviceKeys environment).run world =
      (.ok (sdevPrivate, sagreePrivate), world))
    (cached : world.siblingKeys.get? device.deviceId = some (record, ts))
    (recent : environment.clock world.tick - ts < siblingKeysMaxAge)
    {kind : Nat} {plaintext : Bytes} {transfer : String} {seq : Int}
    {extra : Channel.ExtraFields} {blob : Bytes}
    (sealed : Channel.sealRecord suite (writtenCall environment account record sdevPrivate
      kind plaintext transfer seq extra world.tick) = .ok blob)
    {urls : List String} (reached : backendFor account device.relays = .ok urls)
    {capability : MailboxCapability}
    (inbox : MailboxCapability.fromCardView device.inbox = .ok capability) :
    (writeRecord suite environment account device kind plaintext transfer seq extra).run
        world =
      (putOne environment urls capability blob (world.tick + 4),
        world.withRecord ⟨device.deviceId, writtenCall environment account record
          sdevPrivate kind plaintext transfer seq extra world.tick⟩
          ⟨urls, capability, blob⟩) := by
  unfold writeRecord
  rw [run_bind_ok own]
  dsimp only
  rw [run_bind_ok (run_fetchDeviceKeys_cached cached recent)]
  dsimp only
  rw [run_bind_ok (run_urandom 32 _)]
  dsimp only
  rw [run_bind_ok (run_urandom 12 _)]
  dsimp only
  rw [run_bind_ok (run_nowMs _)]
  refine (run_bind_ok (run_lift_eq sealed _)).trans ?_
  refine (run_bind_ok (run_lift_eq reached _)).trans ?_
  refine (run_bind_ok (run_lift_eq inbox _)).trans ?_
  show (Prog.lift (putOne environment urls capability blob (world.tick + 4)) :
    ClientProg Unit).run _ = _
  cases putOne environment urls capability blob (world.tick + 4) with
  | ok delivered => rfl
  | error raised => rfl

/-- A transfer of which every record is written. -/
theorem run_sendHistory {device : DeviceEntry} {since until_ budget : Int}
    {transfer : String} {items : List Bytes} {skipped : Nat} {chain : Bytes}
    {world offered streamed final : World}
    (built : buildItems world.store (account.identity.identityId suite) since until_ budget =
      .ok (items, skipped))
    (offers : (writeRecord suite environment account device Channel.offer
      (canonicalJson (.mkObj [
        ("count", .int items.length), ("skipped", .int skipped), ("since", .int since),
        ("until", .int until_), ("budget", .int budget)])) transfer 0
      (countField items.length)).run world = (.ok (), offered))
    (streams : (items.zipIdx.foldlM (sendItem suite environment account device transfer)
      (Channel.chainStart suite transfer)).run offered = (.ok chain, streamed))
    (completes : (writeRecord suite environment account device Channel.complete
      (canonicalJson (.mkObj [
        ("count", .int items.length), ("chain", .str (Channel.hex chain))])) transfer 0
      (completeFields items.length (Channel.hex chain))).run streamed = (.ok (), final)) :
    (sendHistory suite environment account device since until_ budget transfer).run world =
      (.ok (items.length, skipped), final) := by
  have asked : (askStore id).run world = (.ok world.store, world) := rfl
  unfold sendHistory
  rw [run_bind_ok asked]
  dsimp only [id]
  rw [run_bind_ok (run_lift_eq built world)]
  dsimp only
  rw [run_bind_ok offers, run_bind_ok streams, run_bind_ok completes]
  rfl

/-- An approval that is carried through. -/
theorem run_approveDevice {device : DeviceEntry} {deviceId transfer : String}
    {since budget : Option Int} {granted : Int} {counts : Nat × Nat}
    {world located drawn allowed marked sent : World}
    (locates : (locateDevice suite environment account deviceId).run world =
      (.ok (some device), located))
    (grants : grantedSince (stateOrEmpty located.store requestsState) deviceId since =
      .ok granted)
    (draws : (newTransferId environment).run located = (.ok transfer, drawn))
    (allows : (writeRecord suite environment account device Channel.approval
      (canonicalJson (.mkObj [
        ("device", .str deviceId), ("since", .int granted),
        ("until", .int (environment.clock drawn.tick / 1000)),
        ("budget", .int (budget.getD History.defaultBudgetBytes))])) transfer 0
      (rangeFields granted (environment.clock drawn.tick / 1000))).run
        { drawn with tick := drawn.tick + 1 } = (.ok (), allowed))
    (marks : (markApproved environment deviceId transfer (.int granted)
      (.int (environment.clock drawn.tick / 1000))).run allowed = (.ok (), marked))
    (sends : (sendHistory suite environment account device granted
      (environment.clock drawn.tick / 1000) (budget.getD History.defaultBudgetBytes)
      transfer).run marked = (.ok counts, sent)) :
    (approveDevice suite environment account deviceId since budget).run world =
      (.ok counts, sent.withState requestsState
        ((stateOrEmpty located.store requestsState).eraseField deviceId)) := by
  have asked : (askStore fun store => stateOrEmpty store requestsState).run located =
      (.ok (stateOrEmpty located.store requestsState), located) := rfl
  unfold approveDevice
  rw [run_bind_ok locates]
  dsimp only
  rw [run_bind_ok asked, run_bind_ok (run_lift_eq grants located), run_bind_ok draws,
    run_bind_ok (run_nowMs drawn), run_bind_ok allows, run_bind_ok marks, run_bind_ok sends]
  rfl

end NoKnowledge.Core

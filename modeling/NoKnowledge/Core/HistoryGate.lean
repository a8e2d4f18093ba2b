import NoKnowledge.Core.DeviceSteps

/-!
# Who is sent history

The records that carry history are offers, items and completions.  A device
writes them only while its user approves a device: to that device, for the
transfer of the approval record that this call writes, and with the messages of
the range that this call grants.
-/

namespace NoKnowledge.Core.HistoryGate

open Prog Sync History

variable {suite : Suite} {environment : Environment} {account : Account}

/-- The kinds of the records that carry history. -/
def Gated (kind : Nat) : Prop :=
  kind = Channel.offer ∨ kind = Channel.item ∨ kind = Channel.complete

instance : DecidablePred Gated := fun _ => inferInstanceAs (Decidable (_ ∨ _ ∨ _))

/-- An attachment of a message refers to a chunk. -/
def Refers (message : Message) (chunkId : String) : Prop :=
  ∃ entries, chunkEntries (messageItem message.contactId message) = .ok entries ∧
    ∃ entry ∈ entries, ∃ id, entry.attempt "id" = .ok id ∧ id.toText = chunkId

/-- A stored message of a range. -/
structure InRange (store : Store) (identityId : String) (since until_ : Int)
    (message : Message) : Prop where
  stored : message ∈ store.listAllMessages identityId
  since : since ≤ message.ts
  until_ : message.ts ≤ until_

/-- The contents an item may have in the back-fill of a range. -/
inductive Content (store : Store) (identityId : String) (since until_ : Int) :
    Bytes → Prop
  | contact {row : ContactRow} (stored : row ∈ store.listContacts identityId) :
      Content store identityId since until_ (itemPayload "contact" (contactItem row))
  | message {message : Message}
      (inRange : InRange store identityId since until_ message) :
      Content store identityId since until_
        (itemPayload "message" (messageItem message.contactId message))
  | chunk {message : Message} {chunkId : String} {ciphertext : Bytes}
      (inRange : InRange store identityId since until_ message)
      (refers : Refers message chunkId)
      (held : store.getLocalBlob chunkId = some ciphertext) :
      Content store identityId since until_ (itemPayload "chunk"
        (.mkObj [("id", .str chunkId), ("ct", .str (b64e ciphertext))]))

/-- The tables history is built from are the same. -/
structure SameTables (first second : Store) : Prop where
  contacts : first.contacts = second.contacts
  messages : first.messages = second.messages
  localBlobs : first.localBlobs = second.localBlobs

theorem SameTables.trans {first second third : Store} (left : SameTables first second)
    (right : SameTables second third) : SameTables first third :=
  ⟨left.contacts.trans right.contacts, left.messages.trans right.messages,
    left.localBlobs.trans right.localBlobs⟩

/-- Content depends on three tables of the store. -/
theorem Content.of_tables {first second : Store} {identityId : String}
    {since until_ : Int} {content : Bytes}
    (same : SameTables first second)
    (allowed : Content first identityId since until_ content) :
    Content second identityId since until_ content := by
  have inRange : ∀ {message}, InRange first identityId since until_ message →
      InRange second identityId since until_ message := by
    rintro message ⟨stored, after, before⟩
    refine ⟨?_, after, before⟩
    simpa only [Store.listAllMessages, same.messages] using stored
  cases allowed with
  | contact stored =>
      apply Content.contact
      simpa only [Store.listContacts, same.contacts] using stored
  | message inFirst => exact .message (inRange inFirst)
  | chunk inFirst refers held =>
      refine .chunk (inRange inFirst) refers ?_
      simpa only [Store.getLocalBlob, same.localBlobs] using held

/-- Every chunk that was collected belongs to a message of the range. -/
def Gathered (store : Store) (identityId : String) (since until_ : Int)
    (collected : Collected) : Prop :=
  ∀ chunk ∈ collected.chunks, ∃ message chunkId ciphertext,
    InRange store identityId since until_ message ∧ Refers message chunkId ∧
    store.getLocalBlob chunkId = some ciphertext ∧
    chunk = .mkObj [("id", .str chunkId), ("ct", .str (b64e ciphertext))]

variable {store : Store} {identityId : String} {since until_ budget : Int}

theorem collectChunk_gathered {collected next : Collected} {entry : Json}
    {message : Message} {entries : List Json}
    (inRange : InRange store identityId since until_ message)
    (read : chunkEntries (messageItem message.contactId message) = .ok entries)
    (member : entry ∈ entries)
    (soFar : Gathered store identityId since until_ collected)
    (ran : collectChunk store budget collected entry = .ok next) :
    Gathered store identityId since until_ next := by
  simp only [collectChunk, except_bind_eq_ok] at ran
  obtain ⟨id, found, ran⟩ := ran
  split at ran
  · cases ran
    exact soFar
  · split at ran
    · cases ran
      exact soFar
    · rename_i ciphertext held
      split at ran
      · cases ran
        exact soFar
      · cases ran
        intro chunk inNext
        rcases List.mem_append.mp inNext with earlier | last
        · exact soFar chunk earlier
        · exact ⟨message, id.toText, ciphertext, inRange,
            ⟨entries, read, entry, member, id, found, rfl⟩, held,
            List.mem_singleton.mp last⟩

theorem collectItem_gathered {collected next : Collected} {message : Message}
    (inRange : InRange store identityId since until_ message)
    (soFar : Gathered store identityId since until_ collected)
    (ran : collectItem store budget collected
      (messageItem message.contactId message) = .ok next) :
    Gathered store identityId since until_ next := by
  simp only [collectItem, except_bind_eq_ok] at ran
  obtain ⟨entries, read, ran⟩ := ran
  exact foldlM_preserves
    (fun collected entry member _ soFar =>
      collectChunk_gathered inRange read member soFar) soFar ran

theorem mem_windowItems {item : Json}
    (member : item ∈ windowItems store identityId since until_) :
    ∃ message, InRange store identityId since until_ message ∧
      item = messageItem message.contactId message := by
  obtain ⟨message, filtered, rfl⟩ := List.mem_map.mp member
  obtain ⟨stored, window⟩ := List.mem_filter.mp filtered
  obtain ⟨after, before⟩ := Bool.and_eq_true_iff.mp window
  exact ⟨message, ⟨stored, of_decide_eq_true after, of_decide_eq_true before⟩, rfl⟩

/-- The items of a back-fill are those of its range. -/
theorem buildItems_content {contents : List Bytes} {skipped : Nat}
    (built : buildItems store identityId since until_ budget = .ok (contents, skipped)) :
    ∀ content ∈ contents, Content store identityId since until_ content := by
  simp only [buildItems, buildBundle, except_bind_eq_ok] at built
  obtain ⟨bundle, ⟨collected, ran, bundled⟩, built⟩ := built
  cases bundled
  cases built
  have initially : Gathered store identityId since until_ {} := by
    intro chunk member
    cases member
  have gathered : Gathered store identityId since until_ collected := by
    refine foldlM_preserves (fun collected item member next soFar ran => ?_) initially ran
    obtain ⟨message, inRange, rfl⟩ := mem_windowItems member
    exact collectItem_gathered inRange soFar ran
  intro content member
  rcases List.mem_append.mp member with inFirst | inChunks
  · rcases List.mem_append.mp inFirst with inContacts | inMessages
    · obtain ⟨item, listed, rfl⟩ := List.mem_map.mp inContacts
      obtain ⟨row, stored, rfl⟩ := List.mem_map.mp listed
      exact .contact stored
    · obtain ⟨item, listed, rfl⟩ := List.mem_map.mp inMessages
      obtain ⟨message, inRange, rfl⟩ := mem_windowItems listed
      exact .message inRange
  · obtain ⟨chunk, listed, rfl⟩ := List.mem_map.mp inChunks
    obtain ⟨message, chunkId, ciphertext, inRange, refers, held, rfl⟩ :=
      gathered chunk listed
    exact .chunk inRange refers held

/-- Frames that say which records may be written. -/
def logging (permitted : SentRecord → Prop) : Frame World where
  rel := fun first second =>
    ∃ new, second.records = first.records ++ new ∧ ∀ record ∈ new, permitted record
  refl := fun _ => ⟨[], by simp⟩
  trans := by
    rintro first second third ⟨left, records, leftHolds⟩ ⟨right, records', rightHolds⟩
    refine ⟨left ++ right, ?_, ?_⟩
    · rw [records', records, List.append_assoc]
    · intro record member
      exact (List.mem_append.mp member).elim (leftHolds record) (rightHolds record)

theorem SameTables.symm {first second : Store} (same : SameTables first second) :
    SameTables second first :=
  ⟨same.contacts.symm, same.messages.symm, same.localBlobs.symm⟩

/-- What is written while time passes and these tables stay. -/
structure Writing (permitted : SentRecord → Prop) (first second : World) : Prop where
  tables : SameTables first.store second.store
  elapsed : first.tick ≤ second.tick
  logged : (logging permitted).rel first second

def writing (permitted : SentRecord → Prop) : Frame World where
  rel := Writing permitted
  refl := fun world => ⟨⟨rfl, rfl, rfl⟩, Nat.le_refl _, (logging permitted).refl world⟩
  trans := fun left right => ⟨left.tables.trans right.tables,
    left.elapsed.trans right.elapsed, (logging permitted).trans left.logged right.logged⟩

variable {permitted : SentRecord → Prop}

theorem logging_same {first second : World} (records : second.records = first.records) :
    (logging permitted).rel first second :=
  ⟨[], by simp [records]⟩

theorem logging_record {world : World} {record : SentRecord} (allowed : permitted record) :
    (logging permitted).rel world { world with records := world.records ++ [record] } :=
  ⟨[record], rfl, by simpa using allowed⟩

/-- A record that carries no history. -/
def Ungated (record : SentRecord) : Prop := ¬ Gated record.call.kind

theorem logging_kind {kind : Nat} (ungated : ¬ Gated kind) :
    AllowsRecord (logging Ungated) kind := by
  rintro world record rfl
  exact logging_record ungated

theorem writing_record {world : World} {record : SentRecord} (allowed : permitted record) :
    (writing permitted).rel world { world with records := world.records ++ [record] } :=
  ⟨⟨rfl, rfl, rfl⟩, Nat.le_refl _, logging_record allowed⟩

theorem writing_state (key : String) : AllowsState (writing permitted) key :=
  fun _ _ => ⟨⟨rfl, rfl, rfl⟩, Nat.le_refl _, logging_same rfl⟩

theorem quiet_writing : Quiet (writing permitted) where
  tick := fun _ elapsed => ⟨⟨rfl, rfl, rfl⟩, Nat.le_add_right _ elapsed, logging_same rfl⟩
  put := fun _ _ => ⟨⟨rfl, rfl, rfl⟩, Nat.le_refl _, logging_same rfl⟩
  siblingKeys := fun _ _ => ⟨⟨rfl, rfl, rfl⟩, Nat.le_refl _, logging_same rfl⟩
  deviceList := fun _ _ _ => ⟨⟨rfl, rfl, rfl⟩, Nat.le_refl _, logging_same rfl⟩
  deviceKeys := writing_state _

theorem quiet_logging : Quiet (logging permitted) := quiet_writing.mono Writing.logged

theorem quiet_records : Quiet (keeping World.records) where
  tick := fun _ _ => rfl
  put := fun _ _ => rfl
  siblingKeys := fun _ _ => rfl
  deviceList := fun _ _ _ => rfl
  deviceKeys := fun _ _ => rfl

theorem quiet_requests :
    Quiet (keeping fun world : World => stateOrEmpty world.store requestsState) where
  tick := fun _ _ => rfl
  put := fun _ _ => rfl
  siblingKeys := fun _ _ => rfl
  deviceList := fun _ _ _ => rfl
  deviceKeys := fun world value => stateOrEmpty_withState (by decide) world value

/-- A record that could be written is the only new one. -/
theorem writeRecord_returns {device : DeviceEntry} {kind : Nat} {plaintext : Bytes}
    {transfer : String} {seq : Int} {extra : Channel.ExtraFields} {world final : World}
    {result : Unit}
    (returned : (writeRecord suite environment account device kind plaintext transfer seq
      extra).run world = (.ok result, final)) :
    ∃ record, record.Carries device kind plaintext transfer seq extra ∧
      record.call.senderDeviceId = account.deviceId ∧ record.call.nonce.length = 12 ∧
      final.records = world.records ++ [record] := by
  obtain ⟨⟨sdevPrivate, _⟩, keyed, keysRan, returned⟩ := bind_returns returned
  obtain ⟨keys, fetched, fetchRan, returned⟩ := bind_returns returned
  have keyedRecords := quiet_records.ensureDeviceKeys.view keysRan
  have fetchedRecords := (quiet_records.fetchDeviceKeys device).view fetchRan
  cases keys with
  | none => cases returned
  | some record =>
      obtain ⟨ephemeralPrivate, _, ephemeralRan, drawn⟩ := bind_returns returned
      obtain ⟨nonce, _, nonceRan, dated⟩ := bind_returns drawn
      obtain ⟨timestamp, _, timestampRan, sealing⟩ := bind_returns dated
      have ephemeralRecords := (quiet_records.urandom 32).view ephemeralRan
      have nonceRecords := (quiet_records.urandom 12).view nonceRan
      have timestampRecords := quiet_records.nowMs.view timestampRan
      obtain ⟨blob, _, blobRan, addressing⟩ := bind_returns sealing
      obtain ⟨urls, _, urlsRan, opening⟩ := bind_returns addressing
      obtain ⟨capability, _, capabilityRan, recording⟩ := bind_returns opening
      obtain ⟨_, rfl⟩ := lift_returns blobRan
      obtain ⟨_, rfl⟩ := lift_returns urlsRan
      obtain ⟨_, rfl⟩ := lift_returns capabilityRan
      obtain ⟨_, recorded, recordedRan, putting⟩ := bind_returns recording
      have putRecords := (quiet_records.putBlobOn urls capability blob).view putting
      cases recordedRan
      have earlier := timestampRecords.trans (nonceRecords.trans (ephemeralRecords.trans
        (fetchedRecords.trans keyedRecords)))
      have written := putRecords.trans (congrArg (· ++ [_]) earlier)
      cases nonceRan
      exact ⟨_, ⟨rfl, rfl, rfl, rfl, rfl, rfl⟩, rfl, by simp, written⟩

theorem writeRecord_elapsed {device : DeviceEntry} {kind : Nat} {plaintext : Bytes}
    {transfer : String} {seq : Int} {extra : Channel.ExtraFields} {world final : World}
    {result : Except Raised Unit}
    (ran : (writeRecord suite environment account device kind plaintext transfer seq
      extra).run world = (result, final)) : world.tick ≤ final.tick := by
  have written : Keeps (writing fun _ => True) (writeRecord suite environment account device
      kind plaintext transfer seq extra) :=
    quiet_writing.writeRecord fun _ _ _ => writing_record trivial
  have elapsed := (written world).elapsed
  rwa [after_eq ran] at elapsed

/-- The device that is found has the identifier that was looked for. -/
theorem locateDevice_returns {deviceId : String} {world final : World}
    {device : DeviceEntry}
    (returned : (locateDevice suite environment account deviceId).run world =
      (.ok (some device), final)) : device.deviceId = deviceId := by
  have byId : ∀ {fresh world final},
      (deviceById suite environment account deviceId fresh).run world =
        (.ok (some device), final) → device.deviceId = deviceId := by
    intro fresh world final found
    obtain ⟨devices, middle, -, looked⟩ := bind_returns found
    have sought : Except.ok (devices.find? fun device => device.deviceId = deviceId) =
        Except.ok (some device) := congrArg Prod.fst looked
    have same := List.find?_some (Except.ok.inj sought)
    exact of_decide_eq_true same
  obtain ⟨cached, middle, cachedRan, rest⟩ := bind_returns returned
  cases cached with
  | none => exact byId rest
  | some found =>
      cases rest
      exact byId cachedRan

theorem permissive_logging : Permissive (logging Ungated) where
  quiet := quiet_logging
  mirror := AllowsRecord.mirrors (logging_kind (by decide))
  sessions := fun _ _ _ => logging_same rfl
  outbox := fun _ _ => logging_same rfl
  localBlobs := fun _ _ => logging_same rfl
  prekeys := fun _ _ _ _ => logging_same rfl
  state := fun _ _ _ _ _ => logging_same rfl
  messages := fun _ _ => logging_same rfl
  index := fun _ _ => logging_same rfl

variable (suite environment account)

/-- The range that a call approving a device grants: from what the caller names, or
else from what the device has asked for, to the time of the call. -/
structure Grants (world final : World) (deviceId : String) (since : Option Int)
    (granted until_ : Int) : Prop where
  since : grantedSince (stateOrEmpty world.store requestsState) deviceId since = .ok granted
  until_ : ∃ tick, world.tick ≤ tick ∧ tick < final.tick ∧
    until_ = environment.clock tick / 1000

/-- The approval record of a call, which names its range and its budget. -/
structure Announces (deviceId transfer : String) (granted until_ : Int)
    (budget : Option Int) (approval : SentRecord) : Prop where
  device : approval.deviceId = deviceId
  kind : approval.call.kind = Channel.approval
  transfer : approval.call.transferId = transfer
  plaintext : approval.call.plaintext = canonicalJson (.mkObj [
    ("device", .str deviceId), ("since", .int granted), ("until", .int until_),
    ("budget", .int (budget.getD defaultBudgetBytes))])
  extra : approval.call.extra = rangeFields granted until_

/-- A record that is written while its device is approved, with what is in the range
that this call grants. -/
def Released (world final : World) (new : List SentRecord) (step : DeviceStep)
    (record : SentRecord) : Prop :=
  ∃ since budget granted until_, step = .approveDevice record.deviceId since budget ∧
    Grants environment world final record.deviceId since granted until_ ∧
    (∃ approval ∈ new,
      Announces record.deviceId record.call.transferId granted until_ budget approval) ∧
    (record.call.kind = Channel.item → Content world.store
      (account.identity.identityId suite) granted until_ record.call.plaintext)

/-- What a step writes is ungated, or released by it. -/
def Wrote (world final : World) (step : DeviceStep) : Prop :=
  ∃ new, final.records = world.records ++ new ∧
    ∀ record ∈ new, Gated record.call.kind →
      Released suite environment account world final new step record

variable {suite environment account}

theorem Wrote.of_logging {world final : World} (step : DeviceStep)
    (passed : (logging Ungated).rel world final) :
    Wrote suite environment account world final step := by
  obtain ⟨new, records, ungated⟩ := passed
  exact ⟨new, records, fun record member gated => absurd gated (ungated record member)⟩

variable (suite account) in
/-- What may be written once a device has been approved for a range. -/
def Granted (world : World) (deviceId transfer : String) (since until_ : Int)
    (record : SentRecord) : Prop :=
  Gated record.call.kind → record.deviceId = deviceId ∧
    record.call.transferId = transfer ∧
    (record.call.kind = Channel.item → Content world.store
      (account.identity.identityId suite) since until_ record.call.plaintext)

/-- The back-fill of an approved range. -/
theorem writing_sendHistory {world current : World} {device : DeviceEntry}
    {transfer : String} {since until_ budget : Int}
    (same : SameTables current.store world.store) :
    (writing (Granted suite account world device.deviceId transfer since until_)).rel
      current ((sendHistory suite environment account device since until_ budget
        transfer).after current) := by
  apply Permissive.rel_sendHistory quiet_writing
  · intro plaintext extra other record carries
    refine writing_record fun _ => ⟨carries.device, carries.transfer, ?_⟩
    intro isItem
    rw [carries.kind] at isItem
    cases isItem
  · intro contents skipped built content member seq other record carries
    refine writing_record fun _ => ⟨carries.device, carries.transfer, ?_⟩
    intro _
    rw [carries.plaintext]
    exact (buildItems_content built content member).of_tables same
  · intro plaintext extra other record carries
    refine writing_record fun _ => ⟨carries.device, carries.transfer, ?_⟩
    intro isItem
    rw [carries.kind] at isItem
    cases isItem

theorem approveDevice_wrote (deviceId : String) (since budget : Option Int)
    (world : World) :
    Wrote suite environment account world
      ((approveDevice suite environment account deviceId since budget).after world)
      (.approveDevice deviceId since budget) := by
  have stopped : ∀ final, (writing Ungated).rel world final →
      Wrote suite environment account world final (.approveDevice deviceId since budget) :=
    fun final passed => .of_logging _ passed.logged
  apply reaches_bind ((writing Ungated).refl world) (quiet_writing.locateDevice deviceId)
    stopped
  intro device found foundRan passed
  split
  · exact stopped _ passed
  rename_i device
  have requests := (quiet_requests.locateDevice deviceId).view foundRan
  apply reaches_bind passed (keeps_askStore _) stopped
  intro pending asked askedRan passed
  cases askedRan
  apply reaches_bind passed (keeps_lift _) stopped
  intro granted read grantedRan passed
  obtain ⟨grants, rfl⟩ := lift_returns grantedRan
  dsimp only at grants
  rw [requests] at grants
  apply reaches_bind passed quiet_writing.newTransferId stopped
  intro transfer drawn _ passed
  have begun : world.tick ≤ drawn.tick := passed.elapsed
  apply reaches_bind passed quiet_writing.nowMs stopped
  intro until_ dated datedRan passed
  obtain ⟨until_Read, datedTick⟩ : until_ = environment.clock drawn.tick / 1000 ∧
      dated.tick = drawn.tick + 1 := by
    cases datedRan
    exact ⟨rfl, rfl⟩
  obtain ⟨old, oldRecords, oldUngated⟩ := passed.logged
  apply reaches_bind passed (quiet_writing.writeRecord fun world record carries =>
    writing_record (show ¬ Gated record.call.kind by rw [carries.kind]; decide)) stopped
  intro _ approved approvalRan passed
  obtain ⟨approval, carries, -, -, approvalRecords⟩ := writeRecord_returns approvalRan
  have named := locateDevice_returns foundRan
  have elapsed := writeRecord_elapsed approvalRan
  suffices done : ∀ final, (writing (Granted suite account world device.deviceId transfer
      granted until_)).rel approved final →
      Wrote suite environment account world final (.approveDevice deviceId since budget) by
    apply done
    have marks : ∀ {permitted}, Keeps (writing permitted)
        (markApproved environment deviceId transfer (.int granted) (.int until_)) :=
      quiet_writing.markApproved (writing_state _) _ _ _ _
    refine keeps_bind_run (marks approved) ?_
    intro _ marked markedRan
    have markedPassed : (writing Ungated).rel approved _ := marks approved
    rw [after_eq markedRan] at markedPassed
    refine keeps_bind_run (writing_sendHistory
      (passed.tables.trans markedPassed.tables).symm) ?_
    intro counts sent _
    exact keeps_bind (keeps_setState (writing_state _) _) (fun _ => keeps_pure _) sent
  rintro final ⟨-, later, new, records, permitted⟩
  refine ⟨old ++ approval :: new, ?_, ?_⟩
  · rw [records, approvalRecords, oldRecords]
    simp
  · intro record member gated
    rcases List.mem_append.mp member with before | after
    · exact absurd gated (oldUngated record before)
    · rcases List.mem_cons.mp after with rfl | after
      · rw [carries.kind] at gated
        exact absurd gated (by decide)
      · obtain ⟨sentTo, sameTransfer, content⟩ := permitted record after gated
        rw [named] at sentTo
        refine ⟨since, budget, granted, until_, by rw [sentTo], ?_, ?_, content⟩
        · rw [sentTo]
          exact ⟨grants, drawn.tick, begun, by omega, until_Read⟩
        · rw [sentTo, sameTransfer]
          exact ⟨approval, by simp, carries.device.trans named, carries.kind,
            carries.transfer, carries.plaintext, carries.extra⟩

/-- What one step writes. -/
theorem step_wrote (step : DeviceStep) (world : World) :
    Wrote suite environment account world
      ((step.program suite environment account).after world) step := by
  have contacts : AllowsContacts (logging Ungated) := fun _ _ => logging_same rfl
  have plain : ¬ step.Approves → Wrote suite environment account world
      ((step.program suite environment account).after world) step :=
    fun plain => .of_logging step (permissive_logging.step contacts
      (logging_kind (by decide)) plain world)
  cases step with
  | approveDevice deviceId since budget =>
      show Wrote suite environment account world ((discard _).after world) _
      rw [discard_after]
      exact approveDevice_wrote deviceId since budget world
  | revokeApproval deviceId =>
      exact .of_logging _ (logging_same rfl)
  | handleRecord blob =>
      exact .of_logging _ (permissive_logging.handleRecord
        (fun _ _ => logging_same rfl)
        (fun _ _ _ _ => permissive_logging.quiet.markApproved
          (fun _ _ => logging_same rfl) _ _ _ _)
        (fun _ _ _ _ _ _ _ _ _ => permissive_logging.mergeAnyContacts contacts _ _) world)
  | _ => exact plain id

variable (suite environment account)

/-- The world after a run of steps. -/
def runSteps (steps : List DeviceStep) (world : World) : World :=
  steps.foldl (fun world step => (step.program suite environment account).after world) world

/-- Every record that carries history was written by one call that approved its device,
and holds what is in the range of that call. -/
theorem history_follows_approval (steps : List DeviceStep) (world : World) :
    ∃ written, (runSteps suite environment account steps world).records =
        world.records ++ written ∧
      ∀ record ∈ written, Gated record.call.kind →
        ∃ before step after new, steps = before ++ step :: after ∧
          (runSteps suite environment account (before ++ [step]) world).records =
            (runSteps suite environment account before world).records ++ new ∧
          record ∈ new ∧
          Released suite environment account (runSteps suite environment account before world)
            (runSteps suite environment account (before ++ [step]) world) new step record := by
  induction steps using List.reverseRecOn with
  | nil => exact ⟨[], by simp [runSteps], by simp⟩
  | append_singleton steps step induction =>
      obtain ⟨written, records, released⟩ := induction
      obtain ⟨new, newRecords, newReleased⟩ := @step_wrote suite environment account step
        (runSteps suite environment account steps world)
      have ran : runSteps suite environment account (steps ++ [step]) world =
          (step.program suite environment account).after
            (runSteps suite environment account steps world) := by
        simp [runSteps]
      refine ⟨written ++ new, ?_, ?_⟩
      · rw [ran, newRecords, records, List.append_assoc]
      · intro record member gated
        rcases List.mem_append.mp member with earlier | last
        · obtain ⟨before, at_, after, added, split, rest⟩ := released record earlier gated
          exact ⟨before, at_, after ++ [step], added, by simp [split], rest⟩
        · refine ⟨steps, step, [], new, rfl, by rw [ran, newRecords], last, ?_⟩
          rw [ran]
          exact newReleased record last gated

end NoKnowledge.Core.HistoryGate

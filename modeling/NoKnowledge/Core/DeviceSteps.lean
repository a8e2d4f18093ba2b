import NoKnowledge.Core.Reception

/-!
# The steps of a device

What its user does with a device and what reaches it, as one type of steps, and
what frames that permit receiving say of them.  The calls that write approvals
or history are left to the statements about these.
-/

namespace NoKnowledge.Core

open Prog

variable {frame : Frame World} {suite : Suite} {environment : Environment}
  {account : Account}

/-- A frame that allows contacts to be filed. -/
def AllowsContacts (frame : Frame World) : Prop :=
  ∀ world row, frame.rel world (world.withContact row)

theorem keeps_requireContact (contactId : String) :
    Keeps frame (Client.requireContact suite account contactId) := by
  apply keeps_bind (keeps_askStore _)
  intro contact
  split
  · exact keeps_pure _
  · exact keeps_throw _

theorem outboxAdd_after (row : OutboxRow) (store : Store) :
    ∃ outbox, (Store.outboxAdd row).after store = { store with outbox } := by
  unfold Store.outboxAdd
  rw [after_bind_ok (run_get store)]
  split
  · exact ⟨store.outbox, rfl⟩
  · split
    · exact ⟨store.outbox, rfl⟩
    · exact ⟨_, rfl⟩

/-- The message row of a file body: the manifest of some upload. -/
def FileBody (body : Json) : Prop :=
  ∃ attachment chunkIds caption name mime,
    body = .mkObj [("caption", .str caption), ("attachment",
      ((Client.manifestDict attachment chunkIds).setField "name" (.str name)).setField
        "mime" (.str mime))]

/-- Everything that was uploaded has a file body. -/
theorem uploadAll_returned {attachment : Client.Attachment} {caption name mime : String}
    {devices : List DeviceEntry} {bodies : Dict String (Json × List String)}
    {world final : World}
    (returned : (Client.uploadAll environment account attachment caption name mime
      devices).run world = (.ok bodies, final)) {deviceId : String}
    {entry : Json × List String} (found : bodies.get? deviceId = some entry) :
    FileBody entry.1 := by
  refine @foldlM_returned _ _ _ _ _ (fun bodies : Dict String (Json × List String) =>
    ∀ deviceId entry, bodies.get? deviceId = some entry → FileBody entry.1)
    ?_ devices Dict.empty bodies world final ?_ returned deviceId entry found
  · intro bodies device state next later sofar stepped otherId other present
    obtain ⟨body, middle, uploaded, inserted⟩ := bind_returns stepped
    cases inserted
    rw [Dict.get?_insert] at present
    split at present
    · cases present
      obtain ⟨urls, _, -, afterUrls⟩ := bind_returns uploaded
      obtain ⟨capability, _, -, afterCapability⟩ := bind_returns afterUrls
      obtain ⟨chunkIds, _, -, built⟩ := bind_returns afterCapability
      cases built
      exact ⟨attachment, chunkIds, caption, name, mime, rfl⟩
    · exact sofar otherId other present
  · intro deviceId entry impossible
    rw [Dict.get?_empty] at impossible
    cases impossible

namespace Receptive

variable (receptive : Receptive frame)

include receptive

theorem queueOutbox (contactId messageId : String) (copy : DeviceEntry × Bytes) :
    Keeps frame
      (Client.queueOutbox suite environment account contactId messageId copy) := by
  apply keeps_bind (keeps_lift _)
  intro mailboxId
  apply keeps_bind (keeps_lift _)
  intro relay
  apply keeps_bind receptive.quiet.nowSeconds
  intro now
  apply keeps_bind (keeps_lift _)
  intro mailboxId
  exact receptive.onOutbox (outboxAdd_after _)

theorem mirrorSent (contactId messageId : String) :
    Keeps frame (Client.mirrorSent suite environment account contactId messageId) := by
  apply keeps_bind (keeps_askStore _)
  intro row
  split
  · exact keeps_pure _
  · exact keeps_bind (keeps_attempt
      (receptive.quiet.mirrorMessage receptive.mirror _ _)) fun _ => keeps_pure _

theorem recordSentMessage {body : Json}
    (adds : ∀ input : MessageInput, input.body = body →
      Keeps frame (onStore (Store.addMessage input)))
    (contactId messageId kind : String) (copies : List (DeviceEntry × Bytes)) :
    Keeps frame (Client.recordSentMessage suite environment account contactId messageId
      kind body copies) := by
  apply keeps_bind receptive.quiet.nowMs
  intro ts
  apply keeps_bind (adds _ rfl)
  intro _
  apply keeps_bind (keeps_forM fun copy _ => receptive.queueOutbox _ _ copy)
  intro _
  exact receptive.mirrorSent contactId messageId

theorem sendText {text : String}
    (adds : ∀ input : MessageInput, input.body = .mkObj [("text", .str text)] →
      Keeps frame (onStore (Store.addMessage input))) (contactId : String) :
    Keeps frame (Client.sendText suite environment account contactId text) := by
  apply keeps_bind (keeps_requireContact contactId)
  intro contact
  apply keeps_bind (receptive.quiet.ensureOutboundSessions contact _)
  intro state
  apply keeps_bind receptive.quiet.newId
  intro messageId
  apply keeps_bind receptive.quiet.nowMs
  intro now
  apply keeps_bind (receptive.quiet.fanOut state (fun _ => keeps_pure _) "text")
  intro sent
  apply keeps_bind (keeps_setContactSession receptive.sessions _ _ _)
  intro _
  exact keeps_bind (receptive.recordSentMessage adds _ _ _ _) fun _ => keeps_pure _

theorem encryptAttachment (data : Bytes) :
    Keeps frame (Client.encryptAttachment suite environment data) := by
  apply keeps_ite
  · exact fun _ => keeps_throw _
  · intro _
    apply keeps_bind (receptive.quiet.urandom _)
    intro key
    refine keeps_bind (keeps_mapM fun piece _ => ?_) fun chunks => keeps_pure _
    apply keeps_bind (receptive.quiet.urandom _)
    intro nonce
    split
    · exact keeps_throw _
    · exact keeps_pure _

theorem uploadAll (attachment : Client.Attachment) (caption name mime : String)
    (devices : List DeviceEntry) :
    Keeps frame (Client.uploadAll environment account attachment caption name mime
      devices) := by
  apply keeps_foldlM
  intro bodies device _
  refine keeps_bind ?_ fun body => keeps_pure _
  apply keeps_bind (keeps_lift _)
  intro urls
  apply keeps_bind (keeps_lift _)
  intro capability
  exact keeps_bind (keeps_mapM fun chunk _ => receptive.quiet.putBlob _ _ _) fun _ =>
    keeps_pure _

theorem keepCopies (chunkIds : List String) (attachment : Client.Attachment) :
    Keeps frame (Client.keepCopies environment chunkIds attachment) := by
  apply keeps_forM
  intro entry _
  exact keeps_bind receptive.quiet.time fun now world => receptive.localBlobs world _

theorem sendFile
    (adds : ∀ input : MessageInput, FileBody input.body →
      Keeps frame (onStore (Store.addMessage input)))
    (contactId name mime caption : String) (data : Bytes) :
    Keeps frame (Client.sendFile suite environment account contactId name mime caption
      data) := by
  apply keeps_bind (keeps_requireContact contactId)
  intro contact
  apply keeps_bind (receptive.quiet.ensureOutboundSessions contact _)
  intro state
  apply keeps_bind (receptive.encryptAttachment data)
  intro attachment world
  refine keeps_bind_run (receptive.uploadAll attachment caption name mime _ world) ?_
  intro bodies middle uploaded
  refine keeps_bind (keeps_lift _) (fun first => ?_) middle
  intro middle
  refine keeps_bind_run (keeps_lift _ middle) ?_
  rintro ⟨body, chunkIds⟩ later found
  have fileBody : FileBody body := by
    obtain ⟨chosen, -⟩ := lift_returns found
    unfold Client.bodyFor at chosen
    split at chosen
    · rename_i entry present
      cases chosen
      exact uploadAll_returned uploaded present
    · cases chosen
  refine keeps_bind (receptive.keepCopies chunkIds attachment) (fun _ => ?_) later
  apply keeps_bind receptive.quiet.newId
  intro messageId
  refine keeps_bind (receptive.quiet.fanOut state (fun device => ?_) "file") ?_
  · exact keeps_bind (keeps_lift _) fun _ =>
      keeps_bind receptive.quiet.nowMs fun _ => keeps_pure _
  intro sent
  apply keeps_bind (keeps_setContactSession receptive.sessions _ _ _)
  intro _
  exact keeps_bind (receptive.recordSentMessage
    (fun input same => adds input (same ▸ fileBody)) _ _ _ _) fun _ => keeps_pure _

end Receptive

namespace Permissive

variable (permissive : Permissive frame)

include permissive

theorem sendText (contactId text : String) :
    Keeps frame (Client.sendText suite environment account contactId text) :=
  permissive.toReceptive.sendText (fun _ _ => permissive.addMessage _) contactId

theorem sendFile (contactId name mime caption : String) (data : Bytes) :
    Keeps frame (Client.sendFile suite environment account contactId name mime caption
      data) :=
  permissive.toReceptive.sendFile (fun _ _ => permissive.addMessage _) contactId name mime
    caption data

theorem markRead (contactId messageId : String) :
    Keeps frame (Client.markRead suite environment account contactId messageId) := by
  apply keeps_bind (keeps_requireContact contactId)
  intro contact
  apply keeps_bind (keeps_askStore _)
  intro message
  split
  · exact keeps_throw _
  · apply keeps_bind (permissive.quiet.sendReceipt permissive.sessions contact _ _)
    intro _
    exact keeps_bind (keeps_attempt
      (permissive.quiet.mirrorState permissive.mirror _ _)) fun _ => keeps_pure _

theorem addContact (contacts : AllowsContacts frame) (data : Json)
    (nickname : Option String) :
    Keeps frame (Client.addContact suite environment account data nickname) := by
  apply keeps_bind (keeps_lift _)
  intro card
  apply keeps_ite
  · exact fun _ => keeps_throw _
  · exact fun _ => keeps_storeCard permissive.quiet (fun world _ _ _ => contacts world _) _

theorem mergeAnyContacts (contacts : AllowsContacts frame) (items : List Json)
    (counts : History.Counts) :
    Keeps frame (History.mergeContacts suite environment account items counts) :=
  keeps_mergeContacts (fun _ _ => keeps_mergeContact permissive.quiet
    fun world _ _ _ _ _ => contacts world _) counts

theorem importHistory (contacts : AllowsContacts frame) (bundle : Json) :
    Keeps frame (History.importHistory suite environment account bundle) :=
  keeps_bind (keeps_lift _) fun _ => permissive.mergeBundle fun items _ =>
    permissive.mergeAnyContacts contacts items _

theorem denyDevice (deviceId : String) : Keeps frame (Sync.denyDevice deviceId) := by
  apply keeps_bind (keeps_askStore _)
  intro pending
  exact keeps_setState (permissive.state _ (by decide) (by decide)) _

theorem requestHistory (requests : AllowsRecord frame Channel.request) (since : Int)
    (budget : Option Int) :
    Keeps frame (Sync.requestHistory suite environment account since budget) := by
  apply keeps_bind permissive.quiet.newTransferId
  intro transfer
  apply keeps_bind permissive.quiet.siblingDevices
  intro devices
  refine keeps_bind (keeps_foldlM (fun asked device _ => ?_) _) fun asked => ?_
  · refine keeps_bind (keeps_attempt (permissive.quiet.writeRecord
      fun world record carries => requests world record carries.kind)) fun result => ?_
    split <;> exact keeps_pure _
  · apply keeps_ite
    · exact fun _ => keeps_pure _
    · intro _
      apply keeps_bind permissive.quiet.nowMs
      intro now
      exact keeps_bind (keeps_setState (permissive.state _ (by decide) (by decide)) _) fun _ =>
        keeps_pure _

omit permissive in
/-- Streaming history: the items are those that are built from the store. -/
theorem rel_sendHistory (quiet : Quiet frame) {device : DeviceEntry}
    {since until_ budget : Int} {transfer : String} {world : World}
    (offers : ∀ plaintext extra world (record : SentRecord),
      record.Carries device Channel.offer plaintext transfer 0 extra →
        frame.rel world { world with records := world.records ++ [record] })
    (items : ∀ contents skipped, Sync.buildItems world.store
        (account.identity.identityId suite) since until_ budget =
          .ok (contents, skipped) →
      ∀ content ∈ contents, ∀ seq world (record : SentRecord),
        record.Carries device Channel.item content transfer seq {} →
          frame.rel world { world with records := world.records ++ [record] })
    (completes : ∀ plaintext extra world (record : SentRecord),
      record.Carries device Channel.complete plaintext transfer 0 extra →
        frame.rel world { world with records := world.records ++ [record] }) :
    frame.rel world ((Sync.sendHistory suite environment account device since until_
      budget transfer).after world) := by
  refine keeps_bind_run (keeps_askStore _ world) ?_
  rintro store _ ⟨⟩
  refine keeps_bind_run (keeps_lift _ world) ?_
  rintro ⟨contents, skipped⟩ middle returned
  obtain ⟨built, rfl⟩ := lift_returns returned
  refine keeps_bind (quiet.writeRecord (offers _ _)) (fun _ => ?_) middle
  refine keeps_bind (keeps_foldlM (fun chain entry member => ?_) _) fun chain => ?_
  · have content : entry.1 ∈ contents := (List.mem_zipIdx' member).2 ▸ List.getElem_mem _
    exact keeps_bind (quiet.writeRecord (items contents skipped built entry.1 content _))
      fun _ => keeps_lift _
  · exact keeps_bind (quiet.writeRecord (completes _ _)) fun _ => keeps_pure _

/-- Approving a device, when the frame allows the records and the approval. -/
theorem approveDevice {deviceId : String}
    (records : ∀ kind, kind ≠ Channel.mirror → AllowsRecord frame kind)
    (marked : ∀ transfer since until_,
      Keeps frame (Sync.markApproved environment deviceId transfer since until_))
    (since budget : Option Int) :
    Keeps frame
      (Sync.approveDevice suite environment account deviceId since budget) := by
  have written : ∀ {kind} device plaintext transfer seq extra, kind ≠ Channel.mirror →
      ∀ world (record : SentRecord),
        record.Carries device kind plaintext transfer seq extra →
        frame.rel world { world with records := world.records ++ [record] } :=
    fun _ _ _ _ _ other world record carries => records _ other world record carries.kind
  apply keeps_bind (permissive.quiet.locateDevice deviceId)
  intro device
  split
  · exact keeps_throw _
  · apply keeps_bind (keeps_askStore _)
    intro pending
    apply keeps_bind (keeps_lift _)
    intro since
    apply keeps_bind permissive.quiet.newTransferId
    intro transfer
    apply keeps_bind permissive.quiet.nowMs
    intro until_
    apply keeps_bind (permissive.quiet.writeRecord (written _ _ _ _ _ (by decide)))
    intro _
    apply keeps_bind (marked _ _ _)
    intro _
    apply keeps_bind fun world => rel_sendHistory permissive.quiet
      (fun _ _ => written _ _ _ _ _ (by decide))
      (fun _ _ _ _ _ _ => written _ _ _ _ _ (by decide))
      (fun _ _ => written _ _ _ _ _ (by decide))
    intro counts
    exact keeps_bind (keeps_setState (permissive.state _ (by decide) (by decide)) _) fun _ =>
      keeps_pure _

theorem receiveBlob (contacts : AllowsContacts frame) (blob : Bytes) :
    Keeps frame (Client.handleBlob suite environment account blob) :=
  permissive.handleBlob (fun _ _ _ _ => keeps_storeCard permissive.quiet
    (fun world _ _ _ => contacts world _) none) blob

/-- Everything a record does, unless it is an approval. -/
theorem dispatch (contacts : AllowsContacts frame) {kind : Nat}
    (notApproval : kind ≠ Channel.approval)
    (incoming : Transferring kind → AllowsState frame Sync.incomingState) (deviceId transfer : String) (header : Json)
    (plaintext : Bytes) :
    Keeps frame (Sync.dispatch suite environment account deviceId transfer kind header
      plaintext) :=
  @Receptive.dispatch _ frame.action _ _ _ permissive.toReceptive _ _ _ _ _ {
    approval := fun isApproval => absurd isApproval notApproval
    offer := fun _ previous => permissive.startTransfer previous _
    incoming := incoming
    contacts := fun _ _ => permissive.mergeAnyContacts contacts _ _
    item := fun _ _ _ _ => permissive.mergeTransferMessage _
    mirror := fun _ _ _ _ => permissive.mergeIndexed _ _
    state := fun _ _ _ _ => permissive.applyMirroredState _ }

omit permissive in
/-- An approval that arrives is filed once. -/
theorem dispatch_approval (deviceId transfer : String) (header : Json)
    (plaintext : Bytes) :
    Sync.dispatch suite environment account deviceId transfer Channel.approval header
        plaintext = (do
      if ← Sync.markSeen transfer then
        Sync.markApproved environment deviceId transfer (header.getD "since")
          (header.getD "until")
      else return) := rfl

end Permissive

/-- What happens to a device: a call of its user, or something that arrives. -/
inductive DeviceStep where
  | approveDevice (deviceId : String) (since budget : Option Int)
  | revokeApproval (deviceId : String)
  | denyDevice (deviceId : String)
  | requestHistory (since : Int) (budget : Option Int)
  | sendText (contactId text : String)
  | sendFile (contactId name mime caption : String) (data : Bytes)
  | markRead (contactId messageId : String)
  | addContact (data : Json) (nickname : Option String)
  | importHistory (bundle : Json)
  | handleBlob (blob : Bytes)
  | handleRecord (blob : Bytes)

/-- Run a program for what it does. -/
def discard {α : Type} (body : ClientProg α) : ClientProg Unit := do
  let _ ← body

theorem discard_after {α : Type} (body : ClientProg α) (world : World) :
    (discard body).after world = body.after world :=
  after_bind_idle (fun _ _ => rfl) world

theorem keeps_discard {α : Type} {body : ClientProg α} (bodyKeeps : Keeps frame body) :
    Keeps frame (discard body) :=
  keeps_bind bodyKeeps fun _ => keeps_pure _

variable (suite environment account) in
def DeviceStep.program : DeviceStep → ClientProg Unit
  | approveDevice deviceId since budget =>
      discard (Sync.approveDevice suite environment account deviceId since budget)
  | revokeApproval deviceId => Sync.revokeApproval deviceId
  | denyDevice deviceId => Sync.denyDevice deviceId
  | requestHistory since budget =>
      discard (Sync.requestHistory suite environment account since budget)
  | sendText contactId text =>
      discard (Client.sendText suite environment account contactId text)
  | sendFile contactId name mime caption data =>
      discard (Client.sendFile suite environment account contactId name mime caption data)
  | markRead contactId messageId =>
      Client.markRead suite environment account contactId messageId
  | addContact data nickname =>
      discard (Client.addContact suite environment account data nickname)
  | importHistory bundle =>
      discard (History.importHistory suite environment account bundle)
  | handleBlob blob => Client.handleBlob suite environment account blob
  | handleRecord blob => Sync.handleRecord suite environment account blob

/-- The steps that write approvals. -/
def DeviceStep.Approves : DeviceStep → Prop
  | approveDevice _ _ _ | revokeApproval _ | handleRecord _ => True
  | _ => False

/-- What permits receiving permits every step that does not write approvals. -/
theorem Permissive.step (permissive : Permissive frame) (contacts : AllowsContacts frame)
    (requests : AllowsRecord frame Channel.request) {step : DeviceStep}
    (plain : ¬ step.Approves) :
    Keeps frame (step.program suite environment account) := by
  cases step with
  | approveDevice => exact absurd trivial plain
  | revokeApproval => exact absurd trivial plain
  | handleRecord => exact absurd trivial plain
  | denyDevice deviceId => exact permissive.denyDevice deviceId
  | requestHistory since budget =>
      exact keeps_discard (permissive.requestHistory requests since budget)
  | sendText contactId text => exact keeps_discard (permissive.sendText contactId text)
  | sendFile contactId name mime caption data =>
      exact keeps_discard (permissive.sendFile contactId name mime caption data)
  | markRead contactId messageId => exact permissive.markRead contactId messageId
  | addContact data nickname =>
      exact keeps_discard (permissive.addContact contacts data nickname)
  | importHistory bundle => exact keeps_discard (permissive.importHistory contacts bundle)
  | handleBlob blob => exact permissive.receiveBlob contacts blob

end NoKnowledge.Core

import NoKnowledge.Core.Footprint

/-!
# What receiving changes

A frame is receptive when it allows everything a client does with what it
receives, except for what happens to messages, contacts, approvals and the notes
of incoming transfers.  These are left to the statements about them, which say
what the parts that change them do: as an action amid everything else, or as one
more thing the frame allows.
-/

namespace NoKnowledge.Core

open Prog NoKnowledge.Wire

/-- A frame that allows everything a client does with what it receives, except
for messages, contacts, approvals and the notes of incoming transfers. -/
structure Receptive (frame : Frame World) : Prop where
  quiet : Quiet frame
  mirror : AllowsMirrors frame
  sessions : AllowsSessions frame
  outbox : ∀ world outbox,
    frame.rel world { world with store := { world.store with outbox } }
  localBlobs : ∀ world localBlobs,
    frame.rel world { world with store := { world.store with localBlobs } }
  /-- A one-time prekey may be spent. -/
  prekeys : ∀ world prekeys id, world.store.prekeys = some prekeys →
    frame.rel world { world with
      store := { world.store with
        prekeys := some { prekeys with opks := prekeys.opks.erase id } } }
  state : ∀ key, key ≠ Sync.approvalsState → key ≠ Sync.incomingState →
    AllowsState frame key

/-- A receptive frame that allows any change of the messages. -/
structure Permissive (frame : Frame World) : Prop extends Receptive frame where
  messages : ∀ world messages,
    frame.rel world { world with store := { world.store with messages } }
  index : ∀ world syncMessageIndex, frame.rel world { world with syncMessageIndex }

/-- What a receptive frame allows, a wider frame allows as well. -/
theorem Receptive.mono {frame wider : Frame World} (receptive : Receptive frame)
    (within : ∀ {first second}, frame.rel first second → wider.rel first second)
    (mirror : AllowsMirrors wider) :
    Receptive wider where
  quiet := receptive.quiet.mono within
  mirror := mirror
  sessions := fun world id session => within (receptive.sessions world id session)
  outbox := fun world outbox => within (receptive.outbox world outbox)
  localBlobs := fun world blobs => within (receptive.localBlobs world blobs)
  prekeys := fun world prekeys id held => within (receptive.prekeys world prekeys id held)
  state := fun key unapproved other world value =>
    within (receptive.state key unapproved other world value)

/-- The world after a contact was filed. -/
def World.withContact (world : World) (row : ContactRow) : World :=
  { world with
    store := { world.store with
      contacts := world.store.contacts.upsert row (Store.takeOver row) } }

variable {frame : Frame World} {action : Action frame} {suite : Suite}
  {environment : Environment} {account : Account}

theorem run_upsertContact {row : ContactRow} (fits : Sql.fits row.createdAt = true)
    (world : World) :
    (onStore (Store.upsertContact row)).run world = (.ok (), world.withContact row) := by
  have bound : Sql.integer row.createdAt = .ok row.createdAt :=
    Sql.integer_eq_ok.mpr ⟨fits, rfl⟩
  simp only [Store.upsertContact, bound]
  rfl

theorem run_upsertContact_refused {row : ContactRow}
    (overflow : ¬ Sql.fits row.createdAt = true) (world : World) :
    (onStore (Store.upsertContact row)).run world =
      (.error { class_ := .overflow }, world) := by
  simp only [Store.upsertContact, Sql.integer, overflow]
  rfl

theorem upsertContact_returns {row : ContactRow} {world final : World} {result : Unit}
    (returned : (onStore (Store.upsertContact row)).run world = (.ok result, final)) :
    final = world.withContact row := by
  by_cases fits : Sql.fits row.createdAt = true
  · rw [run_upsertContact fits] at returned
    cases returned
    rfl
  · rw [run_upsertContact_refused fits] at returned
    cases returned

theorem rel_upsertContact {row : ContactRow} {world : World}
    (allowed : frame.rel world (world.withContact row)) :
    frame.rel world ((onStore (Store.upsertContact row)).after world) := by
  unfold Prog.after
  by_cases fits : Sql.fits row.createdAt = true
  · rw [run_upsertContact fits]
    exact allowed
  · rw [run_upsertContact_refused fits]
    exact frame.refl world

theorem Receptive.mergeChunks (receptive : Receptive frame) (items : List Json)
    (counts : History.Counts) :
    Keeps frame (History.mergeChunks environment items counts) := by
  apply keeps_foldlM
  intro counts chunk _
  apply keeps_bind (keeps_lift _)
  intro id
  apply keeps_ite
  · exact fun _ => keeps_pure _
  · intro _
    apply keeps_bind (keeps_lift _)
    intro ciphertext
    apply keeps_bind (keeps_askStore _)
    intro held
    apply keeps_ite
    · exact fun _ => keeps_pure _
    · intro _
      apply keeps_bind receptive.quiet.time
      intro now
      exact keeps_bind (fun world => receptive.localBlobs world _) fun _ => keeps_pure _

theorem keeps_mergeContacts {items : List Json}
    (contacts : ∀ item ∈ items,
      Keeps frame (History.mergeContact suite environment account item))
    (counts : History.Counts) :
    Keeps frame (History.mergeContacts suite environment account items counts) := by
  apply keeps_foldlM
  intro counts item member
  apply keeps_bind (contacts item member)
  intro added
  split <;> exact keeps_pure _

theorem keeps_onStore {α : Type} {body : StoreProg α}
    (unchanged : ∀ store, body.after store = store) : Keeps frame (onStore body) := by
  intro world
  have same : (onStore body).after world = { world with
      store := body.after world.store } := rfl
  rw [same, unchanged]
  exact frame.refl world

/-- A store operation that leaves the store alone leaves the world alone. -/
theorem onStore_returns {α : Type} {body : StoreProg α} {world final : World} {value : α}
    (unchanged : body.after world.store = world.store)
    (returned : (onStore body).run world = (.ok value, final)) :
    final = world ∧ body.run world.store = (.ok value, world.store) := by
  have ran : (onStore body).run world =
      ((body.run world.store).1, { world with store := body.after world.store }) := rfl
  rw [ran, unchanged] at returned
  obtain ⟨result, rfl⟩ := Prod.mk.inj returned
  exact ⟨rfl, Prod.ext result unchanged⟩

theorem findByRemoteId_after (identityId : String) (remoteId : Json)
    (direction : Option String) (store : Store) :
    (Store.findByRemoteId identityId remoteId direction).after store = store := by
  unfold Store.findByRemoteId
  cases Sql.text remoteId with
  | error raised => rfl
  | ok bound => cases bound <;> rfl

theorem queryMessage_after (messageId : Json) (store : Store) :
    (Store.queryMessage messageId).after store = store := by
  unfold Store.queryMessage
  cases Sql.text messageId with
  | error raised => rfl
  | ok bound => cases bound <;> rfl

/-- Removing the outbox rows of a message, or failing to. -/
theorem run_outboxRemoveForMessage {messageId : Json} {target : Option String}
    (bound : Sql.text messageId = .ok target) (store : Store) :
    (Store.outboxRemoveForMessage messageId).run store =
        (.error Store.constraint, store) ∨
      (Store.outboxRemoveForMessage messageId).run store = (.ok (), { store with
        outbox := store.outbox.filter fun row =>
          !Store.outboxMatches target (messageId.toText ++ ":%") row }) := by
  unfold Store.outboxRemoveForMessage
  rw [bound, run_bind_ok (run_lift_ok target store), run_bind_ok (run_get store)]
  split
  · exact Or.inl rfl
  · exact Or.inr rfl

theorem outboxRemoveForMessage_after (messageId : Json) (store : Store) :
    ∃ outbox, (Store.outboxRemoveForMessage messageId).after store =
      { store with outbox } := by
  cases bound : Sql.text messageId with
  | error raised =>
      refine ⟨store.outbox, ?_⟩
      unfold Store.outboxRemoveForMessage
      rw [bound]
      rfl
  | ok target =>
      unfold Prog.after
      rcases run_outboxRemoveForMessage bound store with refused | removed
      · exact ⟨store.outbox, by rw [refused]⟩
      · exact ⟨_, by rw [removed]⟩

theorem keeps_mirroredTarget (change : Json) :
    Keeps frame (Sync.mirroredTarget suite account change) := by
  apply keeps_bind (keeps_lift _)
  intro remoteId
  refine keeps_bind (keeps_ite (fun _ => keeps_onStore
    (findByRemoteId_after _ _ _)) fun _ => keeps_pure _) fun target => ?_
  split
  · exact keeps_pure _
  · apply keeps_bind (keeps_lift _)
    intro id
    apply keeps_ite
    · exact fun _ => keeps_askStore _
    · exact fun _ => keeps_pure _

/-- Filing a contact item, when the frame allows the row it is read as. -/
theorem keeps_mergeContact (quiet : Quiet frame) {item : Json}
    (allowed : ∀ world now row,
      ((item.getD "id").orElse (.str "")).toText ≠ "" →
      world.store.getContact (account.identity.identityId suite)
        ((item.getD "id").orElse (.str "")).toText = none →
      History.contactRow (account.identity.identityId suite) item
        ((item.getD "id").orElse (.str "")).toText now = .ok row →
      frame.rel world (world.withContact row)) :
    Keeps frame (History.mergeContact suite environment account item) := by
  intro world
  apply keeps_bind_run (keeps_lift _ world)
  intro id middle attempted
  obtain ⟨read, rfl⟩ := lift_returns attempted
  rw [← Json.attempt_eq_ok read]
  dsimp only
  split
  · exact frame.refl middle
  · rename_i given
    apply keeps_bind_run (keeps_askStore _ middle)
    rintro contact _ ⟨⟩
    split
    · exact frame.refl middle
    · rename_i unknown
      apply keeps_bind_run (quiet.nowSeconds middle)
      rintro now later ⟨⟩
      apply keeps_bind_run (keeps_lift _ _)
      intro row last converted
      obtain ⟨filed, rfl⟩ := lift_returns converted
      have allowedHere := allowed { middle with tick := middle.tick + 1 } _ row given
        unknown filed
      exact keeps_bind_run (rel_upsertContact allowedHere) fun _ final _ =>
        keeps_pure true final

/-- Filing a card, when the frame allows the row it is filed as. -/
theorem keeps_storeCard (quiet : Quiet frame) {card : ContactCard}
    (allowed : ∀ world existing nickname now, frame.rel world
      (world.withContact (Client.cardRow suite account card existing nickname now)))
    (nickname : Option String) :
    Keeps frame (Client.storeCard suite environment account card nickname) := by
  apply keeps_bind (keeps_askStore _)
  intro existing
  apply keeps_bind (keeps_lift _)
  intro nickname
  apply keeps_bind quiet.nowSeconds
  intro now
  refine keeps_bind (fun world => rel_upsertContact (allowed world _ _ _)) fun _ => ?_
  exact keeps_bind (keeps_askStore _) fun _ => keeps_pure _

theorem decodeBundle_eq {bundle decoded : Json}
    (read : History.decodeBundle bundle = .ok decoded) : decoded = bundle := by
  simp only [History.decodeBundle, except_bind_eq_ok] at read
  obtain ⟨_, _, checked⟩ := read
  split at checked
  · cases checked
  · cases checked
    rfl

namespace Receptive

variable (receptive : Receptive frame)

include receptive

/-- Merging a bundle: the action is the merge of its messages. -/
theorem mergeBundle {bundle : Json}
    (contacts : ∀ items, History.itemsOf bundle "contacts" = .ok items →
      Keeps frame (History.mergeContacts suite environment account items {}))
    (messages : ∀ items counts, History.itemsOf bundle "messages" = .ok items →
      Acts action (History.mergeIndexed suite environment account items counts)) :
    Acts action (History.mergeBundle suite environment account bundle) := by
  intro world
  apply acts_bind_run (keeps_lift _ world)
  intro items middle read
  obtain ⟨itemsRead, rfl⟩ := lift_returns read
  refine acts_bind (contacts items itemsRead) (fun counts current => ?_) middle
  apply acts_bind_run (keeps_lift _ current)
  intro found last returned
  obtain ⟨foundRead, rfl⟩ := lift_returns returned
  exact (messages found counts foundRead).bind (fun _ =>
    keeps_bind (keeps_lift _) fun chunks => receptive.mergeChunks chunks _) last

/-! ## Receiving device records -/

theorem markSeen (transfer : String) : Keeps frame (Sync.markSeen transfer) := by
  apply keeps_bind (keeps_askStore _)
  intro seen
  apply keeps_ite
  · exact fun _ => keeps_pure _
  · intro _
    exact keeps_bind (keeps_setState (receptive.state _ (by decide) (by decide)) _) fun _ =>
      keeps_pure _

theorem incomingRequest (deviceId transfer : String) (since : Json) :
    Keeps frame (Sync.incomingRequest environment deviceId transfer since) := by
  apply keeps_bind (keeps_askStore _)
  intro pending
  apply keeps_bind (keeps_lift _)
  intro since
  apply keeps_bind receptive.quiet.nowMs
  intro now
  exact keeps_setState (receptive.state _ (by decide) (by decide)) _

omit receptive in
theorem setIncoming (incoming : AllowsState frame Sync.incomingState)
    (deviceId : String) (entry : Json) : Keeps frame (Sync.setIncoming deviceId entry) := by
  apply keeps_bind (keeps_askStore _)
  intro state
  exact keeps_setState incoming _

omit receptive in
/-- An offer: the action is that the index of an older transfer goes. -/
theorem handleOffer (incoming : AllowsState frame Sync.incomingState) {transfer : String}
    (started : ∀ previous, Acts action (Sync.startTransfer previous transfer))
    (deviceId : String) (plaintext : Bytes) :
    Acts action (Sync.handleOffer deviceId transfer plaintext) := by
  apply acts_bind (keeps_lift _)
  intro offer
  apply acts_bind (keeps_askStore _)
  intro state
  apply (started _).bind
  intro _
  apply keeps_bind (keeps_lift _)
  intro expected
  apply keeps_bind (keeps_lift _)
  intro skipped
  exact setIncoming incoming _ _

omit receptive in
theorem handleComplete (incoming : AllowsState frame Sync.incomingState)
    (deviceId : String) (plaintext : Bytes) :
    Keeps frame (Sync.handleComplete deviceId plaintext) := by
  apply keeps_bind (keeps_lift _)
  intro complete
  apply keeps_bind (keeps_askStore _)
  intro state
  apply keeps_bind (keeps_lift _)
  intro expected
  apply keeps_bind (keeps_lift _)
  intro received
  exact setIncoming incoming _ _

/-- A back-fill item: the action is the merge of its message. -/
theorem applyItem (incoming : AllowsState frame Sync.incomingState) {plaintext : Bytes}
    (contacts : ∀ item, Sync.loads plaintext = .ok item →
      item.getD "kind" = .str "contact" → Keeps frame
        (History.mergeContacts suite environment account [item.eraseField "kind"] {}))
    (message : ∀ item, Sync.loads plaintext = .ok item →
      item.getD "kind" = .str "message" → Acts action
        (Sync.mergeTransferMessage suite environment account (item.eraseField "kind")))
    (deviceId transfer : String) (seq : Int) :
    Acts action
      (Sync.applyItem suite environment account deviceId transfer plaintext seq) := by
  intro world
  apply acts_bind_run (keeps_lift _ world)
  intro item middle read
  obtain ⟨loaded, rfl⟩ := lift_returns read
  refine acts_bind (keeps_askStore _) (fun state => ?_) middle
  refine Acts.bind ?_ fun _ => ?_
  · apply acts_ite
    · exact fun isContact => (keeps_bind (contacts item loaded isContact) fun _ =>
        keeps_pure _).acts
    intro _
    apply acts_ite
    · exact fun isMessage => message item loaded isMessage
    intro _
    apply acts_ite
    · exact fun _ => (keeps_bind (receptive.mergeChunks _ _) fun _ =>
        keeps_pure _).acts
    · exact fun _ => (keeps_throw _).acts
  · apply keeps_bind (keeps_lift _)
    intro chain
    apply keeps_bind (keeps_lift _)
    intro received
    apply keeps_bind (keeps_lift _)
    intro expected
    exact keeps_setState incoming _

end Receptive

/-- A mirror: the action is the merge of its message, or its state change. -/
theorem acts_applyMirror {item : Json}
    (contacts : item.getD "kind" = .str "mirror" →
      (item.getD "contact").truthy = true → Keeps frame
        (History.mergeContacts suite environment account [item.getD "contact"] {}))
    (message : item.getD "kind" = .str "mirror" → Acts action
      (History.mergeIndexed suite environment account [item.getD "message"] {}))
    (state : item.getD "kind" = .str "state" → Acts action
      (Sync.applyMirroredState suite account ((item.getD "state").orElse (.obj [])))) :
    Acts action (Sync.applyMirror suite environment account item) := by
  apply acts_ite
  · intro isMirror
    refine acts_bind (keeps_ite (contacts isMirror) fun _ => keeps_pure _) fun _ => ?_
    exact (message isMirror).bind fun _ => keeps_pure _
  intro _
  apply acts_ite
  · exact state
  · exact fun _ => (keeps_pure _).acts

/-- The contact items an opened record brings. -/
def recordContacts (kind : Nat) (payload : Json) : List Json :=
  if kind = Channel.item then
    if payload.getD "kind" = .str "contact" then [payload.eraseField "kind"] else []
  else if kind = Channel.mirror then
    if payload.getD "kind" = .str "mirror" ∧ (payload.getD "contact").truthy = true then
      [payload.getD "contact"]
    else []
  else []

/-- The kinds of the records that carry a transfer. -/
def Transferring (kind : Nat) : Prop :=
  kind = Channel.offer ∨ kind = Channel.item ∨ kind = Channel.complete

variable (suite environment account) in
/-- What an opened record may do to messages, contacts, approvals and the notes
of incoming transfers. -/
structure RecordActs (action : Action frame) (kind : Nat) (header : Json)
    (plaintext : Bytes) (deviceId transfer : String) : Prop where
  approval : kind = Channel.approval → Acts action (Sync.markApproved environment
    deviceId transfer (header.getD "since") (header.getD "until"))
  offer : kind = Channel.offer → ∀ previous,
    Acts action (Sync.startTransfer previous transfer)
  incoming : Transferring kind → AllowsState frame Sync.incomingState
  contacts : ∀ payload, Sync.loads plaintext = .ok payload →
    Keeps frame (History.mergeContacts suite environment account
      (recordContacts kind payload) {})
  item : kind = Channel.item → ∀ payload, Sync.loads plaintext = .ok payload →
    payload.getD "kind" = .str "message" → Acts action
      (Sync.mergeTransferMessage suite environment account (payload.eraseField "kind"))
  mirror : kind = Channel.mirror → ∀ payload, Sync.loads plaintext = .ok payload →
    payload.getD "kind" = .str "mirror" → Acts action
      (History.mergeIndexed suite environment account [payload.getD "message"] {})
  state : kind = Channel.mirror → ∀ payload, Sync.loads plaintext = .ok payload →
    payload.getD "kind" = .str "state" → Acts action
      (Sync.applyMirroredState suite account ((payload.getD "state").orElse (.obj [])))

theorem Receptive.dispatch (receptive : Receptive frame) {kind : Nat} {header : Json}
    {plaintext : Bytes} {deviceId transfer : String}
    (acts : RecordActs suite environment account action kind header plaintext deviceId
      transfer) :
    Acts action (Sync.dispatch suite environment account deviceId transfer kind header
      plaintext) := by
  apply acts_ite
  · intro _
    exact (keeps_bind (keeps_lift _) fun request =>
      receptive.incomingRequest deviceId transfer _).acts
  intro _
  apply acts_ite
  · intro isApproval
    apply acts_bind (receptive.markSeen transfer)
    intro fresh
    apply acts_ite
    · exact fun _ => acts.approval isApproval
    · exact fun _ => (keeps_pure _).acts
  intro _
  apply acts_ite
  · exact fun isOffer => Receptive.handleOffer (acts.incoming (Or.inl isOffer))
      (acts.offer isOffer) deviceId plaintext
  intro _
  apply acts_ite
  · intro isItem
    apply acts_bind (keeps_lift _)
    intro seq
    apply receptive.applyItem (acts.incoming (Or.inr (Or.inl isItem)))
    · intro payload loaded isContact
      have allowed := acts.contacts payload loaded
      rwa [recordContacts, if_pos isItem, if_pos isContact] at allowed
    · exact acts.item isItem
  intro notItem
  apply acts_ite
  · exact fun isComplete => (Receptive.handleComplete
      (acts.incoming (Or.inr (Or.inr isComplete))) deviceId plaintext).acts
  intro _
  apply acts_ite
  · intro isMirror world
    apply acts_bind_run (keeps_lift _ world)
    intro payload middle read
    obtain ⟨loaded, rfl⟩ := lift_returns read
    refine acts_applyMirror (fun mirrored given => ?_) (acts.mirror isMirror payload loaded)
      (acts.state isMirror payload loaded) middle
    have allowed := acts.contacts payload loaded
    rwa [recordContacts, if_neg notItem, if_pos isMirror, if_pos ⟨mirrored, given⟩]
      at allowed
  · exact fun _ => (keeps_pure _).acts

variable (suite environment account) in
/-- Open an inbound record: what handling one does before it is dispatched. -/
def openInbound (blob : Bytes) : ClientProg (String × Nat × Json × Bytes) := do
  let (_, header, _) ← Prog.lift (Channel.parseRecord blob)
  let deviceId := ((header.getD "from").orElse (.str "")).toText
  match ← Sync.locateDevice suite environment account deviceId with
  | none => throw (Sync.unavailable ("record from unknown device: " ++ deviceId))
  | some device =>
      match ← Sync.fetchDeviceKeys suite environment account device with
      | none => throw (Sync.unavailable ("no sync keys for device: " ++ deviceId))
      | some record =>
          let (_, sagreePrivate) ← Sync.ensureDeviceKeys environment
          let opened ← Prog.lift
            (Channel.openRecord suite blob sagreePrivate record.sdev deviceId)
          return (deviceId, opened)

variable (suite environment account) in
/-- Dispatch a record that was opened. -/
def dispatchOpened (inbound : String × Nat × Json × Bytes) : ClientProg Unit :=
  match inbound with
  | (deviceId, kind, header, plaintext) =>
      Sync.dispatch suite environment account deviceId
        ((header.getD "transfer").orElse (.str "")).toText kind header plaintext

theorem handleRecord_eq (blob : Bytes) :
    Sync.handleRecord suite environment account blob =
      openInbound suite environment account blob >>=
        dispatchOpened suite environment account := by
  unfold Sync.handleRecord openInbound
  rw [bind_assoc_eq]
  congr 1
  funext ⟨_, header, _⟩
  dsimp only
  rw [bind_assoc_eq]
  congr 1
  funext device
  cases device with
  | none => rfl
  | some device =>
      dsimp only
      rw [bind_assoc_eq]
      congr 1
      funext record
      cases record with
      | none => rfl
      | some record =>
          dsimp only
          rw [bind_assoc_eq]
          congr 1
          funext ⟨_, sagreePrivate⟩
          dsimp only
          rw [bind_assoc_eq]
          rfl

theorem Quiet.openInbound (quiet : Quiet frame) (blob : Bytes) :
    Keeps frame (openInbound suite environment account blob) := by
  apply keeps_bind (keeps_lift _)
  rintro ⟨_, header, _⟩
  apply keeps_bind (quiet.locateDevice _)
  intro device
  split
  · exact keeps_throw _
  · apply keeps_bind (quiet.fetchDeviceKeys _)
    intro record
    split
    · exact keeps_throw _
    · apply keeps_bind quiet.ensureDeviceKeys
      rintro ⟨_, sagreePrivate⟩
      exact keeps_bind (keeps_lift _) fun _ => keeps_pure _

/-- What a record opens to, it opens to under some keys. -/
theorem openInbound_returns {blob : Bytes} {world middle : World} {deviceId : String}
    {opened : Nat × Json × Bytes}
    (returned : (Core.openInbound suite environment account blob).run world =
      (.ok (deviceId, opened), middle)) :
    ∃ sagreePrivate sdev,
      Channel.openRecord suite blob sagreePrivate sdev deviceId = .ok opened := by
  obtain ⟨⟨_, header, _⟩, parsedWorld, -, continued⟩ := bind_returns returned
  obtain ⟨device, locatedWorld, -, continued⟩ := bind_returns continued
  cases device with
  | none => cases continued
  | some device =>
      obtain ⟨record, fetchedWorld, -, continued⟩ := bind_returns continued
      cases record with
      | none => cases continued
      | some record =>
          obtain ⟨⟨_, sagreePrivate⟩, keyedWorld, -, continued⟩ := bind_returns continued
          obtain ⟨found, openedWorld, lifted, built⟩ := bind_returns continued
          obtain ⟨unsealed, -⟩ := lift_returns lifted
          cases built
          exact ⟨sagreePrivate, record.sdev, unsealed⟩

variable (suite environment account) in
/-- What handling a record comes to: something that does not matter, and then
what the record opens to, if it does. -/
inductive Handled (frame : Frame World) (blob : Bytes) (world : World) : World → Prop
  | stopped {middle : World} (passed : frame.rel world middle) :
      Handled frame blob world middle
  | opened {middle : World} (passed : frame.rel world middle)
      {plaintext : Bytes} {deviceId : String} {kind : Nat} {header : Json}
      (returned : (openInbound suite environment account blob).run world =
        (.ok (deviceId, kind, header, plaintext), middle)) :
      Handled frame blob world
        ((Sync.dispatch suite environment account deviceId
          ((header.getD "transfer").orElse (.str "")).toText kind header
          plaintext).after middle)

theorem Quiet.handleRecord (quiet : Quiet frame) (blob : Bytes) (world : World) :
    Handled suite environment account frame blob world
      ((Sync.handleRecord suite environment account blob).after world) := by
  rw [handleRecord_eq]
  apply reaches_bind (frame.refl world) (quiet.openInbound blob) fun _ => .stopped
  rintro ⟨deviceId, kind, header, plaintext⟩ middle returned passed
  exact .opened passed returned

/-- Handling a record, whatever it opens to. -/
theorem Receptive.handleRecord (receptive : Receptive frame) {blob : Bytes}
    (acts : ∀ sagreePrivate sdev deviceId kind header plaintext,
      Channel.openRecord suite blob sagreePrivate sdev deviceId =
        .ok (kind, header, plaintext) →
      RecordActs suite environment account action kind header plaintext deviceId
        ((header.getD "transfer").orElse (.str "")).toText) :
    Acts action (Sync.handleRecord suite environment account blob) := by
  intro world
  have handled : Handled suite environment account frame blob world _ :=
    receptive.quiet.handleRecord blob world
  generalize (Sync.handleRecord suite environment account blob).after world = final
    at handled ⊢
  cases handled with
  | stopped passed => exact action.before passed (action.idle _)
  | opened passed returned =>
      obtain ⟨sagreePrivate, sdev, unsealed⟩ := openInbound_returns returned
      exact action.before passed (receptive.dispatch (acts _ _ _ _ _ _ unsealed) _)

/-! ## Receiving from contacts -/

namespace Receptive

variable (receptive : Receptive frame)

include receptive

/-- A store operation on the outbox. -/
theorem onOutbox {α : Type} {body : StoreProg α}
    (changes : ∀ store, ∃ outbox, body.after store = { store with outbox }) :
    Keeps frame (onStore body) := by
  intro world
  obtain ⟨outbox, changed⟩ := changes world.store
  have same : (onStore body).after world =
      { world with store := body.after world.store } := rfl
  rw [same, changed]
  exact receptive.outbox world outbox

/-- A text or file: the action is that its message is stored, when there is none
with its id. -/
theorem receiveMessage {contact : ContactRow} {kind : String} {envelope body : Json}
    (stored : ∀ world, (Store.findByRemoteId (Client.identityId suite account)
        (envelope.getD "id") (some "received")).run world.store =
          (.ok none, world.store) →
      action.rel world ((Client.storeReceived suite environment account contact kind
        envelope body).after world)) :
    Acts action
      (Client.receiveMessage suite environment account contact kind envelope body) := by
  apply acts_ite
  · exact fun _ => (keeps_pure _).acts
  intro _ world
  apply acts_bind_run (keeps_onStore (findByRemoteId_after _ _ _) world)
  intro found middle returned
  obtain ⟨rfl, ran⟩ := onStore_returns (findByRemoteId_after _ _ _ _) returned
  split
  · exact (keeps_pure _).acts middle
  · exact rel_bind (stored middle ran) fun _ =>
      receptive.quiet.sendReceipt receptive.sessions contact _ _

/-- A receipt: the action is the update of the message it names. -/
theorem receiveReceipt {body : Json}
    (updated : ∀ target, body.attempt "of" = .ok target → target.truthy = true →
      Acts action (onStore (Store.updateMessage target
        ((body.getD "kind").orElse (.str "read"))))) (contact : ContactRow) :
    Acts action (Client.receiveReceipt suite environment account contact body) := by
  intro world
  apply acts_bind_run (keeps_lift _ world)
  intro target middle returned
  obtain ⟨read, rfl⟩ := lift_returns returned
  refine acts_ite (fun _ => (keeps_pure _).acts) (fun given => ?_) middle
  apply (updated target read (by simpa using given)).bind
  intro _
  apply keeps_bind (receptive.onOutbox (outboxRemoveForMessage_after _))
  intro _
  apply keeps_bind (keeps_onStore (queryMessage_after _))
  intro row
  split
  · exact keeps_pure _
  · exact keeps_bind (keeps_attempt (receptive.quiet.mirrorState receptive.mirror _ _))
      fun _ => keeps_pure _

theorem consumeOpk (opkId : Json) : Keeps frame (Client.consumeOpk opkId) := by
  apply keeps_ite
  · exact fun _ => keeps_pure _
  intro _ world
  apply keeps_bind_run (keeps_askStore _ world)
  intro prekeys middle returned
  rw [run_askStore] at returned
  cases returned
  split
  · exact frame.refl world
  · rename_i held
    split
    · exact receptive.prekeys world _ opkId.toText held
    · exact frame.refl world

theorem finishInbound {session : Session} {envelope opkId : Json}
    (filed : ∀ card, Client.provenCard suite session envelope = .ok (some card) →
      Keeps frame (Client.storeCard suite environment account card none)) :
    Keeps frame (Client.finishInbound suite environment account session envelope opkId) := by
  intro world
  apply keeps_bind_run (keeps_lift _ world)
  intro proven middle returned
  obtain ⟨read, rfl⟩ := lift_returns returned
  split
  · exact frame.refl middle
  · rename_i card
    refine keeps_bind (filed card read) (fun contact => ?_) middle
    exact keeps_bind (receptive.consumeOpk opkId) fun _ => keeps_pure _

variable (processed : ∀ contact envelope, Acts action
  (Client.processEnvelope suite environment account contact envelope))

include processed

/-- A blob of a known session: the action is the processing of its envelope. -/
theorem receiveKnown (contact : ContactRow) (bucket : SessionState.Bucket)
    (key : String) (session : Session) (blob : Bytes) :
    Acts action
      (Client.receiveKnown suite environment account contact bucket key session blob) := by
  apply acts_bind (receptive.quiet.urandom 32)
  intro newPrivate
  split
  · apply acts_ite
    · exact fun _ => (keeps_pure _).acts
    · exact fun _ => (keeps_throw _).acts
  · exact acts_bind (keeps_setContactSession receptive.sessions _ _ _) fun _ =>
      processed contact _

variable (filed : ∀ session envelope card,
  Client.provenCard suite session envelope = .ok (some card) →
    Keeps frame (Client.storeCard suite environment account card none))

include filed

theorem receiveFresh (session : Session) (opkId : Json) (blob : Bytes) :
    Acts action (Client.receiveFresh suite environment account session opkId blob) := by
  apply acts_bind (receptive.quiet.urandom 32)
  intro newPrivate
  split
  · apply acts_ite
    · exact fun _ => (keeps_pure _).acts
    · exact fun _ => (keeps_throw _).acts
  · apply acts_bind (receptive.finishInbound (filed session _))
    intro contact
    split
    · exact (keeps_pure _).acts
    · exact acts_bind (keeps_setContactSession receptive.sessions _ _ _) fun _ =>
        processed _ _

theorem handleBlob (blob : Bytes) :
    Acts action (Client.handleBlob suite environment account blob) := by
  apply acts_bind (keeps_lift _)
  intro wire
  apply acts_bind (keeps_lift _)
  intro sid
  apply acts_bind (keeps_askStore _)
  intro store
  split
  · exact receptive.receiveKnown processed _ _ _ _ blob
  · apply acts_ite
    · exact fun _ => (keeps_pure _).acts
    intro _
    apply acts_bind (keeps_lift _)
    intro begun
    split
    · exact (keeps_pure _).acts
    · exact receptive.receiveFresh processed filed _ _ blob

end Receptive

namespace Permissive

variable (permissive : Permissive frame)

include permissive

theorem addMessage (input : MessageInput) :
    Keeps frame (onStore (Store.addMessage input)) := by
  intro world
  unfold Store.addMessage
  cases Store.messageRow input with
  | error raised => exact frame.refl world
  | ok row => exact permissive.messages world _

theorem updateMessage (messageId state : Json) :
    Keeps frame (onStore (Store.updateMessage messageId state)) := by
  intro world
  unfold Store.updateMessage
  cases Sql.text state with
  | error raised => exact frame.refl world
  | ok bound =>
      cases Sql.text messageId with
      | error raised => exact frame.refl world
      | ok target =>
          cases target with
          | none => exact frame.refl world
          | some id => exact permissive.messages world _

theorem mergeMessage (progress : MessageIndex × History.Counts) (item : Json) :
    Keeps frame (History.mergeMessage suite environment account progress item) := by
  apply keeps_bind (keeps_lift _)
  intro contactId
  apply keeps_ite
  · exact fun _ => keeps_pure _
  · intro _
    apply keeps_bind (keeps_lift _)
    intro key
    split
    · refine keeps_bind ?_ fun _ => keeps_pure _
      apply keeps_bind (keeps_lift _)
      intro rank
      apply keeps_ite
      · exact fun _ => keeps_bind (permissive.updateMessage _ _) fun _ => keeps_pure _
      · exact fun _ => keeps_pure _
    · refine keeps_bind ?_ fun messageId => ?_
      · apply keeps_ite
        · exact fun _ => keeps_pure _
        · exact fun _ => keeps_bind (permissive.quiet.urandom 16) fun _ => keeps_pure _
      · apply keeps_bind (keeps_lift _)
        intro ts
        apply keeps_bind (permissive.addMessage _)
        intro _
        apply keeps_bind (keeps_askStore _)
        intro stored
        split <;> exact keeps_pure _

theorem mergeMessages (items : List Json) (known : MessageIndex)
    (counts : History.Counts) :
    Keeps frame (History.mergeMessages suite environment account items known counts) :=
  keeps_foldlM (fun progress item _ => permissive.mergeMessage progress item) _

theorem mergeIndexed (items : List Json) (counts : History.Counts) :
    Keeps frame (History.mergeIndexed suite environment account items counts) :=
  keeps_bind (keeps_askStore _) fun known =>
    keeps_bind (permissive.mergeMessages items known counts) fun _ => keeps_pure _

theorem mergeTransferMessage (payload : Json) :
    Keeps frame (Sync.mergeTransferMessage suite environment account payload) := by
  refine keeps_bind ?_ fun index => ?_
  · apply keeps_get_bind
    intro world
    split
    · exact frame.refl world
    · exact rel_set_bind (permissive.index world _) (keeps_pure _)
  · apply keeps_bind (permissive.mergeMessages [payload] index {})
    intro progress
    exact keeps_modify fun world => permissive.index world _

theorem applyMirroredState (change : Json) :
    Keeps frame (Sync.applyMirroredState suite account change) := by
  refine keeps_bind (keeps_mirroredTarget change) fun target => ?_
  split
  · exact keeps_pure _
  · apply keeps_ite
    · exact fun _ => permissive.updateMessage _ _
    · exact fun _ => keeps_pure _

theorem startTransfer (previous : Json) (transfer : String) :
    Keeps frame (Sync.startTransfer previous transfer) := by
  apply keeps_ite
  · exact fun _ => keeps_modify fun world => permissive.index world none
  · exact fun _ => keeps_pure _

theorem mergeBundle {bundle : Json}
    (contacts : ∀ items, History.itemsOf bundle "contacts" = .ok items →
      Keeps frame (History.mergeContacts suite environment account items {})) :
    Keeps frame (History.mergeBundle suite environment account bundle) :=
  @Receptive.mergeBundle _ frame.action _ _ _ permissive.toReceptive _ contacts
    fun items counts _ => permissive.mergeIndexed items counts

/-- Handling a record, when the frame allows its contacts, its approval and what
it notes of a transfer. -/
theorem handleRecord {blob : Bytes} (incoming : AllowsState frame Sync.incomingState)
    (approval : ∀ deviceId transfer since until_, Keeps frame
      (Sync.markApproved environment deviceId transfer since until_))
    (contacts : ∀ sagreePrivate sdev deviceId kind header plaintext payload,
      Channel.openRecord suite blob sagreePrivate sdev deviceId =
        .ok (kind, header, plaintext) →
      Sync.loads plaintext = .ok payload →
        Keeps frame (History.mergeContacts suite environment account
          (recordContacts kind payload) {})) :
    Keeps frame (Sync.handleRecord suite environment account blob) := by
  apply @Receptive.handleRecord _ frame.action _ _ _ permissive.toReceptive
  intro sagreePrivate sdev deviceId kind header plaintext opened
  exact {
    approval := fun _ => approval _ _ _ _
    offer := fun _ previous => permissive.startTransfer previous _
    incoming := fun _ => incoming
    contacts := fun payload loaded =>
      contacts _ _ _ kind header plaintext payload opened loaded
    item := fun _ payload _ _ => permissive.mergeTransferMessage _
    mirror := fun _ payload _ _ => permissive.mergeIndexed _ _
    state := fun _ payload _ _ => permissive.applyMirroredState _ }

theorem storeReceived (contact : ContactRow) (kind : String) (envelope body : Json) :
    Keeps frame
      (Client.storeReceived suite environment account contact kind envelope body) := by
  apply keeps_bind permissive.quiet.newId
  intro messageId
  apply keeps_bind permissive.quiet.nowMs
  intro now
  exact keeps_bind (keeps_lift _) fun ts => permissive.addMessage _

theorem processEnvelope (contact : ContactRow) (envelope : Json) :
    Keeps frame (Client.processEnvelope suite environment account contact envelope) := by
  have receives : ∀ kind body, Keeps frame
      (Client.receiveMessage suite environment account contact kind envelope body) :=
    fun kind body => @Receptive.receiveMessage _ frame.action _ _ _
      permissive.toReceptive _ _ _ _ fun world _ =>
        permissive.storeReceived contact kind envelope body world
  apply keeps_ite
  · exact fun _ => receives "text" _
  intro _
  apply keeps_ite
  · exact fun _ => receives "file" _
  intro _
  apply keeps_ite
  · exact fun _ => @Receptive.receiveReceipt _ frame.action _ _ _ permissive.toReceptive _
      (fun _ _ _ => permissive.updateMessage _ _) contact
  · exact fun _ => keeps_pure _

theorem handleBlob
    (filed : ∀ session envelope card,
      Client.provenCard suite session envelope = .ok (some card) →
        Keeps frame (Client.storeCard suite environment account card none))
    (blob : Bytes) : Keeps frame (Client.handleBlob suite environment account blob) :=
  @Receptive.handleBlob _ frame.action _ _ _ permissive.toReceptive
    permissive.processEnvelope filed blob

end Permissive

end NoKnowledge.Core

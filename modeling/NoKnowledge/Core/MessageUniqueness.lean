import NoKnowledge.Core.Ingestion
import NoKnowledge.Crypto.SymbolicSuite

/-!
# One row per received message

A live message is looked up by its envelope id before it is stored; a merged
item is looked up by its key, in an index of what is stored or in the one its
transfer started with.  Every received message is stored once along the runs whose
items are looked up as they would be stored, under new identifiers, against an index
that knows what is stored.
-/

namespace NoKnowledge.Core.Uniqueness

open Prog History

variable {suite : Suite} {environment : Environment} {account : Account}

/-- Two received messages of one contact with one remote id. -/
structure Alike (left right : Message) : Prop where
  leftReceived : left.direction = "received"
  rightReceived : right.direction = "received"
  contact : left.contactId = right.contactId
  remote : left.remoteId = right.remoteId
  given : left.remoteId ≠ none

theorem Alike.symm {left right : Message} (alike : Alike left right) :
    Alike right left where
  leftReceived := alike.rightReceived
  rightReceived := alike.leftReceived
  contact := alike.contact.symm
  remote := alike.remote.symm
  given := alike.remote ▸ alike.given

/-- All messages are of one identity, and no two of them are alike. -/
structure Single (identityId : String) (messages : Table Message.id) : Prop where
  own : ∀ row ∈ messages, row.identityId = identityId
  once : ∀ left ∈ messages, ∀ right ∈ messages, Alike left right → left = right

/-- The row that adding a message leaves under its id. -/
def asStored (messages : Table Message.id) (new : Message) : Message :=
  ((messages.get? new.id).map (Store.rewrite new).apply).getD new

theorem asStored_remoteId (messages : Table Message.id) (new : Message) :
    (asStored messages new).remoteId = new.remoteId := by
  unfold asStored
  cases messages.get? new.id <;> rfl

theorem asStored_own {identityId : String} {messages : Table Message.id} {new : Message}
    (single : Single identityId messages) (own : new.identityId = identityId) :
    (asStored messages new).identityId = identityId := by
  unfold asStored
  cases found : messages.get? new.id with
  | none => exact own
  | some old => exact single.own old (Table.get?_eq_some.mp found).1

/-- Adding a message that is like no other one. -/
theorem Single.insertMessage {identityId : String} {messages : Table Message.id}
    {new : Message} (single : Single identityId messages)
    (own : new.identityId = identityId)
    (unlike : ∀ other ∈ messages, other.id ≠ new.id →
      ¬ Alike (asStored messages new) other) :
    Single identityId (Store.insertMessage messages new) where
  own := by
    intro row member
    rcases Table.mem_upsert_iff.mp member with rfl | ⟨old, -⟩
    · exact asStored_own single own
    · exact single.own row old
  once := by
    intro left leftMember right rightMember alike
    rcases Table.mem_upsert_iff.mp leftMember with rfl | ⟨leftOld, leftOther⟩
    · rcases Table.mem_upsert_iff.mp rightMember with rfl | ⟨rightOld, rightOther⟩
      · rfl
      · exact absurd alike (unlike right rightOld rightOther)
    · rcases Table.mem_upsert_iff.mp rightMember with rfl | ⟨rightOld, rightOther⟩
      · exact absurd alike.symm (unlike left leftOld leftOther)
      · exact single.once left leftOld right rightOld alike

theorem Single.setMessageState {identityId : String} {messages : Table Message.id}
    (single : Single identityId messages) (id : String) (state : Option String) :
    Single identityId (Store.setMessageState messages id state) := by
  have kept := withState_at_apply state id
  constructor
  · intro row member
    obtain ⟨old, oldMember, rfl⟩ := Table.mem_update.mp member
    obtain ⟨state', changed⟩ := kept old
    rw [changed]
    exact single.own old oldMember
  · intro left leftMember right rightMember alike
    obtain ⟨oldLeft, oldLeftMember, rfl⟩ := Table.mem_update.mp leftMember
    obtain ⟨oldRight, oldRightMember, rfl⟩ := Table.mem_update.mp rightMember
    obtain ⟨leftState, leftChanged⟩ := kept oldLeft
    obtain ⟨rightState, rightChanged⟩ := kept oldRight
    rw [leftChanged, rightChanged] at alike
    have same := single.once oldLeft oldLeftMember oldRight oldRightMember
      ⟨alike.leftReceived, alike.rightReceived, alike.contact, alike.remote, alike.given⟩
    rw [same]

variable (suite account) in
/-- Keeping the messages single. -/
def keepingSingle : Frame World where
  rel := fun first second =>
    Single (account.identity.identityId suite) first.store.messages →
      Single (account.identity.identityId suite) second.store.messages
  refl := fun _ single => single
  trans := fun left right single => right (left single)

/-- An item that would be stored as a received message with a remote id is looked up
by the contact, the direction and the id that it would be stored with. -/
def LookedUpAsStored (item : Json) : Prop :=
  ∀ remoteId,
    Sql.text ((item.getD "direction").orElse (.str "received")) = .ok (some "received") →
    Sql.text (item.getD "remote_id") = .ok (some remoteId) →
      item.getD "direction" = .str "received" ∧
      (∃ contactId, item.getD "contact_id" = .str contactId) ∧
      (item.getD "remote_id").truthy = true ∧
      (item.getD "remote_id").toText = remoteId ∧ remoteId ≠ ""

variable (suite environment) in
/-- An item that the index does not know is looked up as it is stored, and no stored
message has an identifier that it may get. -/
def Admitted (limit : Nat) (item : Json) (known : MessageIndex) (world : World) : Prop :=
  ∀ key, messageKey suite item = .ok key → known.get? key = none →
    LookedUpAsStored item ∧
      ∀ id, MayGet environment limit item world id →
        ∀ row ∈ world.store.messages, row.id ≠ id

variable (suite) in
/-- The index knows the stored messages that the condition is about. -/
def Knows (about : MessageKey → Prop) (known : MessageIndex) (world : World) : Prop :=
  ∀ row ∈ world.store.messages, row.direction = "received" → row.remoteId ≠ none →
    about (keyOf suite row) → known.get? (keyOf suite row) ≠ none

variable (suite) in
/-- The index knows a received message with the key of the item, if one is stored. -/
def Informed (item : Json) (known : MessageIndex) (world : World) : Prop :=
  Knows suite (fun key => messageKey suite item = .ok key) known world

theorem Admitted.later {limit : Nat} {item : Json} {known : MessageIndex}
    {first second : World} (same : second.store.messages = first.store.messages)
    (elapsed : first.tick ≤ second.tick)
    (admitted : Admitted suite environment limit item known first) :
    Admitted suite environment limit item known second := by
  intro key keyed missing
  obtain ⟨asStored, unused⟩ := admitted key keyed missing
  refine ⟨asStored, fun id mayGet row member => ?_⟩
  rw [same] at member
  exact unused id (mayGet.earlier elapsed) row member

theorem Knows.congr {about : MessageKey → Prop} {known : MessageIndex}
    {first second : World} (same : second.store.messages = first.store.messages)
    (knows : Knows suite about known first) : Knows suite about known second := by
  intro row member
  rw [same] at member
  exact knows row member

/-- A fresh index knows every message of a store with one identity. -/
theorem Single.knows {world : World}
    (single : Single (account.identity.identityId suite) world.store.messages)
    (about : MessageKey → Prop) :
    Knows suite about
      (messageIndex suite world.store (account.identity.identityId suite)) world := by
  intro row member _ _ _ missing
  exact messageIndex_get?_eq_none.mp missing row member (single.own row member) rfl

theorem messageRow_remoteId {input : MessageInput} {row : Message}
    (converted : Store.messageRow input = .ok row) :
    Sql.text input.remoteId = .ok row.remoteId := by
  simp only [Store.messageRow, except_bind_eq_ok] at converted
  obtain ⟨_, _, _, _, _, _, _, _, _, bound, _, _, _, _, built⟩ := converted
  cases built
  exact bound

theorem messageRow_fields {input : MessageInput} {row : Message}
    (converted : Store.messageRow input = .ok row) :
    Store.required input.contactId = .ok row.contactId ∧
      Store.required input.direction = .ok row.direction := by
  simp only [Store.messageRow, except_bind_eq_ok] at converted
  obtain ⟨_, _, _, contact, _, directed, _, _, _, _, _, _, _, _, built⟩ := converted
  cases built
  exact ⟨contact, directed⟩

theorem required_eq_ok {value : Json} {text : String}
    (given : Store.required value = .ok text) : Sql.text value = .ok (some text) := by
  simp only [Store.required, except_bind_eq_ok] at given
  obtain ⟨bound, read, given⟩ := given
  cases bound with
  | none => cases given
  | some found =>
      cases given
      exact read

/-- The key of a received message with a remote id. -/
theorem keyOf_received {row : Message} {remoteId : String}
    (received : row.direction = "received") (named : row.remoteId = some remoteId)
    (given : remoteId ≠ "") :
    keyOf suite row = .remote (.str row.contactId) (.str "received") remoteId := by
  simp [keyOf, named, given, received]

/-- The row of an item that is looked up as it is stored has the key of the item. -/
theorem LookedUpAsStored.key {item : Json} (asStored : LookedUpAsStored item)
    {identityId id remoteId : String} {ts : Int} {row : Message}
    (converted : Store.messageRow (inputOf identityId item id ts) = .ok row)
    (received : row.direction = "received") (named : row.remoteId = some remoteId) :
    remoteId ≠ "" ∧ messageKey suite item = .ok (keyOf suite row) := by
  obtain ⟨contactBound, directionBound⟩ := messageRow_fields converted
  have bound := messageRow_remoteId converted
  rw [named] at bound
  rw [received] at directionBound
  obtain ⟨direction, contact, truthy, text, given⟩ :=
    asStored remoteId (required_eq_ok directionBound) bound
  obtain ⟨contactId, contactRead⟩ := contact
  have contactIs : contactId = row.contactId := by
    have read := required_eq_ok contactBound
    simp only [inputOf, contactRead, Sql.text_str, Except.ok.injEq, Option.some.injEq] at read
    exact read
  refine ⟨given, ?_⟩
  rw [keyOf_received received named given]
  cases item with
  | obj fields =>
      simp only [messageKey, Json.attempt_obj, contactRead, direction, truthy, text,
        contactIs, except_ok_bind, hashed_str, if_true]
      rfl
  | _ => cases direction

/-- An admitted item is stored as a message that is like no other one. -/
theorem Admitted.unlike {limit : Nat} {item : Json} {known : MessageIndex} {world : World}
    (admitted : Admitted suite environment limit item known world)
    (informed : Informed suite item known world) {key : MessageKey}
    (keyed : messageKey suite item = .ok key) (missing : known.get? key = none)
    {id : String} (mayGet : MayGet environment limit item world id) {ts : Int}
    {row : Message} (converted : Store.messageRow
      (inputOf (account.identity.identityId suite) item id ts) = .ok row) :
    world.store.messages.get? row.id = none ∧
      ∀ other ∈ world.store.messages, ¬ Alike row other := by
  obtain ⟨asStored, unused⟩ := admitted key keyed missing
  have sameId : row.id = id := messageRow_id converted rfl
  refine ⟨Table.get?_eq_none.mpr fun other member same => ?_, ?_⟩
  · exact unused id mayGet other member (same.trans sameId)
  · intro other member alike
    obtain ⟨remoteId, named⟩ := Option.ne_none_iff_exists'.mp alike.given
    obtain ⟨given, sameKey⟩ : remoteId ≠ "" ∧
        messageKey suite item = .ok (keyOf suite row) :=
      asStored.key converted alike.leftReceived named
    have otherNamed : other.remoteId = some remoteId := alike.remote ▸ named
    have otherKey : keyOf suite other = keyOf suite row := by
      rw [keyOf_received alike.leftReceived named given,
        keyOf_received alike.rightReceived otherNamed given, alike.contact]
    have keyIs : key = keyOf suite other := by
      rw [keyed] at sameKey
      rw [otherKey]
      exact Except.ok.inj sameKey
    have known := informed other member alike.rightReceived (by simp [otherNamed])
      (keyIs ▸ keyed)
    exact known (keyIs ▸ missing)

theorem single_mergeMessage {limit : Nat} {item : Json}
    {progress : MessageIndex × Counts} {world : World}
    (admitted : Admitted suite environment limit item progress.1 world)
    (informed : Informed suite item progress.1 world)
    (inTime : ((mergeMessage suite environment account progress item).after world).tick ≤
      limit) :
    (keepingSingle suite account).rel world
      ((mergeMessage suite environment account progress item).after world) := by
  intro single
  have outcome : Merge suite environment account item progress world _ :=
    run_mergeMessage progress item world
  unfold Prog.after at inTime ⊢
  generalize (mergeMessage suite environment account progress item).run world = result
    at outcome inTime ⊢
  cases outcome with
  | refused raised elapsed reason => exact single
  | skipped noContact => exact single
  | kept key existing rank keyed found ranked low => exact single
  | raised key existing state counts keyed found incoming high =>
      exact single.setMessageState existing.id (some state)
  | inserted key ts row counts keyed missing timed converted =>
      obtain ⟨new, unlike⟩ := admitted.unlike informed keyed missing (mayGet_idAt inTime)
        converted
      apply Single.insertMessage single (messageRow_identityId converted)
      intro other member _
      rw [asStored, new]
      exact unlike other member

/-- The index goes on to know what is stored. -/
theorem knows_mergeMessage {limit : Nat} {item : Json}
    {progress next : MessageIndex × Counts} {world later : World}
    (admitted : Admitted suite environment limit item progress.1 world)
    (knows : Knows suite (fun _ => True) progress.1 world)
    (ran : (mergeMessage suite environment account progress item).run world =
      (.ok next, later)) (inTime : later.tick ≤ limit) :
    Knows suite (fun _ => True) next.1 later := by
  have outcome : Merge suite environment account item progress world _ :=
    run_mergeMessage progress item world
  rw [ran] at outcome
  cases outcome with
  | skipped noContact => exact knows
  | kept key existing rank keyed found ranked low => exact knows
  | raised key existing state counts keyed found incoming high =>
      intro row member received named about
      obtain ⟨old, oldMember, rfl⟩ := Table.mem_update.mp member
      obtain ⟨after, changed⟩ := withState_at_apply (some state) existing.id old
      rw [changed] at received named ⊢
      exact knows old oldMember received named trivial
  | inserted key ts row counts keyed missing timed converted =>
      obtain ⟨isStored, unused⟩ := admitted key keyed missing
      have sameId := messageRow_id converted rfl
      have new : world.store.messages.get? row.id = none :=
        Table.get?_eq_none.mpr fun other member same =>
          unused _ (mayGet_idAt inTime) other member (same.trans sameId)
      intro other member received named about
      rcases Table.mem_upsert_iff.mp member with isNew | ⟨old, -⟩
      · rw [new] at isNew
        subst isNew
        obtain ⟨remoteId, given⟩ := Option.ne_none_iff_exists'.mp named
        have sameKey : messageKey suite item = .ok (keyOf suite _) :=
          (isStored.key converted received given).2
        rw [keyed] at sameKey
        rw [← Except.ok.inj sameKey, Dict.get?_insert_self]
        exact Option.some_ne_none _
      · rw [Dict.get?_insert]
        split
        · exact Option.some_ne_none _
        · exact knows other old received named trivial

/-- Items that are admitted meet an index that knows what is stored. -/
def Accepted (suite : Suite) (environment : Environment) (limit : Nat) (item : Json)
    (known : MessageIndex) (world : World) : Prop :=
  Admitted suite environment limit item known world ∧
    (world.tick ≤ limit → Informed suite item known world)

theorem accepted_of_admitted {limit : Nat} {items : List Json}
    {progress : MessageIndex × Counts} {world : World}
    (admitted : EachItem suite environment account (Admitted suite environment limit)
      items progress world)
    (knows : world.tick ≤ limit → Knows suite (fun _ => True) progress.1 world) :
    EachItem suite environment account (Accepted suite environment limit) items progress
      world := by
  induction items generalizing progress world with
  | nil => trivial
  | cons item items induction =>
      obtain ⟨one, rest⟩ := admitted
      refine ⟨⟨one, fun below row member received named _ =>
        knows below row member received named trivial⟩, ?_⟩
      intro next later ran
      apply induction (rest next later ran)
      intro below
      have elapsed : elapsing.rel world
          ((mergeMessage suite environment account progress item).after world) :=
        permissive_elapsing.mergeMessage progress item world
      rw [after_eq ran] at elapsed
      exact knows_mergeMessage one (knows (Nat.le_trans elapsed below)) ran below

theorem single_applyMirroredState (change : Json) (world : World) :
    (keepingSingle suite account).rel world
      ((Sync.applyMirroredState suite account change).after world) := by
  unfold Sync.applyMirroredState
  refine keeps_bind_run (keeps_mirroredTarget change world) ?_
  intro target middle found
  split
  · exact (keepingSingle suite account).refl middle
  · dsimp only
    split
    · exact fun single => single.setMessageState _ _
    · exact (keepingSingle suite account).refl middle

variable (suite environment account) in
/-- Items that are admitted, against an index that knows what is stored, leave the
messages single. -/
def ingestion : Ingestion suite environment account where
  frame := keepingSingle suite account
  accepts := Accepted suite environment
  aside := fun passed single => by rwa [passed.messages]
  index := fun _ _ single => single
  later := fun same elapsed accepted => ⟨accepted.1.later same elapsed,
    fun below => (accepted.2 (elapsed.trans below)).congr same⟩
  merge := fun accepted inTime => single_mergeMessage accepted.1
    (accepted.2 ((permissive_elapsing.mergeMessage _ _ _).trans inTime)) inTime
  state := single_applyMirroredState

theorem receptive_keepingSingle : Receptive (keepingSingle suite account) :=
  receptive_aside.mono (fun passed single => by rwa [passed.messages])
    (AllowsRecord.mirrors fun _ _ _ single => single)

/-- What was looked up in vain is not stored. -/
theorem findByRemoteId_eq_none {identityId : String} {remoteId : Json} {store final : Store}
    (returned : (Store.findByRemoteId identityId remoteId (some "received")).run store =
      (.ok none, final)) {text : String} (bound : Sql.text remoteId = .ok (some text)) :
    ∀ row ∈ store.messages, row.identityId = identityId → row.remoteId = some text →
      row.direction ≠ "received" := by
  intro row member own named received
  obtain ⟨found, middle, read, rest⟩ := bind_returns returned
  obtain ⟨same, rfl⟩ := lift_returns read
  rw [bound] at same
  cases same
  rw [run_bind_ok (run_get _)] at rest
  have nothing := (Prod.mk.inj rest).1
  rw [Except.ok.injEq, List.find?_eq_none] at nothing
  exact nothing row member (by simp [own, named, received])

theorem single_storeReceived {contact : ContactRow} {kind : String}
    {envelope body : Json} {world : World}
    (absent : (Store.findByRemoteId (Client.identityId suite account)
      (envelope.getD "id") (some "received")).run world.store = (.ok none, world.store)) :
    (keepingSingle suite account).rel world ((Client.storeReceived suite environment
      account contact kind envelope body).after world) := by
  refine keeps_bind_run (receptive_keepingSingle.quiet.newId world) ?_
  rintro messageId _ ⟨⟩
  refine keeps_bind_run (receptive_keepingSingle.quiet.nowMs _) ?_
  rintro now _ ⟨⟩
  refine keeps_bind_run (keeps_lift _ _) ?_
  intro ts later returned
  obtain ⟨-, rfl⟩ := lift_returns returned
  refine rel_addMessage fun row converted single => ?_
  apply Single.insertMessage single (messageRow_identityId converted)
  intro other member _ alike
  have named := alike.remote
  rw [asStored_remoteId] at named
  cases given : row.remoteId with
  | none => exact alike.given (by rw [asStored_remoteId, given])
  | some text =>
      have bound := messageRow_remoteId converted
      rw [given] at bound named
      exact findByRemoteId_eq_none absent bound other member
        (single.own other member) named.symm alike.rightReceived

theorem single_processEnvelope (contact : ContactRow) (envelope : Json) :
    Keeps (keepingSingle suite account)
      (Client.processEnvelope suite environment account contact envelope) := by
  have receives : ∀ kind body, Keeps (keepingSingle suite account)
      (Client.receiveMessage suite environment account contact kind envelope body) :=
    fun kind body => @Receptive.receiveMessage _ (Frame.action _) _ _ _
      receptive_keepingSingle _ _ _ _ fun world absent => single_storeReceived absent
  apply keeps_ite
  · exact fun _ => receives "text" _
  intro _
  apply keeps_ite
  · exact fun _ => receives "file" _
  intro _
  apply keeps_ite
  · have updates : ∀ target state, Keeps (keepingSingle suite account)
        (onStore (Store.updateMessage target state)) :=
      keeps_updateMessage fun _ _ _ single => single.setMessageState _ _
    exact fun _ => @Receptive.receiveReceipt _ (Frame.action _) _ _ _
      receptive_keepingSingle _ (fun _ _ _ => updates _ _) contact
  · exact fun _ => keeps_pure _

theorem single_handleBlob (blob : Bytes) :
    Keeps (keepingSingle suite account)
      (Client.handleBlob suite environment account blob) :=
  @Receptive.handleBlob _ (Frame.action _) _ _ _ receptive_keepingSingle
    single_processEnvelope (fun _ _ _ _ => keeps_storeCard receptive_keepingSingle.quiet
      (fun _ _ _ _ single => single) none) blob

/-- What brings messages in. -/
inductive Step where
  | handleBlob (blob : Bytes)
  | handleRecord (blob : Bytes)
  | importHistory (bundle : Json)

variable (suite environment account)

def Step.program : Step → ClientProg Unit
  | handleBlob blob => Client.handleBlob suite environment account blob
  | handleRecord blob => Sync.handleRecord suite environment account blob
  | importHistory bundle => do
      let _ ← History.importHistory suite environment account bundle

/-- The message item of an opened record is admitted.  The index of a transfer has to
know the message, if it is stored; a mirror is merged against a fresh index. -/
def AdmitsPayload (limit kind : Nat) (payload : Json) (world : World) : Prop :=
  (kind = Channel.item → payload.getD "kind" = .str "message" →
    Admitted suite environment limit (payload.eraseField "kind")
        (indexOf suite account world) world ∧
      Informed suite (payload.eraseField "kind") (indexOf suite account world) world) ∧
  (kind = Channel.mirror → payload.getD "kind" = .str "mirror" →
    Admitted suite environment limit (payload.getD "message")
      (messageIndex suite world.store (account.identity.identityId suite)) world)

/-- The merged items of a step are admitted, each when its turn comes; live messages need
no condition. -/
def Step.Admits (limit : Nat) (world : World) : Step → Prop
  | handleBlob _ => True
  | handleRecord blob =>
      ∀ sagreePrivate sdev deviceId kind header plaintext payload,
        Channel.openRecord suite blob sagreePrivate sdev deviceId =
          .ok (kind, header, plaintext) →
        Sync.loads plaintext = .ok payload →
          AdmitsPayload suite environment account limit kind payload world
  | importHistory bundle =>
      ∀ decoded contacts messages counts middle, decodeBundle bundle = .ok decoded →
        itemsOf decoded "contacts" = .ok contacts →
        itemsOf decoded "messages" = .ok messages →
        (mergeContacts suite environment account contacts {}).run world =
          (.ok counts, middle) →
        EachItem suite environment account (Admitted suite environment limit) messages
          (messageIndex suite middle.store (account.identity.identityId suite), counts)
          middle

inductive Reachable : World → Prop
  | empty {world : World} (none : world.store.messages = Table.empty) : Reachable world
  | step {world : World} (step : Step) (reached : Reachable world)
      (admitted : step.Admits suite environment account
        ((step.program suite environment account).after world).tick world) :
      Reachable ((step.program suite environment account).after world)

variable {suite environment account}

theorem Step.single {step : Step} {world : World}
    (admitted : step.Admits suite environment account
      ((step.program suite environment account).after world).tick world) :
    (keepingSingle suite account).rel world
      ((step.program suite environment account).after world) := by
  intro single
  cases step with
  | handleBlob blob => exact single_handleBlob blob world single
  | handleRecord blob =>
      have accepted : (ingestion suite environment account).AcceptsRecord
          ((Step.program suite environment account (.handleRecord blob)).after world).tick
          blob world := by
        intro sagreePrivate sdev deviceId kind header plaintext payload opened loaded
        obtain ⟨item, mirror⟩ := admitted sagreePrivate sdev deviceId kind header plaintext
          payload opened loaded
        constructor
        · intro isItem isMessage
          exact ⟨(item isItem isMessage).1, fun _ => (item isItem isMessage).2⟩
        · intro isMirror isMessage
          exact ⟨mirror isMirror isMessage, fun _ => single.knows _⟩
      exact Ingestion.handleRecord accepted (Nat.le_refl _) single
  | importHistory bundle =>
      have same : (Step.program suite environment account (.importHistory bundle)).after
          world = (History.importHistory suite environment account bundle).after world :=
        after_bind_idle (fun _ _ => rfl) world
      rw [same] at admitted ⊢
      unfold History.importHistory at admitted ⊢
      cases read : decodeBundle bundle with
      | error raised => exact single
      | ok decoded =>
          rw [read, after_bind_ok (run_lift_ok decoded world)] at admitted
          rw [after_bind_ok (run_lift_ok decoded world)]
          refine (ingestion suite environment account).mergeBundle ?_ (Nat.le_refl _) single
          intro contacts messages counts middle contactsRead messagesRead merged
          have filed : aside.rel world
              ((mergeContacts suite environment account contacts {}).after world) :=
            keeps_aside_contacts contacts {} world
          rw [after_eq merged] at filed
          have middleSingle : Single (account.identity.identityId suite)
              middle.store.messages := by rwa [filed.messages]
          exact accepted_of_admitted
            (admitted decoded contacts messages counts middle read contactsRead
              messagesRead merged) fun _ => middleSingle.knows _

theorem Reachable.single {world : World} (reached : Reachable suite environment account world) :
    Single (account.identity.identityId suite) world.store.messages := by
  induction reached with
  | empty none =>
      rw [none]
      exact ⟨fun row member => absurd member List.not_mem_nil,
        fun left member => absurd member List.not_mem_nil⟩
  | step step reached admitted induction => exact Step.single admitted induction

/-- No two received messages of a contact have one remote id, in every store
reached along admitted steps. -/
theorem received_messages_are_single {world : World}
    (reached : Reachable suite environment account world) :
    ∀ left ∈ world.store.messages, ∀ right ∈ world.store.messages,
      left.direction = "received" → right.direction = "received" →
      left.contactId = right.contactId → left.remoteId = right.remoteId →
      left.remoteId ≠ none → left = right := by
  intro left leftMember right rightMember leftReceived rightReceived contact remote given
  exact reached.single.once left leftMember right rightMember
    ⟨leftReceived, rightReceived, contact, remote, given⟩

/-- A message of an import file; `fields` are those that not every file gives. -/
def fileItem (fields : List (String × Json)) : Json :=
  .mkObj ([("contact_id", .str "peer"), ("type", .str "text"), ("body", .obj []),
    ("remote_id", .str "r"), ("ts", .int 1), ("state", .str "received")] ++ fields)

def fileBundle (items : List Json) : Json :=
  .mkObj [("v", .int 1), ("contacts", .arr []), ("messages", .arr items),
    ("chunks", .arr [])]

def afterImport (items : List Json) (world : World) : World :=
  ((Step.importHistory (fileBundle items)).program Symbolic.suite .idle .specimen).after
    world

def receivedItem : Json := fileItem [("direction", .str "received")]

/-- An import of one message does not store it again when it is stored and known,
or when nothing is stored. -/
theorem admits_import {world : World} {limit : Nat}
    (fresh : world.store.messages = Table.empty ∨
      (messageIndex Symbolic.suite world.store
        (Account.specimen.identity.identityId Symbolic.suite)).get?
          (.remote (.str "peer") (.str "received") "r") ≠ none) :
    (Step.importHistory (fileBundle [receivedItem])).Admits Symbolic.suite .idle
      .specimen limit world := by
  intro decoded contacts messages counts middle read contactsRead messagesRead merged
  have same : decodeBundle (fileBundle [receivedItem]) =
      .ok (fileBundle [receivedItem]) := by decide +kernel
  rw [same] at read
  cases read
  have noContacts : itemsOf (fileBundle [receivedItem]) "contacts" = .ok [] := by
    decide +kernel
  have oneMessage : itemsOf (fileBundle [receivedItem]) "messages" =
      .ok [receivedItem] := by decide +kernel
  rw [noContacts] at contactsRead
  rw [oneMessage] at messagesRead
  cases contactsRead
  cases messagesRead
  cases merged
  refine ⟨?_, fun _ _ _ => trivial⟩
  intro key keyed missing
  have known : messageKey Symbolic.suite receivedItem =
      .ok (.remote (.str "peer") (.str "received") "r") := by decide +kernel
  rw [known] at keyed
  cases keyed
  rcases fresh with empty | held
  · refine ⟨?_, fun id _ row member => ?_⟩
    · intro remoteId _ bound
      have named : receivedItem.getD "remote_id" = .str "r" := by decide +kernel
      have directed : receivedItem.getD "direction" = .str "received" := by decide +kernel
      have contact : receivedItem.getD "contact_id" = .str "peer" := by decide +kernel
      rw [named] at bound ⊢
      cases bound
      exact ⟨directed, ⟨_, contact⟩, rfl, rfl, by decide⟩
    · rw [empty] at member
      cases member
  · exact absurd missing held

/-- A file with one message, imported twice. -/
theorem received_messages_are_single_imported :
    (let world := afterImport [receivedItem] (afterImport [receivedItem] { store := {} })
     ∀ left ∈ world.store.messages, ∀ right ∈ world.store.messages,
      left.direction = "received" → right.direction = "received" →
      left.contactId = right.contactId → left.remoteId = right.remoteId →
      left.remoteId ≠ none → left = right) := by
  have held : (messageIndex Symbolic.suite
      (afterImport [receivedItem] { store := {} }).store
        (Account.specimen.identity.identityId Symbolic.suite)).get?
          (.remote (.str "peer") (.str "received") "r") ≠ none := by decide +kernel
  have once : Reachable Symbolic.suite .idle .specimen
      (afterImport [receivedItem] { store := {} }) :=
    (Reachable.empty rfl).step _ (admits_import (Or.inl rfl))
  exact received_messages_are_single (once.step _ (admits_import (Or.inr held)))

/-- A message without a direction is looked up by another key than the one it is
stored under: twice in one file, it is stored twice. -/
theorem undirected_message_is_stored_twice :
    (afterImport [receivedItem, fileItem []] { store := {} }).store.messages.rows.map
      (fun row => (row.direction, row.contactId, row.remoteId)) =
        [("received", "peer", some "r"), ("received", "peer", some "r")] := by
  decide +kernel

end NoKnowledge.Core.Uniqueness

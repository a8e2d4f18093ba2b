import NoKnowledge.Core.Answering
import NoKnowledge.Core.FirstSession
import NoKnowledge.Core.MessageMerge
import NoKnowledge.Core.PrekeyUse

/-!
# The recipient of a first contact

Once the recipient holds the session of a sender, every text of it that arrives
for the first time is stored, in whatever order, and one that has arrived before
leaves no trace.
-/

namespace NoKnowledge.Core.FirstContact

open Prog NoKnowledge.Wire NoKnowledge.Core.Client NoKnowledge.Core.Answering

variable {suite : Suite} {environment : Environment} {recipient sender : Account}

theorem findIn_eq_none {sid : Bytes} {sessions : Dict String Session}
    (free : Free sid sessions) : SessionState.findIn sessions sid = none := by
  refine List.find?_eq_none.mpr fun entry member => ?_
  simpa using free entry member

theorem findIn_eq_some {sessions : Dict String Session} {key : String} {session : Session}
    (held : sessions.get? key = some session)
    (only : ∀ entry ∈ sessions.entries, entry.2.sid = session.sid → entry.1 = key) :
    SessionState.findIn sessions session.sid = some (key, session) := by
  have member : (key, session) ∈ sessions.entries := (Dict.mem_entries_iff _ _ _).mpr held
  cases found : SessionState.findIn sessions session.sid with
  | none =>
      have other := List.find?_eq_none.mp found _ member
      simp at other
  | some entry =>
      have same : entry.2.sid = session.sid := by simpa using List.find?_some found
      have named : entry.1 = key := only entry (List.mem_of_find?_eq_some found) same
      have stored : (entry.1, entry.2) ∈ sessions.entries := List.mem_of_find?_eq_some found
      rw [Dict.mem_entries_iff, named, held] at stored
      obtain rfl := Option.some.inj stored
      rw [← named]

/-- A contact, if there is one, has no session with the wire id. -/
def Clear (sid : Bytes) (contact : Option ContactRow) : Prop :=
  ∀ row, contact = some row → Free sid (SessionState.load row.session).outbound ∧
    Free sid (SessionState.load row.session).inbound

theorem Clear.sessions {sid : Bytes} {contact : Option ContactRow} (clear : Clear sid contact) :
    Free sid (SessionState.load (contact.bind ContactRow.session)).outbound ∧
      Free sid (SessionState.load (contact.bind ContactRow.session)).inbound := by
  cases contact with
  | none => exact ⟨nofun, nofun⟩
  | some row => exact clear row rfl

theorem Clear.find {sid : Bytes} {row : ContactRow} (clear : Clear sid (some row)) :
    (SessionState.load row.session).find sid = none := by
  obtain ⟨outbound, inbound⟩ := clear row rfl
  simp [SessionState.find, findIn_eq_none outbound, findIn_eq_none inbound]

/-- No contact of an identity has a session with the wire id. -/
def Unheard (me : String) (sid : Bytes) (store : Store) : Prop :=
  ∀ id, Clear sid (store.getContact me id)

theorem getContact_of_listed {store : Store} {me : String} {row : ContactRow}
    (listed : row ∈ store.listContacts me) : store.getContact me row.id = some row := by
  have kept := (List.mem_insertionSort _).mp listed
  obtain ⟨member, owned⟩ := Table.mem_filter.mp kept
  refine Table.get?_eq_some.mpr ⟨member, ?_⟩
  rw [← of_decide_eq_true owned]
  rfl

theorem listed_of_getContact {store : Store} {me id : String} {row : ContactRow}
    (found : store.getContact me id = some row) : row ∈ store.listContacts me := by
  obtain ⟨member, key⟩ := Table.get?_eq_some.mp found
  refine (List.mem_insertionSort _).mpr (Table.mem_filter.mpr ⟨member, ?_⟩)
  exact decide_eq_true (congrArg Prod.fst key)

theorem findSession_unheard {store : Store} {me : String} {sid : Bytes}
    (unheard : Unheard me sid store) : findSession store me sid = none := by
  refine List.findSome?_eq_none_iff.mpr fun row listed => ?_
  have clear := unheard row.id
  rw [getContact_of_listed listed] at clear
  rw [clear.find]
  rfl

/-- A contact row with what the card of an account says. -/
structure Filed (suite : Suite) (owner : Account) (row : ContactRow) : Prop where
  id : row.id = identityId suite owner
  isign : row.isign = owner.identity.edPublic suite
  idh : row.idh = owner.identity.xPublic suite
  bundleId : row.bundleId = some owner.bundleId
  inbox : row.inbox = (card suite owner).inbox.cardView
  relays : row.relays = (card suite owner).relays

/-- The recipient holds the session of a sender, has opened the messages `heard` of its
chain, and has no other session with its wire id. -/
structure Linked (suite : Suite) (recipient sender : Account) (link : Link)
    (heard : List Nat) (world : World) : Prop where
  contact : ∃ row session,
    world.store.getContact (identityId suite recipient) (identityId suite sender) = some row ∧
    Filed suite sender row ∧
    (SessionState.load row.session).inbound.get? recipient.deviceId = some session ∧
    session.sid = link.sid ∧
    Ratchet.Hears suite link.chain link.ratchetKey heard session.ratchet ∧
    Free link.sid (SessionState.load row.session).outbound ∧
    ∀ entry ∈ (SessionState.load row.session).inbound.entries,
      entry.2.sid = link.sid → entry.1 = recipient.deviceId
  alone : ∀ id, id ≠ identityId suite sender →
    Clear link.sid (world.store.getContact (identityId suite recipient) id)

variable {link : Link} {origin world final : World} {heard : List Nat}
  {guarded : Bytes → Prop}

theorem Linked.findSession (linked : Linked suite recipient sender link heard world) :
    ∃ row session, Client.findSession world.store (identityId suite recipient) link.sid =
        some (row, .inbound, recipient.deviceId, session) ∧
      world.store.getContact (identityId suite recipient) (identityId suite sender) =
        some row ∧
      Filed suite sender row ∧ session.sid = link.sid ∧
      Ratchet.Hears suite link.chain link.ratchetKey heard session.ratchet ∧
      Free link.sid (SessionState.load row.session).outbound ∧
      ∀ entry ∈ (SessionState.load row.session).inbound.entries,
        entry.2.sid = link.sid → entry.1 = recipient.deviceId := by
  obtain ⟨row, session, found, filed, held, same, hears, free, only⟩ := linked.contact
  refine ⟨row, session, ?_, found, filed, same, hears, free, only⟩
  have here : (SessionState.load row.session).find link.sid =
      some (.inbound, recipient.deviceId, session) := by
    rw [← same] at free only ⊢
    simp [SessionState.find, findIn_eq_none free, findIn_eq_some held only]
  have listed := listed_of_getContact found
  cases searched : Client.findSession world.store (identityId suite recipient) link.sid with
  | none =>
      have missed := List.findSome?_eq_none_iff.mp searched row listed
      simp [here] at missed
  | some result =>
      obtain ⟨other, otherListed, hit⟩ := List.exists_of_findSome?_eq_some searched
      have otherFound := getContact_of_listed otherListed
      by_cases isSender : other.id = identityId suite sender
      · rw [isSender, found] at otherFound
        obtain rfl := Option.some.inj otherFound
        rw [here] at hit
        exact hit.symm
      · have clear := linked.alone _ isSender
        rw [otherFound] at clear
        rw [clear.find] at hit
        cases hit

/-- A step that changes one contact, which gets no session with another wire id that is
guarded. -/
structure Moves (me peer : String) (guarded : Bytes → Prop) (sid : Bytes)
    (first second : World) : Prop where
  others : ∀ id, id ≠ peer → second.store.getContact me id = first.store.getContact me id
  clear : ∀ other, guarded other → other ≠ sid →
    Clear other (first.store.getContact me peer) →
      Clear other (second.store.getContact me peer)

theorem Moves.trans {me peer : String} {sid : Bytes} {first second third : World}
    (earlier : Moves me peer guarded sid first second)
    (later : Moves me peer guarded sid second third) :
    Moves me peer guarded sid first third :=
  ⟨fun id other => (later.others id other).trans (earlier.others id other),
    fun other guards different clear =>
      later.clear other guards different (earlier.clear other guards different clear)⟩

/-- Nothing is heard of a session by the steps of another one. -/
theorem Unheard.moves {me peer : String} {sid other : Bytes}
    (unheard : Unheard me other world.store) (guards : guarded other) (different : other ≠ sid)
    (moves : Moves me peer guarded sid world final) : Unheard me other final.store := by
  intro id
  by_cases isPeer : id = peer
  · rw [isPeer]
    exact moves.clear other guards different (unheard peer)
  · rw [moves.others id isPeer]
    exact unheard id

/-- A session stays as it is by the steps of the session of another sender. -/
theorem Linked.moves {peer : String} {sid : Bytes}
    (linked : Linked suite recipient sender link heard world)
    (foreign : identityId suite sender ≠ peer) (guards : guarded link.sid)
    (different : link.sid ≠ sid)
    (moves : Moves (identityId suite recipient) peer guarded sid world final) :
    Linked suite recipient sender link heard final := by
  refine ⟨?_, fun id other => ?_⟩
  · rw [moves.others _ foreign]
    exact linked.contact
  · by_cases isPeer : id = peer
    · rw [isPeer]
      exact moves.clear link.sid guards different (linked.alone peer foreign.symm)
    · rw [moves.others id isPeer]
      exact linked.alone id other

/-- An answer to a contact is a step of its session. -/
theorem moves_of_beside {me peer : String} {sid : Bytes} {row : ContactRow}
    (found : world.store.getContact me peer = some row)
    (answered : Beside me peer guarded world final) :
    Moves me peer guarded sid world final := by
  refine ⟨answered.others, fun other guards _ clear after stored => ?_⟩
  obtain ⟨session, kept, inbound, free⟩ := answered.contact row found
  obtain ⟨outboundFree, inboundFree⟩ := clear row found
  rw [kept] at stored
  obtain rfl := Option.some.inj stored
  exact ⟨free other guards outboundFree, by rw [inbound]; exact inboundFree⟩

/-- An answer to the sender leaves its session where it is. -/
theorem Linked.beside (linked : Linked suite recipient sender link heard world)
    (guards : guarded link.sid)
    (answered : Beside (identityId suite recipient) (identityId suite sender) guarded world
      final) :
    Linked suite recipient sender link heard final := by
  obtain ⟨row, session, found, filed, held, same, hears, free, only⟩ := linked.contact
  obtain ⟨after, stored, inbound, stillFree⟩ := answered.contact row found
  refine ⟨⟨{ row with session := after }, session, stored,
    ⟨filed.id, filed.isign, filed.idh, filed.bundleId, filed.inbox, filed.relays⟩, ?_, same,
    hears, stillFree _ guards free, ?_⟩, fun id other => ?_⟩
  · show (SessionState.load after).inbound.get? _ = _
    rw [inbound, held]
  · show ∀ entry ∈ (SessionState.load after).inbound.entries, _
    rw [inbound]
    exact only
  · rw [answered.others id other]
    exact linked.alone id other

/-- The world after the session of a contact was saved. -/
def withInbound (suite : Suite) (recipient : Account) (world : World) (row : ContactRow)
    (session : Session) : World :=
  { world with
    store := { world.store with
      contacts := world.store.contacts.update ((Store.withSession
        (some ((SessionState.load row.session).file .inbound recipient.deviceId
          session).save)).at (identityId suite recipient, row.id)) } }

theorem getContact_withInbound (row : ContactRow) (session : Session) (id : String) :
    (withInbound suite recipient world row session).store.getContact
      (identityId suite recipient) id =
        (world.store.getContact (identityId suite recipient) id).map fun stored =>
          if id = row.id then { stored with
            session := some ((SessionState.load row.session).file .inbound
              recipient.deviceId session).save }
          else stored :=
  getContact_update world.store (identityId suite recipient) row.id id _

theorem others_withInbound {row : ContactRow} (filed : Filed suite sender row)
    (session : Session) {id : String} (other : id ≠ identityId suite sender) :
    (withInbound suite recipient world row session).store.getContact
      (identityId suite recipient) id =
        world.store.getContact (identityId suite recipient) id := by
  rw [getContact_withInbound, filed.id]
  simp [other]

section Saving

variable {row : ContactRow} {session : Session} (filed : Filed suite sender row)
  (found : world.store.getContact (identityId suite recipient) (identityId suite sender) =
    some row)

include filed found

/-- Saving a session of a sender is a step of that session. -/
theorem moves_withInbound :
    Moves (identityId suite recipient) (identityId suite sender) guarded session.sid world
      (withInbound suite recipient world row session) := by
  refine ⟨fun id other => others_withInbound filed session other,
    fun other _ different clear after stored => ?_⟩
  · obtain ⟨outbound, inbound⟩ := clear row found
    rw [getContact_withInbound, found, Option.map_some, if_pos filed.id.symm] at stored
    obtain rfl := Option.some.inj stored
    exact ⟨outbound, inbound.insert different.symm _⟩

theorem linked_withInbound
    (alone : ∀ id, id ≠ identityId suite sender →
      Clear link.sid (world.store.getContact (identityId suite recipient) id))
    (free : Free link.sid (SessionState.load row.session).outbound)
    (only : ∀ entry ∈ (SessionState.load row.session).inbound.entries,
      entry.2.sid = link.sid → entry.1 = recipient.deviceId)
    (same : session.sid = link.sid)
    (hears : Ratchet.Hears suite link.chain link.ratchetKey heard session.ratchet) :
    Linked suite recipient sender link heard
      (withInbound suite recipient world row session) := by
  have stored := @getContact_withInbound suite recipient world row session
    (identityId suite sender)
  rw [found, Option.map_some, if_pos filed.id.symm] at stored
  refine ⟨⟨_, session, stored,
    ⟨filed.id, filed.isign, filed.idh, filed.bundleId, filed.inbox, filed.relays⟩, ?_, same,
    hears, free, ?_⟩, fun id other => ?_⟩
  · exact (Dict.get?_insert _ _ _ _).trans (if_pos rfl)
  · rintro ⟨key, kept⟩ member named
    rcases Dict.mem_entries_insert member with ⟨isKey, -⟩ | ⟨-, old⟩
    · exact isKey
    · exact only _ old named
  · rw [others_withInbound filed session other]
    exact alone id other

end Saving

section Opening

variable {blob : Bytes} {text : Text} {number : Nat} (canonical : link.init.Canonical)
  (copy : Copy suite sender link number text blob)

include canonical copy

/-- A copy is unsealed by a ratchet that opens the messages of this number. -/
theorem Copy.unseals {newPrivate : Bytes} {state : RatchetState}
    {holds : RatchetState → Prop}
    (opens : ∀ {header nonce ciphertext plaintext},
      Ratchet.OnChain suite link.chain link.ratchetKey number header nonce ciphertext
        plaintext (some link.init) →
      ∃ final, (Ratchet.decrypt suite newPrivate header nonce ciphertext
        (some link.init)).run state = (.ok plaintext, final) ∧ holds final) :
    ∃ final, (unsealWire suite newPrivate blob).run state =
      (.ok (provenEnvelope suite sender link text, link.sid, link.init), final) ∧
      holds final := by
  obtain ⟨header, nonce, ciphertext, plaintext, message, unpadded, framed⟩ := copy
  have inits : ∀ value ∈ some link.init, value.Canonical := by
    rintro value ⟨⟩
    exact canonical
  obtain ⟨final, decrypted, after⟩ := opens message
  rw [framed]
  exact ⟨final, unsealWire_opens message.canonical inits decrypted unpadded, after⟩

/-- A copy reaches the session that the wire id belongs to. -/
theorem Copy.handleBlob_known {row : ContactRow} {session : Session}
    (found : Client.findSession world.store (identityId suite recipient) link.sid =
      some (row, .inbound, recipient.deviceId, session)) :
    (handleBlob suite environment recipient blob).run world =
      (receiveKnown suite environment recipient row .inbound recipient.deviceId session
        blob).run world := by
  obtain ⟨header, nonce, ciphertext, plaintext, message, -, framed⟩ := copy
  have inits : ∀ value ∈ some link.init, value.Canonical := by
    rintro value ⟨⟩
    exact canonical
  unfold handleBlob
  rw [framed, parseWire_buildWire message.canonical inits, run_bind_ok (run_lift_ok _ world),
    sid_frameObject, run_bind_ok (run_lift_ok _ world), run_bind_ok (run_askStore id world)]
  simp only [id, found]

/-- A text that has not been heard is opened and processed. -/
theorem Linked.opens (correct : suite.AeadCorrect)
    (linked : Linked suite recipient sender link heard world)
    (new : number ∉ heard) (close : number ≤ maxSkip) :
    ∃ row middle, row.id = identityId suite sender ∧
      (handleBlob suite environment recipient blob).after world =
        (processEnvelope suite environment recipient row
          (provenEnvelope suite sender link text)).after middle ∧
      Linked suite recipient sender link (number :: heard) middle ∧
      Moves (identityId suite recipient) (identityId suite sender) guarded link.sid world
        middle ∧
      middle.store.prekeys = world.store.prekeys ∧
      middle.store.messages = world.store.messages ∧ world.tick ≤ middle.tick := by
  obtain ⟨row, session, known, found, filed, same, hears, free, only⟩ := linked.findSession
  have handled : (handleBlob suite environment recipient blob).run world = _ :=
    copy.handleBlob_known canonical known
  have unsealing : ∃ ratchet, (unsealWire suite (drawnAt environment 32 world.tick) blob).run
      session.ratchet = (_, ratchet) ∧ _ :=
    copy.unseals canonical fun message => hears.opens correct message new close
  obtain ⟨ratchet, unsealed, later⟩ := unsealing
  let start : World := { world with tick := world.tick + 1 }
  let confirmed := Session.confirm { session with ratchet }
  have sameConfirmed : confirmed.sid = link.sid := by
    unfold confirmed Session.confirm
    split <;> exact same
  have hearsConfirmed : Ratchet.Hears suite link.chain link.ratchetKey (number :: heard)
      confirmed.ratchet := by
    unfold confirmed Session.confirm
    split <;> exact later
  have foundStart : start.store.getContact (identityId suite recipient)
      (identityId suite sender) = some row := found
  refine ⟨row, withInbound suite recipient start row confirmed, filed.id, ?_,
    linked_withInbound filed foundStart linked.alone free only sameConfirmed hearsConfirmed,
    ?_, rfl, rfl, Nat.le_succ _⟩
  · unfold Prog.after
    rw [handled]
    unfold receiveKnown
    rw [run_bind_ok (run_urandom 32 _), unsealed]
    dsimp only
    rw [run_bind_ok (run_saveState _ _ _)]
    rfl
  · rw [← sameConfirmed]
    have moves : Moves _ _ guarded confirmed.sid start _ := moves_withInbound filed foundStart
    exact ⟨moves.others, moves.clear⟩

/-- A text that has been heard is refused. -/
theorem Linked.refuses (linked : Linked suite recipient sender link heard world)
    (old : number ∈ heard) :
    (handleBlob suite environment recipient blob).after world =
      { world with tick := world.tick + 1 } := by
  obtain ⟨row, session, known, -, -, -, hears, -⟩ := linked.findSession
  have handled : (handleBlob suite environment recipient blob).run world = _ :=
    copy.handleBlob_known canonical known
  obtain ⟨header, nonce, ciphertext, plaintext, message, -, framed⟩ := copy
  have inits : ∀ value ∈ some link.init, value.Canonical := by
    rintro value ⟨⟩
    exact canonical
  have duplicate : (Ratchet.decrypt suite (drawnAt environment 32 world.tick) header nonce
      ciphertext (some link.init)).run session.ratchet = _ :=
    hears.opened_before message old
  obtain ⟨reason, refused⟩ := unsealWire_refuses message.canonical inits duplicate
  rw [← framed] at refused
  unfold Prog.after
  rw [handled]
  unfold receiveKnown
  rw [run_bind_ok (run_urandom 32 _), refused]
  rfl

end Opening

/-- A text with an id and a date that the store can hold. -/
structure Text.Sound (text : Text) : Prop where
  named : text.id ≠ ""
  dated : text.ts ≠ 0
  fits : Sql.fits text.ts = true

/-- The row a text is stored as. -/
def receivedRow (suite : Suite) (recipient sender : Account) (id : String) (text : Text) :
    Message where
  id := id
  identityId := identityId suite recipient
  contactId := identityId suite sender
  direction := "received"
  type := "text"
  body := text.body
  remoteId := some text.id
  ts := text.ts
  state := some "received"

/-- The row a text gets at the tick of a world. -/
def storedRow (suite : Suite) (environment : Environment) (recipient sender : Account)
    (tick : Nat) (text : Text) : Message :=
  receivedRow suite recipient sender (Separation.receivedId environment tick) text

theorem run_newId (world : World) :
    (newId environment).run world =
      (.ok (Separation.receivedId environment world.tick),
        { world with tick := world.tick + 1 }) := rfl

theorem run_storeReceived {contact : ContactRow} {text : Text} (sound : text.Sound)
    (named : contact.id = identityId suite sender) (world : World) :
    (storeReceived suite environment recipient contact "text"
        (provenEnvelope suite sender link text) text.body).run world =
      (.ok (), { world with
        tick := world.tick + 2
        store := { world.store with
          messages := Store.insertMessage world.store.messages
            (storedRow suite environment recipient sender world.tick text) } }) := by
  have id : (provenEnvelope suite sender link text).getD "id" = .str text.id := by
    simp [Json.getD, get?_provenEnvelope, get?_envelope]
  have ts : ∀ now, Sync.integerOr ((provenEnvelope suite sender link text).getD "ts") now =
      .ok text.ts := by
    intro now
    simp [Json.getD, get?_provenEnvelope, get?_envelope, Sync.integerOr, Json.orElse, Json.truthy,
      sound.dated, Json.toInt]
  have row : Store.messageRow {
      id := .str (Separation.receivedId environment world.tick)
      identityId := identityId suite recipient
      contactId := .str contact.id, direction := .str "received", type := .str "text"
      body := text.body, remoteId := .str text.id, ts := text.ts
      state := .str "received" } =
        .ok (storedRow suite environment recipient sender world.tick text) := by
    simp [Store.messageRow, Store.required, Sql.integer, sound.fits, named]
    rfl
  unfold storeReceived
  rw [run_bind_ok (run_newId world), run_bind_ok (run_nowMs _), ts, run_bind_ok (run_lift_ok _ _),
    id]
  unfold Store.addMessage
  rw [row]
  rfl

/-- What a text that is stored leaves. -/
structure Received (suite : Suite) (environment : Environment) (recipient sender : Account)
    (guarded : Bytes → Prop) (text : Text) (world final : World) : Prop where
  beside : Beside (identityId suite recipient) (identityId suite sender) guarded world final
  messages : final.store.messages = Store.insertMessage world.store.messages
    (storedRow suite environment recipient sender world.tick text)
  tick : world.tick < final.tick

theorem run_findByRemoteId {text : Text} {me : String}
    (unseen : ∀ row ∈ world.store.messages.rows, row.remoteId ≠ some text.id) :
    (onStore (Store.findByRemoteId me (.str text.id) (some "received"))).run world =
      (.ok none, world) := by
  have missed : world.store.messages.rows.find? (fun row =>
      row.identityId = me && row.remoteId = some text.id &&
        (some "received").all fun direction => row.direction = direction) = none := by
    refine List.find?_eq_none.mpr fun row member => ?_
    simp [unseen row member]
  have found : (Store.findByRemoteId me (.str text.id) (some "received")).run world.store =
      (.ok none, world.store) := by
    unfold Store.findByRemoteId
    rw [Sql.text_str, run_bind_ok (run_lift_ok _ _)]
    dsimp only
    rw [run_bind_ok (run_get _), missed]
    rfl
  unfold onStore
  simp only [Prog.run] at found ⊢
  rw [found]

/-- A text that has not been seen is stored and answered. -/
theorem processEnvelope_text {contact : ContactRow} {text : Text} (sound : text.Sound)
    (named : contact.id = identityId suite sender)
    (unseen : ∀ row ∈ world.store.messages.rows, row.remoteId ≠ some text.id)
    (drawn : ∀ tick, ¬ guarded (drawnAt environment 16 tick)) :
    Received suite environment recipient sender guarded text world
      ((processEnvelope suite environment recipient contact
        (provenEnvelope suite sender link text)).after world) := by
  have kind : (provenEnvelope suite sender link text).getD "type" = .str "text" := by
    simp [Json.getD, get?_provenEnvelope, get?_envelope]
  have id : (provenEnvelope suite sender link text).getD "id" = .str text.id := by
    simp [Json.getD, get?_provenEnvelope, get?_envelope]
  have body : ((provenEnvelope suite sender link text).getD "body").orElse (.obj []) =
      text.body := by
    simp [Json.getD, get?_provenEnvelope, get?_envelope, Text.body, Json.orElse, Json.mkObj,
      Json.sortFields, Json.insertField, Json.truthy]
  unfold processEnvelope
  simp only [kind, if_true, body]
  unfold receiveMessage
  simp only [id, Json.truthy_str, sound.named, ne_eq, not_false_eq_true, decide_true,
    Bool.not_true, Bool.false_eq_true, if_false]
  rw [after_bind_ok (run_findByRemoteId unseen)]
  dsimp only
  rw [after_bind_ok (run_storeReceived sound named world)]
  let stored : World := { world with
    tick := world.tick + 2
    store := { world.store with
      messages := Store.insertMessage world.store.messages
        (storedRow suite environment recipient sender world.tick text) } }
  have storing : Beside (identityId suite recipient) (identityId suite sender) guarded world
      stored := beside_of_same rfl rfl
  let answered := (sendReceipt suite environment recipient contact (.str text.id)
    "delivered").after stored
  have answering : Beside (identityId suite recipient) (identityId suite sender) guarded
      stored answered := keeps_sendReceipt drawn named (.str text.id) "delivered" stored
  have waiting : Aside stored answered := receptive_aside.quiet.sendReceipt
    receptive_aside.sessions contact (.str text.id) "delivered" stored
  exact ⟨(beside _ _ _).trans storing answering, waiting.messages,
    Nat.lt_of_lt_of_le (Nat.lt_add_of_pos_right Nat.two_pos) waiting.tick⟩

/-- Inserting a message leaves a remote id unused that is not its own. -/
theorem unseen_insertMessage {messages : Table Message.id} {new : Message} {id : String}
    (unseen : ∀ row ∈ messages.rows, row.remoteId ≠ some id)
    (other : new.remoteId ≠ some id) :
    ∀ row ∈ (Store.insertMessage messages new).rows, row.remoteId ≠ some id := by
  intro row member
  rcases Table.mem_upsert_iff.mp member with rfl | ⟨old, -⟩
  · cases messages.get? new.id with
    | none => exact other
    | some old => exact other
  · exact unseen row old

theorem unseen_insertMessages {messages : Table Message.id} {rows : List Message} {id : String}
    (unseen : ∀ row ∈ messages.rows, row.remoteId ≠ some id)
    (others : ∀ row ∈ rows, row.remoteId ≠ some id) :
    ∀ row ∈ (rows.foldl Store.insertMessage messages).rows, row.remoteId ≠ some id := by
  induction rows generalizing messages with
  | nil => exact unseen
  | cons new rows induction =>
      exact induction (unseen_insertMessage unseen (others new List.mem_cons_self))
        fun row member => others row (List.mem_cons_of_mem _ member)

/-- Messages with ids of their own are appended. -/
theorem insertMessages_rows {messages : Table Message.id} {rows : List Message}
    (distinct : ((messages.rows ++ rows).map Message.id).Nodup) :
    (rows.foldl Store.insertMessage messages).rows = messages.rows ++ rows := by
  induction rows generalizing messages with
  | nil => exact (List.append_nil _).symm
  | cons new rows induction =>
      have absent : messages.get? new.id = none := by
        refine Table.get?_eq_none.mpr fun row member same => ?_
        rw [List.map_append, List.nodup_append] at distinct
        exact distinct.2.2 _ (List.mem_map_of_mem member) _
          (List.mem_map_of_mem List.mem_cons_self) same
      have inserted : (Store.insertMessage messages new).rows = messages.rows ++ [new] :=
        Table.upsert_of_none absent
      rw [List.foldl_cons, induction, inserted, List.append_assoc]
      · rfl
      · rw [inserted, List.append_assoc]
        exact distinct

/-- The rows of texts that were stored at some ticks. -/
def rowsOf (suite : Suite) (environment : Environment) (recipient : Account)
    (ticks : List Nat) (heard : List (Account × Text)) : List Message :=
  List.zipWith (fun tick entry => storedRow suite environment recipient entry.1 tick entry.2)
    ticks heard

/-- Since `origin`, the texts `heard` were stored in this order, one after the other. -/
def Shown (suite : Suite) (environment : Environment) (recipient : Account) (origin : World)
    (heard : List (Account × Text)) (world : World) : Prop :=
  ∃ ticks : List Nat, ticks.length = heard.length ∧ ticks.Pairwise (· < ·) ∧
    (∀ tick ∈ ticks, tick < world.tick) ∧
    world.store.messages = (rowsOf suite environment recipient ticks heard).foldl
      Store.insertMessage origin.store.messages

section Shown

variable {middle : World} {shownTexts : List (Account × Text)} {text : Text}

theorem Shown.later (shown : Shown suite environment recipient origin shownTexts world)
    (messages : middle.store.messages = world.store.messages)
    (elapsed : world.tick ≤ middle.tick) :
    Shown suite environment recipient origin shownTexts middle := by
  obtain ⟨ticks, size, increasing, past, stored⟩ := shown
  exact ⟨ticks, size, increasing,
    fun tick member => Nat.lt_of_lt_of_le (past tick member) elapsed, messages.trans stored⟩

theorem remoteId_rowsOf {ticks : List Nat} {row : Message}
    (member : row ∈ rowsOf suite environment recipient ticks shownTexts) :
    ∃ entry ∈ shownTexts, row.remoteId = some entry.2.id := by
  obtain ⟨place, inside, rfl⟩ := List.mem_iff_getElem.mp member
  rw [rowsOf, List.length_zipWith] at inside
  refine ⟨shownTexts[place],
    List.getElem_mem (Nat.lt_of_lt_of_le inside (Nat.min_le_right _ _)), ?_⟩
  simp only [rowsOf, List.getElem_zipWith]
  rfl

/-- A text that was not heard is not in the store. -/
theorem Shown.unseen (shown : Shown suite environment recipient origin shownTexts world)
    (absent : ∀ row ∈ origin.store.messages.rows, row.remoteId ≠ some text.id)
    (new : ∀ entry ∈ shownTexts, entry.2.id ≠ text.id) :
    ∀ row ∈ world.store.messages.rows, row.remoteId ≠ some text.id := by
  obtain ⟨ticks, -, -, -, stored⟩ := shown
  rw [stored]
  refine unseen_insertMessages absent fun row member same => ?_
  obtain ⟨entry, known, named⟩ := remoteId_rowsOf member
  exact new entry known (Option.some.inj (named.symm.trans same))

/-- A text that is received is shown after the others. -/
theorem Shown.receives (shown : Shown suite environment recipient origin shownTexts world)
    (received : Received suite environment recipient sender guarded text world final) :
    Shown suite environment recipient origin (shownTexts ++ [(sender, text)]) final := by
  obtain ⟨ticks, size, increasing, past, stored⟩ := shown
  refine ⟨ticks ++ [world.tick], ?_, ?_, ?_, ?_⟩
  · rw [List.length_append, List.length_append, size]
    rfl
  · refine List.pairwise_append.mpr ⟨increasing, List.pairwise_singleton _ _, ?_⟩
    intro tick member last isLast
    rw [List.mem_singleton.mp isLast]
    exact past tick member
  · intro tick member
    rcases List.mem_append.mp member with old | last
    · exact Nat.lt_trans (past tick old) received.tick
    · rw [List.mem_singleton.mp last]
      exact received.tick
  · rw [received.messages, stored, rowsOf, rowsOf, List.zipWith_append size, List.foldl_append]
    rfl

end Shown

end NoKnowledge.Core.FirstContact

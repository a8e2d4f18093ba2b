import NoKnowledge.Core.ContactSeparation
import NoKnowledge.Core.PrekeySubstitution

/-!
# What an answer leaves of the sessions

A stored message is answered with a receipt, which goes out on outbound sessions.
New ones are started on the way and all of them advance, but the sessions that
messages come in on stay where they are, and no other session gets their wire ids.
-/

namespace NoKnowledge.Core.Answering

open Prog NoKnowledge.Wire NoKnowledge.Core.Client

variable {suite : Suite} {environment : Environment} {account : Account} {sid : Bytes}
  {peer : String} {guarded : Bytes → Prop}

/-- No outbound session of a contact has the wire id. -/
def Free (sid : Bytes) (outbound : Dict String Session) : Prop :=
  ∀ entry ∈ outbound.entries, entry.2.sid ≠ sid

theorem Free.insert {outbound : Dict String Session} (free : Free sid outbound)
    {session : Session} (other : session.sid ≠ sid) (key : String) :
    Free sid (outbound.insert key session) := by
  rintro ⟨name, found⟩ member
  rcases Dict.mem_entries_insert member with ⟨rfl, rfl⟩ | ⟨-, old⟩
  · exact other
  · exact free _ old

/-- The wire id of a new session is drawn. -/
theorem startSession_sid {contact : ContactRow} {device : DeviceEntry} {session : Session}
    {world final : World}
    (returned : (startSession suite environment account contact device).run world =
      (.ok session, final)) :
    ∃ tick, session.sid = drawnAt environment 16 tick := by
  obtain ⟨_, _, -, afterBundle⟩ := bind_returns returned
  obtain ⟨_, _, -, afterKey⟩ := bind_returns afterBundle
  obtain ⟨_, _, -, afterAgreement⟩ := bind_returns afterKey
  obtain ⟨drawn, _, drew, afterSid⟩ := bind_returns afterAgreement
  rw [run_urandom] at drew
  obtain ⟨sameSid, -⟩ := Prod.mk.inj drew
  obtain ⟨_, _, -, afterRatchet⟩ := bind_returns afterSid
  split at afterRatchet
  · cases afterRatchet
  · cases afterRatchet
    exact ⟨_, (Except.ok.inj sameSid).symm⟩

section Fresh

variable (drawn : ∀ tick, drawnAt environment 16 tick ≠ sid)

include drawn

theorem ensureSessions_free {contact : ContactRow} {devices : List DeviceEntry}
    {outbound result : Dict String Session} {world final : World} (free : Free sid outbound)
    (returned : (ensureSessions suite environment account contact devices outbound).run
      world = (.ok result, final)) : Free sid result := by
  refine foldlM_returned ?_ free returned
  intro sessions device state next later held stepped
  split at stepped
  · cases stepped
    exact held
  · obtain ⟨session, middle, started, inserted⟩ := bind_returns stepped
    cases inserted
    obtain ⟨tick, same⟩ := startSession_sid started
    apply held.insert
    rw [same]
    exact drawn tick

theorem ensureOutboundSessions_free {contact : ContactRow} {state result : SessionState}
    {world final : World} (free : Free sid state.outbound)
    (returned : (ensureOutboundSessions suite environment account contact state).run world =
      (.ok result, final)) :
    Free sid result.outbound := by
  obtain ⟨found, middle, -, rest⟩ := bind_returns returned
  obtain ⟨outbound, last, ensured, packed⟩ := bind_returns rest
  cases packed
  exact ensureSessions_free drawn free ensured

end Fresh

theorem ensureOutboundSessions_inbound {contact : ContactRow} {state result : SessionState}
    {world final : World}
    (returned : (ensureOutboundSessions suite environment account contact state).run world =
      (.ok result, final)) : result.inbound = state.inbound := by
  obtain ⟨found, middle, -, rest⟩ := bind_returns returned
  obtain ⟨outbound, last, ensured, packed⟩ := bind_returns rest
  cases packed
  rfl

/-- Sealing advances the ratchet of a session and nothing else. -/
theorem sealEnvelope_sid {session next : Session} {envelope : Json} {kind : String}
    {blob : Bytes} {world final : World}
    (returned : (sealEnvelope suite environment account session envelope kind).run world =
      (.ok (blob, next), final)) : next.sid = session.sid := by
  obtain ⟨_, _, -, afterProof⟩ := bind_returns returned
  obtain ⟨_, _, -, afterPad⟩ := bind_returns afterProof
  obtain ⟨_, _, -, afterNonce⟩ := bind_returns afterPad
  split at afterNonce
  · cases afterNonce
  · cases afterNonce
    rfl

theorem sendCopy_free {envelopeFor : DeviceEntry → ClientProg Json} {kind : String}
    {progress next : FanOut} {device : DeviceEntry} {world final : World}
    (free : Free sid progress.sessions)
    (returned : (sendCopy suite environment account envelopeFor kind progress device).run
      world = (.ok next, final)) : Free sid next.sessions := by
  unfold sendCopy at returned
  split at returned
  · cases returned
  · rename_i session held
    obtain ⟨envelope, _, -, afterEnvelope⟩ := bind_returns returned
    obtain ⟨sent, _, sending, packed⟩ := bind_returns afterEnvelope
    cases packed
    obtain ⟨sealed_, _, sealing, afterSeal⟩ := bind_returns sending
    obtain ⟨_, _, -, afterRelays⟩ := bind_returns afterSeal
    obtain ⟨_, _, -, afterCapability⟩ := bind_returns afterRelays
    obtain ⟨_, _, -, returnedSession⟩ := bind_returns afterCapability
    cases returnedSession
    apply free.insert
    rw [sealEnvelope_sid sealing]
    exact free (_, session) ((Dict.mem_entries_iff _ _ _).mpr held)

theorem fanOut_free {state : SessionState} {envelopeFor : DeviceEntry → ClientProg Json}
    {kind : String} {sent : FanOut} {world final : World} (free : Free sid state.outbound)
    (returned : (fanOut suite environment account state envelopeFor kind).run world =
      (.ok sent, final)) : Free sid sent.sessions := by
  have copies : ∀ (progress : FanOut) device state next later, Free sid progress.sessions →
      (sendCopy suite environment account envelopeFor kind progress device).run state =
        (.ok next, later) → Free sid next.sessions :=
    fun _ _ _ _ _ held stepped => sendCopy_free held stepped
  exact foldlM_returned copies free returned

/-- The contacts apart from the outbound sessions of one, among which none gets a wire
id that is guarded. -/
structure Beside (me peer : String) (guarded : Bytes → Prop) (first second : World) : Prop where
  prekeys : second.store.prekeys = first.store.prekeys
  others : ∀ id, id ≠ peer → second.store.getContact me id = first.store.getContact me id
  contact : ∀ row, first.store.getContact me peer = some row →
    ∃ session, second.store.getContact me peer = some { row with session } ∧
      (SessionState.load session).inbound = (SessionState.load row.session).inbound ∧
      ∀ sid, guarded sid → Free sid (SessionState.load row.session).outbound →
        Free sid (SessionState.load session).outbound

def beside (me peer : String) (guarded : Bytes → Prop) : Frame World where
  rel := Beside me peer guarded
  refl := fun _ =>
    ⟨rfl, fun _ _ => rfl, fun row found => ⟨row.session, found, rfl, fun _ _ => id⟩⟩
  trans := by
    intro first second third earlier later
    refine ⟨later.prekeys.trans earlier.prekeys, fun id other =>
      (later.others id other).trans (earlier.others id other), fun row found => ?_⟩
    obtain ⟨middle, middleFound, middleInbound, middleFree⟩ := earlier.contact row found
    obtain ⟨last, lastFound, lastInbound, lastFree⟩ := later.contact _ middleFound
    exact ⟨last, lastFound, lastInbound.trans middleInbound,
      fun sid guards free => lastFree sid guards (middleFree sid guards free)⟩

theorem beside_of_same {me : String} {first second : World}
    (contacts : second.store.contacts = first.store.contacts)
    (prekeys : second.store.prekeys = first.store.prekeys) :
    (beside me peer guarded).rel first second := by
  have same : ∀ id, second.store.getContact me id = first.store.getContact me id := by
    intro id
    rw [Store.getContact, contacts]
    rfl
  exact ⟨prekeys, fun id _ => same id,
    fun row found => ⟨row.session, (same peer).trans found, rfl, fun _ _ => id⟩⟩

theorem quiet_beside {me : String} : Quiet (beside me peer guarded) where
  tick := fun _ _ => beside_of_same rfl rfl
  put := fun _ _ => beside_of_same rfl rfl
  siblingKeys := fun _ _ => beside_of_same rfl rfl
  deviceList := fun _ _ _ => beside_of_same rfl rfl
  deviceKeys := fun _ _ => beside_of_same rfl rfl

/-- The contacts a program leaves as they are. -/
theorem quiet_contacts : Quiet (keeping fun world : World => world.store.contacts) where
  tick := fun _ _ => rfl
  put := fun _ _ => rfl
  siblingKeys := fun _ _ => rfl
  deviceList := fun _ _ _ => rfl
  deviceKeys := fun _ _ => rfl

/-- Saving the sessions of a contact. -/
theorem run_saveState (contactId : String) (state : SessionState) (world : World) :
    (saveState suite account contactId state).run world = (.ok (), { world with
      store := { world.store with
        contacts := world.store.contacts.update
          ((Store.withSession (some state.save)).at
            (identityId suite account, contactId)) } }) := rfl

theorem getContact_update (store : Store) (me contactId id : String)
    (session : Option SessionBlob) :
    (store.contacts.update ((Store.withSession session).at (me, contactId))).get? (me, id) =
      (store.getContact me id).map fun row =>
        if id = contactId then { row with session } else row := by
  unfold Store.getContact
  rw [Table.get?_update]
  cases found : store.contacts.get? (me, id) with
  | none => rfl
  | some row =>
      have key : row.key = (me, id) := (Table.get?_eq_some.mp found).2
      simp only [Option.map_some, Table.Change.at, key, Prod.mk.injEq, true_and]
      rfl

section Receipts

variable (drawn : ∀ tick, ¬ guarded (drawnAt environment 16 tick))

include drawn

theorem keeps_receiptBody {contact : ContactRow} (named : contact.id = peer)
    (envelope : Json) :
    Keeps (beside (identityId suite account) peer guarded)
      (receiptBody suite environment account contact envelope) := by
  intro world
  apply keeps_bind_run (keeps_askStore _ world)
  rintro reread _ ⟨⟩
  let current := (world.store.getContact (identityId suite account) contact.id).getD contact
  have currentId : current.id = peer := by
    simp only [current]
    cases found : world.store.getContact (identityId suite account) contact.id with
    | none => exact named
    | some row =>
        have id : row.id = contact.id := congrArg Prod.snd (Table.get?_eq_some.mp found).2
        exact id.trans named
  apply keeps_bind_run (quiet_beside.ensureOutboundSessions current _ world)
  intro state middle ensured
  have middleContacts : middle.store.contacts = world.store.contacts :=
    (quiet_contacts.ensureOutboundSessions current _).view ensured
  apply keeps_bind_run (quiet_beside.fanOut state (fun _ => keeps_pure envelope) "receipt"
    middle)
  intro sent last fanned
  have lastContacts : last.store.contacts = world.store.contacts :=
    ((quiet_contacts.fanOut state (fun _ => keeps_pure envelope) "receipt").view
      fanned).trans middleContacts
  have same : ∀ id, last.store.getContact (identityId suite account) id =
      world.store.getContact (identityId suite account) id := by
    intro id
    rw [Store.getContact, lastContacts]
    rfl
  rw [after_eq (run_saveState current.id _ last), currentId]
  constructor
  · rfl
  · intro id other
    refine (getContact_update _ _ _ _ _).trans ?_
    simp [other]
  · intro row found
    have isCurrent : current = row := by
      rw [same peer, ← named] at found
      simp [current, found]
    refine ⟨_, (getContact_update _ _ _ _ _).trans (by rw [found, Option.map_some, if_pos rfl]),
      ?_, ?_⟩
    · rw [← isCurrent]
      show state.inbound = (SessionState.load current.session).inbound
      exact ensureOutboundSessions_inbound ensured
    · intro wireId guards free
      have other : ∀ tick, drawnAt environment 16 tick ≠ wireId := by
        rintro tick rfl
        exact drawn tick guards
      rw [← isCurrent] at free
      exact fanOut_free (ensureOutboundSessions_free other free ensured) fanned

theorem keeps_sendReceipt {contact : ContactRow} (named : contact.id = peer) (ofId : Json)
    (kind : String) :
    Keeps (beside (identityId suite account) peer guarded)
      (sendReceipt suite environment account contact ofId kind) := by
  apply keeps_bind quiet_beside.newId
  intro receiptId
  apply keeps_bind quiet_beside.nowMs
  intro now
  apply keeps_bind (keeps_attempt (keeps_receiptBody drawn named _))
  intro _
  exact keeps_pure _

end Receipts

end NoKnowledge.Core.Answering

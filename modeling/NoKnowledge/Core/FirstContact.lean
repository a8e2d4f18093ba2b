import NoKnowledge.Core.Hearing
import NoKnowledge.Core.HistoryConvergence
import NoKnowledge.Core.PublishedPrekeys

/-!
# First contact

Senders start sessions from bundles that a recipient has published and send texts
on them.  Whichever text of a sender arrives first, and in whatever order and however
often the others follow, between those of other senders, the recipient files each
sender, spends the one-time prekeys that were named and stores every text that
arrives exactly once.
-/

namespace NoKnowledge.Core.FirstContact

open Prog NoKnowledge.Wire NoKnowledge.Core.Client NoKnowledge.Core.Answering

variable {suite : Suite} {environment : Environment} {recipient sender : Account}
  {Private : Bytes → Prop} {link : Link} {prekeys : Prekeys} {bundle : PrekeyBundle}
  {contact : ContactRow}

/-- An account whose card others accept. -/
structure Introduces (sender : Account) : Prop where
  relays : sender.relays ≠ []
  writable : MailboxCapability.validateToken "write_token" sender.inbox.writeToken = .ok ()

/-- The card of an account, as it is read back. -/
def shownCard (suite : Suite) (sender : Account) : ContactCard :=
  { card suite sender with name := (card suite sender).shownName }

theorem fromDict_card (verifies : suite.SignaturesVerify) (introduces : Introduces sender) :
    ContactCard.fromDict suite (card suite sender).signedDict =
      .ok (shownCard suite sender) := by
  apply ContactCard.fromDict_signedDict
  · show sender.relays.map Json.str ≠ []
    simpa using introduces.relays
  · rfl
  · rfl
  · unfold MailboxCapability.validate
    show (MailboxCapability.validateToken "write_token" sender.inbox.writeToken >>= _) = _
    rw [introduces.writable]
    rfl
  · exact verifies _ _

/-- The recipient takes the card of the sender from its first text. -/
theorem provenCard_provenEnvelope (verifies : suite.SignaturesVerify)
    (introduces : Introduces sender) (text : Text) :
    provenCard suite (inboundSession link prekeys) (provenEnvelope suite sender link text) =
      .ok (some (shownCard suite sender)) := by
  have auth : (provenEnvelope suite sender link text).getD "auth" =
      X3dh.buildAuth suite sender.identity link.sid link.init link.sk := by
    simp [Json.getD, get?_provenEnvelope]
  have carried : (provenEnvelope suite sender link text).getD "card" =
      (card suite sender).signedDict := by
    simp [Json.getD, get?_provenEnvelope]
  have proof : X3dh.verifyAuth suite
      (X3dh.buildAuth suite sender.identity link.sid link.init link.sk) link.sid link.init
      link.sk = true :=
    X3dh.verifyAuth_buildAuth verifies sender.identity link.sid link.init link.sk
  have id : (X3dh.buildAuth suite sender.identity link.sid link.init link.sk).getD "id" =
      .str (sender.identity.identityId suite) := by
    simp [Json.getD, X3dh.get?_buildAuth]
  have isign : (X3dh.buildAuth suite sender.identity link.sid link.init link.sk).item "isign" =
      .ok (.str (b64e (sender.identity.edPublic suite))) :=
    Json.item_eq_ok.mpr (by simp [X3dh.get?_buildAuth])
  have authObj : (X3dh.buildAuth suite sender.identity link.sid link.init link.sk).isObj =
      true := rfl
  have cardObj : (card suite sender).signedDict.isObj = true := rfl
  have sameId : (shownCard suite sender).identityId = sender.identity.identityId suite := rfl
  have sameKey : (shownCard suite sender).isign = sender.identity.edPublic suite := rfl
  unfold provenCard
  simp only [auth, carried, authObj, cardObj, Bool.not_true, Bool.or_self, Bool.false_eq_true,
    if_false, inboundSession, proof, fromDict_card verifies introduces, id, isign, sameId,
    sameKey, toBytes_b64e, except_ok_bind, ne_eq, not_true_eq_false]
  rfl

theorem text_nullable (value : Option String) : Sql.text (History.nullable value) = .ok value := by
  cases value <;> rfl

theorem text_orElse {left right : Json} (leftBound : ∃ shown, Sql.text left = .ok shown)
    (rightBound : ∃ shown, Sql.text right = .ok shown) :
    ∃ shown, Sql.text (left.orElse right) = .ok shown := by
  unfold Json.orElse
  split
  · exact leftBound
  · exact rightBound

theorem text_chooseNickname (existing : Option ContactRow) :
    ∃ shown, Sql.text (chooseNickname none existing (shownCard suite sender)) = .ok shown := by
  refine text_orElse (text_orElse ⟨_, text_nullable _⟩ ⟨_, text_nullable _⟩)
    (text_orElse ?_ ⟨_, Sql.text_str _⟩)
  exact text_orElse ⟨_, Sql.text_str sender.name⟩ ⟨none, rfl⟩

/-- The sender was filed, with the sessions it had. -/
structure Files (suite : Suite) (recipient sender : Account) (row : ContactRow)
    (world final : World) : Prop where
  stored : final.store.getContact (identityId suite recipient) (identityId suite sender) =
    some row
  filed : Filed suite sender row
  session : row.session =
    (world.store.getContact (identityId suite recipient) (identityId suite sender)).bind
      ContactRow.session
  others : ∀ id, id ≠ identityId suite sender →
    final.store.getContact (identityId suite recipient) id =
      world.store.getContact (identityId suite recipient) id
  prekeys : final.store.prekeys = world.store.prekeys
  messages : final.store.messages = world.store.messages
  tick : final.tick = world.tick + 1

/-- A contact that is filed again takes the fields of the card. -/
theorem takenOver_fields (new : ContactRow) (existing : Option ContactRow) :
    let row := (existing.map (Store.takeOver new).apply).getD new
    row.isign = new.isign ∧ row.idh = new.idh ∧ row.bundleId = new.bundleId ∧
      row.inbox = new.inbox ∧ row.relays = new.relays ∧ row.session = new.session := by
  cases existing with
  | none => exact ⟨rfl, rfl, rfl, rfl, rfl, rfl⟩
  | some old => exact ⟨rfl, rfl, rfl, rfl, rfl, rfl⟩

theorem storeCard_files (clock : History.ClockFits environment) {world : World}
    (dated : ∀ row, world.store.getContact (identityId suite recipient)
      (identityId suite sender) = some row → Sql.fits row.createdAt = true) :
    ∃ row final, (storeCard suite environment recipient (shownCard suite sender) none).run
        world = (.ok row, final) ∧
      Files suite recipient sender row world final := by
  let me := identityId suite recipient
  let peer := identityId suite sender
  let existing := world.store.getContact me peer
  obtain ⟨shown, bound⟩ := @text_chooseNickname suite sender existing
  let now := environment.clock world.tick / 1000000
  let new := cardRow suite recipient (shownCard suite sender) existing shown now
  have fits : Sql.fits new.createdAt = true := by
    show Sql.fits ((existing.map ContactRow.createdAt).getD now) = true
    cases found : existing with
    | none => exact clock world.tick
    | some row => exact dated row found
  let final := ({ world with tick := world.tick + 1 } : World).withContact new
  let row := (existing.map (Store.takeOver new).apply).getD new
  have stored : final.store.getContact me peer = some row :=
    Table.get?_upsert_self world.store.contacts new (Store.takeOver new)
  have ran : (storeCard suite environment recipient (shownCard suite sender) none).run world =
      (.ok row, final) := by
    unfold storeCard
    rw [run_bind_ok (run_askStore _ world)]
    show (Prog.run (Prog.lift (Sql.text (chooseNickname none existing
      (shownCard suite sender))) >>= _) world) = _
    rw [bound, run_bind_ok (run_lift_ok _ world), run_bind_ok (History.run_nowSeconds world)]
    refine (run_bind_ok (run_upsertContact fits _)).trans ?_
    show (Except.ok ((final.store.getContact me peer).getD new), final) = _
    rw [stored]
    rfl
  obtain ⟨isign, idh, bundleId, inbox, relays, session⟩ := takenOver_fields new existing
  have key : row.key = (me, peer) := (Table.get?_eq_some.mp stored).2
  refine ⟨row, final, ran, stored,
    ⟨congrArg Prod.snd key, isign, idh, bundleId, inbox, relays⟩, session, ?_, rfl, rfl, rfl⟩
  intro id other
  refine Table.get?_upsert_other ?_ (Store.takeOver new)
  exact fun same => other (congrArg Prod.snd same)

/-- The world after the prekeys were saved. -/
def withPrekeys (world : World) (prekeys : Prekeys) : World :=
  { world with store := { world.store with prekeys := some prekeys } }

theorem withPrekeys_self {world : World} (held : world.store.prekeys = some prekeys) :
    withPrekeys world prekeys = world := by
  unfold withPrekeys
  rw [← held]

/-- The named one-time prekey is deleted, and no other. -/
theorem run_consumeOpk {opkId : Json} {opkPrivate : Option Bytes} {world : World}
    (held : world.store.prekeys = some prekeys)
    (named : oneTimePrekey prekeys opkId = some opkPrivate) :
    (consumeOpk opkId).run world = (.ok (), withPrekeys world (spent prekeys opkId)) := by
  unfold consumeOpk spent
  by_cases isNull : opkId = .null
  · rw [if_pos isNull, if_pos isNull, withPrekeys_self held]
    rfl
  · rw [if_neg isNull, if_neg isNull, run_bind_ok (run_askStore _ world), held]
    rw [oneTimePrekey, if_neg isNull] at named
    have present : (prekeys.opks.get? opkId.toText).isSome = true := by
      obtain ⟨halves, found, -⟩ := Option.map_eq_some_iff.mp named
      rw [found]
      rfl
    dsimp only
    rw [if_pos present]
    rfl

theorem Begins.canonical {spkPrivate : Bytes}
    (begins : Begins suite Private contact bundle spkPrivate link) : link.init.Canonical := by
  obtain ⟨_, initiation, -, -, -, -, same⟩ := begins.handshake
  rw [same]
  exact initiation.canonical_initDict

/-- A copy that belongs to no session starts one. -/
theorem Copy.handleBlob_unknown {world : World} {number : Nat} {text : Text} {blob : Bytes}
    (agrees : suite.Agrees Private) (held : world.store.prekeys = some prekeys)
    (offers : Offers suite Private recipient prekeys bundle)
    (begins : Begins suite Private contact bundle prekeys.spkPrivate link)
    (unknown : findSession world.store (identityId suite recipient) link.sid = none)
    (copy : Copy suite sender link number text blob) :
    (handleBlob suite environment recipient blob).run world =
      (receiveFresh suite environment recipient (inboundSession link prekeys)
        (namedOpk bundle) blob).run world := by
  obtain ⟨header, nonce, ciphertext, plaintext, message, -, framed⟩ := copy
  have inits : ∀ value ∈ some link.init, value.Canonical := by
    rintro value ⟨⟩
    exact begins.canonical
  have init : ((frameObject link.sid header nonce ciphertext (some link.init)).get?
      "init").isNone = false := by
    simp [get?_frameObject]
  unfold handleBlob
  rw [framed, parseWire_buildWire message.canonical inits, run_bind_ok (run_lift_ok _ world),
    sid_frameObject, run_bind_ok (run_lift_ok _ world), run_bind_ok (run_askStore id world)]
  simp only [id, unknown, init, Bool.false_eq_true, if_false,
    beginInbound_offered agrees offers begins held]
  rw [run_bind_ok (run_lift_ok _ world)]

theorem finishInbound_files {world middle : World} {row : ContactRow} (text : Text)
    (verifies : suite.SignaturesVerify) (introduces : Introduces sender)
    (held : middle.store.prekeys = some prekeys)
    (offers : Offers suite Private recipient prekeys bundle)
    (stored : (storeCard suite environment recipient (shownCard suite sender) none).run
      world = (.ok row, middle)) :
    (finishInbound suite environment recipient (inboundSession link prekeys)
        (provenEnvelope suite sender link text) (namedOpk bundle)).run world =
      (.ok (some row), withPrekeys middle (spent prekeys (namedOpk bundle))) := by
  obtain ⟨opkPrivate, named, -⟩ := offers.halves
  unfold finishInbound
  rw [provenCard_provenEnvelope verifies introduces, run_bind_ok (run_lift_ok _ world)]
  dsimp only
  rw [run_bind_ok stored, run_bind_ok (run_consumeOpk held named)]
  rfl

/-- What a suite and the surroundings of a recipient have to provide. -/
structure Sound (suite : Suite) (environment : Environment) (Private : Bytes → Prop) : Prop where
  agrees : suite.Agrees Private
  correct : suite.AeadCorrect
  verifies : suite.SignaturesVerify
  drawn : ∀ tick, Private (drawnAt environment 32 tick)
  clock : History.ClockFits environment

/-- Whichever text arrives first is opened, its sender filed and its prekey spent. -/
theorem Copy.accepted {world : World} {number : Nat} {text : Text} {blob : Bytes}
    {guarded : Bytes → Prop} (sound : Sound suite environment Private)
    (introduces : Introduces sender) (held : world.store.prekeys = some prekeys)
    (offers : Offers suite Private recipient prekeys bundle)
    (begins : Begins suite Private contact bundle prekeys.spkPrivate link)
    (dated : ∀ row, world.store.getContact (identityId suite recipient)
      (identityId suite sender) = some row → Sql.fits row.createdAt = true)
    (unheard : Unheard (identityId suite recipient) link.sid world.store)
    (copy : Copy suite sender link number text blob) (close : number ≤ maxSkip) :
    ∃ row middle, row.id = identityId suite sender ∧
      (handleBlob suite environment recipient blob).after world =
        (processEnvelope suite environment recipient row
          (provenEnvelope suite sender link text)).after middle ∧
      Linked suite recipient sender link [number] middle ∧
      Moves (identityId suite recipient) (identityId suite sender) guarded link.sid world
        middle ∧
      middle.store.prekeys = some (spent prekeys (namedOpk bundle)) ∧
      middle.store.messages = world.store.messages ∧ world.tick ≤ middle.tick := by
  obtain ⟨first, firstDrawn, ratchetKey⟩ := begins.ratchetKey
  obtain ⟨sent, agreed, -⟩ := sound.agrees _ first (sound.drawn world.tick) firstDrawn
  rw [← ratchetKey] at agreed
  have unsealing : ∃ ratchet, (unsealWire suite (drawnAt environment 32 world.tick) blob).run
      (inboundSession link prekeys).ratchet = (_, ratchet) ∧ _ :=
    copy.unseals begins.canonical fun message =>
      begins.chained.opens sound.correct message close agreed
  obtain ⟨ratchet, unsealed, hears⟩ := unsealing
  let drew : World := { world with tick := world.tick + 1 }
  have datedDrew : ∀ row, drew.store.getContact (identityId suite recipient)
      (identityId suite sender) = some row → Sql.fits row.createdAt = true := dated
  obtain ⟨row, middle, stored, files⟩ := storeCard_files sound.clock datedDrew
  have prekeysHeld : middle.store.prekeys = some prekeys := files.prekeys.trans held
  have finished : (finishInbound suite environment recipient (inboundSession link prekeys)
      (provenEnvelope suite sender link text) (namedOpk bundle)).run drew = _ :=
    finishInbound_files text sound.verifies introduces prekeysHeld offers stored
  have free := (unheard (identityId suite sender)).sessions
  have session := files.session
  change row.session = (world.store.getContact _ _).bind ContactRow.session at session
  rw [← session] at free
  let accepted : Session :=
    { inboundSession link prekeys with ratchet, established := true, sk := none }
  let after := withPrekeys middle (spent prekeys (namedOpk bundle))
  have found : after.store.getContact (identityId suite recipient) (identityId suite sender) =
      some row := files.stored
  have alone : ∀ id, id ≠ identityId suite sender →
      Clear link.sid (after.store.getContact (identityId suite recipient) id) := by
    intro id other
    have same := files.others id other
    change after.store.getContact _ id = world.store.getContact _ id at same
    rw [same]
    exact unheard id
  refine ⟨row, withInbound suite recipient after row accepted, files.filed.id, ?_,
    linked_withInbound files.filed found alone free.1
      (fun entry member same => absurd same (free.2 entry member)) rfl hears, ?_, rfl,
    files.messages, ?_⟩
  · unfold Prog.after
    rw [copy.handleBlob_unknown sound.agrees held offers begins (findSession_unheard unheard)]
    unfold receiveFresh
    rw [run_bind_ok (run_urandom 32 _), unsealed]
    dsimp only
    rw [run_bind_ok finished]
    dsimp only
    rw [run_bind_ok (run_saveState _ _ _)]
    rfl
  · have saves : Moves (identityId suite recipient) _ guarded accepted.sid after _ :=
      moves_withInbound files.filed found
    have filing : Moves (identityId suite recipient) (identityId suite sender) guarded
        link.sid world after := by
      refine ⟨files.others, fun other _ _ clear kept same => ?_⟩
      rw [found] at same
      obtain rfl := Option.some.inj same
      rw [session]
      exact clear.sessions
    exact filing.trans saves
  · show world.tick ≤ middle.tick
    rw [files.tick]
    show world.tick ≤ world.tick + 1 + 1
    omega

end NoKnowledge.Core.FirstContact

import NoKnowledge.Core.FirstSession

/-!
# The prekeys a recipient has published

A bundle names the public halves of keys that the recipient holds.  A header made
from the bundle starts a session with the key of its sender, as long as the
one-time prekey it names has not been spent.
-/

namespace NoKnowledge.Core.FirstContact

open Prog NoKnowledge.Wire NoKnowledge.Core.Client

variable {suite : Suite} {recipient sender : Account} {Private : Bytes → Prop} {link : Link}
  {prekeys : Prekeys} {bundle : PrekeyBundle} {contact : ContactRow}

/-- The one-time prekey that a handshake with a bundle names. -/
def namedOpk (bundle : PrekeyBundle) : Json :=
  ((bundle.opks.head?.map Prod.fst).map Json.int).getD .null

/-- A bundle with public halves of keys that a recipient holds. -/
structure Offers (suite : Suite) (Private : Bytes → Prop) (recipient : Account)
    (prekeys : Prekeys) (bundle : PrekeyBundle) : Prop where
  idh : bundle.idh = recipient.identity.xPublic suite
  spkId : bundle.spkId = prekeys.spkId
  spk : bundle.spk = suite.dhPublic prekeys.spkPrivate
  opk : ∀ opk ∈ bundle.opks.head?, ∃ halves,
    prekeys.opks.get? (Json.int opk.1).toText = some halves ∧
    opk.2 = suite.dhPublic halves.1 ∧ halves.1 ≠ [] ∧ Private halves.1
  identityDrawn : Private recipient.identity.xPrivate
  signedDrawn : Private prekeys.spkPrivate

/-- The prekeys after the named one was spent. -/
def spent (prekeys : Prekeys) (opkId : Json) : Prekeys :=
  if opkId = .null then prekeys
  else { prekeys with opks := prekeys.opks.erase opkId.toText }

/-- The private half of the one-time prekey that a handshake names. -/
theorem Offers.halves (offers : Offers suite Private recipient prekeys bundle) :
    ∃ opkPrivate, oneTimePrekey prekeys (namedOpk bundle) = some opkPrivate ∧
      X3dh.Halves suite Private bundle recipient.identity.xPrivate prekeys.spkPrivate
        opkPrivate := by
  cases first : bundle.opks.head? with
  | none =>
      refine ⟨none, by simp [oneTimePrekey, namedOpk, first], offers.idh, offers.spk, ?_,
        offers.identityDrawn, offers.signedDrawn, nofun⟩
      rw [first]
      rfl
  | some opk =>
      obtain ⟨halves, held, same, nonempty, drawn⟩ := offers.opk opk first
      refine ⟨some halves.1, by simp [oneTimePrekey, namedOpk, first, held], offers.idh,
        offers.spk, ?_, offers.identityDrawn, offers.signedDrawn, ?_⟩
      · rw [first]
        exact congrArg some same
      · rintro _ ⟨⟩
        exact ⟨nonempty, drawn⟩

/-- The session the recipient starts from the header of the sender. -/
def inboundSession (link : Link) (prekeys : Prekeys) : Session where
  sid := link.sid
  ratchet := Ratchet.responder link.sk prekeys.spkPrivate prekeys.spkPublic
  sk := some link.sk
  init := some link.init
  established := false

/-- The header of the sender starts a session with its key. -/
theorem beginInbound_offered (agrees : suite.Agrees Private)
    (offers : Offers suite Private recipient prekeys bundle)
    (begins : Begins suite Private contact bundle prekeys.spkPrivate link) {store : Store}
    (held : store.prekeys = some prekeys) (header : Json) (nonce ciphertext : Bytes) :
    beginInbound suite recipient store
        (frameObject link.sid header nonce ciphertext (some link.init)) =
      .ok (some (inboundSession link prekeys, namedOpk bundle)) := by
  obtain ⟨ephemeral, initiation, drawn, initiated, public_, sameKey, sameInit⟩ :=
    begins.handshake
  obtain ⟨opkPrivate, named, halves⟩ := offers.halves
  have agreed := X3dh.respond_of_initiate agrees drawn halves initiated
  obtain ⟨_, _, _, -, -, -, made⟩ := X3dh.initiate_returns initiated
  have init : (frameObject link.sid header nonce ciphertext (some link.init)).item "init" =
      .ok initiation.initDict :=
    Json.item_eq_ok.mpr (by simp [get?_frameObject, sameInit])
  have sid : (frameObject link.sid header nonce ciphertext (some link.init)).item "sid" =
      .ok (.str (b64e link.sid)) :=
    Json.item_eq_ok.mpr (by simp [get?_frameObject])
  have spkId : initiation.initDict.item "spk_id" = .ok (.int prekeys.spkId) :=
    Json.item_eq_ok.mpr (by simp [Initiation.get?_initDict, made, offers.spkId])
  have opkId : initiation.initDict.attempt "opk_id" = .ok (namedOpk bundle) :=
    attempt_of_get? (by simp [Initiation.get?_initDict, made, namedOpk])
  have ephemeralItem : initiation.initDict.item "ek" =
      .ok (.str (b64e (suite.dhPublic ephemeral))) :=
    Json.item_eq_ok.mpr (by simp [Initiation.get?_initDict, public_])
  have number : (Json.int prekeys.spkId).toInt = .ok prekeys.spkId := rfl
  have responded : (do
      let ephemeral ← (← initiation.initDict.item "ek").toBytes
      X3dh.respond suite recipient.identity.xPrivate prekeys.spkPrivate opkPrivate ephemeral) =
        Except.ok initiation.sk := by
    rw [ephemeralItem, except_ok_bind, toBytes_b64e, except_ok_bind, agreed]
  unfold beginInbound
  simp only [init, except_ok_bind, held, spkId, number, ne_eq, not_true_eq_false, if_false,
    opkId, named, responded, sid, toBytes_b64e]
  rw [inboundSession, sameKey, sameInit]
  rfl

/-- Two handshakes that name no one-time prekey in common. -/
def Apart (opkId other : Json) : Prop :=
  opkId ≠ .null → other ≠ .null → opkId.toText ≠ other.toText

/-- A bundle is offered as long as others are spent. -/
theorem Offers.spent (offers : Offers suite Private recipient prekeys bundle) {opkId : Json}
    (apart : Apart opkId (namedOpk bundle)) :
    Offers suite Private recipient (spent prekeys opkId) bundle := by
  unfold FirstContact.spent
  split
  · exact offers
  · rename_i named
    refine ⟨offers.idh, offers.spkId, offers.spk, ?_, offers.identityDrawn, offers.signedDrawn⟩
    intro opk first
    obtain ⟨halves, held, same, nonempty, drawn⟩ := offers.opk opk first
    have name : namedOpk bundle = .int opk.1 := by
      rw [Option.mem_def] at first
      simp [namedOpk, first]
    have other : (Json.int opk.1).toText ≠ opkId.toText := by
      rw [name] at apart
      exact (apart named nofun).symm
    refine ⟨halves, ?_, same, nonempty, drawn⟩
    rw [Dict.get?_erase, if_neg other, held]

/-- The prekeys after several handshakes. -/
def spentAll (prekeys : Prekeys) (opkIds : List Json) : Prekeys := opkIds.foldl spent prekeys

/-- The signed prekey is never spent. -/
theorem spkPrivate_spentAll (prekeys : Prekeys) (opkIds : List Json) :
    (spentAll prekeys opkIds).spkPrivate = prekeys.spkPrivate := by
  induction opkIds generalizing prekeys with
  | nil => rfl
  | cons opkId opkIds induction =>
      have kept : (FirstContact.spent prekeys opkId).spkPrivate = prekeys.spkPrivate := by
        unfold FirstContact.spent
        split <;> rfl
      exact (induction _).trans kept

theorem Offers.spentAll (offers : Offers suite Private recipient prekeys bundle)
    {opkIds : List Json} (apart : ∀ opkId ∈ opkIds, Apart opkId (namedOpk bundle)) :
    Offers suite Private recipient (spentAll prekeys opkIds) bundle := by
  induction opkIds generalizing prekeys with
  | nil => exact offers
  | cons opkId opkIds induction =>
      exact induction (offers.spent (apart opkId List.mem_cons_self))
        fun other member => apart other (List.mem_cons_of_mem _ member)

end NoKnowledge.Core.FirstContact

import NoKnowledge.Core.FirstContact
import NoKnowledge.Foundation.FirstArrivals

/-!
# Strangers who write to one recipient

Each sender has started a session from a bundle of the recipient and has sealed texts
on it.  The blobs of all senders arrive interleaved, in any order and any number of
times.  The recipient files every sender that it hears of, spends the one-time prekeys
that were named, and stores each text that arrives once, in the order of first arrival.
-/

namespace NoKnowledge.Core.FirstContact

open Prog NoKnowledge.Wire NoKnowledge.Core.Client NoKnowledge.Core.Answering

/-- A sender that has started a session from a bundle and has sealed texts on it. -/
structure Correspondent (suite : Suite) where
  account : Account
  environment : Environment
  contact : ContactRow
  device : DeviceEntry
  start : World
  middle : World
  after : World
  bundle : PrekeyBundle
  session : Session
  texts : List Text
  blobs : List Bytes
  fetched : (fetchDeviceBundle environment account contact device).run start =
    (.ok bundle, middle)
  started : (startSession suite environment account contact device).run start =
    (.ok session, after)
  run : Sealed suite environment account session texts blobs
  few : texts.length ≤ maxSkip + 1
  introduces : Introduces account

section Senders

variable {suite : Suite} {environment : Environment} {recipient : Account}
  {Private : Bytes → Prop} {prekeys : Prekeys} {origin world middle final : World} {Peer : Type}
  {who : Peer → Correspondent suite} {link : Peer → Link}

def Correspondent.id (correspondent : Correspondent suite) : String :=
  identityId suite correspondent.account

/-- The one-time prekey that the session of a sender uses up. -/
def Correspondent.opkId (correspondent : Correspondent suite) : Json :=
  namedOpk correspondent.bundle

/-- What two senders do not share: a name, a wire id or the id of a text. -/
structure Correspondent.Apart (sender other : Correspondent suite) : Prop where
  id : sender.id ≠ other.id
  sid : sender.session.sid ≠ other.session.sid
  texts : ∀ text ∈ sender.texts, ∀ foreign ∈ other.texts, text.id ≠ foreign.id

/-- Senders whose sessions and texts are new to a recipient. -/
structure Newcomers (suite : Suite) (environment : Environment) (Private : Bytes → Prop)
    (recipient : Account) (origin : World) (who : Peer → Correspondent suite) : Prop where
  sound : Sound suite environment Private
  drawn : ∀ peer tick, Private (drawnAt (who peer).environment 32 tick)
  dated : ∀ peer row, origin.store.getContact (identityId suite recipient) (who peer).id =
    some row → Sql.fits row.createdAt = true
  unheard : ∀ peer, Unheard (identityId suite recipient) (who peer).session.sid origin.store
  undrawn : ∀ peer tick, drawnAt environment 16 tick ≠ (who peer).session.sid
  texts : ∀ peer, ∀ text ∈ (who peer).texts, text.Sound
  unseen : ∀ peer, ∀ text ∈ (who peer).texts,
    ∀ row ∈ origin.store.messages.rows, row.remoteId ≠ some text.id
  distinct : ∀ peer, ((who peer).texts.map Text.id).Nodup
  apart : ∀ peer other, peer ≠ other → (who peer).Apart (who other)

/-- Newcomers with bundles that the recipient can answer, of which no two name the same
one-time prekey. -/
structure Strangers (suite : Suite) (environment : Environment) (Private : Bytes → Prop)
    (recipient : Account) (prekeys : Prekeys) (origin : World)
    (who : Peer → Correspondent suite) : Prop extends
    Newcomers suite environment Private recipient origin who where
  held : origin.store.prekeys = some prekeys
  offers : ∀ peer, Offers suite Private recipient prekeys (who peer).bundle
  opkIds : ∀ peer other, peer ≠ other →
    FirstContact.Apart (who peer).opkId (who other).opkId

/-- A text of a sender, with its number. -/
def IsSent (who : Peer → Correspondent suite) (entry : Peer × Text × Nat) : Prop :=
  entry.2 ∈ (who entry.1).texts.zipIdx

/-- The number of a text determines it. -/
theorem entry_of_number {entry other : Peer × Text × Nat} (sent : IsSent who entry)
    (otherSent : IsSent who other) (samePeer : entry.1 = other.1)
    (same : entry.2.2 = other.2.2) : entry = other := by
  obtain ⟨peer, text, number⟩ := entry
  obtain ⟨_, otherText, _⟩ := other
  obtain rfl : peer = _ := samePeer
  obtain rfl : number = _ := same
  have first := List.mem_zipIdx_iff_getElem?.mp sent
  have second := List.mem_zipIdx_iff_getElem?.mp otherSent
  have sameText : some text = some otherText := first.symm.trans second
  rw [Option.some.inj sameText]

/-- The id of a text determines its sender and its number. -/
theorem Strangers.entry_of_id
    (strangers : Strangers suite environment Private recipient prekeys origin who)
    {entry other : Peer × Text × Nat} (sent : IsSent who entry) (otherSent : IsSent who other)
    (same : entry.2.1.id = other.2.1.id) : entry = other := by
  have textSent := List.fst_mem_of_mem_zipIdx sent
  have otherTextSent := List.fst_mem_of_mem_zipIdx otherSent
  by_cases samePeer : entry.1 = other.1
  · obtain ⟨peer, text, number⟩ := entry
    obtain ⟨_, otherText, otherNumber⟩ := other
    obtain rfl : peer = _ := samePeer
    obtain rfl : text = otherText :=
      List.inj_on_of_nodup_map (strangers.distinct peer) textSent otherTextSent same
    have inside : number < (who peer).texts.length := List.snd_lt_of_mem_zipIdx sent
    have first := List.mem_zipIdx_iff_getElem?.mp sent
    have second := List.mem_zipIdx_iff_getElem?.mp otherSent
    have texts : (who peer).texts.Nodup := (strangers.distinct peer).of_map _
    have numbers : number = otherNumber :=
      (List.getElem?_inj inside texts).mp (first.trans second.symm)
    rw [numbers]
  · exact absurd same
      ((strangers.apart _ _ samePeer).texts _ textSent _ otherTextSent)

/-- Whose text it is. -/
def textOf {Mark : Type} (entry : Peer × Text × Mark) : Peer × Text := (entry.1, entry.2.1)

/-- The links behind the sessions of the senders, and copies of all their texts. -/
structure Linking (suite : Suite) (Private : Bytes → Prop) (prekeys : Prekeys)
    (who : Peer → Correspondent suite) (link : Peer → Link) : Prop where
  sid : ∀ peer, (link peer).sid = (who peer).session.sid
  begins : ∀ peer, Begins suite Private (who peer).contact (who peer).bundle
    prekeys.spkPrivate (link peer)
  copies : ∀ peer, List.Forall₂ (fun entry blob =>
    Copy suite (who peer).account (link peer) entry.2 entry.1 blob)
      ((who peer).texts.zipIdx) (who peer).blobs

theorem Strangers.linking
    (strangers : Strangers suite environment Private recipient prekeys origin who) :
    ∃ link, Linking suite Private prekeys who link := by
  have starts : ∀ peer, ∃ link : Link, link.sid = (who peer).session.sid ∧
      Sends suite link 0 (who peer).session ∧
      Begins suite Private (who peer).contact (who peer).bundle prekeys.spkPrivate link :=
    fun peer => startSession_sends strangers.sound.agrees (strangers.drawn peer)
      (strangers.offers peer).spk (strangers.offers peer).signedDrawn (who peer).fetched
      (who peer).started
  choose link sid sends begins using starts
  exact ⟨link, sid, begins, fun peer => (who peer).run.copies (sends peer)⟩

/-- A text of a sender and a blob that was sealed for it. -/
def IsDelivery (who : Peer → Correspondent suite) (delivery : Peer × Text × Bytes) : Prop :=
  delivery.2 ∈ (who delivery.1).texts.zip (who delivery.1).blobs

/-- Every text that was sealed can be opened, as there are few on each session. -/
theorem Linking.delivered (linking : Linking suite Private prekeys who link)
    {delivery : Peer × Text × Bytes} (sent : IsDelivery who delivery) :
    ∃ number, number ≤ maxSkip ∧ IsSent who (delivery.1, delivery.2.1, number) ∧
      Copy suite (who delivery.1).account (link delivery.1) number delivery.2.1
        delivery.2.2 := by
  obtain ⟨peer, text, blob⟩ := delivery
  obtain ⟨place, inside, same⟩ := List.mem_iff_getElem.mp sent
  have both := inside
  rw [List.length_zip, Nat.lt_min] at both
  obtain ⟨textInside, blobInside⟩ := both
  rw [List.getElem_zip] at same
  obtain ⟨isText, isBlob⟩ := Prod.mk.inj same
  have numbered : place < ((who peer).texts.zipIdx).length := by
    rw [List.length_zipIdx]
    exact textInside
  have copy := (linking.copies peer).get numbered blobInside
  simp only [List.get_eq_getElem, List.getElem_zipIdx, Nat.zero_add, isText, isBlob] at copy
  refine ⟨place, Nat.le_of_lt_succ (Nat.lt_of_lt_of_le textInside (who peer).few), ?_, copy⟩
  refine List.mem_zipIdx_iff_getElem?.mpr ((List.getElem?_eq_getElem textInside).trans ?_)
  exact congrArg some isText

/-- The wire id of a sender. -/
def IsWireId (who : Peer → Correspondent suite) (sid : Bytes) : Prop :=
  ∃ peer, sid = (who peer).session.sid

/-- The recipient after some blobs: it was contacted by `contacted`, in this order, and has
stored the texts `heard`. -/
structure Meeting (suite : Suite) (environment : Environment) (recipient : Account)
    (prekeys : Prekeys) (origin : World) (who : Peer → Correspondent suite)
    (link : Peer → Link) (contacted : List Peer) (heard : List (Peer × Text × Nat))
    (world : World) : Prop where
  prekeys : world.store.prekeys =
    some (spentAll prekeys (contacted.map fun peer => (who peer).opkId))
  linked : ∀ peer ∈ contacted, ∃ numbers,
    Linked suite recipient (who peer).account (link peer) numbers world ∧
      ∀ number, number ∈ numbers ↔ ∃ text, (peer, text, number) ∈ heard
  waiting : ∀ peer, peer ∉ contacted →
    Unheard (identityId suite recipient) (link peer).sid world.store
  others : ∀ id, (∀ peer ∈ contacted, id ≠ (who peer).id) →
    world.store.getContact (identityId suite recipient) id =
      origin.store.getContact (identityId suite recipient) id
  shown : Shown suite environment recipient origin
    (heard.map fun entry => ((who entry.1).account, entry.2.1)) world
  met : ∀ peer, peer ∈ contacted ↔ ∃ entry ∈ heard, entry.1 = peer
  sent : ∀ entry ∈ heard, IsSent who entry

section Run

variable (strangers : Strangers suite environment Private recipient prekeys origin who)
  (linking : Linking suite Private prekeys who link) {contacted : List Peer}
  {heard : List (Peer × Text × Nat)} {entry : Peer × Text × Nat}

/-- A blob that changes nothing in the store. -/
theorem Meeting.later
    (meeting : Meeting suite environment recipient prekeys origin who link contacted heard
      world) {tick : Nat} (elapsed : world.tick ≤ tick) :
    Meeting suite environment recipient prekeys origin who link contacted heard
      { world with tick } := by
  refine ⟨meeting.prekeys, fun peer member => ?_, meeting.waiting, meeting.others,
    meeting.shown.later rfl elapsed, meeting.met, meeting.sent⟩
  obtain ⟨numbers, linked, numbered⟩ := meeting.linked peer member
  exact ⟨numbers, ⟨linked.contact, linked.alone⟩, numbered⟩

include strangers linking

/-- A text that is opened for the first time is processed, and nothing changes for the
other senders. -/
theorem Meeting.hears
    (meeting : Meeting suite environment recipient prekeys origin who link contacted heard
      world) (sent : IsSent who entry) (new : entry ∉ heard) {numbers : List Nat}
    (linked : Linked suite recipient (who entry.1).account (link entry.1) numbers middle)
    (numbered : ∀ number, number ∈ numbers ↔ ∃ text, (entry.1, text, number) ∈ heard ++ [entry])
    (moves : Moves (identityId suite recipient) (who entry.1).id (IsWireId who)
      (link entry.1).sid world middle)
    {later : List Peer} (met : ∀ peer, peer ∈ later ↔ peer ∈ contacted ∨ peer = entry.1)
    (left : middle.store.prekeys =
      some (spentAll prekeys (later.map fun peer => (who peer).opkId)))
    (messages : middle.store.messages = world.store.messages)
    (elapsed : world.tick ≤ middle.tick) {row : ContactRow} (named : row.id = (who entry.1).id) :
    Meeting suite environment recipient prekeys origin who link later (heard ++ [entry])
      ((processEnvelope suite environment recipient row
        (provenEnvelope suite (who entry.1).account (link entry.1) entry.2.1)).after
          middle) := by
  have textSent : entry.2.1 ∈ (who entry.1).texts := List.fst_mem_of_mem_zipIdx sent
  have guards : ∀ peer, IsWireId who (link peer).sid := fun peer => ⟨peer, linking.sid peer⟩
  have undrawn : ∀ tick, ¬ IsWireId who (drawnAt environment 16 tick) := by
    rintro tick ⟨peer, same⟩
    exact strangers.undrawn peer tick same
  have shown := meeting.shown.later messages elapsed
  have newText : ∀ other ∈ heard.map fun entry => ((who entry.1).account, entry.2.1),
      other.2.id ≠ entry.2.1.id := by
    rintro _ member same
    obtain ⟨other, known, rfl⟩ := List.mem_map.mp member
    rw [strangers.entry_of_id (meeting.sent other known) sent same] at known
    exact new known
  have received : Received suite environment recipient (who entry.1).account (IsWireId who)
      entry.2.1 middle ((processEnvelope suite environment recipient row
        (provenEnvelope suite (who entry.1).account (link entry.1) entry.2.1)).after middle) :=
    processEnvelope_text (strangers.texts _ _ textSent) named
      (shown.unseen (strangers.unseen _ _ textSent) newText) undrawn
  obtain ⟨found, -, isFound, -⟩ := linked.contact
  have whole := moves.trans (moves_of_beside isFound received.beside)
  have other : ∀ {peer}, peer ≠ entry.1 →
      (who peer).id ≠ (who entry.1).id ∧ (link peer).sid ≠ (link entry.1).sid := by
    intro peer different
    rw [linking.sid, linking.sid]
    exact ⟨(strangers.apart _ _ different).id, (strangers.apart _ _ different).sid⟩
  refine ⟨received.beside.prekeys.trans left, ?_, ?_, ?_, ?_, ?_, ?_⟩
  · intro peer member
    by_cases isPeer : peer = entry.1
    · subst isPeer
      exact ⟨numbers, linked.beside (guards _) received.beside, numbered⟩
    · obtain ⟨older, held, olderNumbered⟩ :=
        meeting.linked peer (((met peer).mp member).resolve_right isPeer)
      refine ⟨older, held.moves (other isPeer).1 (guards peer) (other isPeer).2 whole,
        fun number => ?_⟩
      rw [olderNumbered]
      refine exists_congr fun text => ?_
      rw [List.mem_append, List.mem_singleton]
      exact (or_iff_left fun same => isPeer (congrArg Prod.fst same)).symm
  · intro peer absent
    have isPeer : peer ≠ entry.1 := fun same => absent ((met peer).mpr (.inr same))
    exact (meeting.waiting peer fun member => absent ((met peer).mpr (.inl member))).moves
      (guards peer) (other isPeer).2 whole
  · intro id unknown
    rw [whole.others id (unknown _ ((met _).mpr (.inr rfl)))]
    exact meeting.others id fun peer member => unknown peer ((met peer).mpr (.inl member))
  · rw [List.map_append]
    exact shown.receives received
  · intro peer
    rw [met, meeting.met]
    simp [or_and_right, exists_or, eq_comm]
  · intro known member
    rcases List.mem_append.mp member with old | last
    · exact meeting.sent known old
    · rw [List.mem_singleton.mp last]
      exact sent

/-- What one blob leaves: its sender and its text are noted if they are new. -/
theorem Meeting.handles
    (meeting : Meeting suite environment recipient prekeys origin who link contacted heard
      world) (sent : IsSent who entry) {blob : Bytes}
    (copy : Copy suite (who entry.1).account (link entry.1) entry.2.2 entry.2.1 blob)
    (close : entry.2.2 ≤ maxSkip) :
    ∃ contactedLater heardLater,
      Meeting suite environment recipient prekeys origin who link contactedLater heardLater
        ((handleBlob suite environment recipient blob).after world) ∧
      Noted contacted [entry.1] contactedLater ∧ Noted heard [entry] heardLater := by
  obtain ⟨peer, text, number⟩ := entry
  have canonical := (linking.begins peer).canonical
  by_cases known : (peer, text, number) ∈ heard
  · have member : peer ∈ contacted := (meeting.met peer).mpr ⟨_, known, rfl⟩
    obtain ⟨numbers, linked, numbered⟩ := meeting.linked peer member
    refine ⟨contacted, heard, ?_, .same member, .same known⟩
    rw [linked.refuses canonical copy ((numbered number).mpr ⟨text, known⟩)]
    exact meeting.later (Nat.le_succ _)
  have fresh : ∀ otherText, (peer, otherText, number) ∉ heard := by
    intro otherText member
    rw [entry_of_number (meeting.sent _ member) sent rfl rfl] at member
    exact known member
  by_cases member : peer ∈ contacted
  · obtain ⟨numbers, linked, numbered⟩ := meeting.linked peer member
    have new : number ∉ numbers := by
      rw [numbered]
      rintro ⟨otherText, old⟩
      exact fresh otherText old
    obtain ⟨row, middle, named, processed, opened, moves, left, messages, elapsed⟩ :=
      linked.opens canonical copy strangers.sound.correct new close
    refine ⟨contacted, heard ++ [(peer, text, number)], ?_, .same member, .snoc known⟩
    rw [processed]
    refine meeting.hears strangers linking sent known opened ?_ moves ?_
      (left.trans meeting.prekeys) messages elapsed named
    · intro otherNumber
      rw [List.mem_cons, numbered]
      simp [exists_or, or_comm]
    · intro other
      exact (or_iff_left_of_imp (by rintro rfl; exact member)).symm
  · have spends : ∀ opkId ∈ contacted.map fun peer => (who peer).opkId,
        Apart opkId (namedOpk (who peer).bundle) := by
      intro opkId isSpent
      obtain ⟨other, isContacted, rfl⟩ := List.mem_map.mp isSpent
      exact strangers.opkIds other peer fun same => member (same ▸ isContacted)
    have offers := (strangers.offers peer).spentAll spends
    have begins := linking.begins peer
    rw [← spkPrivate_spentAll prekeys (contacted.map fun peer => (who peer).opkId)] at begins
    have unknown : ∀ other ∈ contacted, (who peer).id ≠ (who other).id := fun other isContacted =>
      (strangers.apart peer other fun same => member (same ▸ isContacted)).id
    have dated : ∀ row, world.store.getContact (identityId suite recipient)
        (identityId suite (who peer).account) = some row → Sql.fits row.createdAt = true := by
      intro row found
      exact strangers.dated peer row ((meeting.others _ unknown).symm.trans found)
    have none : ∀ entry ∈ heard, entry.1 ≠ peer := fun entry isHeard same =>
      member ((meeting.met peer).mpr ⟨entry, isHeard, same⟩)
    obtain ⟨row, middle, named, processed, opened, moves, left, messages, elapsed⟩ :=
      copy.accepted strangers.sound (who peer).introduces meeting.prekeys offers
        begins dated (meeting.waiting peer member) close
    refine ⟨contacted ++ [peer], heard ++ [(peer, text, number)], ?_, .snoc member,
      .snoc known⟩
    rw [processed]
    refine meeting.hears strangers linking sent known opened ?_ moves (by simp) ?_ messages
      elapsed named
    · intro otherNumber
      have absent : ∀ otherText, (peer, otherText, otherNumber) ∉ heard :=
        fun otherText isHeard => none _ isHeard rfl
      simp [absent]
    · rw [left, List.map_append, spentAll, spentAll, List.foldl_append]
      rfl

theorem Meeting.run
    (meeting : Meeting suite environment recipient prekeys origin who link contacted heard
      world) {deliveries : List (Peer × Text × Bytes)}
    (delivered : ∀ delivery ∈ deliveries, IsDelivery who delivery) :
    ∃ entries contactedLater heardLater, entries.map textOf = deliveries.map textOf ∧
      Meeting suite environment recipient prekeys origin who link contactedLater heardLater
        (handleAll suite environment recipient world
          (deliveries.map fun delivery => delivery.2.2)) ∧
      Noted contacted (entries.map Prod.fst) contactedLater ∧
      Noted heard entries heardLater := by
  induction deliveries generalizing contacted heard world with
  | nil => exact ⟨[], contacted, heard, rfl, meeting, .nil _, .nil _⟩
  | cons delivery deliveries induction =>
      obtain ⟨number, close, sent, copy⟩ :=
        linking.delivered (delivered delivery List.mem_cons_self)
      obtain ⟨contactedMiddle, heardMiddle, meetingMiddle, contacts, hears⟩ :=
        meeting.handles strangers linking sent copy close
      obtain ⟨entries, contactedLater, heardLater, same, meetingLater, contactsLater,
        hearsLater⟩ := induction meetingMiddle
          fun other member => delivered other (List.mem_cons_of_mem _ member)
      refine ⟨(delivery.1, delivery.2.1, number) :: entries, contactedLater, heardLater, ?_,
        meetingLater, contacts.append contactsLater, hears.append hearsLater⟩
      rw [List.map_cons, List.map_cons, same]
      rfl

end Run

/-- Before the first blob. -/
theorem Strangers.meeting
    (strangers : Strangers suite environment Private recipient prekeys origin who)
    (linking : Linking suite Private prekeys who link) :
    Meeting suite environment recipient prekeys origin who link [] [] origin where
  prekeys := strangers.held
  linked := nofun
  waiting := fun peer _ => by
    rw [linking.sid]
    exact strangers.unheard peer
  others := fun _ _ => rfl
  shown := ⟨[], rfl, .nil, nofun, rfl⟩
  met := by simp
  sent := nofun

/-- What a recipient has of the senders whose texts have arrived. -/
structure Acquainted (suite : Suite) (environment : Environment) (recipient : Account)
    (prekeys : Prekeys) (who : Peer → Correspondent suite) (origin : World)
    (arrived : List (Peer × Text)) (final : World) : Prop where
  filed : ∀ entry ∈ arrived, ∃ row session,
    final.store.getContact (identityId suite recipient) (who entry.1).id = some row ∧
    Filed suite (who entry.1).account row ∧
    (SessionState.load row.session).inbound.get? recipient.deviceId = some session ∧
    session.sid = (who entry.1).session.sid
  others : ∀ id, (∀ entry ∈ arrived, id ≠ (who entry.1).id) →
    final.store.getContact (identityId suite recipient) id =
      origin.store.getContact (identityId suite recipient) id
  prekeys : ∃ contacted : List Peer, FirstArrivals (arrived.map Prod.fst) contacted ∧
    final.store.prekeys =
      some (spentAll prekeys (contacted.map fun peer => (who peer).opkId))
  texts : ∃ (heard : List (Peer × Text)) (ticks : List Nat),
    let rows := rowsOf suite environment recipient ticks
      (heard.map fun entry => ((who entry.1).account, entry.2))
    FirstArrivals arrived heard ∧ ticks.length = heard.length ∧ ticks.Pairwise (· < ·) ∧
    final.store.messages = rows.foldl Store.insertMessage origin.store.messages ∧
    (((origin.store.messages.rows ++ rows).map Message.id).Nodup →
      final.store.messages.rows = origin.store.messages.rows ++ rows)

/-- Strangers start sessions from bundles of the recipient and seal texts on them.  In
whatever order and however often the blobs of all of them arrive, the recipient files
each sender that it hears of and no one else, spends each one-time prekey that they name
and no other, and stores each text that arrives once, in the order of first arrival. -/
theorem first_contacts
    (strangers : Strangers suite environment Private recipient prekeys origin who)
    {deliveries : List (Peer × Text × Bytes)}
    (delivered : ∀ delivery ∈ deliveries, IsDelivery who delivery) :
    Acquainted suite environment recipient prekeys who origin (deliveries.map textOf)
      (handleAll suite environment recipient origin
        (deliveries.map fun delivery => delivery.2.2)) := by
  obtain ⟨link, linking⟩ := strangers.linking
  obtain ⟨entries, contacted, heard, arrived, meeting, contacts, hears⟩ :=
    (strangers.meeting linking).run strangers linking delivered
  have shown : FirstArrivals (deliveries.map textOf) (heard.map textOf) := by
    rw [← arrived]
    refine hears.map fun entry known other otherKnown same => ?_
    have sameText : entry.2.1 = other.2.1 := congrArg Prod.snd same
    exact strangers.entry_of_id (meeting.sent entry known) (meeting.sent other otherKnown)
      (congrArg Text.id sameText)
  have filed : FirstArrivals ((deliveries.map textOf).map Prod.fst) contacted := by
    rw [← arrived, List.map_map]
    exact contacts
  have arrives : ∀ peer, peer ∈ contacted ↔ ∃ entry ∈ deliveries.map textOf, entry.1 = peer := by
    intro peer
    rw [Noted.mem_iff filed, or_iff_right List.not_mem_nil, List.mem_map]
  obtain ⟨ticks, size, increasing, -, stored⟩ := meeting.shown
  have sameRows : heard.map (fun entry => ((who entry.1).account, entry.2.1)) =
      (heard.map textOf).map fun entry => ((who entry.1).account, entry.2) := by
    rw [List.map_map]
    rfl
  rw [sameRows] at size stored
  refine ⟨?_, ?_, ⟨contacted, filed, meeting.prekeys⟩, heard.map textOf, ticks, shown, ?_,
    increasing, stored, fun distinct => ?_⟩
  · intro entry member
    obtain ⟨numbers, linked, -⟩ := meeting.linked entry.1 ((arrives _).mpr ⟨entry, member, rfl⟩)
    obtain ⟨row, session, found, filed, held, same, -⟩ := linked.contact
    exact ⟨row, session, found, filed, held, same.trans (linking.sid entry.1)⟩
  · intro id unknown
    refine meeting.others id fun peer member => ?_
    obtain ⟨entry, isArrived, rfl⟩ := (arrives peer).mp member
    exact unknown entry isArrived
  · rw [size, List.length_map]
  · exact (congrArg Table.rows stored).trans (insertMessages_rows distinct)

end Senders

namespace Correspondence

/-- The last 32 octets of a message, in the place of its digest. -/
def digest (message : Bytes) : Bytes := (message.reverse ++ List.replicate 32 0).take 32

/-- The symbolic suite with digests and signatures of the usual sizes. -/
def brief : Suite :=
  { Symbolic.suite with
    sha256 := digest
    sign := fun private_ message => digest (9 :: private_) ++ digest message
    verify := fun public_ signature message => signature == digest public_ ++ digest message }

theorem length_digest (message : Bytes) : (digest message).length = 32 := by
  simp [digest]

theorem brief_agrees : brief.Agrees fun key => key.length ≤ 32 :=
  fun mine theirs _ _ => Symbolic.suite_agrees mine theirs trivial trivial

theorem brief_verifies : brief.SignaturesVerify :=
  fun private_ message => beq_self_eq_true (digest (9 :: private_) ++ digest message)

theorem brief_total : brief.AeadTotal := fun _ _ _ _ _ => ⟨_, rfl⟩

def bert : Account :=
  { Account.specimen with identity := ⟨[2], List.replicate 31 2⟩, name := "bert" }

/-- Anna and Carl. -/
def writer (isAnna : Bool) : Account :=
  { Account.specimen with
    identity := ⟨[1], List.replicate 31 (if isAnna then 1 else 3)⟩
    inbox := { mailboxId := "inbox", writeToken := b64e (List.replicate 32 7) }
    name := if isAnna then "anna" else "carl" }

def signedPrekey : Bytes := List.replicate 31 4
def oneTimePrekey : Bytes := List.replicate 31 6
def bundleId : Bytes := List.replicate 16 5

def prekeys : Prekeys where
  spkId := 1
  spkPrivate := signedPrekey
  spkPublic := brief.dhPublic signedPrekey
  opks := (Dict.empty.insert "1" (oneTimePrekey, brief.dhPublic oneTimePrekey)).insert "2"
    (oneTimePrekey, brief.dhPublic oneTimePrekey)
  nextOpkId := 3

/-- The bundle of Bert with the one-time prekey of a writer. -/
def bundle (isAnna : Bool) : PrekeyBundle where
  bundleId
  isign := bert.identity.edPublic brief
  idh := bert.identity.xPublic brief
  spkId := 1
  spk := brief.dhPublic signedPrekey
  spkSig := bert.identity.sign brief
    (spkSignInfo ++ bundleId ++ bigEndianOctets 4 1 ++ brief.dhPublic signedPrekey)
  opks := [(if isAnna then 1 else 2, brief.dhPublic oneTimePrekey)]

def bertRow (isAnna : Bool) : ContactRow where
  identityId := identityId brief (writer isAnna)
  id := identityId brief bert
  nickname := none
  isign := bert.identity.edPublic brief
  idh := bert.identity.xPublic brief
  bundleId := none
  inbox := .obj []
  relays := []
  session := none
  verified := false
  createdAt := 1

def phone : DeviceEntry where
  deviceId := "phone"
  inbox := .obj []
  relays := [.str "https://relay"]
  bundleId := b64e bundleId

/-- What a writer draws and fetches. -/
def surroundings (isAnna : Bool) : Environment :=
  { Environment.idle with
    draw := fun tick place => UInt8.ofNat (tick + (if isAnna then 1 else 2) * place)
    fetchBundle := fun _ _ _ => some (bundle isAnna).toPublicDict }

def start : World where
  store := {}

def origin : World where
  store := { prekeys := some prekeys }

def hello : Text := ⟨"a", "hello", 1000⟩
def again : Text := ⟨"b", "again", 2000⟩
def greeting : Text := ⟨"c", "greetings", 1500⟩

def texts (isAnna : Bool) : List Text := if isAnna then [hello, again] else [greeting]

theorem accepted (isAnna : Bool) : AcceptedResponse brief (surroundings isAnna)
    (writer isAnna) (bertRow isAnna) phone start ["https://relay"]
    (bundle isAnna).toPublicDict (bundle isAnna) where
  relays := by
    show _ = Except.ok ["https://relay"]
    cases isAnna <;> decide
  answered := rfl
  parsed := fromPublic_toPublicDict (bundle isAnna)
  verified := by
    have message : PrekeyBundle.spkMessage bundleId 1 (brief.dhPublic signedPrekey) =
        .ok (spkSignInfo ++ bundleId ++ bigEndianOctets 4 1 ++ brief.dhPublic signedPrekey) :=
      rfl
    have signed : brief.verify (bert.identity.edPublic brief) (bundle isAnna).spkSig
        (spkSignInfo ++ bundleId ++ bigEndianOctets 4 1 ++ brief.dhPublic signedPrekey) =
          true := brief_verifies _ _
    have sizes : (bundle isAnna).spk.length = keySize ∧
        (bundle isAnna).idh.length = keySize := by
      cases isAnna <;> decide
    have unrefused : ∀ raised : Raised,
        refuse ((bundle isAnna).isign ≠ (bundle isAnna).isign) raised = .ok () :=
      fun _ => refuse_eq_ok.mpr (by simp)
    show (bundle isAnna).verifyBundle brief (bundle isAnna).isign = .ok ()
    rw [PrekeyBundle.verifyBundle, sizes.1, sizes.2, unrefused]
    show (do
      let message ← PrekeyBundle.spkMessage bundleId 1 (brief.dhPublic signedPrekey)
      refuse (!brief.verify (bert.identity.edPublic brief) (bundle isAnna).spkSig message)
        { class_ := .prekey, text := "signed prekey signature is invalid" }) = _
    rw [message, except_ok_bind, signed]
    rfl
  agreed := by
    intro public_ member
    simp only [agreementKeys, bundle, List.head?_cons, Option.map_some, Option.toList_some,
      List.cons_append, List.nil_append, List.mem_cons, List.not_mem_nil, or_false] at member
    rcases member with rfl | rfl | rfl <;> exact ⟨_, rfl⟩
  ratcheted := ⟨_, rfl⟩

theorem introduces (isAnna : Bool) : Introduces (writer isAnna) where
  relays := by cases isAnna <;> decide
  writable := by
    show MailboxCapability.validateToken "write_token" (b64e (List.replicate 32 7)) = _
    rw [MailboxCapability.validateToken, b64d_b64e]
    rfl

theorem named (isAnna : Bool) :
    namedOpk (bundle isAnna) = .int (if isAnna then 1 else 2) := rfl

theorem offers (isAnna : Bool) :
    Offers brief (fun key => key.length ≤ 32) bert prekeys (bundle isAnna) where
  idh := rfl
  spkId := rfl
  spk := rfl
  opk := by
    rintro opk ⟨⟩
    refine ⟨(oneTimePrekey, brief.dhPublic oneTimePrekey), ?_, rfl, ?_, ?_⟩
    · cases isAnna <;> decide
    · decide
    · decide
  identityDrawn := by decide
  signedDrawn := by decide

theorem compact (isAnna : Bool) : Compact brief (writer isAnna) where
  digest := length_digest
  signature := fun private_ message => by
    show (digest (9 :: private_) ++ digest message).length = 64
    rw [List.length_append, length_digest, length_digest]
  isign := by cases isAnna <;> decide
  idh := by cases isAnna <;> decide
  bundleId := by cases isAnna <;> decide
  mailbox := by cases isAnna <;> decide
  token := by
    show (Json.str (b64e (List.replicate 32 7))).width ≤ 45
    rw [width_b64e, List.length_replicate]
  relays := by
    show (Json.arr [.str "https://relay"]).width ≤ 500
    decide
  named := by cases isAnna <;> decide
  name := by cases isAnna <;> decide

theorem unacquainted (me id : String) : origin.store.getContact me id = none := rfl

/-- Every text can be sealed. -/
theorem roomy {isAnna : Bool} {text : Text} (member : text ∈ texts isAnna) :
    (Json.str text.id).width + (Json.int text.ts).width + text.body.width ≤ 400 := by
  have all : ∀ text ∈ texts isAnna,
      (Json.str text.id).width + (Json.int text.ts).width + text.body.width ≤ 400 := by
    cases isAnna <;> decide
  exact all text member

theorem drawn (isAnna : Bool) (tick : Nat) :
    (drawnAt (surroundings isAnna) 32 tick).length ≤ 32 := by
  simp [drawnAt]

/-- Each writer starts a session and seals its texts on it. -/
theorem writes (isAnna : Bool) : ∃ writing : Correspondent brief,
    writing.account = writer isAnna ∧ writing.environment = surroundings isAnna ∧
      writing.bundle = bundle isAnna ∧ writing.texts = texts isAnna := by
  obtain ⟨session, after, started, -⟩ := (accepted isAnna).starts
  have fetched := run_fetchDeviceBundle (accepted isAnna).relays (accepted isAnna).answered
    (accepted isAnna).parsed
  obtain ⟨link, -, sends, -⟩ := startSession_sends brief_agrees (drawn isAnna)
    (offers isAnna).spk (offers isAnna).signedDrawn fetched started
  obtain ⟨blobs, run⟩ : ∃ blobs, Sealed brief (surroundings isAnna) (writer isAnna) session
      (texts isAnna) blobs :=
    sends.seals_all brief_total (fun text member => (compact isAnna).fits link (roomy member))
      start
  exact ⟨{
    account := writer isAnna, environment := surroundings isAnna, contact := bertRow isAnna
    device := phone, start, middle := _, after, bundle := bundle isAnna, session
    texts := texts isAnna, blobs, fetched, started, run
    few := by cases isAnna <;> decide
    introduces := introduces isAnna }, rfl, rfl, rfl, rfl⟩

/-- The first octets of a wire id tell who has drawn it. -/
def stride (sid : Bytes) : UInt8 := sid.getD 1 0 - sid.getD 0 0

theorem stride_drawnAt (isAnna : Bool) (tick : Nat) :
    stride (drawnAt (surroundings isAnna) 16 tick) = if isAnna then 1 else 2 := by
  have places : stride (drawnAt (surroundings isAnna) 16 tick) =
      UInt8.ofNat (tick + (if isAnna then 1 else 2)) - UInt8.ofNat tick := by
    cases isAnna <;> rfl
  rw [places, UInt8.ofNat_add, UInt8.add_comm, UInt8.add_sub_cancel]
  cases isAnna <;> rfl

theorem stride_idle (tick : Nat) : stride (drawnAt Environment.idle 16 tick) = 0 := by
  have places : stride (drawnAt Environment.idle 16 tick) = UInt8.ofNat tick - UInt8.ofNat tick := rfl
  rw [places]
  simp

/-- Bert knows neither of the writers. -/
theorem strangers {who : Bool → Correspondent brief}
    (written : ∀ isAnna, (who isAnna).account = writer isAnna ∧
      (who isAnna).environment = surroundings isAnna ∧
      (who isAnna).bundle = bundle isAnna ∧ (who isAnna).texts = texts isAnna) :
    Strangers brief Environment.idle (fun key => key.length ≤ 32) bert prekeys origin who := by
  have wireId : ∀ isAnna, stride (who isAnna).session.sid = if isAnna then 1 else 2 := by
    intro isAnna
    obtain ⟨-, environment, -⟩ := written isAnna
    obtain ⟨tick, same⟩ := startSession_sid (who isAnna).started
    rw [same, environment, stride_drawnAt]
  have sound : ∀ isAnna, ∀ text ∈ texts isAnna, text.Sound := by
    intro isAnna text member
    have all : ∀ text ∈ texts isAnna, text.id ≠ "" ∧ text.ts ≠ 0 ∧ Sql.fits text.ts = true := by
      cases isAnna <;> decide
    obtain ⟨named, dated, fits⟩ := all text member
    exact ⟨named, dated, fits⟩
  refine ⟨⟨?_, ?_, ?_, ?_, ?_, ?_, ?_, ?_, ?_⟩, rfl, ?_, ?_⟩
  · exact ⟨brief_agrees, Symbolic.suite_aeadCorrect, brief_verifies,
      fun tick => by simp [drawnAt], fun tick => by
        show Sql.fits (1000000000 / 1000000) = true
        decide⟩
  · intro isAnna tick
    rw [(written isAnna).2.1]
    exact drawn isAnna tick
  · intro isAnna row found
    rw [unacquainted] at found
    cases found
  · intro isAnna id row found
    rw [unacquainted] at found
    cases found
  · intro isAnna tick same
    have strides := congrArg stride same
    rw [stride_idle, wireId] at strides
    cases isAnna <;> cases strides
  · intro isAnna
    rw [(written isAnna).2.2.2]
    exact sound isAnna
  · intro isAnna text member row old
    cases old
  · intro isAnna
    rw [(written isAnna).2.2.2]
    cases isAnna <;> decide
  · intro isAnna other different
    constructor
    · rw [Correspondent.id, Correspondent.id, (written isAnna).1, (written other).1]
      revert different
      cases isAnna <;> cases other <;> decide +kernel
    · intro same
      have strides := congrArg stride same
      rw [wireId, wireId] at strides
      revert different strides
      cases isAnna <;> cases other <;> decide
    · rw [(written isAnna).2.2.2, (written other).2.2.2]
      revert different
      cases isAnna <;> cases other <;> decide
  · intro isAnna
    rw [(written isAnna).2.2.1]
    exact offers isAnna
  · intro isAnna other different
    rw [Correspondent.opkId, Correspondent.opkId, (written isAnna).2.2.1,
      (written other).2.2.1, named, named]
    rintro - -
    revert different
    cases isAnna <;> cases other <;> decide

end Correspondence

open Correspondence in
/-- The second text of Anna arrives first, then the one of Carl, then the first of Anna, and
the second once more. -/
theorem first_contacts_of_two : ∃ who : Bool → Correspondent brief,
    (∀ isAnna, (who isAnna).account = writer isAnna ∧ (who isAnna).texts = texts isAnna) ∧
    ∃ first second third,
      (who true).blobs = [first, second] ∧ (who false).blobs = [third] ∧
      Acquainted brief Environment.idle bert prekeys who origin
        [(true, again), (false, greeting), (true, hello), (true, again)]
        (handleAll brief Environment.idle bert origin [second, third, first, second]) := by
  choose who account environment offered sent using writes
  have few : ∀ isAnna, (who isAnna).blobs.length = (texts isAnna).length := by
    intro isAnna
    rw [(who isAnna).run.length_eq, sent]
  obtain ⟨first, second, ofAnna⟩ := List.length_eq_two.mp (few true)
  obtain ⟨third, ofCarl⟩ := List.length_eq_one_iff.mp (few false)
  refine ⟨who, fun isAnna => ⟨account isAnna, sent isAnna⟩, first, second, third, ofAnna, ofCarl,
    ?_⟩
  have written : ∀ isAnna, (who isAnna).account = writer isAnna ∧
      (who isAnna).environment = surroundings isAnna ∧
      (who isAnna).bundle = bundle isAnna ∧ (who isAnna).texts = texts isAnna :=
    fun isAnna => ⟨account isAnna, environment isAnna, offered isAnna, sent isAnna⟩
  let deliveries := [(true, again, second), (false, greeting, third), (true, hello, first),
    (true, again, second)]
  have delivered : ∀ delivery ∈ deliveries, IsDelivery who delivery := by
    intro delivery member
    simp only [deliveries, List.mem_cons, List.not_mem_nil, or_false] at member
    rcases member with rfl | rfl | rfl | rfl <;>
      simp [IsDelivery, sent, ofAnna, ofCarl, texts]
  exact first_contacts (strangers written) delivered

end NoKnowledge.Core.FirstContact

import NoKnowledge.Crypto.RatchetLadder
import NoKnowledge.Crypto.RatchetSingleUse

/-!
# Agreement of the two ratchets

A run interleaves encryptions of both parties with deliveries.  A delivery
takes a message of the peer by its place in the peer's list of sent messages.
Messages that are never delivered are lost.  `MayDeliver` is the discipline of
the channel: no message twice, no message of an earlier sending chain after one
of a later chain, and no delivery that skips more than `maxSkip` keys.
-/

namespace NoKnowledge

namespace Agreement

structure Sent where
  header : Json
  nonce : Bytes
  ciphertext : Bytes
  plaintext : Bytes
  adContext : Option Json
  /-- How many DH steps the sender had made: the index of the sending chain. -/
  chain : Nat
  number : Nat

structure End where
  state : RatchetState
  chain : Nat := 0
  sent : List Sent := []
  /-- Places of the peer's messages that were delivered here. -/
  delivered : List Nat := []

structure Session where
  ends : Party → End
  /-- The ratchet public keys of the session so far. -/
  publics : List Bytes
  outcomes : List (Sent × Except RatchetError Bytes) := []

inductive Action where
  | encrypt (party : Party) (nonce plaintext : Bytes) (adContext : Option Json)
  | deliver (party : Party) (place : Nat) (newPrivate : Bytes)

def Session.update (session : Session) (party : Party) (new : End) : Session :=
  { session with
    ends := fun other => if other = party then new else session.ends other }

def encryptStep (suite : Suite) (nonce plaintext : Bytes)
    (adContext : Option Json) (sender : End) : End :=
  match (Ratchet.encrypt suite nonce plaintext adContext).run sender.state with
  | (.error _, state) => { sender with state }
  | (.ok (header, nonce, ciphertext), state) =>
      let message : Sent := {
        header, nonce, ciphertext, plaintext, adContext
        chain := sender.chain
        number := sender.state.sendCount }
      { sender with state, sent := sender.sent ++ [message] }

/-- The receiver after a delivery.  Its chain index counts its key pairs. -/
def receive (receiver : End) (place : Nat) (state : RatchetState) : End :=
  { receiver with
    state
    chain := if state.dhSelfPublic = receiver.state.dhSelfPublic
      then receiver.chain else receiver.chain + 1
    delivered := place :: receiver.delivered }

def other : Party → Party
  | .initiator => .responder
  | .responder => .initiator

def step (suite : Suite) (session : Session) : Action → Session
  | .encrypt party nonce plaintext adContext =>
      session.update party
        (encryptStep suite nonce plaintext adContext (session.ends party))
  | .deliver party place newPrivate =>
      match (session.ends (other party)).sent[place]? with
      | none => session
      | some message =>
          let receiver := session.ends party
          let result := (Ratchet.decrypt suite newPrivate message.header
            message.nonce message.ciphertext message.adContext).run receiver.state
          { session.update party (receive receiver place result.2) with
            publics := suite.dhPublic newPrivate :: session.publics
            outcomes := (message, result.1) :: session.outcomes }

/-- The next delivery respects the channel, and the key pair it may draw is
new. -/
def MayDeliver (suite : Suite) (Private : Bytes → Prop) (session : Session)
    (party : Party) (place : Nat) (newPrivate : Bytes) : Prop :=
  ∃ message ∈ (session.ends (other party)).sent[place]?,
    place ∉ (session.ends party).delivered ∧
    (∀ earlier ∈ (session.ends party).delivered,
      ∀ message' ∈ (session.ends (other party)).sent[earlier]?,
        message'.chain ≤ message.chain) ∧
    Ladder.WithinSkip (session.ends party).state message.header ∧
    Private newPrivate ∧ suite.dhPublic newPrivate ∉ session.publics

instance (suite : Suite) (Private : Bytes → Prop) [DecidablePred Private]
    (session : Session) (party : Party) (place : Nat) (newPrivate : Bytes) :
    Decidable (MayDeliver suite Private session party place newPrivate) :=
  inferInstanceAs (Decidable
    (∃ message ∈ (session.ends (other party)).sent[place]?, _))

def Allowed (suite : Suite) (Private : Bytes → Prop) (session : Session) :
    Action → Prop
  | .encrypt _ nonce _ _ => nonce.length = nonceSize
  | .deliver party place newPrivate =>
      MayDeliver suite Private session party place newPrivate

instance (suite : Suite) (Private : Bytes → Prop) [DecidablePred Private]
    (session : Session) : (action : Action) →
      Decidable (Allowed suite Private session action)
  | .encrypt _ nonce _ _ => inferInstanceAs (Decidable (nonce.length = nonceSize))
  | .deliver party place newPrivate =>
      inferInstanceAs (Decidable
        (MayDeliver suite Private session party place newPrivate))

def Admissible (suite : Suite) (Private : Bytes → Prop) :
    Session → List Action → Prop
  | _, [] => True
  | session, action :: actions =>
      Allowed suite Private session action ∧
        Admissible suite Private (step suite session action) actions

instance admissibleDecidable (suite : Suite) (Private : Bytes → Prop)
    [DecidablePred Private] : (session : Session) → (actions : List Action) →
      Decidable (Admissible suite Private session actions)
  | _, [] => inferInstanceAs (Decidable True)
  | session, action :: actions =>
      have := admissibleDecidable suite Private (step suite session action) actions
      inferInstanceAs (Decidable (_ ∧ _))

def run (suite : Suite) (session : Session) (actions : List Action) : Session :=
  actions.foldl (step suite) session

def start (initiator responder : RatchetState) : Session where
  ends
    | .initiator => { state := initiator }
    | .responder => { state := responder }
  publics := responder.dhSelfPublic.toList ++ initiator.dhSelfPublic.toList

/-- The rung of a party after a number of DH steps. -/
def position (party : Party) (chain : Nat) : Nat :=
  SingleUse.parity party + 2 * chain

theorem position_other (party : Party) (chain chain' : Nat) :
    position party chain ≠ position (other party) chain' := by
  cases party <;> simp only [position, other, SingleUse.parity] <;> omega

theorem position_le {party : Party} {chain chain' : Nat} :
    position party chain ≤ position party chain' ↔ chain ≤ chain' := by
  unfold position
  omega

theorem position_succ (party : Party) (chain : Nat) :
    position party (chain + 1) = position party chain + 2 := by
  unfold position
  omega

@[simp] theorem other_other (party : Party) : other (other party) = party := by
  cases party <;> rfl

/-- What holds of the messages one party has sent. -/
structure SentSound (suite : Suite) (rungs : List Ladder.Rung) (party : Party)
    (sender : End) : Prop where
  onLadder : ∀ message ∈ sender.sent,
    1 ≤ position party message.chain ∧
    Ladder.MessageAt suite rungs (position party message.chain) message.number
      message.header message.nonce message.ciphertext message.plaintext
      message.adContext
  behind : ∀ message ∈ sender.sent, message.chain < sender.chain ∨
    message.chain = sender.chain ∧ message.number < sender.state.sendCount
  once : ∀ {place place' : Nat} {message message' : Sent},
    sender.sent[place]? = some message → sender.sent[place']? = some message' →
    message.chain = message'.chain → message.number = message'.number →
    place = place'

/-- A message of the chain of a rung was delivered. -/
def Delivered (party : Party) (receiver sender : End) (rung : Nat)
    (message : Sent) : Prop :=
  ∃ place ∈ receiver.delivered, sender.sent[place]? = some message ∧
    position (other party) message.chain = rung

/-- What holds of the deliveries to one party: it stands right above the last
chain it received from, and every key it consumed there was delivered. -/
structure ReceivedSound (suite : Suite) (rungs : List Ladder.Rung)
    (party : Party) (receiver sender : End) : Prop where
  latest : ∀ below, position party receiver.chain = below + 2 →
    ∃ message, Delivered party receiver sender (below + 1) message
  consumed : ∀ below, position party receiver.chain = below + 2 →
    ∀ rung, rungs[below + 1]? = some rung → ∀ number,
      Ladder.Consumed receiver.state (rung.public_ suite) number →
        ∃ message, Delivered party receiver sender (below + 1) message ∧
          message.number = number

/-- One party's side of the invariant. -/
structure Side (suite : Suite) (rungs : List Ladder.Rung) (party : Party)
    (mine theirs : End) : Prop where
  standing : Ladder.EndAt suite rungs (position party mine.chain) mine.state
  cached : Ladder.CacheSound suite rungs mine.state
  adjacent : position party mine.chain ≤ position (other party) theirs.chain + 1
  sent : SentSound suite rungs party mine
  received : ReceivedSound suite rungs party mine theirs

structure Agree (suite : Suite) (Private : Bytes → Prop) (publics : List Bytes)
    (rungs : List Ladder.Rung) (party : Party) (mine theirs : End) : Prop where
  linked : Ladder.Linked suite Private rungs
  published : ∀ rung ∈ rungs, rung.public_ suite ∈ publics
  top : rungs.length =
    max (position party mine.chain) (position (other party) theirs.chain) + 1
  near : Side suite rungs party mine theirs
  far : Side suite rungs (other party) theirs mine

section Steps

variable {suite : Suite} {Private : Bytes → Prop} {publics : List Bytes}
  {rungs : List Ladder.Rung} {party : Party} {mine theirs : End}

theorem Agree.symm (agree : Agree suite Private publics rungs party mine theirs) :
    Agree suite Private publics rungs (other party) theirs mine where
  linked := agree.linked
  published := agree.published
  top := by
    rw [other_other, Nat.max_comm]
    exact agree.top
  near := agree.far
  far := by
    rw [other_other]
    exact agree.near

theorem getElem?_append_of_some {α : Type} {items added : List α} {place : Nat}
    {item : α} (found : items[place]? = some item) :
    (items ++ added)[place]? = some item :=
  (List.getElem?_append_left (List.getElem?_eq_some_iff.mp found).1).trans found

/-- A later message of the sender leaves what was delivered delivered. -/
theorem ReceivedSound.sender_sends
    (received : ReceivedSound suite rungs party mine theirs) {theirs' : End}
    {added : List Sent} (sends : theirs'.sent = theirs.sent ++ added) :
    ReceivedSound suite rungs party mine theirs' := by
  have carry : ∀ {rung message}, Delivered party mine theirs rung message →
      Delivered party mine theirs' rung message := by
    rintro rung message ⟨place, member, found, reached⟩
    rw [Delivered, sends]
    exact ⟨place, member, getElem?_append_of_some found, reached⟩
  constructor
  · intro below shape
    obtain ⟨message, delivered⟩ := received.latest below shape
    exact ⟨message, carry delivered⟩
  · intro below shape rung found number behind
    obtain ⟨message, delivered, same⟩ :=
      received.consumed below shape rung found number behind
    exact ⟨message, carry delivered, same⟩

theorem SentSound.send (sound : SentSound suite rungs party mine)
    {state : RatchetState} (counts : state.sendCount = mine.state.sendCount + 1)
    {message : Sent} (chain : message.chain = mine.chain)
    (number : message.number = mine.state.sendCount)
    (positive : 1 ≤ position party mine.chain)
    (messageAt : Ladder.MessageAt suite rungs (position party mine.chain)
      message.number message.header message.nonce message.ciphertext
      message.plaintext message.adContext) :
    SentSound suite rungs party
      { mine with state, sent := mine.sent ++ [message] } := by
  have later : ∀ {place : Nat} {earlier : Sent}, mine.sent[place]? = some earlier →
      earlier.chain = message.chain → earlier.number ≠ message.number := by
    intro place earlier found sameChain
    rcases sound.behind earlier (List.mem_of_getElem? found) with lower | ⟨_, less⟩ <;>
      omega
  constructor
  · intro entry member
    rcases List.mem_append.mp member with old | new
    · exact sound.onLadder entry old
    · rw [List.mem_singleton.mp new, chain]
      exact ⟨positive, messageAt⟩
  · intro entry member
    rcases List.mem_append.mp member with old | new
    · rcases sound.behind entry old with lower | ⟨same, less⟩
      · exact .inl lower
      · exact .inr ⟨same, by simp only [counts]; omega⟩
    · rw [List.mem_singleton.mp new]
      exact .inr ⟨chain, by simp only [counts, number]; omega⟩
  · intro place place' entry entry' found found' sameChain sameNumber
    rw [List.getElem?_append] at found found'
    split at found <;> split at found'
    · exact sound.once found found' sameChain sameNumber
    · obtain rfl := List.mem_singleton.mp (List.mem_of_getElem? found')
      exact (later found sameChain sameNumber).elim
    · obtain rfl := List.mem_singleton.mp (List.mem_of_getElem? found)
      exact (later found' sameChain.symm sameNumber.symm).elim
    · have here := (List.getElem?_eq_some_iff.mp found).1
      have there := (List.getElem?_eq_some_iff.mp found').1
      simp only [List.length_singleton] at here there
      omega

/-- An encryption changes nothing, or appends one message. -/
theorem Agree.encrypt (total : suite.AeadTotal)
    (agree : Agree suite Private publics rungs party mine theirs)
    {nonce : Bytes} (fits : nonce.length = nonceSize) (plaintext : Bytes)
    (adContext : Option Json) :
    Agree suite Private publics rungs party
      (encryptStep suite nonce plaintext adContext mine) theirs := by
  obtain ⟨own, here, -, -, selfPublic⟩ := agree.near.standing.own
  rcases Nat.eq_zero_or_pos (position party mine.chain) with zero | positive
  · have unchanged : encryptStep suite nonce plaintext adContext mine = mine := by
      simp [encryptStep,
        Ratchet.encrypt_run_none (agree.near.standing.silent zero)]
    rw [unchanged]
    exact agree
  · have sending := agree.near.standing.sending own positive here
    obtain ⟨ciphertext, encrypted⟩ := total
      (suite.chainKeyAt own.chain mine.state.sendCount) nonce plaintext
      (Ratchet.associatedData (Ratchet.makeHeader mine.state) adContext) fits
    have ran := Ratchet.encrypt_run sending encrypted
    have stepped : encryptStep suite nonce plaintext adContext mine = { mine with
        state := { mine.state with
          sendingChain := some (suite.kdfCk
            (suite.chainKeyAt own.chain mine.state.sendCount)).2
          sendCount := mine.state.sendCount + 1 }
        sent := mine.sent ++ [{
          header := Ratchet.makeHeader mine.state
          nonce, ciphertext, plaintext, adContext
          chain := mine.chain
          number := mine.state.sendCount }] } := by
      simp [encryptStep, ran]
    have parsed := Ratchet.parseHeader_makeHeader mine.state
    rw [selfPublic, Option.getD_some] at parsed
    rw [stepped]
    constructor
    · exact agree.linked
    · exact agree.published
    · exact agree.top
    · constructor
      · constructor
        · exact agree.near.standing.own
        · intro zero
          exact absurd zero (Nat.ne_of_gt positive)
        · intro rung _ found
          rw [here] at found
          cases found
          simp [Suite.chainKeyAt_succ]
        · exact agree.near.standing.waiting
        · exact agree.near.standing.remote
        · exact agree.near.standing.receiving
      · exact agree.near.cached
      · exact agree.near.adjacent
      · refine agree.near.sent.send rfl rfl rfl positive ?_
        exact ⟨fits, own, here, ⟨_, parsed⟩, encrypted⟩
      · exact ⟨agree.near.received.latest, agree.near.received.consumed⟩
    · constructor
      · exact agree.far.standing
      · exact agree.far.cached
      · exact agree.far.adjacent
      · exact agree.far.sent
      · exact agree.far.received.sender_sends rfl

/-- The messages that may be delivered are of the chain the receiver is on, or
of the chain after it. -/
theorem Agree.chain_near
    (agree : Agree suite Private publics rungs party mine theirs)
    {place : Nat} {message : Sent} (found : theirs.sent[place]? = some message)
    (ordered : ∀ earlier ∈ mine.delivered, ∀ message',
      theirs.sent[earlier]? = some message' → message'.chain ≤ message.chain) :
    (∃ below, position party mine.chain = below + 2 ∧
        position (other party) message.chain = below + 1) ∨
      position (other party) message.chain = position party mine.chain + 1 := by
  have member := List.mem_of_getElem? found
  have positive := (agree.far.sent.onLadder message member).1
  have sender : message.chain ≤ theirs.chain := by
    rcases agree.far.sent.behind message member with lower | ⟨same, -⟩ <;> omega
  have upper : position (other party) message.chain ≤
      position (other party) theirs.chain := position_le.mpr sender
  have adjacent := agree.far.adjacent
  rw [other_other] at adjacent
  have different := position_other party mine.chain message.chain
  rcases Nat.lt_or_ge (position party mine.chain) 2 with low | high
  · right
    omega
  · obtain ⟨below, shape⟩ : ∃ below, position party mine.chain = below + 2 :=
      ⟨position party mine.chain - 2, by omega⟩
    obtain ⟨last, earlier, delivered, lastFound, lastAt⟩ :=
      agree.near.received.latest below shape
    have lower : position (other party) last.chain ≤
        position (other party) message.chain :=
      position_le.mpr (ordered earlier delivered last lastFound)
    by_cases same : position (other party) message.chain = below + 1
    · exact .inl ⟨below, shape, same⟩
    · right
      omega

theorem Delivered.cons {rung place : Nat} {message : Sent} {state : RatchetState}
    (delivered : Delivered party mine theirs rung message) :
    Delivered party (receive mine place state) theirs rung message := by
  obtain ⟨earlier, member, found, reached⟩ := delivered
  exact ⟨earlier, List.mem_cons_of_mem _ member, found, reached⟩

/-- A message that was not delivered has an unconsumed key. -/
theorem Agree.unconsumed
    (agree : Agree suite Private publics rungs party mine theirs)
    {place : Nat} {message : Sent} (found : theirs.sent[place]? = some message)
    (undelivered : place ∉ mine.delivered) {below : Nat}
    (shape : position party mine.chain = below + 2)
    (current : position (other party) message.chain = below + 1)
    {rung : Ladder.Rung} (here : rungs[below + 1]? = some rung) :
    ¬ Ladder.Consumed mine.state (rung.public_ suite) message.number := by
  intro consumed
  obtain ⟨earlier, ⟨place', member, found', reached⟩, sameNumber⟩ :=
    agree.near.received.consumed below shape rung here _ consumed
  have sameChain : earlier.chain = message.chain := by
    have := reached.trans current.symm
    unfold position at this
    omega
  have samePlace := agree.far.sent.once found' found sameChain sameNumber
  exact undelivered (samePlace ▸ member)

/-- A delivery on the current chain. -/
theorem Agree.deliver_same (correct : suite.AeadCorrect)
    (agree : Agree suite Private publics rungs party mine theirs)
    {place : Nat} {message : Sent} (found : theirs.sent[place]? = some message)
    (undelivered : place ∉ mine.delivered) {below : Nat}
    (shape : position party mine.chain = below + 2)
    (current : position (other party) message.chain = below + 1)
    (within : Ladder.WithinSkip mine.state message.header)
    (newPrivate : Bytes) :
    ∃ final,
      (Ratchet.decrypt suite newPrivate message.header message.nonce
        message.ciphertext message.adContext).run mine.state =
          (.ok message.plaintext, final) ∧
      Agree suite Private publics rungs party (receive mine place final)
        theirs := by
  have messageAt :=
    (agree.far.sent.onLadder message (List.mem_of_getElem? found)).2
  rw [current] at messageAt
  have standing := agree.near.standing
  rw [shape] at standing
  obtain ⟨final, decrypted, endAt, sound, same, consumed⟩ :=
    Ladder.decrypt_same correct agree.linked standing agree.near.cached messageAt
      (fun rung here => agree.unconsumed found undelivered shape current here)
      within newPrivate
  have chainStays : (receive mine place final).chain = mine.chain := by
    simp [receive, same.dhSelfPublic]
  refine ⟨final, decrypted, agree.linked, agree.published, ?_, ?_, ?_⟩
  · rw [chainStays]
    exact agree.top
  · constructor
    · rw [chainStays, shape]
      exact endAt
    · exact sound
    · rw [chainStays]
      exact agree.near.adjacent
    · refine ⟨agree.near.sent.onLadder, ?_, agree.near.sent.once⟩
      rw [chainStays]
      intro entry member
      rw [show (receive mine place final).state.sendCount =
        mine.state.sendCount from same.sendCount]
      exact agree.near.sent.behind entry member
    · constructor
      · intro below' shape'
        rw [chainStays] at shape'
        obtain ⟨last, delivered⟩ := agree.near.received.latest below' shape'
        exact ⟨last, delivered.cons⟩
      · intro below' shape' rung here number behind
        rw [chainStays] at shape'
        obtain rfl : below' = below := by omega
        rcases consumed rung here number behind with rfl | before
        · exact ⟨message, ⟨place, List.mem_cons_self, found, current⟩, rfl⟩
        · obtain ⟨earlier, delivered, sameNumber⟩ :=
            agree.near.received.consumed below' shape rung here number before
          exact ⟨earlier, delivered.cons, sameNumber⟩
  · constructor
    · exact agree.far.standing
    · exact agree.far.cached
    · rw [chainStays]
      exact agree.far.adjacent
    · exact agree.far.sent
    · exact ⟨agree.far.received.latest, agree.far.received.consumed⟩

/-- A delivery on the next chain: the receiver draws the next rung. -/
theorem Agree.deliver_next (correct : suite.AeadCorrect)
    (agrees : suite.Agrees Private)
    (agree : Agree suite Private publics rungs party mine theirs)
    {place : Nat} {message : Sent} (found : theirs.sent[place]? = some message)
    (next : position (other party) message.chain =
      position party mine.chain + 1)
    (within : Ladder.WithinSkip mine.state message.header) {newPrivate : Bytes}
    (drawn : Private newPrivate) (fresh : suite.dhPublic newPrivate ∉ publics) :
    ∃ final new,
      (Ratchet.decrypt suite newPrivate message.header message.nonce
        message.ciphertext message.adContext).run mine.state =
          (.ok message.plaintext, final) ∧
      Agree suite Private (suite.dhPublic newPrivate :: publics)
        (rungs ++ [new]) party (receive mine place final) theirs := by
  have member := List.mem_of_getElem? found
  have messageAt := (agree.far.sent.onLadder message member).2
  rw [next] at messageAt
  have sender : position (other party) message.chain ≤
      position (other party) theirs.chain := by
    rw [position_le]
    rcases agree.far.sent.behind message member with lower | ⟨same, -⟩ <;> omega
  have adjacent := agree.far.adjacent
  rw [other_other] at adjacent
  have theirPosition : position (other party) theirs.chain =
      position party mine.chain + 1 := by omega
  have size : rungs.length = position party mine.chain + 2 := by
    rw [agree.top, theirPosition]
    omega
  have unseen : ∀ rung ∈ rungs, rung.public_ suite ≠ suite.dhPublic newPrivate := by
    intro rung inside same
    exact fresh (same ▸ agree.published rung inside)
  obtain ⟨new, final, decrypted, sameKey, linked, endAt, sound, restarted,
      newPublic, consumed⟩ :=
    Ladder.decrypt_next correct agrees agree.linked size agree.near.standing
      agree.near.cached messageAt within drawn unseen
  obtain ⟨own, here, -, -, selfPublic⟩ := agree.near.standing.own
  have moves : final.dhSelfPublic ≠ mine.state.dhSelfPublic := by
    rw [newPublic, selfPublic]
    intro same
    exact unseen own (List.mem_of_getElem? here) (Option.some.inj same).symm
  have chainMoves : (receive mine place final).chain = mine.chain + 1 := by
    simp [receive, moves]
  have positionMoves : position party (receive mine place final).chain =
      position party mine.chain + 2 := by
    rw [chainMoves, position_succ]
  refine ⟨final, new, decrypted, linked, ?_, ?_, ?_, ?_⟩
  · intro rung inside
    rcases List.mem_append.mp inside with old | added
    · exact List.mem_cons_of_mem _ (agree.published rung old)
    · rw [List.mem_singleton.mp added, Ladder.Rung.public_, sameKey]
      exact List.mem_cons_self
  · rw [positionMoves, theirPosition, List.length_append, size]
    simp only [List.length_singleton]
    omega
  · constructor
    · rw [positionMoves]
      exact endAt
    · exact sound
    · rw [positionMoves, theirPosition]
    · refine ⟨?_, ?_, agree.near.sent.once⟩
      · intro entry inside
        obtain ⟨positive, entryAt⟩ := agree.near.sent.onLadder entry inside
        exact ⟨positive, entryAt.append [new]⟩
      · rw [chainMoves]
        intro entry inside
        left
        rcases agree.near.sent.behind entry inside with lower | ⟨same, -⟩ <;> omega
    · constructor
      · intro below shape
        rw [positionMoves] at shape
        exact ⟨message, place, List.mem_cons_self, found, by omega⟩
      · intro below shape rung there number behind
        rw [positionMoves] at shape
        obtain rfl : below = position party mine.chain := by omega
        rw [List.getElem?_append_left (by omega)] at there
        have sameNumber := consumed rung there number behind
        exact ⟨message, ⟨place, List.mem_cons_self, found, next⟩,
          sameNumber.symm⟩
  · constructor
    · exact agree.far.standing.append [new]
    · exact agree.far.cached.append [new]
    · rw [other_other, positionMoves]
      omega
    · refine ⟨?_, agree.far.sent.behind, agree.far.sent.once⟩
      intro entry inside
      obtain ⟨positive, entryAt⟩ := agree.far.sent.onLadder entry inside
      exact ⟨positive, entryAt.append [new]⟩
    · refine ⟨agree.far.received.latest, ?_⟩
      intro below shape rung there number behind
      rw [List.getElem?_append_left (by omega)] at there
      exact agree.far.received.consumed below shape rung there number behind

end Steps

structure Invariant (suite : Suite) (Private : Bytes → Prop)
    (session : Session) : Prop where
  agree : ∀ party, ∃ rungs, Agree suite Private session.publics rungs party
    (session.ends party) (session.ends (other party))
  outcomes : ∀ entry ∈ session.outcomes, entry.2 = .ok entry.1.plaintext

section Runs

variable {suite : Suite} {Private : Bytes → Prop} {session : Session}

/-- It is enough to look at the session from one side. -/
theorem agree_both (party : Party) (rungs : List Ladder.Rung)
    (agree : Agree suite Private session.publics rungs party
      (session.ends party) (session.ends (other party))) :
    ∀ party, ∃ rungs, Agree suite Private session.publics rungs party
      (session.ends party) (session.ends (other party)) := by
  intro party'
  by_cases same : party' = party
  · subst same
    exact ⟨rungs, agree⟩
  · obtain rfl : party' = other party := by
      revert same
      cases party <;> cases party' <;> simp [other]
    refine ⟨rungs, ?_⟩
    rw [other_other]
    exact agree.symm

@[simp] theorem update_ends_self (party : Party) (new : End) :
    (session.update party new).ends party = new := by
  simp [Session.update]

@[simp] theorem update_ends_other (party : Party) (new : End) :
    (session.update party new).ends (other party) =
      session.ends (other party) := by
  cases party <;> simp [Session.update, other]

theorem invariant_start {sessionKey prekey first : Bytes}
    (prekeyDrawn : Private prekey) (firstDrawn : Private first)
    (fresh : suite.dhPublic first ≠ suite.dhPublic prekey)
    {initiator : RatchetState}
    (started : Ratchet.initiator suite sessionKey (suite.dhPublic prekey) first =
      .ok initiator) :
    Invariant suite Private
      (start initiator
        (Ratchet.responder sessionKey prekey (suite.dhPublic prekey))) := by
  unfold Ratchet.initiator at started
  split at started
  · cases started
  · rename_i shared exchanged
    cases started
    let lower : Ladder.Rung := ⟨prekey, sessionKey, []⟩
    let upper : Ladder.Rung := {
      private_ := first
      root := (suite.kdfRk sessionKey shared).1
      chain := (suite.kdfRk sessionKey shared).2 }
    have single : Ladder.Linked suite Private [lower] := by
      constructor <;> simp [lower, prekeyDrawn]
    have apart : ∀ rung ∈ [lower], rung.public_ suite ≠ upper.public_ suite := by
      intro rung member
      rw [List.mem_singleton.mp member]
      exact fun same => fresh same.symm
    have linked : Ladder.Linked suite Private ([lower] ++ [upper]) :=
      single.extend rfl firstDrawn exchanged rfl apart
    refine ⟨agree_both .responder [lower, upper] ?_, ?_⟩
    · refine ⟨linked, ?_, rfl, ?_, ?_⟩
      · simp [start, Ratchet.responder, lower, upper, Ladder.Rung.public_]
      · constructor
        · constructor <;>
            simp [start, position, SingleUse.parity, Ratchet.responder, lower,
              Ladder.Rung.public_]
        · intro label key cached
          simp [start, Ratchet.responder] at cached
        · simp [start, position, SingleUse.parity, other]
        · constructor <;> simp [start]
        · constructor <;> simp [start, position, SingleUse.parity]
      · constructor
        · constructor <;>
            simp [start, position, SingleUse.parity, other, upper,
              Ladder.Rung.public_]
        · intro label key cached
          simp [start, other] at cached
        · simp [start, position, SingleUse.parity, other]
        · constructor <;> simp [start, other]
        · constructor <;> simp [start, position, SingleUse.parity, other]
    · simp [start]

theorem invariant_encrypt (total : suite.AeadTotal)
    (invariant : Invariant suite Private session)
    (party : Party) {nonce : Bytes} (fits : nonce.length = nonceSize) (plaintext : Bytes)
    (adContext : Option Json) :
    Invariant suite Private
      (step suite session (.encrypt party nonce plaintext adContext)) := by
  obtain ⟨rungs, agree⟩ := invariant.agree party
  refine ⟨agree_both party rungs ?_, invariant.outcomes⟩
  simp only [step, update_ends_self, update_ends_other]
  exact agree.encrypt total fits plaintext adContext

/-- A delivery the channel allows decrypts, and keeps the invariant. -/
theorem invariant_deliver (correct : suite.AeadCorrect)
    (agrees : suite.Agrees Private)
    (invariant : Invariant suite Private session) {party : Party} {place : Nat}
    {newPrivate : Bytes}
    (allowed : MayDeliver suite Private session party place newPrivate) :
    Invariant suite Private
        (step suite session (.deliver party place newPrivate)) ∧
      (step suite session (.deliver party place newPrivate)).outcomes.length =
        session.outcomes.length + 1 := by
  obtain ⟨message, found, undelivered, ordered, within, drawn, fresh⟩ := allowed
  rw [Option.mem_def] at found
  obtain ⟨rungs, agree⟩ := invariant.agree party
  have outcome : ∃ final rungs',
      (Ratchet.decrypt suite newPrivate message.header message.nonce
        message.ciphertext message.adContext).run (session.ends party).state =
          (.ok message.plaintext, final) ∧
      Agree suite Private (suite.dhPublic newPrivate :: session.publics) rungs'
        party (receive (session.ends party) place final)
        (session.ends (other party)) := by
    rcases agree.chain_near found ordered with ⟨below, shape, current⟩ | next
    · obtain ⟨final, decrypted, agree'⟩ := agree.deliver_same correct found
        undelivered shape current within newPrivate
      refine ⟨final, rungs, decrypted, agree'.linked, ?_, agree'.top,
        agree'.near, agree'.far⟩
      intro rung member
      exact List.mem_cons_of_mem _ (agree'.published rung member)
    · obtain ⟨final, new, decrypted, agree'⟩ := agree.deliver_next correct agrees
        found next within drawn fresh
      exact ⟨final, rungs ++ [new], decrypted, agree'⟩
  obtain ⟨final, rungs', decrypted, agree'⟩ := outcome
  simp only [step, found, decrypted]
  refine ⟨⟨agree_both party rungs' ?_, ?_⟩, ?_⟩
  · simpa only [update_ends_self, update_ends_other] using agree'
  · intro entry member
    rcases List.mem_cons.mp member with rfl | old
    · rfl
    · exact invariant.outcomes entry old
  · simp

/-- The deliveries among a list of actions. -/
def deliveries (actions : List Action) : List Action :=
  actions.filter fun
    | .encrypt _ _ _ _ => false
    | .deliver _ _ _ => true

theorem invariant_run (correct : suite.AeadCorrect)
    (total : suite.AeadTotal) (agrees : suite.Agrees Private)
    (invariant : Invariant suite Private session) {actions : List Action}
    (admissible : Admissible suite Private session actions) :
    Invariant suite Private (run suite session actions) ∧
      (run suite session actions).outcomes.length =
        session.outcomes.length + (deliveries actions).length := by
  induction actions generalizing session with
  | nil => exact ⟨invariant, rfl⟩
  | cons action actions induction =>
      obtain ⟨allowed, rest⟩ := admissible
      cases action with
      | encrypt party nonce plaintext adContext =>
          exact induction
            (invariant_encrypt total invariant party allowed plaintext adContext) rest
      | deliver party place newPrivate =>
          obtain ⟨stepped, counted⟩ :=
            invariant_deliver correct agrees invariant allowed
          obtain ⟨final, total'⟩ := induction stepped rest
          refine ⟨final, ?_⟩
          rw [run, List.foldl_cons, ← run, total', counted]
          simp only [deliveries, List.filter_cons_of_pos, List.length_cons]
          omega

end Runs

/-- Every delivery of an admissible run decrypts to the plaintext that was
encrypted. -/
theorem deliveries_decrypt {suite : Suite} {Private : Bytes → Prop}
    (agrees : suite.Agrees Private) (correct : suite.AeadCorrect)
    (total : suite.AeadTotal) {sessionKey prekey first : Bytes}
    (prekeyDrawn : Private prekey) (firstDrawn : Private first)
    (fresh : suite.dhPublic first ≠ suite.dhPublic prekey)
    {initiator : RatchetState}
    (started : Ratchet.initiator suite sessionKey (suite.dhPublic prekey) first =
      .ok initiator) {actions : List Action}
    (admissible : Admissible suite Private
      (start initiator
        (Ratchet.responder sessionKey prekey (suite.dhPublic prekey))) actions) :
    let final := run suite (start initiator
      (Ratchet.responder sessionKey prekey (suite.dhPublic prekey))) actions
    final.outcomes.length = (deliveries actions).length ∧
      ∀ entry ∈ final.outcomes, entry.2 = .ok entry.1.plaintext := by
  obtain ⟨invariant, counted⟩ := invariant_run correct total agrees
    (invariant_start prekeyDrawn firstDrawn fresh started) admissible
  exact ⟨by simpa [start] using counted, invariant.outcomes⟩

/-- Two messages delivered out of order, and a reply. -/
def exampleActions : List Action :=
  [.encrypt .initiator (List.replicate nonceSize 7) [42] none,
    .encrypt .initiator (List.replicate nonceSize 8) [43] none,
    .deliver .responder 1 [3],
    .deliver .responder 0 [4],
    .encrypt .responder (List.replicate nonceSize 9) [44] none,
    .deliver .initiator 0 [5]]

theorem deliveries_decrypt_reordered :
    let final := run Symbolic.suite (start SingleUse.exampleInitiator
      (Ratchet.responder [0] [1] (Symbolic.suite.dhPublic [1]))) exampleActions
    final.outcomes.length = (deliveries exampleActions).length ∧
      ∀ entry ∈ final.outcomes, entry.2 = .ok entry.1.plaintext :=
  deliveries_decrypt Symbolic.suite_agrees Symbolic.suite_aeadCorrect
    (fun _ _ _ _ _ => ⟨_, rfl⟩) trivial trivial (by decide)
    SingleUse.exampleInitiator_started (by decide +kernel)

end Agreement

end NoKnowledge

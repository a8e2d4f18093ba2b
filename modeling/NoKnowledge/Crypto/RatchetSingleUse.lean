import NoKnowledge.Crypto.RatchetKeys
import NoKnowledge.Crypto.SymbolicSuite

/-!
# Single use of message keys

A session has two ratchets.  An adversary schedules them: it lets either party
encrypt, and hands either party any triple of header, nonce and ciphertext, in
any order and as often as it likes.  The log records every successful
decryption with the message key it used.
-/

namespace NoKnowledge

inductive Party where
  | initiator
  | responder
deriving DecidableEq, Repr

namespace SingleUse

structure Opening where
  party : Party
  header : Json
  nonce : Bytes
  ciphertext : Bytes
  messageKey : Bytes
deriving DecidableEq

def Opening.triple (opening : Opening) : Json × Bytes × Bytes :=
  (opening.header, opening.nonce, opening.ciphertext)

structure Session where
  ends : Party → RatchetState
  openings : List Opening := []

inductive Action where
  | encrypt (party : Party) (nonce plaintext : Bytes) (adContext : Option Json)
  | attempt (party : Party) (newPrivate : Bytes) (header : Json)
      (nonce ciphertext : Bytes) (adContext : Option Json)

def Session.update (session : Session) (party : Party) (state : RatchetState) :
    Session :=
  { session with
    ends := fun other => if other = party then state else session.ends other }

/-- The key a decryption of this header would use. -/
def selectedKey (suite : Suite) (newPrivate : Bytes) (header : Json)
    (state : RatchetState) : Bytes :=
  match (Ratchet.selectKey suite newPrivate header).run state with
  | (.ok messageKey, _) => messageKey
  | (.error _, _) => []

def step (suite : Suite) (session : Session) : Action → Session
  | .encrypt party nonce plaintext adContext =>
      session.update party
        ((Ratchet.encrypt suite nonce plaintext adContext).after
          (session.ends party))
  | .attempt party newPrivate header nonce ciphertext adContext =>
      match (Ratchet.decrypt suite newPrivate header nonce ciphertext
          adContext).run (session.ends party) with
      | (.error _, state) => session.update party state
      | (.ok _, state) =>
          let opening : Opening := {
            party, header, nonce, ciphertext
            messageKey :=
              selectedKey suite newPrivate header (session.ends party) }
          { session.update party state with
            openings := opening :: session.openings }

def run (suite : Suite) (session : Session) (actions : List Action) : Session :=
  actions.foldl (step suite) session

def start (initiator responder : RatchetState) : Session where
  ends
    | .initiator => initiator
    | .responder => responder

def usedBy (party : Party) (openings : List Opening) : List Bytes :=
  (openings.filter fun opening => opening.party = party).map Opening.messageKey

/-- The depths of a party's root keys: odd for the initiator, even for the
responder. -/
def parity : Party → Nat
  | .initiator => 1
  | .responder => 0

structure Invariant (suite : Suite) (sessionKey : Bytes) (session : Session) :
    Prop where
  tracked : ∀ party, ∃ depth, depth % 2 = parity party ∧
    Ratchet.Tracked suite sessionKey depth (session.ends party)
      (usedBy party session.openings)
  opened : ∀ opening ∈ session.openings, ∃ ad plaintext,
    suite.aeadDecrypt opening.messageKey opening.nonce opening.ciphertext ad =
      some plaintext

section Runs

variable {suite : Suite} {sessionKey : Bytes} {session : Session}

theorem invariant_start {remote newPrivate private_ public_ : Bytes}
    {initiator : RatchetState}
    (started : Ratchet.initiator suite sessionKey remote newPrivate =
      .ok initiator) :
    Invariant suite sessionKey
      (start initiator (Ratchet.responder sessionKey private_ public_)) where
  tracked party := by
    cases party with
    | initiator => exact ⟨1, rfl, .ofInitiator started⟩
    | responder => exact ⟨0, rfl, .ofResponder private_ public_⟩
  opened := by
    intro opening member
    cases member

theorem invariant_update (invariant : Invariant suite sessionKey session)
    {party : Party} {state : RatchetState} {depth : Nat}
    (sameParity : depth % 2 = parity party)
    (tracked : Ratchet.Tracked suite sessionKey depth state
      (usedBy party session.openings)) :
    Invariant suite sessionKey (session.update party state) where
  tracked other := by
    by_cases same : other = party
    · subst same
      exact ⟨depth, sameParity, by simpa [Session.update] using tracked⟩
    · simpa [Session.update, same] using invariant.tracked other
  opened := invariant.opened

theorem invariant_step (laws : suite.Positional sessionKey)
    (invariant : Invariant suite sessionKey session) (action : Action) :
    Invariant suite sessionKey (step suite session action) := by
  cases action with
  | encrypt party nonce plaintext adContext =>
      obtain ⟨depth, sameParity, tracked⟩ := invariant.tracked party
      exact invariant_update invariant sameParity
        (tracked.encrypted nonce plaintext adContext)
  | attempt party newPrivate header nonce ciphertext adContext =>
      obtain ⟨depth, sameParity, tracked⟩ := invariant.tracked party
      simp only [step]
      split
      · rename_i raised state failed
        rw [Ratchet.decrypt_raises failed]
        exact invariant_update invariant sameParity tracked
      · rename_i plaintext state returned
        obtain ⟨messageKey, selected, opened⟩ := Ratchet.decrypt_returns returned
        have keyShape : selectedKey suite newPrivate header (session.ends party) =
            messageKey := by
          simp [selectedKey, selected]
        obtain ⟨depth', parity', tracked'⟩ := tracked.selected laws selected
        constructor
        · intro other
          by_cases same : other = party
          · subst same
            refine ⟨depth', parity'.trans sameParity, ?_⟩
            simpa [Session.update, usedBy, keyShape] using tracked'
          · have apart : ¬ party = other := Ne.symm same
            simpa [Session.update, usedBy, same, apart] using
              invariant.tracked other
        · intro opening member
          rcases List.mem_cons.mp member with rfl | member
          · exact ⟨_, plaintext, by simpa [keyShape] using opened⟩
          · exact invariant.opened opening member

theorem invariant_run (laws : suite.Positional sessionKey)
    (invariant : Invariant suite sessionKey session) (actions : List Action) :
    Invariant suite sessionKey (run suite session actions) := by
  induction actions generalizing session with
  | nil => exact invariant
  | cons action actions induction =>
      exact induction (invariant_step laws invariant action)

theorem mem_usedBy {party : Party} {openings : List Opening} {opening : Opening}
    (member : opening ∈ openings) (by_ : opening.party = party) :
    opening.messageKey ∈ usedBy party openings :=
  List.mem_map.mpr ⟨opening, List.mem_filter.mpr ⟨member, by simpa using by_⟩, rfl⟩

/-- Two successful decryptions of a session under one key are by one party. -/
theorem Invariant.party_unique (laws : suite.Positional sessionKey)
    (invariant : Invariant suite sessionKey session) (first second : Opening)
    (firstMember : first ∈ session.openings)
    (secondMember : second ∈ session.openings)
    (sameKey : first.messageKey = second.messageKey) :
    first.party = second.party := by
  by_contra different
  obtain ⟨depth, sameParity, tracked⟩ := invariant.tracked first.party
  obtain ⟨depth', sameParity', tracked'⟩ := invariant.tracked second.party
  have apart : depth % 2 ≠ depth' % 2 := by
    rw [sameParity, sameParity']
    revert different
    cases first.party <;> cases second.party <;> simp [parity]
  have secondUsed := mem_usedBy secondMember rfl
  rw [← sameKey] at secondUsed
  exact Ratchet.used_disjoint laws tracked tracked' apart
    (mem_usedBy firstMember rfl) secondUsed

/-- The message keys of the successful decryptions of a session are pairwise
different. -/
theorem Invariant.messageKeys_nodup (laws : suite.Positional sessionKey)
    (invariant : Invariant suite sessionKey session) :
    (session.openings.map Opening.messageKey).Nodup := by
  have perParty : ∀ party,
      ((session.openings.filter fun opening => opening.party = party).map
        Opening.messageKey).Nodup := by
    intro party
    obtain ⟨_, _, tracked⟩ := invariant.tracked party
    exact tracked.usedOnce
  have apart := invariant.party_unique laws
  generalize session.openings = openings at perParty apart
  induction openings with
  | nil => exact List.nodup_nil
  | cons opening openings induction =>
      rw [List.map_cons, List.nodup_cons]
      constructor
      · intro repeated
        obtain ⟨other, member, sameKey⟩ := List.mem_map.mp repeated
        have sameParty := apart other opening (List.mem_cons_of_mem _ member)
          List.mem_cons_self sameKey
        have distinct := perParty opening.party
        rw [List.filter_cons_of_pos (by simp), List.map_cons,
          List.nodup_cons] at distinct
        exact distinct.1 (sameKey ▸ mem_usedBy member sameParty)
      · refine induction (fun party => ?_) fun first second inFirst inSecond =>
          apart first second (List.mem_cons_of_mem _ inFirst)
            (List.mem_cons_of_mem _ inSecond)
        refine (perParty party).sublist (List.Sublist.map _ ?_)
        exact List.Sublist.filter _ (List.sublist_cons_self _ _)

end Runs

/-- In every run of a session each triple is decrypted at most once, and
different triples never decrypt under one message key. -/
theorem messages_decrypt_once {suite : Suite} {sessionKey : Bytes}
    (collisionFree : suite.KdfCollisionFree) (binding : suite.AeadBinding)
    (sessionKeyFresh : ∀ rootKey dhOutput,
      sessionKey ≠ (suite.kdfRk rootKey dhOutput).1)
    {remote newPrivate private_ public_ : Bytes} {initiator : RatchetState}
    (started : Ratchet.initiator suite sessionKey remote newPrivate =
      .ok initiator)
    (actions : List Action) :
    let session := run suite
      (start initiator (Ratchet.responder sessionKey private_ public_)) actions
    (session.openings.map Opening.triple).Nodup ∧
      ∀ first ∈ session.openings, ∀ second ∈ session.openings,
        first.messageKey = second.messageKey → first.triple = second.triple := by
  intro session
  have laws : suite.Positional sessionKey := ⟨collisionFree, sessionKeyFresh⟩
  have invariant : Invariant suite sessionKey session :=
    invariant_run laws (invariant_start started) actions
  have distinct := invariant.messageKeys_nodup laws
  have keyOfTriple : ∀ first ∈ session.openings, ∀ second ∈ session.openings,
      first.triple = second.triple → first.messageKey = second.messageKey := by
    intro first firstMember second secondMember sameTriple
    obtain ⟨ad, plaintext, opened⟩ := invariant.opened first firstMember
    obtain ⟨ad', plaintext', opened'⟩ := invariant.opened second secondMember
    simp only [Opening.triple, Prod.mk.injEq] at sameTriple
    rw [← sameTriple.2.1, ← sameTriple.2.2] at opened'
    exact (binding opened opened').1
  constructor
  · refine List.Nodup.map_on ?_ (List.Nodup.of_map _ distinct)
    intro first firstMember second secondMember sameTriple
    exact List.inj_on_of_nodup_map distinct firstMember secondMember
      (keyOfTriple first firstMember second secondMember sameTriple)
  · intro first firstMember second secondMember sameKey
    rw [List.inj_on_of_nodup_map distinct firstMember secondMember sameKey]

/-- A concrete initiator of the symbolic suite. -/
def exampleInitiator : RatchetState where
  rootKey := [1, 1, 0, 0, 6, 1, 1, 0, 2]
  sendingChain := some [2, 1, 0, 0, 6, 1, 1, 0, 2]
  dhSelfPrivate := some [2]
  dhSelfPublic := some [5, 2]
  dhRemote := some [5, 1]

theorem exampleInitiator_started :
    Ratchet.initiator Symbolic.suite [0] [5, 1] [2] = .ok exampleInitiator := by
  decide +kernel

/-- A message of the initiator, and that message handed over twice. -/
def replaySchedule : List Action :=
  let header := Ratchet.makeHeader exampleInitiator
  let ciphertext := 7 :: Symbolic.pair [3, 2, 1, 0, 0, 6, 1, 1, 0, 2]
    (Symbolic.pair [7] (Symbolic.pair (Ratchet.associatedData header none) [42]))
  [.encrypt .initiator [7] [42] none,
    .attempt .responder [3] header [7] ciphertext none,
    .attempt .responder [4] header [7] ciphertext none]

theorem messages_decrypt_once_replayed :
    let session := run Symbolic.suite
      (start exampleInitiator (Ratchet.responder [0] [1] [5, 1])) replaySchedule
    session.openings.length = 1 ∧
      (session.openings.map Opening.triple).Nodup ∧
      ∀ first ∈ session.openings, ∀ second ∈ session.openings,
        first.messageKey = second.messageKey → first.triple = second.triple :=
  ⟨by decide +kernel,
    messages_decrypt_once
      Symbolic.suite_kdfCollisionFree Symbolic.suite_aeadBinding
      (by simp [Symbolic.suite]) exampleInitiator_started replaySchedule⟩

end SingleUse

end NoKnowledge

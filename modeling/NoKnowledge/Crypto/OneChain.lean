import NoKnowledge.Crypto.RatchetSpec

/-!
# One chain, from both ends

The initiator sends on one chain until it hears from the responder.  Whichever
of its messages arrives first takes the responder to that chain; from then on
each message of the chain opens once, in any order, and never again.
-/

namespace NoKnowledge

namespace Ratchet

variable {suite : Suite}

/-- Message `number` of a chain, sent under a ratchet key. -/
structure OnChain (suite : Suite) (chain own : Bytes) (number : Nat) (header : Json)
    (nonce ciphertext plaintext : Bytes) (adContext : Option Json) : Prop where
  fits : nonce.length = nonceSize
  canonical : header.Canonical
  parsed : ∃ prevCount, parseHeader header = some (own, (number : Int), prevCount)
  encrypted : suite.aeadEncrypt (suite.messageKeyAt chain number) nonce plaintext
    (associatedData header adContext) = some ciphertext

/-- A state that sends on a chain. -/
structure Speaks (suite : Suite) (chain own : Bytes) (state : RatchetState) : Prop where
  sending : state.sendingChain = some (suite.chainKeyAt chain state.sendCount)
  public_ : state.dhSelfPublic = some own

/-- The next message of the chain. -/
theorem Speaks.sends {chain own nonce plaintext : Bytes} {adContext : Option Json}
    {state final : RatchetState} {header : Json} {used ciphertext : Bytes}
    (fits : nonce.length = nonceSize) (speaks : Speaks suite chain own state)
    (returned : (encrypt suite nonce plaintext adContext).run state =
      (.ok (header, used, ciphertext), final)) :
    OnChain suite chain own state.sendCount header used ciphertext plaintext adContext ∧
      Speaks suite chain own final ∧ final.sendCount = state.sendCount + 1 := by
  cases sealed : suite.aeadEncrypt (suite.kdfCk (suite.chainKeyAt chain state.sendCount)).1
      nonce plaintext (associatedData (makeHeader state) adContext) with
  | none =>
      simp [encrypt, Prog.run_bind, speaks.sending, sealed] at returned
  | some text =>
      rw [encrypt_run speaks.sending sealed] at returned
      obtain ⟨parts, rfl⟩ := Prod.mk.inj returned
      obtain ⟨rfl, rest⟩ := Prod.mk.inj (Except.ok.inj parts)
      obtain ⟨rfl, rfl⟩ := Prod.mk.inj rest
      have parsed := parseHeader_makeHeader state
      rw [speaks.public_, Option.getD_some] at parsed
      refine ⟨⟨fits, makeHeader_canonical state, ⟨_, parsed⟩, sealed⟩, ⟨?_, speaks.public_⟩, rfl⟩
      simp [Suite.chainKeyAt_succ]

/-- A state that receives on a chain and has opened the messages `heard` of it. -/
structure Hears (suite : Suite) (chain remote : Bytes) (heard : List Nat)
    (state : RatchetState) : Prop where
  entered : state.dhRemote = some remote
  receiving : state.receivingChain = some (suite.chainKeyAt chain state.recvCount)
  passed : ∀ number ∈ heard, number < state.recvCount
  cached : ∀ number : Nat, state.skipped.get? (remote, (number : Int)) =
    if number < state.recvCount ∧ number ∉ heard then
      some (suite.messageKeyAt chain number)
    else none

variable {chain remote newPrivate nonce ciphertext plaintext : Bytes} {number : Nat}
  {header : Json} {adContext : Option Json} {heard : List Nat} {state : RatchetState}

/-- Taking a key that has not been taken. -/
theorem Hears.takes (hears : Hears suite chain remote heard state)
    (unheard : number ∉ heard) (close : number ≤ state.recvCount + maxSkip) :
    ∃ final, (takeKey suite remote number).run state =
        (.ok (suite.messageKeyAt chain number), final) ∧
      Hears suite chain remote (number :: heard) final := by
  by_cases behind : number < state.recvCount
  · have cached : state.skipped.get? (remote, (number : Int)) =
        some (suite.messageKeyAt chain number) := by
      rw [hears.cached, if_pos ⟨behind, unheard⟩]
    refine ⟨_, takeKey_run_cached cached, hears.entered, hears.receiving, ?_, ?_⟩
    · intro other member
      rcases List.mem_cons.mp member with rfl | old
      · exact behind
      · exact hears.passed other old
    · intro other
      rw [Dict.get?_erase, hears.cached]
      by_cases same : other = number
      · subst same
        simp
      · have different : ¬ (other : Int) = number := by omega
        simp [same, different]
  · have absent : state.skipped.get? (remote, (number : Int)) = none := by
      rw [hears.cached, if_neg fun both => behind both.1]
    have ahead : state.recvCount ≤ number := Nat.not_lt.mp behind
    obtain ⟨-, -, cache⟩ := skipTimes_spec hears.receiving hears.entered
      (number - state.recvCount)
    have same : SameKeys state (skipTimes suite (number - state.recvCount) state) :=
      skipTimes_sameKeys _ _
    refine ⟨_, (takeKey_run_fresh absent).trans
      (deriveKey_run ahead close hears.entered hears.receiving), ?_, rfl, ?_, ?_⟩
    · exact same.dhRemote.trans hears.entered
    · intro other member
      rcases List.mem_cons.mp member with rfl | old
      · exact Nat.lt_succ_self _
      · exact Nat.lt_succ_of_lt (Nat.lt_of_lt_of_le (hears.passed other old) ahead)
    · intro other
      show (skipTimes suite (number - state.recvCount) state).skipped.get?
        (remote, (other : Int)) = _
      rw [cache, hears.cached]
      have old : other ∈ heard → other < state.recvCount := hears.passed other
      by_cases inside : state.recvCount ≤ other ∧ other < number
      · rw [if_pos ⟨rfl, by simp only; omega, by simp only; omega⟩, if_pos]
        · simp
        · refine ⟨show other < number + 1 by omega, ?_⟩
          simp only [List.mem_cons, not_or]
          exact ⟨by omega, fun member => by have := old member; omega⟩
      · rw [if_neg (by simp only; omega)]
        by_cases here : other = number
        · subst here
          simp [behind]
        · congr 1
          simp only [List.mem_cons, here, false_or, eq_iff_iff]
          exact and_congr_left fun _ => by
            show other < state.recvCount ↔ other < number + 1
            omega

/-- A message that has not been opened opens. -/
theorem Hears.opens (correct : suite.AeadCorrect)
    (hears : Hears suite chain remote heard state)
    (message : OnChain suite chain remote number header nonce ciphertext plaintext adContext)
    (unheard : number ∉ heard) (close : number ≤ maxSkip) :
    ∃ final, (decrypt suite newPrivate header nonce ciphertext adContext).run state =
        (.ok plaintext, final) ∧
      Hears suite chain remote (number :: heard) final := by
  obtain ⟨prevCount, parsed⟩ := message.parsed
  obtain ⟨final, taken, later⟩ := hears.takes unheard (by omega)
  have entered : (enterChain suite newPrivate remote prevCount).run state = (.ok (), state) :=
    enterChain_run_same hears.entered hears.receiving
  refine ⟨final, ?_, later⟩
  rw [decrypt_run, (selectKey_run parsed entered).trans taken]
  simp only [correct _ _ _ _ _ message.fits message.encrypted]

/-- A message that has been opened does not open again. -/
theorem Hears.opened_before (hears : Hears suite chain remote heard state)
    (message : OnChain suite chain remote number header nonce ciphertext plaintext adContext)
    (known : number ∈ heard) :
    (decrypt suite newPrivate header nonce ciphertext adContext).run state =
      (.error .duplicateMessage, state) := by
  obtain ⟨prevCount, parsed⟩ := message.parsed
  have behind := hears.passed number known
  have absent : state.skipped.get? (remote, (number : Int)) = none := by
    rw [hears.cached, if_neg fun both => both.2 known]
  have refused : (deriveKey suite number).run state = (.error .duplicateMessage, state) := by
    simp [deriveKey, Prog.run_bind, behind]
  have entered : (enterChain suite newPrivate remote prevCount).run state = (.ok (), state) :=
    enterChain_run_same hears.entered hears.receiving
  rw [decrypt_run, (selectKey_run parsed entered).trans
    ((takeKey_run_fresh absent).trans refused)]

/-- The two ends of the first chain of a session. -/
structure FirstChain (suite : Suite) (sessionKey spkPrivate firstPublic chain : Bytes) :
    Prop where
  derived : ∃ shared, suite.exchange spkPrivate firstPublic = some shared ∧
    (suite.kdfRk sessionKey shared).2 = chain

/-- The initiator starts a chain that the responder can derive. -/
theorem initiator_speaks {Private : Bytes → Prop} (agrees : suite.Agrees Private)
    {sessionKey spkPrivate first : Bytes} (firstDrawn : Private first)
    (spkDrawn : Private spkPrivate)
    (started : initiator suite sessionKey (suite.dhPublic spkPrivate) first = .ok state) :
    ∃ chain, FirstChain suite sessionKey spkPrivate (suite.dhPublic first) chain ∧
      Speaks suite chain (suite.dhPublic first) state ∧ state.sendCount = 0 := by
  obtain ⟨shared, here, there⟩ := agrees first spkPrivate firstDrawn spkDrawn
  simp only [initiator, here] at started
  cases started
  exact ⟨_, ⟨shared, there, rfl⟩, ⟨rfl, rfl⟩, rfl⟩

/-- Any message of the first chain takes the responder there. -/
theorem FirstChain.opens {sessionKey spkPrivate spkPublic sent : Bytes}
    (chained : FirstChain suite sessionKey spkPrivate remote chain)
    (correct : suite.AeadCorrect)
    (message : OnChain suite chain remote number header nonce ciphertext plaintext adContext)
    (close : number ≤ maxSkip) (agreed : suite.exchange newPrivate remote = some sent) :
    ∃ final, (decrypt suite newPrivate header nonce ciphertext adContext).run
        (responder sessionKey spkPrivate spkPublic) = (.ok plaintext, final) ∧
      Hears suite chain remote [number] final := by
  obtain ⟨shared, exchanged, derived⟩ := chained.derived
  obtain ⟨prevCount, parsed⟩ := message.parsed
  let start := ratcheted suite (responder sessionKey spkPrivate spkPublic) newPrivate remote
    shared sent
  have entered : (enterChain suite newPrivate remote prevCount).run
      (responder sessionKey spkPrivate spkPublic) = (.ok (), start) :=
    enterChain_run_first rfl rfl exchanged agreed
  have silent : Hears suite chain remote [] start := by
    refine ⟨rfl, ?_, ?_, ?_⟩
    · exact congrArg some derived
    · intro other member
      cases member
    · intro other
      rw [if_neg fun both => Nat.not_lt_zero _ both.1]
      rfl
  have room : number ≤ start.recvCount + maxSkip := by omega
  obtain ⟨final, taken, hears⟩ := silent.takes (List.not_mem_nil) room
  refine ⟨final, ?_, hears⟩
  rw [decrypt_run, (selectKey_run parsed entered).trans taken]
  simp only [correct _ _ _ _ _ message.fits message.encrypted]

end Ratchet

end NoKnowledge

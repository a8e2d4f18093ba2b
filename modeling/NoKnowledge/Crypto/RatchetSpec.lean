import NoKnowledge.Crypto.Ratchet
import NoKnowledge.Foundation.KeyChain

/-!
# What each ratchet operation does

One lemma per operation of the ratchet, in the terms the invariants use: the
position reached on a chain, the entries of the skipped-key cache, and the
fields that stay as they were.
-/

namespace NoKnowledge

/-- The chain key after `steps` steps of a chain. -/
def Suite.chainKeyAt (suite : Suite) (start : Bytes) (steps : Nat) : Bytes :=
  (fun chainKey => (suite.kdfCk chainKey).2)^[steps] start

/-- The key of message `number` of a chain. -/
def Suite.messageKeyAt (suite : Suite) (start : Bytes) (number : Nat) : Bytes :=
  (suite.kdfCk (suite.chainKeyAt start number)).1

@[simp] theorem Suite.chainKeyAt_zero (suite : Suite) (start : Bytes) :
    suite.chainKeyAt start 0 = start := rfl

theorem Suite.chainKeyAt_succ (suite : Suite) (start : Bytes) (steps : Nat) :
    suite.chainKeyAt start (steps + 1) =
      (suite.kdfCk (suite.chainKeyAt start steps)).2 :=
  Function.iterate_succ_apply' _ _ _

namespace Ratchet

variable {suite : Suite}

theorem makeHeader_canonical (state : RatchetState) :
    (makeHeader state).Canonical := by
  apply Json.canonical_mkObj
  intro field member
  simp only [List.mem_cons, List.not_mem_nil, or_false] at member
  rcases member with rfl | rfl | rfl <;> trivial

theorem parseHeader_makeHeader (state : RatchetState) :
    parseHeader (makeHeader state) =
      some (state.dhSelfPublic.getD [], (state.sendCount : Int),
        (state.prevSendCount : Int)) := by
  simp [parseHeader, makeHeader, Json.get?_mkObj, List.lookup_cons]

theorem encrypt_run {state : RatchetState} {chain nonce plaintext ciphertext : Bytes}
    {adContext : Option Json} (sending : state.sendingChain = some chain)
    (encrypted : suite.aeadEncrypt (suite.kdfCk chain).1 nonce plaintext
      (associatedData (makeHeader state) adContext) = some ciphertext) :
    (encrypt suite nonce plaintext adContext).run state =
      (.ok (makeHeader state, nonce, ciphertext),
        { state with
          sendingChain := some (suite.kdfCk chain).2
          sendCount := state.sendCount + 1 }) := by
  simp [encrypt, Prog.run_bind, sending, encrypted]

theorem encrypt_run_none {state : RatchetState} {nonce plaintext : Bytes}
    {adContext : Option Json} (noChain : state.sendingChain = none) :
    (encrypt suite nonce plaintext adContext).run state =
      (.error .noSendingChain, state) := by
  simp [encrypt, Prog.run_bind, noChain]

/-- Encryption only touches the sending chain and its counter. -/
theorem encrypt_after (nonce plaintext : Bytes) (adContext : Option Json)
    (state : RatchetState) :
    ∃ sendingChain sendCount,
      (encrypt suite nonce plaintext adContext).after state =
        { state with sendingChain := sendingChain, sendCount := sendCount } := by
  cases sending : state.sendingChain with
  | none =>
      exact ⟨state.sendingChain, state.sendCount, by
        simp [Prog.after, encrypt_run_none sending]⟩
  | some chain =>
      cases encrypted : suite.aeadEncrypt (suite.kdfCk chain).1 nonce plaintext
          (associatedData (makeHeader state) adContext) with
      | none =>
          exact ⟨some (suite.kdfCk chain).2, state.sendCount, by
            simp [Prog.after, encrypt, Prog.run_bind, sending, encrypted]⟩
      | some ciphertext =>
          exact ⟨some (suite.kdfCk chain).2, state.sendCount + 1, by
            simp [Prog.after, encrypt_run sending encrypted]⟩

/-- The fields that neither skipping nor taking a key touches. -/
structure SameKeys (state state' : RatchetState) : Prop where
  rootKey : state'.rootKey = state.rootKey
  sendingChain : state'.sendingChain = state.sendingChain
  dhSelfPrivate : state'.dhSelfPrivate = state.dhSelfPrivate
  dhSelfPublic : state'.dhSelfPublic = state.dhSelfPublic
  dhRemote : state'.dhRemote = state.dhRemote
  sendCount : state'.sendCount = state.sendCount
  prevSendCount : state'.prevSendCount = state.prevSendCount

theorem SameKeys.refl (state : RatchetState) : SameKeys state state :=
  ⟨rfl, rfl, rfl, rfl, rfl, rfl, rfl⟩

theorem SameKeys.trans {first second third : RatchetState}
    (left : SameKeys first second) (right : SameKeys second third) :
    SameKeys first third :=
  ⟨right.rootKey.trans left.rootKey,
    right.sendingChain.trans left.sendingChain,
    right.dhSelfPrivate.trans left.dhSelfPrivate,
    right.dhSelfPublic.trans left.dhSelfPublic,
    right.dhRemote.trans left.dhRemote,
    right.sendCount.trans left.sendCount,
    right.prevSendCount.trans left.prevSendCount⟩

theorem skipTimes_sameKeys (count : Nat) (state : RatchetState) :
    SameKeys state (skipTimes suite count state) := by
  induction count generalizing state with
  | zero => exact .refl state
  | succ count induction =>
      refine SameKeys.trans ?_ (induction (skipOne suite state))
      unfold skipOne
      split
      · exact .refl state
      · exact ⟨rfl, rfl, rfl, rfl, rfl, rfl, rfl⟩

theorem skipTimes_none {state : RatchetState}
    (receiving : state.receivingChain = none) (count : Nat) :
    skipTimes suite count state = state := by
  induction count with
  | zero => rfl
  | succ count induction =>
      have stays : skipOne suite state = state := by
        simp [skipOne, receiving]
      rw [skipTimes, stays, induction]

/-- Skipping `count` keys of a chain advances it by `count` and caches exactly
those keys under the current remote key. -/
theorem skipTimes_spec {state : RatchetState} {start remote : Bytes}
    (receiving : state.receivingChain =
      some (suite.chainKeyAt start state.recvCount))
    (remoteKey : state.dhRemote = some remote) (count : Nat) :
    (skipTimes suite count state).receivingChain =
        some (suite.chainKeyAt start (state.recvCount + count)) ∧
      (skipTimes suite count state).recvCount = state.recvCount + count ∧
      ∀ label, (skipTimes suite count state).skipped.get? label =
        if label.1 = remote ∧ (state.recvCount : Int) ≤ label.2 ∧
            label.2 < (state.recvCount + count : Nat) then
          some (suite.messageKeyAt start label.2.toNat)
        else state.skipped.get? label := by
  induction count generalizing state with
  | zero =>
      refine ⟨receiving, rfl, ?_⟩
      intro label
      rw [if_neg (by omega)]
      rfl
  | succ count induction =>
      have stepped : skipOne suite state = { state with
          receivingChain :=
            some (suite.kdfCk (suite.chainKeyAt start state.recvCount)).2
          skipped := state.skipped.insert
            (skippedKey state.dhRemote state.recvCount)
            (suite.messageKeyAt start state.recvCount)
          recvCount := state.recvCount + 1 } := by
        simp [skipOne, receiving, Suite.messageKeyAt]
      have advanced : (skipOne suite state).receivingChain =
          some (suite.chainKeyAt start (skipOne suite state).recvCount) := by
        simp [stepped, Suite.chainKeyAt_succ]
      have remoteStays : (skipOne suite state).dhRemote = some remote := by
        simp [stepped, remoteKey]
      obtain ⟨chain, counter, cache⟩ := induction advanced remoteStays
      have counterOne : (skipOne suite state).recvCount = state.recvCount + 1 := by
        simp [stepped]
      refine ⟨?_, ?_, ?_⟩
      · rw [skipTimes, chain, counterOne]
        congr 2
        omega
      · rw [skipTimes, counter, counterOne]
        omega
      · intro label
        obtain ⟨dh, number⟩ := label
        rw [skipTimes, cache, counterOne]
        simp only [stepped, Dict.get?_insert, remoteKey, skippedKey,
          Option.getD_some, Prod.mk.injEq]
        by_cases later : dh = remote ∧ ((state.recvCount + 1 : Nat) : Int) ≤ number ∧
            number < ((state.recvCount + 1 + count : Nat) : Int)
        · rw [if_pos later, if_pos ⟨later.1, by omega, by omega⟩]
        · rw [if_neg later]
          by_cases here : dh = remote ∧ number = (state.recvCount : Int)
          · rw [if_pos here, if_pos ⟨here.1, by omega, by omega⟩, here.2]
            simp
          · rw [if_neg here, if_neg]
            rintro ⟨sameDh, lower, upper⟩
            by_cases equal : number = (state.recvCount : Int)
            · exact here ⟨sameDh, equal⟩
            · exact later ⟨sameDh, by omega, by omega⟩

theorem skipKeys_run {state : RatchetState} {limit : Int}
    (close : limit ≤ (state.recvCount : Int) + maxSkip) {chain : Bytes}
    (receiving : state.receivingChain = some chain) :
    (skipKeys suite limit).run state =
      (.ok (), skipTimes suite (limit.toNat - state.recvCount) state) := by
  have notFar : ¬ ((state.recvCount : Int) + maxSkip < limit) := by omega
  simp [skipKeys, Prog.run_bind, receiving, notFar]

/-- A skip that returns has cached keys of the current chain, or had none. -/
theorem skipKeys_returns {state final : RatchetState} {limit : Int}
    (returned : (skipKeys suite limit).run state = (.ok (), final)) :
    ∃ count, final = skipTimes suite count state := by
  cases receiving : state.receivingChain with
  | none =>
      simp [skipKeys, Prog.run_bind, receiving] at returned
      exact ⟨0, returned.symm⟩
  | some chain =>
      by_cases far : (state.recvCount : Int) + maxSkip < limit
      · simp [skipKeys, Prog.run_bind, receiving, far] at returned
      · rw [skipKeys_run (by omega) receiving] at returned
        cases returned
        exact ⟨_, rfl⟩

/-- The state after a DH step with the two agreed secrets. -/
def ratcheted (suite : Suite) (state : RatchetState)
    (newPrivate remoteDh received sent : Bytes) : RatchetState :=
  let receivedKeys := suite.kdfRk state.rootKey received
  let sentKeys := suite.kdfRk receivedKeys.1 sent
  { state with
    rootKey := sentKeys.1
    sendingChain := some sentKeys.2
    receivingChain := some receivedKeys.2
    dhSelfPrivate := some newPrivate
    dhSelfPublic := some (suite.dhPublic newPrivate)
    dhRemote := some remoteDh
    sendCount := 0
    recvCount := 0
    prevSendCount := state.sendCount }

theorem dhRatchet_run {state : RatchetState}
    {private_ newPrivate remoteDh received sent : Bytes}
    (localKey : state.dhSelfPrivate = some private_)
    (agreedReceived : suite.exchange private_ remoteDh = some received)
    (agreedSent : suite.exchange newPrivate remoteDh = some sent) :
    (dhRatchet suite newPrivate remoteDh).run state =
      (.ok (), ratcheted suite state newPrivate remoteDh received sent) := by
  simp [dhRatchet, Prog.run_bind, localKey, agree, agreedReceived, agreedSent,
    ratcheted]

theorem dhRatchet_returns {state final : RatchetState}
    {newPrivate remoteDh : Bytes}
    (returned : (dhRatchet suite newPrivate remoteDh).run state =
      (.ok (), final)) :
    ∃ received sent,
      final = ratcheted suite state newPrivate remoteDh received sent := by
  cases localKey : state.dhSelfPrivate with
  | none => simp [dhRatchet, Prog.run_bind, localKey] at returned
  | some private_ =>
      cases agreedReceived : suite.exchange private_ remoteDh with
      | none =>
          simp [dhRatchet, Prog.run_bind, localKey, agree, agreedReceived] at returned
      | some received =>
          cases agreedSent : suite.exchange newPrivate remoteDh with
          | none =>
              simp [dhRatchet, Prog.run_bind, localKey, agree, agreedReceived,
                agreedSent] at returned
          | some sent =>
              rw [dhRatchet_run localKey agreedReceived agreedSent] at returned
              cases returned
              exact ⟨received, sent, rfl⟩

/-- Entering a chain either changes nothing or is a skip followed by a DH
step. -/
theorem enterChain_returns {state final : RatchetState}
    {newPrivate remoteDh : Bytes} {prevCount : Int}
    (returned : (enterChain suite newPrivate remoteDh prevCount).run state =
      (.ok (), final)) :
    (state.dhRemote = some remoteDh ∧ state.receivingChain ≠ none ∧
        final = state) ∨
      ∃ count received sent, final =
        ratcheted suite (skipTimes suite count state) newPrivate remoteDh
          received sent := by
  by_cases moves : state.dhRemote ≠ some remoteDh ∨ state.receivingChain = none
  · right
    cases receiving : state.receivingChain with
    | none =>
        simp only [enterChain, Prog.run_bind, Prog.run_get, receiving, or_true,
          if_true, Option.isSome_none, Bool.false_eq_true, if_false] at returned
        obtain ⟨received, sent, shape⟩ := dhRatchet_returns returned
        exact ⟨0, received, sent, shape⟩
    | some chain =>
        rw [receiving] at moves
        simp only [enterChain, Prog.run_bind, Prog.run_get, receiving,
          if_pos moves, Option.isSome_some, if_true] at returned
        split at returned
        · rename_i middle skipRun
          obtain ⟨count, rfl⟩ := skipKeys_returns skipRun
          obtain ⟨received, sent, shape⟩ := dhRatchet_returns returned
          exact ⟨count, received, sent, shape⟩
        · cases returned
  · left
    simp only [enterChain, Prog.run_bind, Prog.run_get, if_neg moves,
      Prog.run_pure] at returned
    cases returned
    exact ⟨by simpa using (not_or.mp moves).1, (not_or.mp moves).2, rfl⟩

theorem enterChain_run_same {state : RatchetState}
    {newPrivate remoteDh : Bytes} {prevCount : Int} {chain : Bytes}
    (remoteKey : state.dhRemote = some remoteDh)
    (receiving : state.receivingChain = some chain) :
    (enterChain suite newPrivate remoteDh prevCount).run state =
      (.ok (), state) := by
  simp [enterChain, Prog.run_bind, remoteKey, receiving]

theorem enterChain_run_first {state : RatchetState}
    {private_ newPrivate remoteDh received sent : Bytes} {prevCount : Int}
    (receiving : state.receivingChain = none)
    (localKey : state.dhSelfPrivate = some private_)
    (agreedReceived : suite.exchange private_ remoteDh = some received)
    (agreedSent : suite.exchange newPrivate remoteDh = some sent) :
    (enterChain suite newPrivate remoteDh prevCount).run state =
      (.ok (), ratcheted suite state newPrivate remoteDh received sent) := by
  simp [enterChain, Prog.run_bind, receiving,
    dhRatchet_run localKey agreedReceived agreedSent]

theorem enterChain_run_next {state : RatchetState}
    {private_ newPrivate remoteDh received sent chain : Bytes} {prevCount : Int}
    (different : state.dhRemote ≠ some remoteDh)
    (receiving : state.receivingChain = some chain)
    (close : prevCount ≤ (state.recvCount : Int) + maxSkip)
    (localKey : state.dhSelfPrivate = some private_)
    (agreedReceived : suite.exchange private_ remoteDh = some received)
    (agreedSent : suite.exchange newPrivate remoteDh = some sent) :
    (enterChain suite newPrivate remoteDh prevCount).run state =
      (.ok (), ratcheted suite
        (skipTimes suite (prevCount.toNat - state.recvCount) state)
        newPrivate remoteDh received sent) := by
  have kept : SameKeys state
      (skipTimes suite (prevCount.toNat - state.recvCount) state) :=
    skipTimes_sameKeys _ state
  have skippedLocal := kept.dhSelfPrivate.trans localKey
  simp [enterChain, Prog.run_bind, different, receiving,
    skipKeys_run close receiving,
    dhRatchet_run skippedLocal agreedReceived agreedSent]

/-- A derived key is the next key of the chain after skipping to it. -/
theorem deriveKey_returns {state final : RatchetState} {messageKey : Bytes}
    {number : Int}
    (returned : (deriveKey suite number).run state = (.ok messageKey, final)) :
    ∃ count chain,
      (skipTimes suite count state).receivingChain = some chain ∧
      messageKey = (suite.kdfCk chain).1 ∧
      final = { skipTimes suite count state with
        receivingChain := some (suite.kdfCk chain).2
        recvCount := (skipTimes suite count state).recvCount + 1 } := by
  by_cases old : number < (state.recvCount : Int)
  · simp [deriveKey, Prog.run_bind, old] at returned
  · by_cases far : (state.recvCount : Int) + maxSkip < number
    · simp [deriveKey, Prog.run_bind, old, far] at returned
    · simp only [deriveKey, Prog.run_bind, Prog.run_get, if_neg old,
        if_neg far] at returned
      split at returned
      · rename_i middle skipRun
        obtain ⟨count, rfl⟩ := skipKeys_returns skipRun
        cases chainShape : (skipTimes suite count state).receivingChain with
        | none => simp [chainShape] at returned
        | some chain =>
            simp [chainShape, Prog.run_bind] at returned
            exact ⟨count, chain, chainShape, returned.1.symm, returned.2.symm⟩
      · cases returned

/-- A key that is not yet passed is derived after skipping. -/
theorem deriveKey_run {state : RatchetState} {remoteDh start : Bytes}
    {number : Nat} (ahead : state.recvCount ≤ number)
    (close : number ≤ state.recvCount + maxSkip)
    (remoteKey : state.dhRemote = some remoteDh)
    (receiving : state.receivingChain =
      some (suite.chainKeyAt start state.recvCount)) :
    (deriveKey suite number).run state =
      (.ok (suite.messageKeyAt start number),
        { skipTimes suite (number - state.recvCount) state with
          receivingChain := some (suite.chainKeyAt start (number + 1))
          recvCount := number + 1 }) := by
  have notOld : ¬ (number < state.recvCount) := by omega
  have notFar : ¬ ((state.recvCount : Int) + maxSkip < (number : Int)) := by omega
  have skipRun : (skipKeys suite number).run state =
      (.ok (), skipTimes suite ((number : Int).toNat - state.recvCount) state) :=
    skipKeys_run (by omega) receiving
  rw [Int.toNat_natCast] at skipRun
  obtain ⟨chain, counter, -⟩ :=
    skipTimes_spec receiving remoteKey (number - state.recvCount)
  rw [show state.recvCount + (number - state.recvCount) = number by omega]
    at chain counter
  simp [deriveKey, Prog.run_bind, notOld, notFar, skipRun, chain, counter,
    Suite.messageKeyAt, Suite.chainKeyAt_succ]

theorem takeKey_run_cached {state : RatchetState} {remoteDh messageKey : Bytes}
    {number : Int}
    (cached : state.skipped.get? (remoteDh, number) = some messageKey) :
    (takeKey suite remoteDh number).run state =
      (.ok messageKey, { state with
        skipped := state.skipped.erase (remoteDh, number) }) := by
  simp [takeKey, Prog.run_bind, skippedKey, cached]

theorem takeKey_run_fresh {state : RatchetState} {remoteDh : Bytes}
    {number : Int} (fresh : state.skipped.get? (remoteDh, number) = none) :
    (takeKey suite remoteDh number).run state =
      (deriveKey suite number).run state := by
  simp [takeKey, Prog.run_bind, skippedKey, fresh]

/-- A key that is taken was cached, or is the next key of the chain after
skipping to it. -/
theorem takeKey_returns {state final : RatchetState} {remoteDh messageKey : Bytes}
    {number : Int}
    (returned : (takeKey suite remoteDh number).run state =
      (.ok messageKey, final)) :
    (state.skipped.get? (remoteDh, number) = some messageKey ∧
        final = { state with
          skipped := state.skipped.erase (remoteDh, number) }) ∨
      ∃ count chain,
        (skipTimes suite count state).receivingChain = some chain ∧
        messageKey = (suite.kdfCk chain).1 ∧
        final = { skipTimes suite count state with
          receivingChain := some (suite.kdfCk chain).2
          recvCount := (skipTimes suite count state).recvCount + 1 } := by
  cases cached : state.skipped.get? (remoteDh, number) with
  | some key =>
      rw [takeKey_run_cached cached] at returned
      cases returned
      exact .inl ⟨rfl, rfl⟩
  | none =>
      rw [takeKey_run_fresh cached] at returned
      exact .inr (deriveKey_returns returned)

theorem decrypt_run (newPrivate : Bytes) (header : Json)
    (nonce ciphertext : Bytes) (adContext : Option Json) (state : RatchetState) :
    (decrypt suite newPrivate header nonce ciphertext adContext).run state =
      match (selectKey suite newPrivate header).run state with
      | (.error raised, _) => (.error raised, state)
      | (.ok messageKey, advanced) =>
          match suite.aeadDecrypt messageKey nonce ciphertext
              (associatedData header adContext) with
          | none => (.error .authentication, state)
          | some plaintext => (.ok plaintext, advanced) := by
  simp only [decrypt, Prog.run_bind, Prog.run_get, Prog.run_tryCatch,
    decryptInner]
  rcases (selectKey suite newPrivate header).run state with
    ⟨raised | messageKey, advanced⟩
  · rfl
  · cases opened : suite.aeadDecrypt messageKey nonce ciphertext
        (associatedData header adContext) <;> simp [opened]

/-- A failed decryption leaves the state as it was. -/
theorem decrypt_raises {newPrivate : Bytes} {header : Json}
    {nonce ciphertext : Bytes} {adContext : Option Json}
    {state final : RatchetState} {raised : RatchetError}
    (failed : (decrypt suite newPrivate header nonce ciphertext adContext).run
      state = (.error raised, final)) : final = state := by
  rw [decrypt_run] at failed
  split at failed
  · cases failed
    rfl
  · split at failed
    · cases failed
      rfl
    · cases failed

theorem decrypt_returns {newPrivate : Bytes} {header : Json}
    {nonce ciphertext plaintext : Bytes} {adContext : Option Json}
    {state final : RatchetState}
    (returned : (decrypt suite newPrivate header nonce ciphertext adContext).run
      state = (.ok plaintext, final)) :
    ∃ messageKey,
      (selectKey suite newPrivate header).run state = (.ok messageKey, final) ∧
      suite.aeadDecrypt messageKey nonce ciphertext
        (associatedData header adContext) = some plaintext := by
  rw [decrypt_run] at returned
  split at returned
  · cases returned
  · rename_i messageKey advanced selected
    split at returned
    · cases returned
    · rename_i opened
      cases returned
      exact ⟨messageKey, selected, opened⟩

theorem selectKey_run {newPrivate : Bytes} {header : Json} {remoteDh : Bytes}
    {number prevCount : Int}
    (parsed : parseHeader header = some (remoteDh, number, prevCount))
    {state middle : RatchetState}
    (entered : (enterChain suite newPrivate remoteDh prevCount).run state =
      (.ok (), middle)) :
    (selectKey suite newPrivate header).run state =
      (takeKey suite remoteDh number).run middle := by
  simp [selectKey, parsed, Prog.run_bind, entered]

theorem selectKey_returns {newPrivate : Bytes} {header : Json}
    {state final : RatchetState} {messageKey : Bytes}
    (returned : (selectKey suite newPrivate header).run state =
      (.ok messageKey, final)) :
    ∃ remoteDh number prevCount middle,
      parseHeader header = some (remoteDh, number, prevCount) ∧
      (enterChain suite newPrivate remoteDh prevCount).run state =
        (.ok (), middle) ∧
      (takeKey suite remoteDh number).run middle = (.ok messageKey, final) := by
  unfold selectKey at returned
  split at returned
  · cases returned
  · rename_i remoteDh number prevCount parsed
    obtain ⟨_, middle, entered, taken⟩ := Prog.bind_returns returned
    exact ⟨remoteDh, number, prevCount, middle, parsed, entered, taken⟩

end Ratchet

end NoKnowledge

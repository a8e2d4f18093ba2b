import NoKnowledge.Crypto.RatchetSpec

/-!
# The ladder of a session

The two parties of a session climb one ladder of DH key pairs: rung `0` is the
signed prekey, rung `1` the first key pair of the initiator, and each further
rung is drawn by the party that did not draw the one before.  Two neighbouring
rungs agree on a secret that turns the root key of the lower rung into the root
key and the chain of the upper one.

`EndAt` says what the state of a party that stands on a rung looks like, and
`decrypt_same` and `decrypt_next` what one delivery does to it.
-/

namespace NoKnowledge

namespace Ladder

structure Rung where
  private_ : Bytes
  root : Bytes
  chain : Bytes

variable {suite : Suite} {Private : Bytes → Prop} {rungs : List Rung}

def Rung.public_ (suite : Suite) (rung : Rung) : Bytes :=
  suite.dhPublic rung.private_

/-- Neighbouring rungs are derived from one another. -/
structure Linked (suite : Suite) (Private : Bytes → Prop)
    (rungs : List Rung) : Prop where
  drawn : ∀ rung ∈ rungs, Private rung.private_
  derived : ∀ {position lower upper}, rungs[position]? = some lower →
    rungs[position + 1]? = some upper →
    ∃ shared, suite.exchange upper.private_ (lower.public_ suite) = some shared ∧
      suite.kdfRk lower.root shared = (upper.root, upper.chain)
  distinct : (rungs.map (Rung.public_ suite)).Nodup

theorem Linked.position_unique (linked : Linked suite Private rungs)
    {position position' : Nat} {rung rung' : Rung}
    (here : rungs[position]? = some rung)
    (there : rungs[position']? = some rung')
    (same : rung.public_ suite = rung'.public_ suite) : position = position' := by
  have bound : position < (rungs.map (Rung.public_ suite)).length := by
    rw [List.length_map]
    exact (List.getElem?_eq_some_iff.mp here).1
  refine (List.getElem?_inj bound linked.distinct).mp ?_
  simp [here, there, same]

/-- The lower rung's owner computes the same secret. -/
theorem Linked.derived_below (linked : Linked suite Private rungs)
    (agrees : suite.Agrees Private) {position : Nat} {lower upper : Rung}
    (here : rungs[position]? = some lower)
    (above : rungs[position + 1]? = some upper) :
    ∃ shared, suite.exchange lower.private_ (upper.public_ suite) = some shared ∧
      suite.kdfRk lower.root shared = (upper.root, upper.chain) := by
  obtain ⟨shared, exchanged, derived⟩ := linked.derived here above
  obtain ⟨shared', lowerSide, upperSide⟩ := agrees lower.private_ upper.private_
    (linked.drawn lower (List.mem_of_getElem? here))
    (linked.drawn upper (List.mem_of_getElem? above))
  have same : shared = shared' :=
    Option.some.inj (exchanged.symm.trans upperSide)
  subst same
  exact ⟨shared, lowerSide, derived⟩

/-- Draw the next rung. -/
theorem Linked.extend (linked : Linked suite Private rungs)
    {top new : Rung} (topmost : rungs.getLast? = some top)
    (drawn : Private new.private_) {shared : Bytes}
    (exchanged : suite.exchange new.private_ (top.public_ suite) = some shared)
    (derived : suite.kdfRk top.root shared = (new.root, new.chain))
    (fresh : ∀ rung ∈ rungs, rung.public_ suite ≠ new.public_ suite) :
    Linked suite Private (rungs ++ [new]) where
  drawn := by
    intro rung member
    rcases List.mem_append.mp member with old | added
    · exact linked.drawn rung old
    · rw [List.mem_singleton.mp added]
      exact drawn
  derived := by
    intro position lower upper here above
    rcases Nat.lt_trichotomy (position + 1) rungs.length with inside | last | outside
    · rw [List.getElem?_append_left (by omega)] at here
      rw [List.getElem?_append_left inside] at above
      exact linked.derived here above
    · rw [List.getElem?_append_left (by omega)] at here
      rw [List.getElem?_append_right (by omega), last] at above
      simp only [Nat.sub_self, List.getElem?_cons_zero, Option.some.injEq] at above
      subst above
      rw [List.getLast?_eq_getElem?, ← last, Nat.add_sub_cancel, here] at topmost
      cases topmost
      exact ⟨shared, exchanged, derived⟩
    · rw [List.getElem?_eq_none (by simp; omega)] at above
      cases above
  distinct := by
    rw [List.map_append, List.nodup_append]
    refine ⟨linked.distinct, by simp, ?_⟩
    intro public_ member other last
    obtain ⟨rung, inside, rfl⟩ := List.mem_map.mp member
    simp only [List.map_cons, List.map_nil, List.mem_singleton] at last
    subst last
    exact fresh rung inside

/-- The state of a party that stands on rung `position`. -/
structure EndAt (suite : Suite) (rungs : List Rung) (position : Nat)
    (state : RatchetState) : Prop where
  own : ∃ rung, rungs[position]? = some rung ∧ state.rootKey = rung.root ∧
    state.dhSelfPrivate = some rung.private_ ∧
    state.dhSelfPublic = some (rung.public_ suite)
  silent : position = 0 → state.sendingChain = none
  sending : ∀ rung, 1 ≤ position → rungs[position]? = some rung →
    state.sendingChain = some (suite.chainKeyAt rung.chain state.sendCount)
  waiting : position < 2 → state.receivingChain = none
  remote : ∀ rung below, position = below + 2 → rungs[below + 1]? = some rung →
    state.dhRemote = some (rung.public_ suite)
  receiving : ∀ rung below, position = below + 2 → rungs[below + 1]? = some rung →
    state.receivingChain = some (suite.chainKeyAt rung.chain state.recvCount)

theorem EndAt.append {position : Nat} {state : RatchetState}
    (endAt : EndAt suite rungs position state) (added : List Rung) :
    EndAt suite (rungs ++ added) position state := by
  obtain ⟨rung, here, fields⟩ := endAt.own
  have bound := (List.getElem?_eq_some_iff.mp here).1
  have stays : ∀ {other}, other ≤ position →
      (rungs ++ added)[other]? = rungs[other]? := fun below =>
    List.getElem?_append_left (by omega)
  constructor
  · exact ⟨rung, (stays (Nat.le_refl _)).trans here, fields⟩
  · exact endAt.silent
  · intro rung positive shape
    rw [stays (Nat.le_refl _)] at shape
    exact endAt.sending rung positive shape
  · exact endAt.waiting
  · intro rung below shape found
    rw [stays (by omega)] at found
    exact endAt.remote rung below shape found
  · intro rung below shape found
    rw [stays (by omega)] at found
    exact endAt.receiving rung below shape found

/-- Every cached key is the key its label names. -/
def CacheSound (suite : Suite) (rungs : List Rung) (state : RatchetState) :
    Prop :=
  ∀ label key, state.skipped.get? label = some key →
    ∃ (position number : Nat) (rung : Rung), rungs[position]? = some rung ∧
      label = (rung.public_ suite, (number : Int)) ∧
      key = suite.messageKeyAt rung.chain number

theorem CacheSound.append {state : RatchetState}
    (sound : CacheSound suite rungs state) (added : List Rung) :
    CacheSound suite (rungs ++ added) state := by
  intro label key cached
  obtain ⟨position, number, rung, here, named, shape⟩ := sound label key cached
  have bound := (List.getElem?_eq_some_iff.mp here).1
  exact ⟨position, number, rung,
    (List.getElem?_append_left bound).trans here, named, shape⟩

theorem CacheSound.key (linked : Linked suite Private rungs)
    {state : RatchetState} (sound : CacheSound suite rungs state)
    {position number : Nat} {rung : Rung} (here : rungs[position]? = some rung)
    {key : Bytes}
    (cached : state.skipped.get? (rung.public_ suite, (number : Int)) = some key) :
    key = suite.messageKeyAt rung.chain number := by
  obtain ⟨position', number', rung', there, named, shape⟩ := sound _ _ cached
  simp only [Prod.mk.injEq, Int.natCast_inj] at named
  obtain ⟨samePublic, rfl⟩ := named
  have same := linked.position_unique here there samePublic
  subst same
  rw [here] at there
  cases there
  exact shape

/-- A message of the chain of rung `position`. -/
structure MessageAt (suite : Suite) (rungs : List Rung) (position number : Nat)
    (header : Json) (nonce ciphertext plaintext : Bytes)
    (adContext : Option Json) : Prop where
  fits : nonce.length = nonceSize
  key : ∃ rung, rungs[position]? = some rung ∧
    (∃ prevCount, Ratchet.parseHeader header =
      some (rung.public_ suite, (number : Int), prevCount)) ∧
    suite.aeadEncrypt (suite.messageKeyAt rung.chain number) nonce plaintext
      (Ratchet.associatedData header adContext) = some ciphertext

theorem MessageAt.append {position number : Nat} {header : Json}
    {nonce ciphertext plaintext : Bytes} {adContext : Option Json}
    (message : MessageAt suite rungs position number header nonce ciphertext
      plaintext adContext) (added : List Rung) :
    MessageAt suite (rungs ++ added) position number header nonce ciphertext
      plaintext adContext := by
  obtain ⟨rung, here, rest⟩ := message.key
  have bound := (List.getElem?_eq_some_iff.mp here).1
  exact ⟨message.fits, rung, (List.getElem?_append_left bound).trans here, rest⟩

/-- A header that makes the receiver skip at most `maxSkip` keys of the chain
it leaves and of the chain it enters. -/
def WithinSkip (state : RatchetState) (header : Json) : Prop :=
  ∀ parsed ∈ Ratchet.parseHeader header,
    if state.dhRemote = some parsed.1 ∧ state.receivingChain ≠ none then
      parsed.2.1 ≤ state.recvCount + maxSkip
    else
      parsed.2.1 ≤ maxSkip ∧
        (state.receivingChain ≠ none →
          parsed.2.2 ≤ state.recvCount + maxSkip)

instance (state : RatchetState) (header : Json) :
    Decidable (WithinSkip state header) :=
  inferInstanceAs (Decidable (∀ parsed ∈ Ratchet.parseHeader header, _))

/-- The key of message `number` of the chain of `remoteDh` is behind the
receiving position and not cached. -/
def Consumed (state : RatchetState) (remoteDh : Bytes) (number : Nat) : Prop :=
  number < state.recvCount ∧
    state.skipped.get? (remoteDh, (number : Int)) = none

section Take

variable {position number : Nat} {state : RatchetState} {rung : Rung}

/-- Taking an unconsumed key of the receiving chain yields that key, leaves
the party on its rung and consumes only this key. -/
theorem takeKey_current (linked : Linked suite Private rungs)
    (endAt : EndAt suite rungs (position + 2) state)
    (sound : CacheSound suite rungs state)
    (here : rungs[position + 1]? = some rung)
    (unconsumed : ¬ Consumed state (rung.public_ suite) number)
    (close : number ≤ state.recvCount + maxSkip) :
    ∃ final,
      (Ratchet.takeKey suite (rung.public_ suite) number).run state =
        (.ok (suite.messageKeyAt rung.chain number), final) ∧
      EndAt suite rungs (position + 2) final ∧ CacheSound suite rungs final ∧
      Ratchet.SameKeys state final ∧
      ∀ other, Consumed final (rung.public_ suite) other →
        other = number ∨ Consumed state (rung.public_ suite) other := by
  have remoteKey := endAt.remote rung position rfl here
  have receiving := endAt.receiving rung position rfl here
  have transfer : ∀ final, Ratchet.SameKeys state final →
      final.receivingChain =
        some (suite.chainKeyAt rung.chain final.recvCount) →
      EndAt suite rungs (position + 2) final := by
    intro final same chain
    constructor
    · rw [same.rootKey, same.dhSelfPrivate, same.dhSelfPublic]
      exact endAt.own
    · omega
    · rw [same.sendingChain, same.sendCount]
      exact endAt.sending
    · omega
    · rw [same.dhRemote]
      exact endAt.remote
    · intro rung' below shape found
      obtain rfl : below = position := by omega
      rw [here] at found
      cases found
      exact chain
  cases cached : state.skipped.get? (rung.public_ suite, (number : Int)) with
  | some key =>
      have shape := sound.key linked here cached
      subst shape
      refine ⟨_, Ratchet.takeKey_run_cached cached, ?_, ?_, ?_, ?_⟩
      · exact transfer _ ⟨rfl, rfl, rfl, rfl, rfl, rfl, rfl⟩ receiving
      · intro label key found
        rw [Dict.get?_erase] at found
        split at found
        · cases found
        · exact sound label key found
      · exact ⟨rfl, rfl, rfl, rfl, rfl, rfl, rfl⟩
      · rintro other ⟨behind, missing⟩
        by_cases same : other = number
        · exact .inl same
        · rw [Dict.get?_erase, if_neg] at missing
          · exact .inr ⟨behind, missing⟩
          · simp only [Prod.mk.injEq, true_and]
            omega
  | none =>
      have ahead : state.recvCount ≤ number := by
        by_contra behind
        exact unconsumed ⟨by omega, cached⟩
      obtain ⟨-, -, cache⟩ := Ratchet.skipTimes_spec receiving remoteKey
        (number - state.recvCount)
      have same : Ratchet.SameKeys state { Ratchet.skipTimes suite
          (number - state.recvCount) state with
          receivingChain := some (suite.chainKeyAt rung.chain (number + 1))
          recvCount := number + 1 } := by
        obtain ⟨h1, h2, h3, h4, h5, h6, h7⟩ := Ratchet.skipTimes_sameKeys
          (number - state.recvCount) state
        exact ⟨h1, h2, h3, h4, h5, h6, h7⟩
      refine ⟨_, (Ratchet.takeKey_run_fresh cached).trans
        (Ratchet.deriveKey_run ahead close remoteKey receiving), ?_, ?_, same, ?_⟩
      · exact transfer _ same rfl
      · intro label key found
        rw [cache] at found
        split at found
        · rename_i skipped
          cases found
          refine ⟨position + 1, label.2.toNat, rung, here, ?_, rfl⟩
          exact Prod.ext skipped.1 (by simp; omega)
        · exact sound label key found
      · rintro other ⟨behind, missing⟩
        simp only at behind
        by_cases same : other = number
        · exact .inl same
        · rw [cache] at missing
          split at missing
          · cases missing
          · rename_i unskipped
            refine .inr ⟨?_, missing⟩
            by_contra later
            exact unskipped ⟨rfl, by simp; omega, by simp; omega⟩

end Take

section Deliver

variable {position number : Nat} {state : RatchetState} {header : Json}
  {nonce ciphertext plaintext : Bytes} {adContext : Option Json}

/-- A selected key that opens the ciphertext makes the decryption return. -/
theorem decrypt_of_selectKey {newPrivate messageKey : Bytes}
    {final : RatchetState} (correct : suite.AeadCorrect) (fits : nonce.length = nonceSize)
    (selected : (Ratchet.selectKey suite newPrivate header).run state =
      (.ok messageKey, final))
    (encrypted : suite.aeadEncrypt messageKey nonce plaintext
      (Ratchet.associatedData header adContext) = some ciphertext) :
    (Ratchet.decrypt suite newPrivate header nonce ciphertext adContext).run
      state = (.ok plaintext, final) := by
  rw [Ratchet.decrypt_run, selected]
  simp only [correct _ _ _ _ _ fits encrypted]

/-- A message of the current receiving chain. -/
theorem decrypt_same (correct : suite.AeadCorrect)
    (linked : Linked suite Private rungs)
    (endAt : EndAt suite rungs (position + 2) state)
    (sound : CacheSound suite rungs state)
    (message : MessageAt suite rungs (position + 1) number header nonce
      ciphertext plaintext adContext)
    (unconsumed : ∀ rung, rungs[position + 1]? = some rung →
      ¬ Consumed state (rung.public_ suite) number)
    (within : WithinSkip state header) (newPrivate : Bytes) :
    ∃ final,
      (Ratchet.decrypt suite newPrivate header nonce ciphertext adContext).run
        state = (.ok plaintext, final) ∧
      EndAt suite rungs (position + 2) final ∧ CacheSound suite rungs final ∧
      Ratchet.SameKeys state final ∧
      ∀ rung, rungs[position + 1]? = some rung → ∀ other,
        Consumed final (rung.public_ suite) other →
          other = number ∨ Consumed state (rung.public_ suite) other := by
  obtain ⟨rung, here, ⟨prevCount, parsed⟩, encrypted⟩ := message.key
  have remoteKey := endAt.remote rung position rfl here
  have receiving := endAt.receiving rung position rfl here
  have close := within _ parsed
  rw [if_pos ⟨remoteKey, by simp [receiving]⟩] at close
  simp only at close
  obtain ⟨final, taken, endAt', sound', same, consumed⟩ :=
    takeKey_current linked endAt sound here (unconsumed rung here) (by omega)
  have entered : (Ratchet.enterChain suite newPrivate (rung.public_ suite)
      prevCount).run state = (.ok (), state) :=
    Ratchet.enterChain_run_same remoteKey receiving
  have selected := Ratchet.selectKey_run parsed entered
  refine ⟨final,
    decrypt_of_selectKey correct message.fits (selected.trans taken) encrypted, endAt', sound', same, ?_⟩
  intro rung' there
  rw [here] at there
  cases there
  exact consumed

/-- A DH step puts the party two rungs up. -/
theorem ratcheted_endAt {upper new : Rung} (size : rungs.length = position + 2)
    (above : rungs[position + 1]? = some upper)
    {received sent : Bytes}
    (receivedKeys : suite.kdfRk state.rootKey received =
      (upper.root, upper.chain))
    (sentKeys : suite.kdfRk upper.root sent = (new.root, new.chain)) :
    EndAt suite (rungs ++ [new]) (position + 2)
      (Ratchet.ratcheted suite state new.private_ (upper.public_ suite)
        received sent) := by
  have top : (rungs ++ [new])[position + 2]? = some new := by
    rw [List.getElem?_append_right (by omega), size]
    simp
  have below : (rungs ++ [new])[position + 1]? = some upper :=
    (List.getElem?_append_left (by omega)).trans above
  constructor
  · exact ⟨new, top, by simp [Ratchet.ratcheted, receivedKeys, sentKeys], rfl, rfl⟩
  · omega
  · intro rung _ found
    rw [top] at found
    cases found
    simp [Ratchet.ratcheted, receivedKeys, sentKeys]
  · omega
  · intro rung below' shape found
    obtain rfl : below' = position := by omega
    rw [below] at found
    cases found
    rfl
  · intro rung below' shape found
    obtain rfl : below' = position := by omega
    rw [below] at found
    cases found
    simp [Ratchet.ratcheted, receivedKeys]

/-- Skipping on the chain a party receives keeps the cache sound. -/
theorem skipTimes_sound (endAt : EndAt suite rungs position state)
    (sound : CacheSound suite rungs state) (count : Nat) :
    CacheSound suite rungs (Ratchet.skipTimes suite count state) := by
  rcases Nat.lt_or_ge position 2 with low | high
  · rw [Ratchet.skipTimes_none (endAt.waiting low)]
    exact sound
  · obtain ⟨below, rfl⟩ : ∃ below, position = below + 2 := ⟨position - 2, by omega⟩
    obtain ⟨own, here, -⟩ := endAt.own
    have bound := (List.getElem?_eq_some_iff.mp here).1
    have found : rungs[below + 1]? = some rungs[below + 1] :=
      List.getElem?_eq_getElem (by omega)
    obtain ⟨-, -, cache⟩ := Ratchet.skipTimes_spec
      (endAt.receiving _ below rfl found) (endAt.remote _ below rfl found) count
    intro label key cached
    rw [cache] at cached
    split at cached
    · rename_i skipped
      cases cached
      refine ⟨below + 1, label.2.toNat, _, found, ?_, rfl⟩
      exact Prod.ext skipped.1 (by simp; omega)
    · exact sound label key cached

/-- Entering the chain of the next rung is a DH step, after skipping. -/
theorem enterChain_next (linked : Linked suite Private rungs)
    (agrees : suite.Agrees Private)
    (endAt : EndAt suite rungs position state) {upper : Rung}
    (above : rungs[position + 1]? = some upper) {prevCount number : Int}
    (parsed : Ratchet.parseHeader header =
      some (upper.public_ suite, number, prevCount))
    (within : WithinSkip state header) {newPrivate : Bytes}
    (drawn : Private newPrivate) :
    number ≤ maxSkip ∧ ∃ count received sent,
      (Ratchet.enterChain suite newPrivate (upper.public_ suite) prevCount).run
        state = (.ok (), Ratchet.ratcheted suite
          (Ratchet.skipTimes suite count state) newPrivate
          (upper.public_ suite) received sent) ∧
      suite.kdfRk state.rootKey received = (upper.root, upper.chain) ∧
      suite.exchange newPrivate (upper.public_ suite) = some sent := by
  obtain ⟨own, here, root, localKey, -⟩ := endAt.own
  obtain ⟨received, agreedReceived, derived⟩ :=
    linked.derived_below agrees here above
  obtain ⟨sent, agreedSent, -⟩ := agrees newPrivate upper.private_ drawn
    (linked.drawn upper (List.mem_of_getElem? above))
  rw [← root] at derived
  have close := within _ parsed
  rcases Nat.lt_or_ge position 2 with low | high
  · have receiving := endAt.waiting low
    rw [if_neg (by simp [receiving])] at close
    exact ⟨close.1, 0, received, sent, Ratchet.enterChain_run_first receiving
      localKey agreedReceived agreedSent, derived, agreedSent⟩
  · obtain ⟨below, rfl⟩ : ∃ below, position = below + 2 := ⟨position - 2, by omega⟩
    have bound := (List.getElem?_eq_some_iff.mp here).1
    have found : rungs[below + 1]? = some rungs[below + 1] :=
      List.getElem?_eq_getElem (by omega)
    have receiving := endAt.receiving _ below rfl found
    have different : state.dhRemote ≠ some (upper.public_ suite) := by
      rw [endAt.remote _ below rfl found]
      intro same
      have := linked.position_unique found above (Option.some.inj same)
      omega
    rw [if_neg (fun both => different both.1)] at close
    exact ⟨close.1, _, received, sent, Ratchet.enterChain_run_next different
      receiving (close.2 (by simp [receiving])) localKey agreedReceived agreedSent,
      derived, agreedSent⟩

/-- A message of the chain of the next rung: the receiver draws a new rung. -/
theorem decrypt_next (correct : suite.AeadCorrect)
    (agrees : suite.Agrees Private) (linked : Linked suite Private rungs)
    (size : rungs.length = position + 2)
    (endAt : EndAt suite rungs position state)
    (sound : CacheSound suite rungs state)
    (message : MessageAt suite rungs (position + 1) number header nonce
      ciphertext plaintext adContext)
    (within : WithinSkip state header) {newPrivate : Bytes}
    (drawn : Private newPrivate)
    (fresh : ∀ rung ∈ rungs, rung.public_ suite ≠ suite.dhPublic newPrivate) :
    ∃ new final,
      (Ratchet.decrypt suite newPrivate header nonce ciphertext adContext).run
        state = (.ok plaintext, final) ∧
      new.private_ = newPrivate ∧ Linked suite Private (rungs ++ [new]) ∧
      EndAt suite (rungs ++ [new]) (position + 2) final ∧
      CacheSound suite (rungs ++ [new]) final ∧ final.sendCount = 0 ∧
      final.dhSelfPublic = some (suite.dhPublic newPrivate) ∧
      ∀ rung, rungs[position + 1]? = some rung → ∀ other,
        Consumed final (rung.public_ suite) other → other = number := by
  obtain ⟨upper, above, ⟨prevCount, parsed⟩, encrypted⟩ := message.key
  obtain ⟨close, count, received, sent, entered, receivedKeys, agreedSent⟩ :=
    enterChain_next linked agrees endAt above parsed within drawn
  let new : Rung := {
    private_ := newPrivate
    root := (suite.kdfRk upper.root sent).1
    chain := (suite.kdfRk upper.root sent).2 }
  have linked' : Linked suite Private (rungs ++ [new]) :=
    linked.extend (by rw [List.getLast?_eq_getElem?, size]; exact above) drawn
      agreedSent rfl fresh
  have rootStays : (Ratchet.skipTimes suite count state).rootKey = state.rootKey :=
    (Ratchet.skipTimes_sameKeys count state).rootKey
  have moved : EndAt suite (rungs ++ [new]) (position + 2)
      (Ratchet.ratcheted suite (Ratchet.skipTimes suite count state) newPrivate
        (upper.public_ suite) received sent) :=
    ratcheted_endAt size above (by rw [rootStays, receivedKeys]) rfl
  have movedSound : CacheSound suite (rungs ++ [new])
      (Ratchet.ratcheted suite (Ratchet.skipTimes suite count state) newPrivate
        (upper.public_ suite) received sent) :=
    (skipTimes_sound endAt sound count).append [new]
  have above' : (rungs ++ [new])[position + 1]? = some upper :=
    (List.getElem?_append_left (by omega)).trans above
  obtain ⟨final, taken, endAt', sound', same, consumed⟩ :=
    takeKey_current linked' moved movedSound above'
      (fun behind => Nat.not_lt_zero _ behind.1) (by
        simp only [Ratchet.ratcheted, Nat.zero_add]
        exact_mod_cast close)
  have selected := Ratchet.selectKey_run parsed entered
  refine ⟨new, final,
    decrypt_of_selectKey correct message.fits (selected.trans taken) encrypted, rfl, linked',
    endAt', sound', same.sendCount, same.dhSelfPublic, ?_⟩
  intro rung there other behind
  rw [above] at there
  cases there
  rcases consumed other behind with now | before
  · exact now
  · exact (Nat.not_lt_zero _ before.1).elim

end Deliver

end Ladder

end NoKnowledge

import NoKnowledge.Crypto.RatchetLate

/-!
# The size of the skipped-key cache

A decryption caches the keys it passes: the rest of the old chain on a DH step, and the
keys of the chain of the message below it.  Each of the two gaps alone is bounded.  Here
the size of the cache is followed through both of them and through the key that is taken
out of it, and over the runs of a session.
-/

namespace NoKnowledge

namespace Ratchet

open Prog

variable {suite : Suite}

/-- How many of the keys from a position on are not cached. -/
def uncached (skipped : Dict (Bytes × Int) Bytes) (dh : Option Bytes) (first count : Nat) :
    Nat :=
  ((List.range' first count).filter fun number =>
    (skipped.get? (skippedKey dh (number : Nat))).isNone).length

theorem uncached_succ (skipped : Dict (Bytes × Int) Bytes) (dh : Option Bytes)
    (first count : Nat) :
    uncached skipped dh first (count + 1) =
      (if (skipped.get? (skippedKey dh (first : Nat))).isNone then 1 else 0) +
        uncached skipped dh (first + 1) count := by
  unfold uncached
  rw [List.range'_succ, List.filter_cons]
  split
  · rw [List.length_cons, Nat.add_comm]
  · rw [Nat.zero_add]

theorem uncached_congr {skipped other : Dict (Bytes × Int) Bytes} {dh : Option Bytes}
    {first count : Nat}
    (same : ∀ number, first ≤ number → skipped.get? (skippedKey dh (number : Nat)) =
      other.get? (skippedKey dh (number : Nat))) :
    uncached skipped dh first count = uncached other dh first count := by
  unfold uncached
  congr 1
  apply List.filter_congr
  intro number member
  rw [same number (List.mem_range'_1.mp member).1]

/-- Skipping adds the keys that are not cached yet. -/
theorem size_skipTimes {state : RatchetState} (receiving : state.receivingChain ≠ none)
    (count : Nat) :
    (skipTimes suite count state).skipped.size =
      state.skipped.size + uncached state.skipped state.dhRemote state.recvCount count := by
  induction count generalizing state with
  | zero => rfl
  | succ count induction =>
      obtain ⟨chain, receives⟩ := Option.ne_none_iff_exists'.mp receiving
      have stepped : skipOne suite state = { state with
          receivingChain := some (suite.kdfCk chain).2
          skipped := state.skipped.insert (skippedKey state.dhRemote state.recvCount)
            (suite.kdfCk chain).1
          recvCount := state.recvCount + 1 } := by
        simp [skipOne, receives]
      have later : uncached (skipOne suite state).skipped state.dhRemote
          (state.recvCount + 1) count =
            uncached state.skipped state.dhRemote (state.recvCount + 1) count := by
        apply uncached_congr
        intro number above
        rw [stepped, Dict.get?_insert_of_ne]
        intro same
        have equal : (number : Int) = state.recvCount := congrArg Prod.snd same
        exact absurd (Int.ofNat.inj equal) (Nat.ne_of_gt above)
      rw [skipTimes, induction (by simp [stepped]), uncached_succ]
      rw [stepped] at later ⊢
      rw [later, Dict.size_insert, Nat.add_assoc]

/-- Whatever the chain is of, skipping leaves the keys of other chains alone. -/
theorem get?_skipTimes {state : RatchetState} {label : Bytes × Int}
    (other : label.1 ≠ state.dhRemote.getD []) (count : Nat) :
    (skipTimes suite count state).skipped.get? label = state.skipped.get? label := by
  induction count generalizing state with
  | zero => rfl
  | succ count induction =>
      have same : (skipOne suite state).dhRemote = state.dhRemote :=
        (skipTimes_sameKeys 1 state).dhRemote
      rw [skipTimes, induction (by rw [same]; exact other)]
      unfold skipOne
      split
      · rfl
      · apply Dict.get?_insert_of_ne
        rintro rfl
        exact other rfl

/-- The message opens another chain than the one that is received. -/
def Moves (state : RatchetState) (remoteDh : Bytes) : Prop :=
  state.dhRemote ≠ some remoteDh ∨ state.receivingChain = none

instance (state : RatchetState) (remoteDh : Bytes) : Decidable (Moves state remoteDh) :=
  inferInstanceAs (Decidable (_ ∨ _))

/-- The keys left of the old chain, which a DH step caches. -/
def oldGap (state : RatchetState) (remoteDh : Bytes) (prevCount : Int) : Nat :=
  if Moves state remoteDh ∧ state.receivingChain ≠ none then
    uncached state.skipped state.dhRemote state.recvCount
      (prevCount.toNat - state.recvCount)
  else 0

/-- The keys of the chain of a message below it, unless its own key is cached. -/
def newGap (state : RatchetState) (remoteDh : Bytes) (number : Int) : Nat :=
  if (state.skipped.get? (remoteDh, number)).isSome then 0
  else
    let first := if Moves state remoteDh then 0 else state.recvCount
    uncached state.skipped (some remoteDh) first (number.toNat - first)

/-- The size of the cache once a message is opened. -/
def sizeAfter (state : RatchetState) (header : Json) : Nat :=
  match parseHeader header with
  | none => state.skipped.size
  | some (remoteDh, number, prevCount) =>
      state.skipped.size + oldGap state remoteDh prevCount + newGap state remoteDh number -
        if (state.skipped.get? (remoteDh, number)).isSome then 1 else 0

theorem skipKeys_exact {state final : RatchetState} {limit : Int}
    (returned : (skipKeys suite limit).run state = (.ok (), final)) :
    final = skipTimes suite (limit.toNat - state.recvCount) state := by
  cases receiving : state.receivingChain with
  | none =>
      simp [skipKeys, Prog.run_bind, receiving] at returned
      rw [skipTimes_none receiving, returned]
  | some chain =>
      by_cases far : (state.recvCount : Int) + maxSkip < limit
      · simp [skipKeys, Prog.run_bind, receiving, far] at returned
      · rw [skipKeys_run (Int.not_lt.mp far) receiving] at returned
        cases returned
        rfl

/-- The cache when the chain of a message is entered. -/
theorem enterChain_exact {state final : RatchetState} {newPrivate remoteDh : Bytes}
    {prevCount : Int}
    (returned : (enterChain suite newPrivate remoteDh prevCount).run state =
      (.ok (), final)) :
    (¬ Moves state remoteDh ∧ final = state) ∨
      Moves state remoteDh ∧ final.receivingChain ≠ none ∧ final.recvCount = 0 ∧
        final.dhRemote = some remoteDh ∧
        final.skipped =
          (skipTimes suite (prevCount.toNat - state.recvCount) state).skipped := by
  by_cases moves : state.dhRemote ≠ some remoteDh ∨ state.receivingChain = none
  · right
    refine ⟨moves, ?_⟩
    cases receiving : state.receivingChain with
    | none =>
        simp only [enterChain, Prog.run_bind, Prog.run_get, receiving, or_true, if_true,
          Option.isSome_none, Bool.false_eq_true, if_false] at returned
        obtain ⟨received, sent, rfl⟩ := dhRatchet_returns returned
        rw [skipTimes_none receiving]
        exact ⟨Option.some_ne_none _, rfl, rfl, rfl⟩
    | some chain =>
        rw [receiving] at moves
        simp only [enterChain, Prog.run_bind, Prog.run_get, receiving, if_pos moves,
          Option.isSome_some, if_true] at returned
        split at returned
        · rename_i middle skipped
          obtain ⟨received, sent, rfl⟩ := dhRatchet_returns returned
          rw [← skipKeys_exact skipped]
          exact ⟨Option.some_ne_none _, rfl, rfl, rfl⟩
        · cases returned
  · left
    simp only [enterChain, Prog.run_bind, Prog.run_get, if_neg moves,
      Prog.run_pure] at returned
    cases returned
    exact ⟨moves, rfl⟩

theorem deriveKey_exact {state final : RatchetState} {number : Int} {messageKey : Bytes}
    (returned : (deriveKey suite number).run state = (.ok messageKey, final)) :
    final.skipped = (skipTimes suite (number.toNat - state.recvCount) state).skipped := by
  by_cases old : number < (state.recvCount : Int)
  · simp [deriveKey, Prog.run_bind, old] at returned
  · by_cases far : (state.recvCount : Int) + maxSkip < number
    · simp [deriveKey, Prog.run_bind, old, far] at returned
    · simp only [deriveKey, Prog.run_bind, Prog.run_get, if_neg old, if_neg far] at returned
      split at returned
      · rename_i middle skipRun
        obtain rfl := skipKeys_exact skipRun
        cases chainShape : (skipTimes suite (number.toNat - state.recvCount)
            state).receivingChain with
        | none => simp [chainShape] at returned
        | some chain =>
            simp [chainShape, Prog.run_bind] at returned
            rw [← returned.2]
      · cases returned

/-- A receiving chain is the chain of a remote key. -/
def Joined (state : RatchetState) : Prop :=
  state.receivingChain ≠ none → state.dhRemote ≠ none

/-- The cache of the other chains stays as it is when a chain is left. -/
theorem get?_left {state : RatchetState} {remoteDh : Bytes} (joined : Joined state)
    (moves : Moves state remoteDh) (number : Int) (count : Nat) :
    (skipTimes suite count state).skipped.get? (remoteDh, number) =
      state.skipped.get? (remoteDh, number) := by
  cases receiving : state.receivingChain with
  | none => rw [skipTimes_none receiving]
  | some chain =>
      have receives : state.receivingChain ≠ none := by rw [receiving]; exact nofun
      obtain ⟨remote, remoteKey⟩ := Option.ne_none_iff_exists'.mp (joined receives)
      apply get?_skipTimes
      rw [remoteKey]
      rintro rfl
      exact moves.elim (fun other => other remoteKey) receives

theorem size_left {state : RatchetState} {remoteDh : Bytes} {prevCount : Int}
    (moves : Moves state remoteDh) :
    (skipTimes suite (prevCount.toNat - state.recvCount) state).skipped.size =
      state.skipped.size + oldGap state remoteDh prevCount := by
  unfold oldGap
  by_cases receiving : state.receivingChain = none
  · rw [skipTimes_none receiving, if_neg fun both => both.2 receiving, Nat.add_zero]
  · rw [if_pos ⟨moves, receiving⟩, size_skipTimes receiving]

/-- Taking the key of a message out of the cache, or skipping to it. -/
theorem takeKey_size {state final : RatchetState} {remoteDh messageKey : Bytes}
    {number : Int} (receiving : state.receivingChain ≠ none)
    (remoteKey : state.dhRemote = some remoteDh)
    (returned : (takeKey suite remoteDh number).run state = (.ok messageKey, final)) :
    final.skipped.size =
      if (state.skipped.get? (remoteDh, number)).isSome then state.skipped.size - 1
      else state.skipped.size + uncached state.skipped (some remoteDh) state.recvCount
        (number.toNat - state.recvCount) := by
  cases cached : state.skipped.get? (remoteDh, number) with
  | some key =>
      rw [takeKey_run_cached cached] at returned
      cases returned
      exact Nat.eq_sub_of_add_eq (Dict.size_erase cached)
  | none =>
      rw [takeKey_run_fresh cached] at returned
      rw [deriveKey_exact returned, size_skipTimes receiving, remoteKey]
      rfl

/-- The size of the cache when the key of a message is selected. -/
theorem selectKey_size {state final : RatchetState} {newPrivate messageKey : Bytes}
    {header : Json} (joined : Joined state)
    (returned : (selectKey suite newPrivate header).run state = (.ok messageKey, final)) :
    final.skipped.size = sizeAfter state header := by
  obtain ⟨remoteDh, number, prevCount, middle, parsed, entered, taken⟩ :=
    selectKey_returns returned
  unfold sizeAfter newGap
  rw [parsed]
  dsimp only
  rcases enterChain_exact entered with ⟨stays, rfl⟩ | ⟨moves, receiving, fresh, remoteKey, cache⟩
  · have here := not_or.mp stays
    have remoteKey : middle.dhRemote = some remoteDh := not_not.mp here.1
    rw [takeKey_size here.2 remoteKey taken, if_neg stays]
    have nothing : oldGap middle remoteDh prevCount = 0 := if_neg fun both => stays both.1
    rw [nothing]
    split <;> simp
  · have same := @get?_left suite state remoteDh joined moves
    rw [takeKey_size receiving remoteKey taken, if_pos moves, cache, same, size_left moves,
      fresh]
    have later : uncached (skipTimes suite (prevCount.toNat - state.recvCount) state).skipped
        (some remoteDh) 0 (number.toNat - 0) =
          uncached state.skipped (some remoteDh) 0 (number.toNat - 0) :=
      uncached_congr fun number _ => same number _
    rw [later]
    split <;> simp

/-- The size of the cache after a message that is accepted. -/
theorem decrypt_size {state final : RatchetState} {newPrivate : Bytes} {header : Json}
    {nonce ciphertext plaintext : Bytes} {adContext : Option Json} (joined : Joined state)
    (returned : (decrypt suite newPrivate header nonce ciphertext adContext).run state =
      (.ok plaintext, final)) :
    final.skipped.size = sizeAfter state header := by
  obtain ⟨messageKey, selected, -⟩ := decrypt_returns returned
  exact selectKey_size joined selected

end Ratchet

namespace SingleUse

open Ratchet Prog

variable {suite : Suite}

/-- The caches of both parties hold no more keys than the limit. -/
def Bounded (session : Session) : Prop :=
  ∀ party, (session.ends party).skipped.size ≤ maxSkip

/-- A message that is accepted does not make the cache grow beyond the limit. -/
def HasRoom (suite : Suite) (session : Session) : Action → Prop
  | .encrypt _ _ _ _ => True
  | .attempt party newPrivate header nonce ciphertext adContext =>
      ∀ plaintext final,
        (decrypt suite newPrivate header nonce ciphertext adContext).run
          (session.ends party) = (.ok plaintext, final) →
        sizeAfter (session.ends party) header ≤ maxSkip

theorem ends_update (session : Session) (party other : Party) (state : RatchetState) :
    (session.update party state).ends other =
      if other = party then state else session.ends other := rfl

theorem forall_ends_update {property : RatchetState → Prop} {session : Session}
    {party : Party} {state : RatchetState} (holds : ∀ party, property (session.ends party)) :
    (∀ other, property ((session.update party state).ends other)) ↔ property state := by
  constructor
  · intro all
    have own := all party
    rwa [ends_update, if_pos rfl] at own
  · intro own other
    rw [ends_update]
    split
    · exact own
    · exact holds other

theorem joined_step {session : Session} (joined : ∀ party, Joined (session.ends party))
    (action : Action) (party : Party) : Joined ((step suite session action).ends party) := by
  cases action with
  | encrypt other nonce plaintext adContext =>
      apply (forall_ends_update joined).mpr
      obtain ⟨chain, count, shape⟩ := encrypt_after nonce plaintext adContext
        (session.ends other)
      rw [shape]
      exact joined other
  | attempt other newPrivate header nonce ciphertext adContext =>
      simp only [step]
      split
      · rename_i raised state failed
        rw [decrypt_raises failed]
        exact (forall_ends_update joined).mpr (joined other) party
      · rename_i plaintext state returned
        obtain ⟨messageKey, selected, -⟩ := decrypt_returns returned
        obtain ⟨remoteDh, number, prevCount, -, parsed, -, -⟩ := selectKey_returns selected
        have settled := selectKey_settles parsed selected
        apply (forall_ends_update joined).mpr
        intro _
        rw [settled.2]
        exact Option.some_ne_none _

theorem joined_run {session : Session} (joined : ∀ party, Joined (session.ends party))
    (actions : List Action) (party : Party) :
    Joined ((run suite session actions).ends party) := by
  induction actions generalizing session with
  | nil => exact joined party
  | cons action actions induction => exact induction (joined_step joined action)

theorem joined_start {sessionKey remote newPrivate private_ public_ : Bytes}
    {initiator : RatchetState}
    (started : Ratchet.initiator suite sessionKey remote newPrivate = .ok initiator)
    (party : Party) :
    Joined ((start initiator (Ratchet.responder sessionKey private_ public_)).ends party) := by
  cases party with
  | initiator =>
      unfold Ratchet.initiator at started
      split at started
      · cases started
      · cases started
        exact fun receiving => absurd rfl receiving
  | responder => exact fun receiving => absurd rfl receiving

theorem bounded_start {sessionKey remote newPrivate private_ public_ : Bytes}
    {initiator : RatchetState}
    (started : Ratchet.initiator suite sessionKey remote newPrivate = .ok initiator) :
    Bounded (start initiator (Ratchet.responder sessionKey private_ public_)) := by
  intro party
  cases party with
  | initiator =>
      unfold Ratchet.initiator at started
      split at started
      · cases started
      · cases started
        exact Nat.zero_le _
  | responder => exact Nat.zero_le _

/-- One action keeps the caches bounded exactly when it has room. -/
theorem bounded_step {session : Session} (joined : ∀ party, Joined (session.ends party))
    (bounded : Bounded session) (action : Action) :
    Bounded (step suite session action) ↔ HasRoom suite session action := by
  have updates : ∀ party state, Bounded (session.update party state) ↔
      state.skipped.size ≤ maxSkip := fun party state =>
    @forall_ends_update (fun state => state.skipped.size ≤ maxSkip) session party state bounded
  cases action with
  | encrypt party nonce plaintext adContext =>
      apply iff_of_true _ trivial
      obtain ⟨chain, count, shape⟩ := encrypt_after nonce plaintext adContext
        (session.ends party)
      refine (updates party _).mpr ?_
      rw [shape]
      exact bounded party
  | attempt party newPrivate header nonce ciphertext adContext =>
      unfold HasRoom step
      rcases ran : (decrypt suite newPrivate header nonce ciphertext adContext).run
        (session.ends party) with ⟨result, final⟩
      dsimp only
      simp only [ran]
      cases result with
      | error raised =>
          apply iff_of_true
          · rw [decrypt_raises ran]
            exact (updates party _).mpr (bounded party)
          · intro plaintext other returned
            cases returned
      | ok plaintext =>
          have size := decrypt_size (joined party) ran
          have grows : Bounded (session.update party final) ↔
              sizeAfter (session.ends party) header ≤ maxSkip := by
            rw [updates, size]
          constructor
          · intro holds _ _ _
            exact grows.mp holds
          · intro room
            exact grows.mpr (room plaintext final rfl)

/-- The caches stay bounded throughout a run exactly when every message that is accepted
has room, and a message that is refused leaves the state as it was. -/
theorem skipped_bounded_iff {sessionKey remote newPrivate private_ public_ : Bytes}
    {initiator : RatchetState}
    (started : Ratchet.initiator suite sessionKey remote newPrivate = .ok initiator)
    (actions : List Action) :
    let session := run suite (start initiator (Ratchet.responder sessionKey private_ public_))
    ((∀ before, before <+: actions → Bounded (session before)) ↔
        ∀ before action, before ++ [action] <+: actions →
          HasRoom suite (session before) action) ∧
      ∀ before, before <+: actions → ∀ party drawn header nonce ciphertext adContext raised,
        ((decrypt suite drawn header nonce ciphertext adContext).run
            ((session before).ends party)).1 = .error raised →
          (decrypt suite drawn header nonce ciphertext adContext).after
            ((session before).ends party) = (session before).ends party := by
  intro session
  have joined := fun before => @joined_run suite _
    (@joined_start suite sessionKey remote newPrivate private_ public_ initiator started) before
  have stepped : ∀ before action,
      session (before ++ [action]) = step suite (session before) action :=
    fun before action => List.foldl_append ..
  refine ⟨⟨?_, ?_⟩, ?_⟩
  · intro bounded before action prefixed
    apply (bounded_step (joined before)
      (bounded before ((List.prefix_append _ _).trans prefixed)) action).mp
    rw [← stepped]
    exact bounded _ prefixed
  · intro room before
    induction before using List.reverseRecOn with
    | nil => exact fun _ => bounded_start started
    | append_singleton before action induction =>
        intro prefixed
        rw [stepped]
        exact (bounded_step (joined before)
          (induction ((List.prefix_append _ _).trans prefixed)) action).mpr
            (room before action prefixed)
  · intro before _ party drawn header nonce ciphertext adContext raised failed
    exact decrypt_raises (Prod.ext failed rfl)

/-- The first chain key of the initiator. -/
def firstChain : Bytes := [2, 1, 0, 0, 6, 1, 1, 0, 2]

/-- The initiator after a number of messages. -/
def sentAt (count : Nat) : RatchetState :=
  { exampleInitiator with
    sendingChain := some (Symbolic.suite.chainKeyAt firstChain count)
    sendCount := count }

/-- What the initiator sends as message `number`. -/
def message (number : Nat) : Json × Bytes × Bytes :=
  (makeHeader (sentAt number), [7],
    7 :: Symbolic.pair (Symbolic.suite.messageKeyAt firstChain number) (Symbolic.pair [7]
      (Symbolic.pair (associatedData (makeHeader (sentAt number)) none) [42])))

theorem encrypt_sentAt (number : Nat) :
    (encrypt Symbolic.suite [7] [42] none).run (sentAt number) =
      (.ok (message number), sentAt (number + 1)) := by
  have ran := @encrypt_run Symbolic.suite (sentAt number)
    (Symbolic.suite.chainKeyAt firstChain number) [7] [42] _ none rfl rfl
  rw [ran, ← Suite.chainKeyAt_succ]
  rfl

theorem parsed_message (number : Nat) :
    parseHeader (message number).1 = some ([5, 2], (number : Int), 0) :=
  parseHeader_makeHeader (sentAt number)

theorem authentic_message (number : Nat) :
    Symbolic.suite.aeadDecrypt (Symbolic.suite.messageKeyAt firstChain number) [7]
      (message number).2.2 (associatedData (message number).1 none) = some [42] :=
  Symbolic.aeadDecrypt_aeadEncrypt rfl

/-- The initiator sends messages, all of them lost. -/
def sending (count : Nat) : List Action :=
  List.replicate count (.encrypt .initiator [7] [42] none)

theorem run_sending (count : Nat) :
    (run Symbolic.suite begun (sending count)).ends .initiator = sentAt count ∧
      (run Symbolic.suite begun (sending count)).ends .responder =
        Ratchet.responder [0] [1] [5, 1] := by
  induction count with
  | zero => exact ⟨rfl, rfl⟩
  | succ count induction =>
      have sent : run Symbolic.suite begun (sending (count + 1)) =
          step Symbolic.suite (run Symbolic.suite begun (sending count))
            (.encrypt .initiator [7] [42] none) := by
        rw [sending, List.replicate_succ', run, List.foldl_append]
        rfl
      rw [sent, step, induction.1, after_eq (encrypt_sentAt count)]
      exact ⟨rfl, induction.2⟩

/-- The responder on the chain of the initiator. -/
structure Follows (state : RatchetState) : Prop where
  remoteKey : state.dhRemote = some [5, 2]
  receiving : state.receivingChain =
    some (Symbolic.suite.chainKeyAt firstChain state.recvCount)
  below : ∀ number : Nat, state.recvCount ≤ number →
    state.skipped.get? ([5, 2], (number : Int)) = none

/-- A message of the chain that is not too far is accepted, and what it passes is added
to the cache. -/
theorem Follows.accepts {state : RatchetState} (follows : Follows state) {number : Nat}
    (ahead : state.recvCount ≤ number) (close : number ≤ state.recvCount + maxSkip)
    (drawn : Bytes) :
    ∃ final, (decrypt Symbolic.suite drawn (message number).1 [7] (message number).2.2
        none).run state = (.ok [42], final) ∧
      Follows final ∧ final.recvCount = number + 1 ∧
      final.skipped.size = state.skipped.size + (number - state.recvCount) := by
  have missing := follows.below number ahead
  have selected : (selectKey Symbolic.suite drawn (message number).1).run state =
      (.ok (Symbolic.suite.messageKeyAt firstChain number),
        { skipTimes Symbolic.suite (number - state.recvCount) state with
          receivingChain := some (Symbolic.suite.chainKeyAt firstChain (number + 1))
          recvCount := number + 1 }) := by
    rw [selectKey_run (parsed_message number)
      (enterChain_run_same follows.remoteKey follows.receiving), takeKey_run_fresh missing]
    exact deriveKey_run ahead close follows.remoteKey follows.receiving
  refine ⟨{ skipTimes Symbolic.suite (number - state.recvCount) state with
    receivingChain := some (Symbolic.suite.chainKeyAt firstChain (number + 1))
    recvCount := number + 1 }, ?_, ⟨?_, rfl, ?_⟩, rfl, ?_⟩
  · rw [decrypt_run, selected]
    dsimp only
    rw [authentic_message]
  · exact (skipTimes_sameKeys _ state).dhRemote.trans follows.remoteKey
  · intro other above
    have cached := (skipTimes_spec follows.receiving follows.remoteKey
      (number - state.recvCount)).2.2 ([5, 2], (other : Int))
    have past : ¬ ((other : Int) < (state.recvCount + (number - state.recvCount) : Nat)) := by
      rw [Nat.add_sub_cancel' ahead]
      exact Int.not_lt.mpr (Int.ofNat_le.mpr (Nat.le_of_succ_le above))
    rw [if_neg fun passed => past passed.2.2] at cached
    exact cached.trans (follows.below other (ahead.trans (Nat.le_of_succ_le above)))
  · have receives : state.receivingChain ≠ none := by
      rw [follows.receiving]
      exact nofun
    show (skipTimes _ _ state).skipped.size = _
    rw [size_skipTimes receives, follows.remoteKey, uncached, List.filter_eq_self.mpr,
      List.length_range']
    intro other member
    have above := (List.mem_range'_1.mp member).1
    rw [show skippedKey (some [5, 2]) ((other : Nat) : Int) = ([5, 2], (other : Int)) from rfl,
      follows.below other above]
    rfl

/-- The first message that arrives. -/
theorem responder_accepts {number : Nat} (close : number ≤ maxSkip) :
    ∃ final, (decrypt Symbolic.suite [3] (message number).1 [7] (message number).2.2
        none).run (Ratchet.responder [0] [1] [5, 1]) = (.ok [42], final) ∧
      Follows final ∧ final.recvCount = number + 1 ∧ final.skipped.size = number := by
  obtain ⟨entered, enters, follows, fresh, empty⟩ : ∃ entered,
      (enterChain Symbolic.suite [3] [5, 2] 0).run (Ratchet.responder [0] [1] [5, 1]) =
        (.ok (), entered) ∧
      Follows entered ∧ entered.recvCount = 0 ∧ entered.skipped.size = 0 :=
    ⟨_, enterChain_run_first rfl rfl rfl rfl, ⟨rfl, rfl, fun _ _ => rfl⟩, rfl, rfl⟩
  obtain ⟨final, accepted, finalFollows, counted, size⟩ := @Follows.accepts entered follows
    number (by rw [fresh]; exact Nat.zero_le _) (by rw [fresh, Nat.zero_add]; exact close) [3]
  refine ⟨final, ?_, finalFollows, counted, by rw [size, empty, fresh, Nat.zero_add]; rfl⟩
  obtain ⟨messageKey, selected, opened⟩ := decrypt_returns accepted
  rw [selectKey_run (parsed_message number)
    (enterChain_run_same follows.remoteKey follows.receiving),
    ← selectKey_run (parsed_message number) enters] at selected
  rw [decrypt_run, selected]
  dsimp only
  rw [opened]

/-- The last of three messages arrives before the first one, whose key it has cached. -/
def reordered : List Action :=
  sending 3 ++ [.attempt .responder [3] (message 2).1 [7] (message 2).2.2 none,
    .attempt .responder [3] (message 0).1 [7] (message 0).2.2 none]

theorem hasRoom_reordered {place : Nat} {action : Action}
    (chosen : reordered[place]? = some action) :
    HasRoom Symbolic.suite (run Symbolic.suite begun (reordered.take place)) action := by
  rcases place with _ | _ | _ | _ | _ | place
  · cases chosen
    trivial
  · cases chosen
    trivial
  · cases chosen
    trivial
  · cases chosen
    exact fun _ _ _ => (by decide : 2 ≤ maxSkip)
  · cases chosen
    exact fun _ _ _ => (by decide : 1 ≤ maxSkip)
  · cases chosen

theorem skipped_bounded_iff_reordered :
    let session := run Symbolic.suite begun
    ((session (reordered.take 4)).ends .responder).skipped.size = 2 ∧
      ((session reordered).ends .responder).skipped.size = 1 ∧
      ∀ before, before <+: reordered → Bounded (session before) := by
  refine ⟨rfl, rfl, (skipped_bounded_iff exampleInitiator_started reordered).1.mpr ?_⟩
  rintro before action ⟨rest, whole⟩
  have chosen : reordered[before.length]? = some action := by simp [← whole]
  have taken : reordered.take before.length = before := by simp [← whole]
  have room := hasRoom_reordered chosen
  rwa [taken] at room

/-- The initiator sends a thousand and three messages, and two of them arrive. -/
def twoOfMany : List Action :=
  sending 1003 ++ [.attempt .responder [3] (message 1000).1 [7] (message 1000).2.2 none,
    .attempt .responder [3] (message 1002).1 [7] (message 1002).2.2 none]

theorem run_append_pair (session : Session) (actions : List Action) (first second : Action) :
    run suite session (actions ++ [first, second]) =
      step suite (step suite (run suite session actions) first) second :=
  List.foldl_append ..

theorem ends_attempt {session : Session} {party : Party} {state final : RatchetState}
    {drawn nonce ciphertext plaintext : Bytes} {header : Json} {adContext : Option Json}
    (here : session.ends party = state)
    (accepted : (decrypt suite drawn header nonce ciphertext adContext).run state =
      (.ok plaintext, final)) :
    (step suite session (.attempt party drawn header nonce ciphertext adContext)).ends party =
      final := by
  subst here
  simp only [step, accepted]
  exact if_pos rfl

/-- Each gap is within the limit, and the cache is not. -/
theorem accumulated_gaps_exceed_limit :
    Ratchet.initiator Symbolic.suite [0] [5, 1] [2] = .ok exampleInitiator ∧
      ((run Symbolic.suite (start exampleInitiator (Ratchet.responder [0] [1] [5, 1]))
        twoOfMany).ends .responder).skipped.size = maxSkip + 1 ∧
      ¬ Bounded (run Symbolic.suite
        (start exampleInitiator (Ratchet.responder [0] [1] [5, 1])) twoOfMany) := by
  obtain ⟨first, accepted, follows, counted, size⟩ :=
    @responder_accepts 1000 (Nat.le_refl _)
  obtain ⟨second, accepted', -, -, size'⟩ := @Follows.accepts first follows 1002
    (by rw [counted]; decide) (by rw [counted]; decide) [3]
  have reached : (run Symbolic.suite begun twoOfMany).ends .responder = second := by
    rw [twoOfMany, run_append_pair]
    generalize sent : run Symbolic.suite begun (sending 1003) = session
    have waiting : session.ends .responder = Ratchet.responder [0] [1] [5, 1] :=
      sent ▸ (run_sending 1003).2
    exact ends_attempt (ends_attempt waiting accepted) accepted'
  have exceeds : ((run Symbolic.suite begun twoOfMany).ends .responder).skipped.size =
      maxSkip + 1 := by
    rw [reached, size', size, counted]
    rfl
  have start : SingleUse.start exampleInitiator (Ratchet.responder [0] [1] [5, 1]) = begun := rfl
  rw [start]
  refine ⟨exampleInitiator_started, exceeds, fun bounded => ?_⟩
  have within := bounded .responder
  rw [exceeds] at within
  exact absurd within (Nat.not_succ_le_self maxSkip)

end SingleUse

end NoKnowledge

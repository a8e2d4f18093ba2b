import NoKnowledge.Crypto.RatchetSpec

/-!
# Where message keys come from

Root keys form a chain that starts at the session key; every root key derives
the first key of one message chain.  When the derivations are free of
collisions, a message key determines the depth of its root key and its number
on the chain.

`Ratchet.Tracked` uses these positions to follow the keys of one ratchet: a
key that was used or cached lies behind the current position of the receiving
chain, and no key is both cached and used.  Every operation preserves it,
whatever header it is given.
-/

namespace NoKnowledge

namespace Suite

variable {suite : Suite} {sessionKey : Bytes}

def RootAt (suite : Suite) (sessionKey : Bytes) : Nat → Bytes → Prop :=
  Descends (fun rootKey dhOutput => (suite.kdfRk rootKey dhOutput).1) sessionKey

/-- The first chain key derived from a root key at a depth. -/
def StartsAt (suite : Suite) (sessionKey : Bytes) (depth : Nat)
    (start : Bytes) : Prop :=
  ∃ rootKey dhOutput, suite.RootAt sessionKey depth rootKey ∧
    start = (suite.kdfRk rootKey dhOutput).2

def KeyAt (suite : Suite) (sessionKey : Bytes) (depth number : Nat)
    (messageKey : Bytes) : Prop :=
  ∃ start, suite.StartsAt sessionKey depth start ∧
    messageKey = suite.messageKeyAt start number

/-- The laws under which positions are unique: derivations do not collide and
do not lead back to the session key. -/
structure Positional (suite : Suite) (sessionKey : Bytes) : Prop where
  collisionFree : suite.KdfCollisionFree
  fresh : ∀ rootKey dhOutput, sessionKey ≠ (suite.kdfRk rootKey dhOutput).1

theorem Positional.startsAt_depth_unique (laws : suite.Positional sessionKey)
    {depth depth' : Nat} {start : Bytes}
    (starts : suite.StartsAt sessionKey depth start)
    (starts' : suite.StartsAt sessionKey depth' start) : depth = depth' := by
  obtain ⟨rootKey, dhOutput, root, rfl⟩ := starts
  obtain ⟨rootKey', dhOutput', root', same⟩ := starts'
  have sameRoot := laws.collisionFree.chain same
  subst sameRoot
  exact Descends.depth_unique laws.collisionFree.root laws.fresh root root'

theorem Positional.keyAt_unique (laws : suite.Positional sessionKey)
    {depth depth' number number' : Nat} {messageKey : Bytes}
    (keyAt : suite.KeyAt sessionKey depth number messageKey)
    (keyAt' : suite.KeyAt sessionKey depth' number' messageKey) :
    depth = depth' ∧ number = number' := by
  obtain ⟨start, starts, rfl⟩ := keyAt
  obtain ⟨start', starts', same⟩ := keyAt'
  have sameChain := laws.collisionFree.message same
  have outside : ∀ start,
      (∃ depth, suite.StartsAt sessionKey depth start) →
        ∀ chainKey, start ≠ (suite.kdfCk chainKey).2 := by
    rintro _ ⟨_, rootKey, dhOutput, _, rfl⟩ chainKey
    exact laws.collisionFree.start
  have injective : Function.Injective fun chainKey => (suite.kdfCk chainKey).2 :=
    fun _ _ => laws.collisionFree.next
  obtain ⟨sameNumber, sameStart⟩ := KeyChain.position_unique injective outside
    ⟨depth, starts⟩ ⟨depth', starts'⟩ sameChain
  subst sameStart
  exact ⟨laws.startsAt_depth_unique starts starts', sameNumber⟩

end Suite

namespace Ratchet

variable {suite : Suite} {sessionKey : Bytes}

/-- The key lies behind position `count` of the receiving chain of a ratchet
whose root key is at `depth`, or on an earlier receiving chain.  A receiving
chain is derived two root steps before the root key it leads to. -/
def Passed (suite : Suite) (sessionKey : Bytes) (depth count : Nat)
    (messageKey : Bytes) : Prop :=
  ∃ chainDepth number, suite.KeyAt sessionKey chainDepth number messageKey ∧
    chainDepth % 2 = depth % 2 ∧
    (chainDepth + 2 < depth ∨ chainDepth + 2 = depth ∧ number < count)

theorem Passed.later {depth count : Nat} {messageKey : Bytes}
    (passed : Passed suite sessionKey depth count messageKey) :
    Passed suite sessionKey depth (count + 1) messageKey := by
  obtain ⟨chainDepth, number, keyAt, parity, behind⟩ := passed
  exact ⟨chainDepth, number, keyAt, parity, by omega⟩

theorem Passed.deeper {depth count count' : Nat} {messageKey : Bytes}
    (passed : Passed suite sessionKey depth count messageKey) :
    Passed suite sessionKey (depth + 2) count' messageKey := by
  obtain ⟨chainDepth, number, keyAt, parity, behind⟩ := passed
  exact ⟨chainDepth, number, keyAt, by omega, by omega⟩

/-- The state of one ratchet and the keys it has used. -/
structure Tracked (suite : Suite) (sessionKey : Bytes) (depth : Nat)
    (state : RatchetState) (used : List Bytes) : Prop where
  root : suite.RootAt sessionKey depth state.rootKey
  receiving : ∀ chain, state.receivingChain = some chain →
    ∃ chainDepth start, depth = chainDepth + 2 ∧
      suite.StartsAt sessionKey chainDepth start ∧
      chain = suite.chainKeyAt start state.recvCount
  usedPassed : ∀ key ∈ used,
    Passed suite sessionKey depth state.recvCount key
  cachedPassed : ∀ label key, state.skipped.get? label = some key →
    Passed suite sessionKey depth state.recvCount key
  cachedUnused : ∀ label key, state.skipped.get? label = some key → key ∉ used
  cachedOnce : ∀ label label' key, state.skipped.get? label = some key →
    state.skipped.get? label' = some key → label = label'
  usedOnce : used.Nodup

namespace Tracked

variable {depth : Nat} {state : RatchetState} {used : List Bytes}

theorem ofInitiator {remote newPrivate : Bytes}
    (started : initiator suite sessionKey remote newPrivate = .ok state) :
    Tracked suite sessionKey 1 state [] := by
  unfold initiator at started
  split at started
  · cases started
  · cases started
    constructor <;> simp [Dict.get?_empty]
    exact .step _ .origin

theorem ofResponder (private_ public_ : Bytes) :
    Tracked suite sessionKey 0 (responder sessionKey private_ public_) [] := by
  constructor <;> simp [responder, Dict.get?_empty]
  exact .origin

/-- Fields that the invariant does not mention may change. -/
theorem congr (tracked : Tracked suite sessionKey depth state used)
    {state' : RatchetState} (root : state'.rootKey = state.rootKey)
    (receiving : state'.receivingChain = state.receivingChain)
    (counter : state'.recvCount = state.recvCount)
    (cache : state'.skipped = state.skipped) :
    Tracked suite sessionKey depth state' used := by
  constructor
  · rw [root]
    exact tracked.root
  · rw [receiving, counter]
    exact tracked.receiving
  · rw [counter]
    exact tracked.usedPassed
  · rw [cache, counter]
    exact tracked.cachedPassed
  · rw [cache]
    exact tracked.cachedUnused
  · rw [cache]
    exact tracked.cachedOnce
  · exact tracked.usedOnce

theorem encrypted (tracked : Tracked suite sessionKey depth state used)
    (nonce plaintext : Bytes) (adContext : Option Json) :
    Tracked suite sessionKey depth
      ((encrypt suite nonce plaintext adContext).after state) used := by
  obtain ⟨sendingChain, sendCount, shape⟩ :=
    @encrypt_after suite nonce plaintext adContext state
  rw [shape]
  exact tracked.congr rfl rfl rfl rfl

/-- The next key of the receiving chain lies at its current position. -/
theorem next_keyAt (tracked : Tracked suite sessionKey depth state used)
    {chain : Bytes} (receiving : state.receivingChain = some chain) :
    ∃ chainDepth, depth = chainDepth + 2 ∧
      suite.KeyAt sessionKey chainDepth state.recvCount (suite.kdfCk chain).1 := by
  obtain ⟨chainDepth, start, reached, starts, rfl⟩ :=
    tracked.receiving chain receiving
  exact ⟨chainDepth, reached, start, starts, rfl⟩

theorem next_not_passed (laws : suite.Positional sessionKey)
    (tracked : Tracked suite sessionKey depth state used) {chain : Bytes}
    (receiving : state.receivingChain = some chain) :
    ¬ Passed suite sessionKey depth state.recvCount (suite.kdfCk chain).1 := by
  rintro ⟨chainDepth', number, keyAt', parity, behind⟩
  obtain ⟨chainDepth, reached, keyAt⟩ := tracked.next_keyAt receiving
  obtain ⟨sameDepth, sameNumber⟩ := laws.keyAt_unique keyAt keyAt'
  omega

theorem next_passed (tracked : Tracked suite sessionKey depth state used)
    {chain : Bytes} (receiving : state.receivingChain = some chain) :
    Passed suite sessionKey depth (state.recvCount + 1) (suite.kdfCk chain).1 := by
  obtain ⟨chainDepth, reached, keyAt⟩ := tracked.next_keyAt receiving
  exact ⟨chainDepth, _, keyAt, by omega, by omega⟩

theorem next_receiving (tracked : Tracked suite sessionKey depth state used)
    {chain : Bytes} (receiving : state.receivingChain = some chain) :
    ∃ chainDepth start, depth = chainDepth + 2 ∧
      suite.StartsAt sessionKey chainDepth start ∧
      (suite.kdfCk chain).2 = suite.chainKeyAt start (state.recvCount + 1) := by
  obtain ⟨chainDepth, start, reached, starts, rfl⟩ :=
    tracked.receiving chain receiving
  exact ⟨chainDepth, start, reached, starts,
    (suite.chainKeyAt_succ start state.recvCount).symm⟩

/-- A skipped key enters the cache unused. -/
theorem skippedOne (laws : suite.Positional sessionKey)
    (tracked : Tracked suite sessionKey depth state used) :
    Tracked suite sessionKey depth (skipOne suite state) used := by
  unfold skipOne
  split
  · exact tracked
  · rename_i chain receiving
    have notPassed := tracked.next_not_passed laws receiving
    have distinct : ∀ label key, state.skipped.get? label = some key →
        key ≠ (suite.kdfCk chain).1 := by
      rintro label key cached rfl
      exact notPassed (tracked.cachedPassed label _ cached)
    constructor
    · exact tracked.root
    · intro chain' shape
      cases shape
      exact tracked.next_receiving receiving
    · intro key member
      exact (tracked.usedPassed key member).later
    · intro label key cached
      rw [Dict.get?_insert] at cached
      split at cached
      · cases cached
        exact tracked.next_passed receiving
      · exact (tracked.cachedPassed label key cached).later
    · intro label key cached member
      rw [Dict.get?_insert] at cached
      split at cached
      · cases cached
        exact notPassed (tracked.usedPassed _ member)
      · exact tracked.cachedUnused label key cached member
    · intro label label' key cached cached'
      rw [Dict.get?_insert] at cached cached'
      split at cached <;> split at cached'
      · rename_i here here'
        rw [here, here']
      · cases cached
        exact (distinct label' _ cached' rfl).elim
      · cases cached'
        exact (distinct label _ cached rfl).elim
      · exact tracked.cachedOnce label label' key cached cached'
    · exact tracked.usedOnce

theorem skipped (laws : suite.Positional sessionKey)
    (tracked : Tracked suite sessionKey depth state used) (count : Nat) :
    Tracked suite sessionKey depth (skipTimes suite count state) used := by
  induction count generalizing state with
  | zero => exact tracked
  | succ count induction => exact induction (tracked.skippedOne laws)

/-- A DH step moves the root key two steps down; every old key is behind the
new receiving chain. -/
theorem stepped (tracked : Tracked suite sessionKey depth state used)
    (newPrivate remoteDh received sent : Bytes) :
    Tracked suite sessionKey (depth + 2)
      (ratcheted suite state newPrivate remoteDh received sent) used := by
  constructor
  · exact .step sent (.step received tracked.root)
  · intro chain shape
    cases shape
    exact ⟨depth, _, rfl, ⟨state.rootKey, received, tracked.root, rfl⟩, rfl⟩
  · intro key member
    exact (tracked.usedPassed key member).deeper
  · intro label key cached
    exact (tracked.cachedPassed label key cached).deeper
  · exact tracked.cachedUnused
  · exact tracked.cachedOnce
  · exact tracked.usedOnce

theorem took (laws : suite.Positional sessionKey)
    (tracked : Tracked suite sessionKey depth state used)
    {remoteDh messageKey : Bytes} {number : Int} {final : RatchetState}
    (returned : (takeKey suite remoteDh number).run state =
      (.ok messageKey, final)) :
    Tracked suite sessionKey depth final (messageKey :: used) := by
  rcases takeKey_returns returned with
    ⟨cached, rfl⟩ | ⟨count, chain, receiving, rfl, rfl⟩
  · constructor
    · exact tracked.root
    · exact tracked.receiving
    · intro key member
      rcases List.mem_cons.mp member with rfl | member
      · exact tracked.cachedPassed _ _ cached
      · exact tracked.usedPassed key member
    · intro label key cached'
      rw [Dict.get?_erase] at cached'
      split at cached'
      · cases cached'
      · exact tracked.cachedPassed label key cached'
    · intro label key cached' member
      rw [Dict.get?_erase] at cached'
      split at cached'
      · cases cached'
      · rename_i other
        rcases List.mem_cons.mp member with rfl | member
        · exact other (tracked.cachedOnce _ _ _ cached' cached)
        · exact tracked.cachedUnused label key cached' member
    · intro label label' key cached' cached''
      rw [Dict.get?_erase] at cached' cached''
      split at cached'
      · cases cached'
      · split at cached''
        · cases cached''
        · exact tracked.cachedOnce label label' key cached' cached''
    · exact List.nodup_cons.mpr
        ⟨tracked.cachedUnused _ _ cached, tracked.usedOnce⟩
  · have advanced := tracked.skipped laws count
    have notPassed := advanced.next_not_passed laws receiving
    constructor
    · exact advanced.root
    · intro chain' shape
      cases shape
      exact advanced.next_receiving receiving
    · intro key member
      rcases List.mem_cons.mp member with rfl | member
      · exact advanced.next_passed receiving
      · exact (advanced.usedPassed key member).later
    · intro label key cached
      exact (advanced.cachedPassed label key cached).later
    · intro label key cached member
      rcases List.mem_cons.mp member with rfl | member
      · exact notPassed (advanced.cachedPassed label _ cached)
      · exact advanced.cachedUnused label key cached member
    · exact advanced.cachedOnce
    · refine List.nodup_cons.mpr ⟨?_, advanced.usedOnce⟩
      intro member
      exact notPassed (advanced.usedPassed _ member)

theorem entered (laws : suite.Positional sessionKey)
    (tracked : Tracked suite sessionKey depth state used)
    {newPrivate remoteDh : Bytes} {prevCount : Int} {final : RatchetState}
    (returned : (enterChain suite newPrivate remoteDh prevCount).run state =
      (.ok (), final)) :
    ∃ depth', depth' % 2 = depth % 2 ∧
      Tracked suite sessionKey depth' final used := by
  rcases enterChain_returns returned with
    ⟨_, _, rfl⟩ | ⟨count, received, sent, rfl⟩
  · exact ⟨depth, rfl, tracked⟩
  · exact ⟨depth + 2, by omega,
      (tracked.skipped laws count).stepped newPrivate remoteDh received sent⟩

/-- Selecting a key yields one that was not used before. -/
theorem selected (laws : suite.Positional sessionKey)
    (tracked : Tracked suite sessionKey depth state used)
    {newPrivate : Bytes} {header : Json} {messageKey : Bytes}
    {final : RatchetState}
    (returned : (selectKey suite newPrivate header).run state =
      (.ok messageKey, final)) :
    ∃ depth', depth' % 2 = depth % 2 ∧
      Tracked suite sessionKey depth' final (messageKey :: used) := by
  obtain ⟨remoteDh, number, prevCount, middle, _, enteredRun, takenRun⟩ :=
    selectKey_returns returned
  obtain ⟨depth', parity, trackedMiddle⟩ := tracked.entered laws enteredRun
  exact ⟨depth', parity, trackedMiddle.took laws takenRun⟩

/-- Every used key has a position of the parity of the depth. -/
theorem used_keyAt (tracked : Tracked suite sessionKey depth state used)
    {key : Bytes} (member : key ∈ used) :
    ∃ chainDepth number, suite.KeyAt sessionKey chainDepth number key ∧
      chainDepth % 2 = depth % 2 := by
  obtain ⟨chainDepth, number, keyAt, parity, _⟩ := tracked.usedPassed key member
  exact ⟨chainDepth, number, keyAt, parity⟩

end Tracked

/-- The keys used by two ratchets of one session at depths of different parity
are different. -/
theorem used_disjoint (laws : suite.Positional sessionKey)
    {depth depth' : Nat} {state state' : RatchetState} {used used' : List Bytes}
    (tracked : Tracked suite sessionKey depth state used)
    (tracked' : Tracked suite sessionKey depth' state' used')
    (parity : depth % 2 ≠ depth' % 2) : List.Disjoint used used' := by
  intro key member member'
  obtain ⟨chainDepth, number, keyAt, same⟩ := tracked.used_keyAt member
  obtain ⟨chainDepth', number', keyAt', same'⟩ := tracked'.used_keyAt member'
  have sameDepth := (laws.keyAt_unique keyAt keyAt').1
  omega

end Ratchet

end NoKnowledge

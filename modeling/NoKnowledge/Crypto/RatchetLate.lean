import NoKnowledge.Crypto.RatchetSingleUse
import NoKnowledge.Foundation.Indistinguishable

/-!
# Late messages

A message arrives after its key was skipped and cached.  As long as the peer is
still on the chain of that message the cache alone is consulted.  When the peer
has moved on, the DH step is taken before the cache is looked up.
-/

namespace NoKnowledge

namespace Ratchet

open Prog

variable {suite : Suite}

/-- The state with another cache. -/
def withCache (state : RatchetState) (cache : Dict (Bytes × Int) Bytes) : RatchetState :=
  { state with skipped := cache }

section Fields

variable (state : RatchetState) (cache : Dict (Bytes × Int) Bytes)

@[simp] theorem withCache_receivingChain :
    (withCache state cache).receivingChain = state.receivingChain := rfl

@[simp] theorem withCache_recvCount : (withCache state cache).recvCount = state.recvCount := rfl

@[simp] theorem withCache_dhRemote : (withCache state cache).dhRemote = state.dhRemote := rfl

@[simp] theorem withCache_dhSelfPrivate :
    (withCache state cache).dhSelfPrivate = state.dhSelfPrivate := rfl

@[simp] theorem withCache_skipped : (withCache state cache).skipped = cache := rfl

end Fields

/-- The states agree on everything but what is cached under a label. -/
inductive SameBut (label : Bytes × Int) (state : RatchetState) : RatchetState → Prop
  | cached {cache : Dict (Bytes × Int) Bytes}
      (agree : ∀ other, other ≠ label → cache.get? other = state.skipped.get? other) :
      SameBut label state (withCache state cache)

variable {label : Bytes × Int}

theorem SameBut.erased (label : Bytes × Int) (state : RatchetState) :
    SameBut label state (withCache state (state.skipped.erase label)) := by
  apply SameBut.cached
  intro other different
  rw [Dict.get?_erase, if_neg different]

theorem SameBut.skipOne {state state' : RatchetState} (same : SameBut label state state') :
    SameBut label (skipOne suite state) (skipOne suite state') := by
  obtain ⟨agree⟩ := same
  rename_i cache
  unfold Ratchet.skipOne
  rw [withCache_receivingChain]
  split
  · exact .cached agree
  · apply SameBut.cached
    intro other different
    simp only [Dict.get?_insert, withCache_skipped, withCache_dhRemote, withCache_recvCount,
      agree other different]

theorem SameBut.skipTimes {state state' : RatchetState} (same : SameBut label state state')
    (count : Nat) :
    SameBut label (skipTimes suite count state) (skipTimes suite count state') := by
  induction count generalizing state state' with
  | zero => exact same
  | succ count induction => exact induction same.skipOne

theorem blind_skipKeys (limit : Int) : Blind (SameBut label) (skipKeys suite limit) := by
  apply related_bind related_get
  rintro state _ ⟨agree⟩
  have same := SameBut.cached agree
  simp only [withCache_receivingChain, withCache_recvCount]
  apply related_ite
  · exact fun _ => blind_pure _
  intro _
  apply related_ite
  · intro _
    apply related_bind (related_throw _) fun _ _ (_ : True) => ?_
    exact related_set (same.skipTimes _)
  · exact fun _ => related_set (same.skipTimes _)

theorem blind_agree (private_ public_ : Bytes) :
    Blind (SameBut label) (agree suite private_ public_) := by
  unfold agree
  split
  · exact blind_pure _
  · exact related_throw _

theorem blind_dhRatchet (newPrivate remoteDh : Bytes) :
    Blind (SameBut label) (dhRatchet suite newPrivate remoteDh) := by
  apply blind_bind
  · apply blind_modify
    rintro state _ ⟨agree⟩
    exact .cached agree
  intro _
  apply related_bind related_get
  rintro state _ ⟨agree⟩
  rw [withCache_dhSelfPrivate]
  split
  · exact related_throw _
  · apply related_bind (blind_agree _ _)
    rintro received _ rfl
    dsimp only
    refine related_bind (related_set (SameBut.cached agree)) ?_
    rintro _ _ -
    apply blind_bind
    · apply blind_modify
      rintro state _ ⟨agree⟩
      exact .cached agree
    intro _
    apply blind_bind (blind_agree _ _)
    intro sent
    apply blind_modify
    rintro state _ ⟨agree⟩
    exact .cached agree

theorem blind_enterChain (newPrivate remoteDh : Bytes) (prevCount : Int) :
    Blind (SameBut label) (enterChain suite newPrivate remoteDh prevCount) := by
  apply related_bind related_get
  rintro state _ ⟨agree⟩
  rw [withCache_dhRemote, withCache_receivingChain]
  apply blind_ite
  · intro moves
    apply blind_ite
    · exact fun _ => blind_bind (blind_skipKeys _) fun _ => blind_dhRatchet _ _
    · exact fun _ => blind_dhRatchet _ _
  · exact fun _ => blind_pure _

theorem blind_skipAndTake (number : Int) :
    Blind (SameBut label) (do
      skipKeys suite number
      let state ← get
      match state.receivingChain with
      | none => throw .noLocalKey
      | some chain =>
          let derived := suite.kdfCk chain
          set { state with
            receivingChain := some derived.2
            recvCount := state.recvCount + 1 }
          return derived.1) := by
  apply blind_bind (blind_skipKeys _)
  intro _
  apply related_bind related_get
  rintro state _ ⟨agree⟩
  rw [withCache_receivingChain]
  split
  · exact related_throw _
  · refine related_bind (related_set (SameBut.cached agree)) ?_
    rintro _ _ -
    exact blind_pure _

theorem blind_deriveKey (number : Int) :
    Blind (SameBut label) (deriveKey suite number) := by
  have taken := @blind_skipAndTake suite label number
  apply related_bind related_get
  rintro state _ ⟨agree⟩
  rw [withCache_recvCount]
  dsimp only
  apply blind_ite
  · exact fun _ => blind_bind (related_throw _) fun _ =>
      blind_ite (fun _ => blind_bind (related_throw _) fun _ => taken) fun _ => taken
  · exact fun _ =>
      blind_ite (fun _ => blind_bind (related_throw _) fun _ => taken) fun _ => taken

theorem blind_takeKey {remoteDh : Bytes} {number : Int}
    (other : (remoteDh, number) ≠ label) :
    Blind (SameBut label) (takeKey suite remoteDh number) := by
  apply related_bind related_get
  rintro state _ ⟨agree⟩
  have found := agree _ other
  rw [withCache_skipped]
  dsimp only [skippedKey, Option.getD_some]
  rw [found]
  split
  · apply related_bind (related_set ?_)
    · rintro _ _ -
      exact blind_pure _
    · apply SameBut.cached
      intro label' different
      simp only [Dict.get?_erase, agree label' different]
  · exact blind_deriveKey number

/-- A key that is selected under another label does not depend on what is cached
under this one. -/
theorem blind_selectKey {newPrivate : Bytes} {header : Json} {remoteDh : Bytes}
    {number prevCount : Int}
    (parsed : parseHeader header = some (remoteDh, number, prevCount))
    (other : (remoteDh, number) ≠ label) :
    Blind (SameBut label) (selectKey suite newPrivate header) := by
  unfold selectKey
  rw [parsed]
  exact blind_bind (blind_enterChain _ _ _) fun _ => blind_takeKey other

theorem decrypt_sameBut {newPrivate : Bytes} {header : Json} {remoteDh : Bytes}
    {number prevCount : Int}
    (parsed : parseHeader header = some (remoteDh, number, prevCount))
    (other : (remoteDh, number) ≠ label) {state state' : RatchetState}
    (same : SameBut label state state') (nonce ciphertext : Bytes)
    (adContext : Option Json) :
    ((decrypt suite newPrivate header nonce ciphertext adContext).run state').1 =
      ((decrypt suite newPrivate header nonce ciphertext adContext).run state).1 := by
  have blind : Blind (SameBut label) (selectKey suite newPrivate header) :=
    blind_selectKey parsed other
  obtain ⟨sameKey, -⟩ := blind.same same
  rw [decrypt_run, decrypt_run]
  generalize (selectKey suite newPrivate header).run state = first at sameKey ⊢
  generalize (selectKey suite newPrivate header).run state' = second at sameKey ⊢
  obtain ⟨result, advanced⟩ := first
  obtain ⟨result', advanced'⟩ := second
  cases sameKey
  cases result with
  | error raised => rfl
  | ok messageKey =>
      dsimp only
      cases suite.aeadDecrypt messageKey nonce ciphertext
        (associatedData header adContext) <;> rfl

/-- Keys are cached only once a chain is received on. -/
def Primed (state : RatchetState) : Prop :=
  state.receivingChain = none → ∀ label, state.skipped.get? label = none

/-- After a key was selected a chain is received on, and its peer key is the one the
header names. -/
theorem selectKey_settles {state final : RatchetState} {newPrivate : Bytes}
    {header : Json} {remoteDh messageKey : Bytes}
    {number prevCount : Int}
    (parsed : parseHeader header = some (remoteDh, number, prevCount))
    (returned : (selectKey suite newPrivate header).run state = (.ok messageKey, final)) :
    final.receivingChain ≠ none ∧ final.dhRemote = some remoteDh := by
  obtain ⟨remoteDh', number', prevCount', middle, parsed', entered, taken⟩ :=
    selectKey_returns returned
  rw [parsed] at parsed'
  cases parsed'
  have settled : middle.receivingChain ≠ none ∧ middle.dhRemote = some remoteDh := by
    rcases enterChain_returns entered with ⟨remote, receiving, rfl⟩ | ⟨_, _, _, rfl⟩
    · exact ⟨receiving, remote⟩
    · exact ⟨Option.some_ne_none _, rfl⟩
  rcases takeKey_returns taken with ⟨-, rfl⟩ | ⟨count, chain, -, -, rfl⟩
  · exact settled
  · exact ⟨Option.some_ne_none _, (skipTimes_sameKeys count middle).dhRemote.trans settled.2⟩

end Ratchet

namespace SingleUse

open Ratchet Prog

variable {suite : Suite}

/-- A ratchet of either party, in any run of a session. -/
def Reachable (suite : Suite) (state : RatchetState) : Prop :=
  ∃ sessionKey remote newPrivate private_ public_ initiator actions party,
    Ratchet.initiator suite sessionKey remote newPrivate = .ok initiator ∧
    state = (run suite (start initiator
      (Ratchet.responder sessionKey private_ public_)) actions).ends party

theorem primed_step {session : Session} (primed : ∀ party, Primed (session.ends party))
    (action : Action) (party : Party) : Primed ((step suite session action).ends party) := by
  have updated : ∀ {other : Party} {state : RatchetState}, Primed state →
      Primed ((session.update other state).ends party) := by
    intro other state primedState
    by_cases same : party = other
    · simpa [Session.update, same] using primedState
    · simpa [Session.update, same] using primed party
  cases action with
  | encrypt other nonce plaintext adContext =>
      apply updated
      obtain ⟨chain, count, shape⟩ :=
        encrypt_after nonce plaintext adContext (session.ends other)
      rw [shape]
      exact primed other
  | attempt other newPrivate header nonce ciphertext adContext =>
      simp only [step]
      split
      · rename_i raised state failed
        rw [decrypt_raises failed]
        exact updated (primed other)
      · rename_i plaintext state returned
        obtain ⟨messageKey, selected, -⟩ := decrypt_returns returned
        obtain ⟨remoteDh, number, prevCount, -, parsed, -, -⟩ := selectKey_returns selected
        have settled := selectKey_settles parsed selected
        exact updated fun nothing => absurd nothing settled.1

theorem primed_run {session : Session} (primed : ∀ party, Primed (session.ends party))
    (actions : List Action) (party : Party) :
    Primed ((run suite session actions).ends party) := by
  induction actions generalizing session with
  | nil => exact primed party
  | cons action actions induction => exact induction (primed_step primed action)

theorem Reachable.primed {state : RatchetState} (reached : Reachable suite state) :
    Primed state := by
  obtain ⟨sessionKey, remote, newPrivate, private_, public_, initiator, actions, party,
    started, rfl⟩ := reached
  apply primed_run
  intro party
  cases party with
  | initiator =>
      unfold Ratchet.initiator at started
      split at started
      · cases started
      · cases started
        exact fun _ _ => rfl
  | responder => exact fun _ _ => rfl

/-- What a late message may do: it is opened, its key is forgotten and nothing else
changes, so that every other message still opens. -/
structure Harmless (suite : Suite) (state : RatchetState) (label : Bytes × Int)
    (plaintext : Bytes) (outcome : Except RatchetError Bytes × RatchetState) : Prop where
  opened : outcome.1 = .ok plaintext
  forgotten : outcome.2 = { state with skipped := state.skipped.erase label }
  others : ∀ newPrivate header nonce ciphertext adContext remoteDh number prevCount plaintext',
    parseHeader header = some (remoteDh, number, prevCount) → (remoteDh, number) ≠ label →
    ((decrypt suite newPrivate header nonce ciphertext adContext).run state).1 =
      .ok plaintext' →
    ((decrypt suite newPrivate header nonce ciphertext adContext).run outcome.2).1 =
      .ok plaintext'

/-- A late message is harmless exactly when the peer is still on its chain. -/
theorem late_message_harmless_iff {state : RatchetState} (reached : Reachable suite state)
    {header : Json} {remoteDh messageKey nonce ciphertext plaintext : Bytes}
    {number prevCount : Int} {adContext : Option Json}
    (parsed : parseHeader header = some (remoteDh, number, prevCount))
    (held : state.skipped.get? (remoteDh, number) = some messageKey)
    (authentic : suite.aeadDecrypt messageKey nonce ciphertext
      (associatedData header adContext) = some plaintext) (newPrivate : Bytes) :
    Harmless suite state (remoteDh, number) plaintext
        ((decrypt suite newPrivate header nonce ciphertext adContext).run state) ↔
      state.dhRemote = some remoteDh := by
  have receiving : ∃ chain, state.receivingChain = some chain := by
    apply Option.ne_none_iff_exists'.mp
    intro nothing
    rw [reached.primed nothing] at held
    cases held
  constructor
  · intro harmless
    generalize ran : (decrypt suite newPrivate header nonce ciphertext adContext).run state =
      outcome at harmless
    obtain ⟨result, final⟩ := outcome
    have opened : result = .ok plaintext := harmless.opened
    have forgotten : final = { state with skipped := state.skipped.erase (remoteDh, number) } :=
      harmless.forgotten
    subst opened
    obtain ⟨key, selected, -⟩ := decrypt_returns ran
    have settled := selectKey_settles parsed selected
    rw [forgotten] at settled
    exact settled.2
  · intro current
    obtain ⟨chain, receives⟩ := receiving
    have selected : (selectKey suite newPrivate header).run state =
        (.ok messageKey, { state with skipped := state.skipped.erase (remoteDh, number) }) := by
      rw [selectKey_run parsed (enterChain_run_same current receives)]
      exact takeKey_run_cached held
    have ran : (decrypt suite newPrivate header nonce ciphertext adContext).run state =
        (.ok plaintext, { state with skipped := state.skipped.erase (remoteDh, number) }) := by
      rw [decrypt_run, selected]
      dsimp only
      rw [authentic]
    rw [ran]
    refine ⟨rfl, rfl, ?_⟩
    intro newPrivate' header' nonce' ciphertext' adContext' remoteDh' number' prevCount'
      plaintext' parsed' other opened
    have same := @decrypt_sameBut suite _ newPrivate' _ _ _ _ parsed' other _ _
      (SameBut.erased _ state) nonce' ciphertext' adContext'
    exact same.trans opened

/-- What a party would send in a session. -/
def posted (session : Session) (party : Party) (nonce plaintext : Bytes) :
    Json × Bytes × Bytes :=
  ((Ratchet.encrypt Symbolic.suite nonce plaintext none).run (session.ends party)).1.toOption.getD
    (.null, [], [])

def sendsIn (session : Session) (party : Party) (plaintext : Bytes) : Session :=
  step Symbolic.suite session (.encrypt party [7] plaintext none)

def receivesIn (session : Session) (party : Party) (newPrivate : Bytes)
    (message : Json × Bytes × Bytes) : Session :=
  step Symbolic.suite session
    (.attempt party newPrivate message.1 message.2.1 message.2.2 none)

def begun : Session := start exampleInitiator (Ratchet.responder [0] [1] [5, 1])

/-- The first message, which arrives late. -/
def late : Json × Bytes × Bytes := posted begun .initiator [7] [42]

def overtaken : Session := sendsIn begun .initiator [42]

def skipping : Session :=
  receivesIn (sendsIn overtaken .initiator [43]) .responder [3]
    (posted overtaken .initiator [7] [43])

def answered : Session :=
  receivesIn (sendsIn skipping .responder [44]) .initiator [4]
    (posted skipping .responder [7] [44])

def moved : Session :=
  receivesIn (sendsIn answered .initiator [45]) .responder [6]
    (posted answered .initiator [7] [45])

/-- The key of the first message. -/
def lateKey : Bytes := [3, 2, 1, 0, 0, 6, 1, 1, 0, 2]

theorem late_authentic : parseHeader late.1 = some ([5, 2], 0, 0) ∧
    Symbolic.suite.aeadDecrypt lateKey late.2.1 late.2.2 (associatedData late.1 none) =
      some [42] := by
  decide +kernel

/-- A session that actions lead to from the start. -/
def Led (session : Session) : Prop :=
  ∃ actions, session = run Symbolic.suite begun actions

theorem Led.step {session : Session} (led : Led session) (action : Action) :
    Led (SingleUse.step Symbolic.suite session action) := by
  obtain ⟨actions, rfl⟩ := led
  exact ⟨actions ++ [action], by simp [run]⟩

theorem Led.reachable {session : Session} (led : Led session) (party : Party) :
    Reachable Symbolic.suite (session.ends party) := by
  obtain ⟨actions, rfl⟩ := led
  exact ⟨[0], [5, 1], [2], [1], [5, 1], exampleInitiator, actions, party,
    exampleInitiator_started, rfl⟩

theorem Led.sends {session : Session} (led : Led session) (party : Party)
    (plaintext : Bytes) : Led (sendsIn session party plaintext) :=
  led.step (.encrypt party [7] plaintext none)

theorem Led.receives {session : Session} (led : Led session) (party : Party)
    (newPrivate : Bytes) (message : Json × Bytes × Bytes) :
    Led (receivesIn session party newPrivate message) :=
  led.step (.attempt party newPrivate message.1 message.2.1 message.2.2 none)

theorem led_skipping : Led skipping := by
  have started : Led begun := ⟨[], rfl⟩
  exact ((started.sends _ _).sends _ _).receives _ _ _

theorem led_moved : Led moved := by
  have received : Led answered := (led_skipping.sends _ _).receives _ _ _
  exact (received.sends _ _).receives _ _ _

theorem late_held : (skipping.ends .responder).skipped.get? ([5, 2], 0) = some lateKey ∧
    (skipping.ends .responder).dhRemote = some [5, 2] ∧
    (moved.ends .responder).skipped.get? ([5, 2], 0) = some lateKey ∧
    (moved.ends .responder).dhRemote = some [5, 4] ∧
    ((decrypt Symbolic.suite [9] late.1 late.2.1 late.2.2 none).run
      (moved.ends .responder)).2.dhRemote = some [5, 2] := by
  decide +kernel

theorem late_message_harmless_on_its_chain :
    Harmless Symbolic.suite (skipping.ends .responder) ([5, 2], 0) [42]
      ((decrypt Symbolic.suite [9] late.1 late.2.1 late.2.2 none).run
        (skipping.ends .responder)) :=
  (late_message_harmless_iff (led_skipping.reachable _) late_authentic.1 late_held.1
    late_authentic.2 [9]).mpr late_held.2.1

/-- Once the peer has moved on, its late message takes the session back to a chain
the peer has left. -/
theorem late_message_moves_session_back :
    Reachable Symbolic.suite (moved.ends .responder) ∧
      parseHeader late.1 = some ([5, 2], 0, 0) ∧
      (moved.ends .responder).skipped.get? ([5, 2], 0) = some lateKey ∧
      Symbolic.suite.aeadDecrypt lateKey late.2.1 late.2.2 (associatedData late.1 none) =
        some [42] ∧
      ¬ Harmless Symbolic.suite (moved.ends .responder) ([5, 2], 0) [42]
        ((decrypt Symbolic.suite [9] late.1 late.2.1 late.2.2 none).run
          (moved.ends .responder)) := by
  obtain ⟨-, -, held, current, back⟩ := late_held
  refine ⟨led_moved.reachable _, late_authentic.1, held, late_authentic.2, ?_⟩
  intro harmless
  have stays : ((decrypt Symbolic.suite [9] late.1 late.2.1 late.2.2 none).run
      (moved.ends .responder)).2.dhRemote = (moved.ends .responder).dhRemote := by
    rw [harmless.forgotten]
  rw [stays, current] at back
  exact absurd back (by decide)

end SingleUse

end NoKnowledge

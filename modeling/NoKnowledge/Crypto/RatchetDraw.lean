import NoKnowledge.Crypto.RatchetSpec
import NoKnowledge.Foundation.Indistinguishable
import NoKnowledge.Wire.Protocol

/-!
# The key pair a decryption draws

A decryption that has to perform a DH step draws a key pair for the answers to
come.  What it returns does not depend on that key pair: the received chain comes
from the key pair the peer already knows.
-/

namespace NoKnowledge

/-- A public key that one private key of the right size is refused with is refused with
every private key. -/
def Suite.RefusesPublic (suite : Suite) : Prop :=
  ∀ private_ private_' public_, private_.length = keySize →
    suite.exchange private_ public_ = none → suite.exchange private_' public_ = none

namespace Ratchet

open Prog

variable {suite : Suite}

/-- The states agree on everything a key is received from, and may differ in the
own key pair and what is sent under it. -/
inductive SameReceiving (state : RatchetState) : RatchetState → Prop
  | own (rootKey : Bytes) (sendingChain dhSelfPrivate dhSelfPublic : Option Bytes) :
      SameReceiving state
        { state with rootKey, sendingChain, dhSelfPrivate, dhSelfPublic }

theorem SameReceiving.refl (state : RatchetState) : SameReceiving state state :=
  .own state.rootKey state.sendingChain state.dhSelfPrivate state.dhSelfPublic

theorem SameReceiving.skipOne {state state' : RatchetState}
    (same : SameReceiving state state') :
    SameReceiving (skipOne suite state) (skipOne suite state') := by
  obtain ⟨rootKey, sendingChain, dhSelfPrivate, dhSelfPublic⟩ := same
  unfold Ratchet.skipOne
  dsimp only
  split
  · exact .own _ _ _ _
  · exact .own _ _ _ _

theorem SameReceiving.skipTimes {state state' : RatchetState}
    (same : SameReceiving state state') (count : Nat) :
    SameReceiving (skipTimes suite count state) (skipTimes suite count state') := by
  induction count generalizing state state' with
  | zero => exact same
  | succ count induction => exact induction same.skipOne

theorem receiving_skipKeys (limit : Int) :
    Blind SameReceiving (skipKeys suite limit) := by
  apply related_bind related_get
  intro state state' same
  have skipped := @SameReceiving.skipTimes suite _ _ same
  obtain ⟨rootKey, sendingChain, dhSelfPrivate, dhSelfPublic⟩ := same
  dsimp only at skipped ⊢
  apply related_ite
  · exact fun _ => blind_pure _
  intro _
  apply related_ite
  · intro _
    apply related_bind (related_throw _) fun _ _ (_ : True) => ?_
    exact related_set (skipped _)
  · exact fun _ => related_set (skipped _)

theorem receiving_skipAndTake (number : Int) :
    Blind SameReceiving (do
      skipKeys suite number
      let state ← get
      match state.receivingChain with
      | none => throw .noLocalKey
      | some chain =>
          let derived := suite.kdfCk chain
          set { state with
            receivingChain := some derived.2
            recvCount := state.recvCount + 1 }
          return derived.1) := by
  apply blind_bind (receiving_skipKeys _)
  intro _
  apply related_bind related_get
  rintro state _ ⟨rootKey, sendingChain, dhSelfPrivate, dhSelfPublic⟩
  dsimp only
  split
  · exact related_throw _
  · refine related_bind (related_set ?_) ?_
    · exact .own _ _ _ _
    · rintro _ _ -
      exact blind_pure _

theorem receiving_deriveKey (number : Int) :
    Blind SameReceiving (deriveKey suite number) := by
  have taken := @receiving_skipAndTake suite number
  apply related_bind related_get
  rintro state _ ⟨rootKey, sendingChain, dhSelfPrivate, dhSelfPublic⟩
  dsimp only
  apply blind_ite
  · exact fun _ => blind_bind (related_throw _) fun _ =>
      blind_ite (fun _ => blind_bind (related_throw _) fun _ => taken) fun _ => taken
  · exact fun _ =>
      blind_ite (fun _ => blind_bind (related_throw _) fun _ => taken) fun _ => taken

theorem receiving_takeKey (remoteDh : Bytes) (number : Int) :
    Blind SameReceiving (takeKey suite remoteDh number) := by
  apply related_bind related_get
  rintro state _ ⟨rootKey, sendingChain, dhSelfPrivate, dhSelfPublic⟩
  dsimp only
  split
  · refine related_bind (related_set ?_) ?_
    · exact .own _ _ _ _
    · rintro _ _ -
      exact blind_pure _
  · exact receiving_deriveKey number

/-- From one state the programs end with the same result, in states that receive
alike. -/
def Forks {α : Type} (left right : RatchetProg α) : Prop :=
  ∀ state, Matches Eq (left.run state).1 (right.run state).1 ∧
    SameReceiving (left.after state) (right.after state)

theorem Forks.same {α : Type} (program : RatchetProg α) : Forks program program := by
  intro state
  refine ⟨?_, .refl _⟩
  cases (program.run state).1 with
  | ok value => exact .ok rfl
  | error raised => exact .error raised

/-- A first part that both have in common. -/
theorem Forks.after {α β : Type} (first : RatchetProg α) {left right : α → RatchetProg β}
    (forks : ∀ value, Forks (left value) (right value)) :
    Forks (first >>= left) (first >>= right) := by
  intro state
  unfold Prog.after
  rw [run_bind, run_bind]
  rcases first.run state with ⟨result, middle⟩
  cases result with
  | ok value => exact forks value middle
  | error raised => exact ⟨.error raised, .refl middle⟩

/-- A last part that does not look at what differs. -/
theorem Forks.bind {α β : Type} {left right : RatchetProg α} {next : α → RatchetProg β}
    (forks : Forks left right) (nextBlind : ∀ value, Blind SameReceiving (next value)) :
    Forks (left >>= next) (right >>= next) := by
  intro state
  obtain ⟨matched, same⟩ := forks state
  unfold Prog.after at same ⊢
  rw [run_bind, run_bind]
  rcases leftRun : left.run state with ⟨result, middle⟩
  rcases rightRun : right.run state with ⟨result', middle'⟩
  rw [leftRun, rightRun] at matched same
  cases matched with
  | ok equal =>
      subst equal
      exact nextBlind _ middle middle' same
  | error raised => exact ⟨.error raised, same⟩

variable (refuses : suite.RefusesPublic) {newPrivate newPrivate' : Bytes}
  (drawn : newPrivate.length = keySize) (drawn' : newPrivate'.length = keySize)

include refuses drawn drawn'

/-- A peer key that is agreed on with the known key pair is agreed on with every
drawn one. -/
theorem dhRatchet_forks (remoteDh : Bytes) :
    Forks (dhRatchet suite newPrivate remoteDh) (dhRatchet suite newPrivate' remoteDh) := by
  intro state
  cases localKey : state.dhSelfPrivate with
  | none =>
      simp only [Prog.after, dhRatchet, run_bind, run_modify, run_get, localKey, run_throw]
      exact ⟨.error _, .refl _⟩
  | some private_ =>
      cases agreedReceived : suite.exchange private_ remoteDh with
      | none =>
          simp only [Prog.after, dhRatchet, run_bind, run_modify, run_get, localKey, agree,
            agreedReceived, run_throw]
          exact ⟨.error _, .refl _⟩
      | some received =>
          have agreed : ∀ fresh, fresh.length = keySize →
              ∃ sent, suite.exchange fresh remoteDh = some sent := by
            intro fresh size
            apply Option.ne_none_iff_exists'.mp
            intro refused
            have impossible := refuses fresh private_ remoteDh size refused
            rw [agreedReceived] at impossible
            cases impossible
          obtain ⟨sent, agreedSent⟩ := agreed newPrivate drawn
          obtain ⟨sent', agreedSent'⟩ := agreed newPrivate' drawn'
          rw [Prog.after, Prog.after, dhRatchet_run localKey agreedReceived agreedSent,
            dhRatchet_run localKey agreedReceived agreedSent']
          exact ⟨.ok rfl, .own _ _ _ _⟩

theorem enterChain_forks (remoteDh : Bytes) (prevCount : Int) :
    Forks (enterChain suite newPrivate remoteDh prevCount)
      (enterChain suite newPrivate' remoteDh prevCount) := by
  have forks := dhRatchet_forks refuses drawn drawn' remoteDh
  apply Forks.after
  intro state
  dsimp only
  split
  · split
    · exact Forks.after _ fun _ => forks
    · exact forks
  · exact .same _

theorem selectKey_forks (header : Json) :
    Forks (selectKey suite newPrivate header) (selectKey suite newPrivate' header) := by
  unfold selectKey
  split
  · exact .same _
  · exact (enterChain_forks refuses drawn drawn' _ _).bind fun _ =>
      receiving_takeKey _ _

/-- What a decryption returns does not depend on the key pair it draws. -/
theorem decrypt_result (header : Json) (nonce ciphertext : Bytes)
    (adContext : Option Json) (state : RatchetState) :
    ((decrypt suite newPrivate header nonce ciphertext adContext).run state).1 =
      ((decrypt suite newPrivate' header nonce ciphertext adContext).run state).1 := by
  obtain ⟨matched, -⟩ := selectKey_forks refuses drawn drawn' header state
  rw [decrypt_run, decrypt_run]
  rcases selected : (selectKey suite newPrivate header).run state with ⟨result, advanced⟩
  rcases selected' : (selectKey suite newPrivate' header).run state with
    ⟨result', advanced'⟩
  rw [selected, selected'] at matched
  cases matched with
  | error raised => rfl
  | ok equal =>
      subst equal
      dsimp only
      cases suite.aeadDecrypt _ nonce ciphertext (associatedData header adContext) <;> rfl

end Ratchet

namespace Wire

open Prog

theorem run_liftRatchet {α : Type} (body : Prog RatchetState RatchetError α)
    (state : RatchetState) :
    (liftRatchet body).run state =
      ((body.run state).1.mapError RatchetError.raised, body.after state) := by
  rcases ran : body state with ⟨result, final⟩
  simp only [liftRatchet, Prog.run, Prog.after, ran]
  cases result <;> rfl

variable {suite : Suite} (refuses : suite.RefusesPublic) {newPrivate newPrivate' : Bytes}
  (drawn : newPrivate.length = keySize) (drawn' : newPrivate'.length = keySize)

include refuses drawn drawn'

theorem openParts_result (wire : Json) :
    SameResult (openParts suite newPrivate wire) (openParts suite newPrivate' wire) := by
  apply SameResult.tryCatch
  apply SameResult.after
  intro header
  apply SameResult.after
  intro nonce
  apply SameResult.after
  intro ciphertext state
  rw [run_liftRatchet, run_liftRatchet,
    Ratchet.decrypt_result refuses drawn drawn']

/-- What an opened blob says does not depend on the key pair that is drawn. -/
theorem unsealWire_result (blob : Bytes) :
    SameResult (unsealWire suite newPrivate blob) (unsealWire suite newPrivate' blob) := by
  apply SameResult.after
  intro wire
  apply (openParts_result refuses drawn drawn' wire).bind
  intro plaintext state state'
  cases Padding.unpadEnvelope plaintext with
  | error raised => rfl
  | ok envelope =>
      show ((Prog.lift _ >>= fun sid => pure (envelope, sid, wire.getD "init")).run state).1 =
        ((Prog.lift _ >>= fun sid => pure (envelope, sid, wire.getD "init")).run state').1
      cases (wire.item "sid" >>= Json.toBytes : Except Raised Bytes) <;> rfl

end Wire

end NoKnowledge

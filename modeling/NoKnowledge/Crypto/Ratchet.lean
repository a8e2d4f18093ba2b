import NoKnowledge.Crypto.Suite
import NoKnowledge.Foundation.Base64
import NoKnowledge.Foundation.Dynamic
import NoKnowledge.Foundation.Effect
import NoKnowledge.Foundation.JsonRoundTrip

/-!
# Double Ratchet

The session state and its operations.  `Ratchet.decrypt` runs the mutating
`Ratchet.decryptInner` and restores the snapshot when that raises, so a failed
decryption leaves the state as it was.

Randomness is an argument: the nonce of an encryption, and the private key
that a decryption uses if it has to perform a DH step.
-/

namespace NoKnowledge

def maxSkip : Nat := 1000

def adDomain : Bytes := utf8 "nk/v1/msg"

inductive RatchetError where
  | noSendingChain
  | malformedHeader
  | noLocalKey
  | duplicateMessage
  | skippedTooFar (text : String)
  | agreement
  | authentication
deriving DecidableEq, Repr

structure RatchetState where
  rootKey : Bytes
  sendingChain : Option Bytes := none
  receivingChain : Option Bytes := none
  dhSelfPrivate : Option Bytes := none
  dhSelfPublic : Option Bytes := none
  dhRemote : Option Bytes := none
  sendCount : Nat := 0
  recvCount : Nat := 0
  prevSendCount : Nat := 0
  skipped : Dict (Bytes × Int) Bytes := Dict.empty
deriving DecidableEq

namespace Ratchet

variable (suite : Suite)

abbrev RatchetProg := Prog RatchetState RatchetError

/-- The label a skipped message key is cached under. -/
def skippedKey (dh : Option Bytes) (number : Int) : Bytes × Int :=
  (dh.getD [], number)

def associatedData (header : Json) (adContext : Option Json) : Bytes :=
  adDomain ++ canonicalJson (.mkObj
    [("init", (adContext.getD .null).orElse (.mkObj [])), ("hdr", header)])

def agree (private_ public_ : Bytes) : RatchetProg Bytes :=
  match suite.exchange private_ public_ with
  | some shared => pure shared
  | none => throw .agreement

/-- Start a session; performs the initial DH step with a new key pair. -/
def initiator (sessionKey remoteRatchetPublic newPrivate : Bytes) :
    Except RatchetError RatchetState :=
  match suite.exchange newPrivate remoteRatchetPublic with
  | none => .error .agreement
  | some shared =>
      let derived := suite.kdfRk sessionKey shared
      .ok {
        rootKey := derived.1
        sendingChain := some derived.2
        dhSelfPrivate := some newPrivate
        dhSelfPublic := some (suite.dhPublic newPrivate)
        dhRemote := some remoteRatchetPublic }

/-- Start the receiving side, rooted at the signed prekey. -/
def responder (sessionKey signedPrekeyPrivate signedPrekeyPublic : Bytes) :
    RatchetState :=
  { rootKey := sessionKey
    dhSelfPrivate := some signedPrekeyPrivate
    dhSelfPublic := some signedPrekeyPublic
    dhRemote := none }

def makeHeader (state : RatchetState) : Json :=
  .mkObj [
    ("dh", .str (b64e (state.dhSelfPublic.getD []))),
    ("pn", .int state.prevSendCount),
    ("n", .int state.sendCount)]

/-- Header, nonce and ciphertext of one message. -/
def encrypt (nonce plaintext : Bytes) (adContext : Option Json) :
    RatchetProg (Json × Bytes × Bytes) := do
  let state ← get
  match state.sendingChain with
  | none => throw .noSendingChain
  | some chain =>
      let derived := suite.kdfCk chain
      set { state with sendingChain := some derived.2 }
      let header := makeHeader state
      match suite.aeadEncrypt derived.1 nonce plaintext
          (associatedData header adContext) with
      | none => throw .authentication
      | some ciphertext =>
          modify fun state => { state with sendCount := state.sendCount + 1 }
          return (header, nonce, ciphertext)

/-- The DH key, message number and previous chain length a header names. -/
def parseHeader (header : Json) : Option (Bytes × Int × Int) := do
  let dh ← match header.get? "dh" with
    | some (.str text) => b64d text
    | _ => none
  let number ← (← header.get? "n").toInt?
  let prevCount ← (← header.get? "pn").toInt?
  return (dh, number, prevCount)

/-- Cache the next key of the receiving chain. -/
def skipOne (state : RatchetState) : RatchetState :=
  match state.receivingChain with
  | none => state
  | some chain =>
      let derived := suite.kdfCk chain
      { state with
        receivingChain := some derived.2
        skipped := state.skipped.insert
          (skippedKey state.dhRemote state.recvCount) derived.1
        recvCount := state.recvCount + 1 }

def skipTimes : Nat → RatchetState → RatchetState
  | 0, state => state
  | count + 1, state => skipTimes count (skipOne suite state)

/-- Cache every key of the receiving chain below `limit`. -/
def skipKeys (limit : Int) : RatchetProg Unit := do
  let state ← get
  if state.receivingChain.isNone then return
  if (state.recvCount : Int) + maxSkip < limit then
    throw (.skippedTooFar
      ("skipped-key cache would exceed " ++ toString maxSkip))
  set (skipTimes suite (limit.toNat - state.recvCount) state)

def dhRatchet (newPrivate remoteDh : Bytes) : RatchetProg Unit := do
  modify fun state => { state with
    prevSendCount := state.sendCount
    sendCount := 0
    recvCount := 0
    dhRemote := some remoteDh }
  let state ← get
  match state.dhSelfPrivate with
  | none => throw .noLocalKey
  | some private_ =>
      let received ← agree suite private_ remoteDh
      let derived := suite.kdfRk state.rootKey received
      set { state with rootKey := derived.1, receivingChain := some derived.2 }
      modify fun state => { state with
        dhSelfPrivate := some newPrivate
        dhSelfPublic := some (suite.dhPublic newPrivate) }
      let sent ← agree suite newPrivate remoteDh
      modify fun state =>
        let derived := suite.kdfRk state.rootKey sent
        { state with rootKey := derived.1, sendingChain := some derived.2 }

/-- Follow the peer to the chain of `remoteDh`, if this is not its chain. -/
def enterChain (newPrivate remoteDh : Bytes) (prevCount : Int) :
    RatchetProg Unit := do
  let state ← get
  if state.dhRemote ≠ some remoteDh ∨ state.receivingChain = none then
    if state.receivingChain.isSome then skipKeys suite prevCount
    dhRatchet suite newPrivate remoteDh

/-- Advance the receiving chain to message `number` and derive its key. -/
def deriveKey (number : Int) : RatchetProg Bytes := do
  let state ← get
  if number < state.recvCount then throw .duplicateMessage
  if (state.recvCount : Int) + maxSkip < number then
    throw (.skippedTooFar
      ("would skip " ++ toString (number - state.recvCount) ++ " messages"))
  skipKeys suite number
  let state ← get
  match state.receivingChain with
  | none => throw .noLocalKey
  | some chain =>
      let derived := suite.kdfCk chain
      set { state with
        receivingChain := some derived.2
        recvCount := state.recvCount + 1 }
      return derived.1

/-- The key of message `number` of the current chain: cached, or derived. -/
def takeKey (remoteDh : Bytes) (number : Int) : RatchetProg Bytes := do
  let state ← get
  let label := skippedKey (some remoteDh) number
  match state.skipped.get? label with
  | some messageKey =>
      set { state with skipped := state.skipped.erase label }
      return messageKey
  | none => deriveKey suite number

/-- The message key a header selects, with the state advanced to it. -/
def selectKey (newPrivate : Bytes) (header : Json) : RatchetProg Bytes := do
  match parseHeader header with
  | none => throw .malformedHeader
  | some (remoteDh, number, prevCount) =>
      enterChain suite newPrivate remoteDh prevCount
      takeKey suite remoteDh number

def decryptInner (newPrivate : Bytes) (header : Json)
    (nonce ciphertext : Bytes) (adContext : Option Json) :
    RatchetProg Bytes := do
  let messageKey ← selectKey suite newPrivate header
  match suite.aeadDecrypt messageKey nonce ciphertext
      (associatedData header adContext) with
  | none => throw .authentication
  | some plaintext => return plaintext

/-- Verify and decrypt.  The state only advances on success. -/
def decrypt (newPrivate : Bytes) (header : Json)
    (nonce ciphertext : Bytes) (adContext : Option Json) :
    RatchetProg Bytes := do
  let snapshot ← get
  tryCatch (decryptInner suite newPrivate header nonce ciphertext adContext)
    fun raised => do
      set snapshot
      throw raised

end Ratchet

end NoKnowledge

import NoKnowledge.Crypto.Prekeys

/-!
# Anonymous X3DH handshake

The initiator contributes only an ephemeral key.  Its identity is proven inside
the encrypted payload by the `auth` block, which binds the session id, the
handshake header and a commitment to the session key.
-/

namespace NoKnowledge

structure Initiation where
  ekPublic : Bytes
  spkId : Int
  opkId : Option Int
  sk : Bytes
deriving DecidableEq, Repr

/-- Canonical handshake header, bound into the AEAD associated data. -/
def Initiation.initDict (initiation : Initiation) : Json :=
  .mkObj [
    ("ek", .str (b64e initiation.ekPublic)),
    ("spk_id", .int initiation.spkId),
    ("opk_id", (initiation.opkId.map Json.int).getD .null)]

namespace X3dh

variable (suite : Suite)

def sharedSecret (dh1 dh2 dh3 : Bytes) : Bytes :=
  suite.hkdf (domainPrefix ++ dh1 ++ dh2 ++ dh3) zeroSalt x3dhInfo keySize

/-- `private.exchange(public)`; the package refuses malformed and degenerate
keys. -/
def exchange (private_ public_ : Bytes) : Except Raised Bytes :=
  match suite.exchange private_ public_ with
  | some shared => .ok shared
  | none => .error { class_ := .handshake, text := "malformed X25519 public key" }

/-- The initiator half of the handshake, with its ephemeral private key. -/
def initiate (bundle : PrekeyBundle) (expectedIsign expectedIdh : Bytes)
    (ephemeral : Bytes) : Except Raised Initiation := do
  Except.rewrap (· = .prekey)
    (fun raised => { class_ := .handshake
                     text := "prekey bundle rejected: " ++ raised.text })
    (bundle.verifyBundle suite expectedIsign)
  refuse (bundle.idh ≠ expectedIdh)
    { class_ := .handshake
      text := "bundle identity key disagrees with the contact card" }
  let dh1 ← exchange suite ephemeral bundle.idh
  let dh2 ← exchange suite ephemeral bundle.spk
  let (opkId, dh3) ← match bundle.opks with
    | [] => pure (none, [])
    | (opkId, opkPublic) :: _ => do
        pure (some opkId, ← exchange suite ephemeral opkPublic)
  return {
    ekPublic := suite.dhPublic ephemeral
    spkId := bundle.spkId
    opkId
    sk := sharedSecret suite dh1 dh2 dh3 }

/-- The responder half of the handshake. -/
def respond (identityXPrivate signedPrekeyPrivate : Bytes)
    (opkPrivate : Option Bytes) (ekPublic : Bytes) : Except Raised Bytes := do
  let dh1 ← exchange suite identityXPrivate ekPublic
  let dh2 ← exchange suite signedPrekeyPrivate ekPublic
  let dh3 ← match opkPrivate with
    | some (byte :: rest) => exchange suite (byte :: rest) ekPublic
    | _ => pure []
  return sharedSecret suite dh1 dh2 dh3

def skCommitment (sk : Bytes) : Bytes := suite.sha256 (skCommitInfo ++ sk)

def authMessage (sid : Bytes) (init : Json) (commit : Bytes) : Bytes :=
  authSignInfo ++ sid ++ canonicalJson init ++ commit

/-- The in-ciphertext proof binding a sender identity to a session. -/
def buildAuth (identity : Identity) (sid : Bytes) (init : Json) (sk : Bytes) :
    Json :=
  let commit := skCommitment suite sk
  .mkObj [
    ("v", .int 1),
    ("id", .str (identity.identityId suite)),
    ("isign", .str (b64e (identity.edPublic suite))),
    ("idh", .str (b64e (identity.xPublic suite))),
    ("sk_commit", .str (b64e commit)),
    ("sig", .str (b64e (identity.sign suite (authMessage sid init commit))))]

def verifyAuthBody (auth : Json) (sid : Bytes) (init : Json) (sk : Bytes) :
    Except Raised Bool := do
  if !(← auth.attempt "v").equalsInt 1 then return false
  let expectedCommit := skCommitment suite sk
  if (← (← auth.item "sk_commit").toBytes) ≠ expectedCommit then return false
  let isign ← (← auth.item "isign").toBytes
  let idh ← (← auth.item "idh").toBytes
  if (← auth.attempt "id") ≠ .str (computeIdentityId suite isign idh) then
    return false
  let signature ← (← auth.item "sig").toBytes
  return suite.verify isign signature (authMessage sid init expectedCommit)

/-- Verify the sender proof; `false` on any failure. -/
def verifyAuth (auth : Json) (sid : Bytes) (init : Json) (sk : Bytes) : Bool :=
  match verifyAuthBody suite auth sid init sk with
  | .ok accepted => accepted
  | .error _ => false

end X3dh

end NoKnowledge

import NoKnowledge.Foundation.Bytes

/-!
# The cryptographic layer

`Primitives` are the functions of the cryptography package and of the hash
library; `Suite` is the interface the protocol code is written against.  The
key derivations and the AEAD wrapper of the source are the suite of a set of
primitives.  Protocol theorems are about every suite with the laws they name,
so they cover the derived suite as well as an idealised one.
-/

namespace NoKnowledge

/-- Functions of the cryptography package and the hash library.  An agreement
that the package refuses (a malformed or degenerate public key) is `none`. -/
structure Primitives where
  hkdf : (ikm salt info : Bytes) → (length : Nat) → Bytes
  hmac : (key message : Bytes) → Bytes
  sha256 : Bytes → Bytes
  x25519Public : (private_ : Bytes) → Bytes
  x25519Exchange : (private_ public_ : Bytes) → Option Bytes
  ed25519Public : (private_ : Bytes) → Bytes
  ed25519Sign : (private_ message : Bytes) → Bytes
  ed25519Verify : (public_ signature message : Bytes) → Bool
  chachaEncrypt : (key nonce plaintext ad : Bytes) → Bytes
  chachaDecrypt : (key nonce ciphertext ad : Bytes) → Option Bytes

/-- The cryptographic layer as protocol code uses it. -/
structure Suite where
  hkdf : (ikm salt info : Bytes) → (length : Nat) → Bytes
  sha256 : Bytes → Bytes
  kdfRk : (rootKey dhOutput : Bytes) → Bytes × Bytes
  kdfCk : (chainKey : Bytes) → Bytes × Bytes
  dhPublic : (private_ : Bytes) → Bytes
  exchange : (private_ public_ : Bytes) → Option Bytes
  signingPublic : (private_ : Bytes) → Bytes
  sign : (private_ message : Bytes) → Bytes
  verify : (public_ signature message : Bytes) → Bool
  aeadEncrypt : (key nonce plaintext ad : Bytes) → Option Bytes
  aeadDecrypt : (key nonce ciphertext ad : Bytes) → Option Bytes

def rootInfo : Bytes := utf8 "nk/ratchet-root/v1"
def x3dhInfo : Bytes := utf8 "noknowledge/x3dh/v1"
def skCommitInfo : Bytes := utf8 "nk/sk-commit/v1"
def cardSignInfo : Bytes := utf8 "nk/card/v1"
def authSignInfo : Bytes := utf8 "nk/auth/v1"
def idHashInfo : Bytes := utf8 "nk-id"
def deviceSyncInfo : Bytes := utf8 "nk/devices/v1/sync"
def deviceSyncItemInfo : Bytes := utf8 "nk/devices/v1/sync/item"

/-- X25519 domain separation prefix. -/
def domainPrefix : Bytes := List.replicate 32 0xFF

def zeroSalt : Bytes := List.replicate 32 0

def keySize : Nat := 32
def nonceSize : Nat := 12
def signatureSize : Nat := 64

theorem nonempty_of_keySize {key : Bytes} (size : key.length = keySize) : key ≠ [] := by
  rintro rfl
  cases size

namespace Primitives

/-- Root KDF: the new root key and a chain key. -/
def kdfRk (primitives : Primitives) (rootKey dhOutput : Bytes) : Bytes × Bytes :=
  let out := primitives.hkdf dhOutput rootKey rootInfo 64
  (out.take 32, out.drop 32)

/-- Chain KDF: the message key and the next chain key. -/
def kdfCk (primitives : Primitives) (chainKey : Bytes) : Bytes × Bytes :=
  (primitives.hmac chainKey [1], primitives.hmac chainKey [2])

/-- AEAD encryption under a nonce drawn by the caller. -/
def aeadEncrypt (primitives : Primitives)
    (key nonce plaintext ad : Bytes) : Option Bytes :=
  if key.length ≠ keySize then none
  else some (primitives.chachaEncrypt key nonce plaintext ad)

def aeadDecrypt (primitives : Primitives)
    (key nonce ciphertext ad : Bytes) : Option Bytes :=
  if key.length ≠ keySize then none
  else if nonce.length ≠ nonceSize then none
  else primitives.chachaDecrypt key nonce ciphertext ad

def verify (primitives : Primitives)
    (public_ signature message : Bytes) : Bool :=
  if public_.length ≠ keySize ∨ signature.length ≠ signatureSize then false
  else primitives.ed25519Verify public_ signature message

/-- The suite the source derives from the primitives. -/
def suite (primitives : Primitives) : Suite where
  hkdf := primitives.hkdf
  sha256 := primitives.sha256
  kdfRk := primitives.kdfRk
  kdfCk := primitives.kdfCk
  dhPublic := primitives.x25519Public
  exchange := primitives.x25519Exchange
  signingPublic := primitives.ed25519Public
  sign := primitives.ed25519Sign
  verify := primitives.verify
  aeadEncrypt := primitives.aeadEncrypt
  aeadDecrypt := primitives.aeadDecrypt

end Primitives

namespace Suite

/-- Key agreement succeeds and commutes on the keys of a class. -/
def Agrees (suite : Suite) (Private : Bytes → Prop) : Prop :=
  ∀ mine theirs, Private mine → Private theirs →
    ∃ shared, suite.exchange mine (suite.dhPublic theirs) = some shared ∧
      suite.exchange theirs (suite.dhPublic mine) = some shared

/-- Decryption inverts encryption under the same key, associated data and nonce
of the size that encryptions draw. -/
def AeadCorrect (suite : Suite) : Prop :=
  ∀ key nonce plaintext ad ciphertext, nonce.length = nonceSize →
    suite.aeadEncrypt key nonce plaintext ad = some ciphertext →
      suite.aeadDecrypt key nonce ciphertext ad = some plaintext

/-- Encryption succeeds on every message key of a ratchet, with a nonce of the size
that encryptions draw. -/
def AeadTotal (suite : Suite) : Prop :=
  ∀ chainKey nonce plaintext ad, nonce.length = nonceSize →
    ∃ ciphertext, suite.aeadEncrypt (suite.kdfCk chainKey).1 nonce plaintext ad =
      some ciphertext

/-- A ciphertext opens only under one key, nonce and associated data. -/
def AeadBinding (suite : Suite) : Prop :=
  ∀ {key key' nonce nonce' ciphertext ad ad' plaintext plaintext'},
    suite.aeadDecrypt key nonce ciphertext ad = some plaintext →
      suite.aeadDecrypt key' nonce' ciphertext ad' = some plaintext' →
        key = key' ∧ nonce = nonce' ∧ ad = ad'

/-- The derivations of the ratchet have no collisions: an output determines
the key it was derived from, and a chain key is either the first of its chain
or a successor, never both. -/
structure KdfCollisionFree (suite : Suite) : Prop where
  root : ∀ {rootKey rootKey' dh dh'},
    (suite.kdfRk rootKey dh).1 = (suite.kdfRk rootKey' dh').1 →
      rootKey = rootKey'
  chain : ∀ {rootKey rootKey' dh dh'},
    (suite.kdfRk rootKey dh).2 = (suite.kdfRk rootKey' dh').2 →
      rootKey = rootKey'
  message : ∀ {chainKey chainKey'},
    (suite.kdfCk chainKey).1 = (suite.kdfCk chainKey').1 → chainKey = chainKey'
  next : ∀ {chainKey chainKey'},
    (suite.kdfCk chainKey).2 = (suite.kdfCk chainKey').2 → chainKey = chainKey'
  start : ∀ {rootKey dh chainKey},
    (suite.kdfRk rootKey dh).2 ≠ (suite.kdfCk chainKey).2

end Suite

/-- The derived suite inherits AEAD correctness. -/
theorem Primitives.suite_aeadCorrect (primitives : Primitives)
    (correct : ∀ key nonce plaintext ad, key.length = keySize → nonce.length = nonceSize →
      primitives.chachaDecrypt key nonce
        (primitives.chachaEncrypt key nonce plaintext ad) ad = some plaintext) :
    primitives.suite.AeadCorrect := by
  intro key nonce plaintext ad ciphertext fits encrypted
  simp only [suite, aeadEncrypt, Option.ite_none_left_eq_some,
    Option.some.injEq] at encrypted
  obtain ⟨size, rfl⟩ := encrypted
  simp only [not_not] at size
  simp [suite, aeadDecrypt, size, fits, correct]

end NoKnowledge

import NoKnowledge.Crypto.Identity

/-!
# Prekey bundles

The bundle a recipient publishes for asynchronous handshakes.  The identity
keys of a bundle never come from the relay: `fromPublic` fills them in from the
contact card, and `verifyBundle` checks the signature of the signed prekey
against them.
-/

namespace NoKnowledge

def spkSignInfo : Bytes := utf8 "nk/spk/v1"

def bundleIdSize : Nat := 16
def maxOpks : Nat := 100

structure PrekeyBundle where
  bundleId : Bytes
  isign : Bytes
  idh : Bytes
  spkId : Int
  spk : Bytes
  spkSig : Bytes
  opks : List (Int × Bytes) := []
deriving DecidableEq, Repr

namespace PrekeyBundle

variable (suite : Suite)

def spkMessage (bundleId : Bytes) (spkId : Int) (spk : Bytes) :
    Except Raised Bytes := do
  return spkSignInfo ++ bundleId ++ (← fourBytes spkId) ++ spk

/-- What is published to a relay: no identity keys. -/
def toPublicDict (bundle : PrekeyBundle) : Json :=
  .mkObj [
    ("v", .int 1),
    ("bundle_id", .str (b64e bundle.bundleId)),
    ("spk_id", .int bundle.spkId),
    ("spk", .str (b64e bundle.spk)),
    ("spk_sig", .str (b64e bundle.spkSig)),
    ("opks", .arr (bundle.opks.map fun opk =>
      .mkObj [("opk_id", .int opk.1), ("opk", .str (b64e opk.2))]))]

def fromDict (data : Json) : Except Raised PrekeyBundle := do
  let version ← data.attempt "v"
  refuse (!version.equalsInt 1)
    { class_ := .prekey
      text := "unsupported bundle version: " ++ version.toText }
  Except.rewrap ErrorClass.isMalformed
    (fun _ => { class_ := .prekey, text := "malformed prekey bundle" }) do
      let bundleId ← (← data.item "bundle_id").toBytes
      let isign ← ((data.get? "isign").getD (.str "")).toBytes
      let idh ← ((data.get? "idh").getD (.str "")).toBytes
      let spkId ← (← data.item "spk_id").toInt
      let spk ← (← data.item "spk").toBytes
      let spkSig ← (← data.item "spk_sig").toBytes
      let entries ← ((data.get? "opks").getD (.arr [])).elements
      let opks ← entries.mapM fun entry => do
        return (← (← entry.item "opk_id").toInt, ← (← entry.item "opk").toBytes)
      return { bundleId, isign, idh, spkId, spk, spkSig, opks }

/-- The document a response stands for: a text is parsed once more. -/
def document (data : Json) : Except Raised Json :=
  match data with
  | .str text =>
      match Json.parse text.toList with
      | some data => .ok data
      | none => .error { class_ := .value }
  | data => .ok data

/-- Rehydrate a published bundle using identity keys from the card. -/
def fromPublic (data : Json) (isign idh : Bytes) :
    Except Raised PrekeyBundle := do
  return { ← fromDict (← document data) with isign, idh }

/-- Build and sign a bundle for publication. -/
def make (identity : Identity) (bundleId : Bytes) (spkId : Int)
    (spkPublic : Bytes) (opks : List (Int × Bytes)) :
    Except Raised PrekeyBundle := do
  refuse (bundleId.length ≠ bundleIdSize)
    { class_ := .prekey, text := "bundle_id must be 16 bytes" }
  refuse (maxOpks < opks.length)
    { class_ := .prekey
      text := "at most 100 one-time prekeys per bundle" }
  return {
    bundleId
    isign := identity.edPublic suite
    idh := identity.xPublic suite
    spkId
    spk := spkPublic
    spkSig := identity.sign suite (← spkMessage bundleId spkId spkPublic)
    opks }

/-- Verify a bundle against the identity key taken from a signed card. -/
def verifyBundle (bundle : PrekeyBundle) (expectedIsign : Bytes) :
    Except Raised Unit := do
  refuse (bundle.isign ≠ expectedIsign)
    { class_ := .prekey
      text := "bundle identity key does not match the contact card" }
  refuse (bundle.spk.length ≠ keySize || bundle.idh.length ≠ keySize)
    { class_ := .prekey
      text := "bundle contains malformed public keys" }
  let message ← spkMessage bundle.bundleId bundle.spkId bundle.spk
  refuse (!suite.verify bundle.isign bundle.spkSig message)
    { class_ := .prekey, text := "signed prekey signature is invalid" }

end PrekeyBundle

end NoKnowledge

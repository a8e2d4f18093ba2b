import NoKnowledge.Core.Devices

/-!
# The device-to-device channel

A record is sealed for one recipient device with a key agreed from a fresh
ephemeral key.  Its header is signed by the sender's device key and is the
associated data of the payload.  The frame around the header holds the magic,
the version, the kind of the record and the header length.
-/

namespace NoKnowledge

namespace Channel

def magic : Bytes := utf8 "NKS1"
def version : UInt8 := 1
def prefixBytes : Nat := 12

def request : Nat := 1
def offer : Nat := 2
def item : Nat := 3
def complete : Nat := 4
def approval : Nat := 5
def mirror : Nat := 6

def isDeviceRecord (blob : Bytes) : Bool :=
  prefixBytes ≤ blob.length && blob.take 4 = magic

def frame (kind : Nat) (header : Json) (payload : Bytes) : Except Raised Bytes := do
  let headerBytes := canonicalJson header
  refuse (256 ≤ kind) { class_ := .value }
  let headerLength ← fourBytes headerBytes.length
  return magic ++ [version, UInt8.ofNat kind] ++ [0, 0] ++ headerLength ++
    headerBytes ++ payload

/-- Split a record into kind, header and payload without authenticating it. -/
def parseRecord (blob : Bytes) : Except Raised (Nat × Json × Bytes) := do
  refuse (!isDeviceRecord blob)
    { class_ := .sync, text := "not a device record" }
  refuse (blob.getD 4 0 ≠ version)
    { class_ := .sync
      text := "unsupported device record version: " ++
        toString (blob.getD 4 0).toNat }
  let headerLength := fromBigEndian ((blob.drop 8).take 4)
  refuse (headerLength = 0 || blob.length < prefixBytes + headerLength)
    { class_ := .sync, text := "device record is truncated" }
  match loadJson ((blob.drop prefixBytes).take headerLength) with
  | none => throw { class_ := .sync, text := "device record header is malformed" }
  | some header =>
      refuse (!header.isObj)
        { class_ := .sync, text := "device record header is not an object" }
      return ((blob.getD 5 0).toNat, header, blob.drop (prefixBytes + headerLength))

variable (suite : Suite)

def transferKey (shared : Bytes) (transferId : String) : Bytes :=
  suite.hkdf shared (utf8 transferId) deviceSyncInfo keySize

def itemKey (key : Bytes) (seq : Int) : Except Raised Bytes := do
  return suite.hkdf key [] (deviceSyncItemInfo ++ (← fourBytes seq)) keySize

def agreement (private_ public_ : Bytes) : Except Raised Bytes :=
  match suite.exchange private_ public_ with
  | some shared => .ok shared
  | none => .error { class_ := .deviceKey, text := "degenerate agreement key" }

def unsigned (header : Json) : Json := header.eraseField "sig"

def headerFields : List String := ["v", "transfer", "from", "eph", "ts", "seq", "sig"]

theorem noFields_canonical : ∀ field ∈ ([] : List (String × Json)), field.2.Canonical := nofun

theorem noFields_additional :
    ∀ field ∈ ([] : List (String × Json)), field.1 ∉ headerFields := nofun

/-- The additional header fields of a record kind.  No caller passes a field
that every header has. -/
structure ExtraFields where
  fields : List (String × Json) := []
  canonical : ∀ field ∈ fields, field.2.Canonical := by first | exact noFields_canonical | simp
  additional : ∀ field ∈ fields, field.1 ∉ headerFields := by
    first | exact noFields_additional | simp
deriving DecidableEq

/-- The arguments of one sealing, with the values it draws. -/
structure SealCall where
  kind : Nat
  plaintext : Bytes
  recipientSagree : Bytes
  senderDeviceId : String
  senderSdevPrivate : Bytes
  transferId : String
  seq : Int := 0
  extra : ExtraFields := {}
  ephemeralPrivate : Bytes
  nonce : Bytes
  timestamp : Int
deriving DecidableEq

namespace SealCall

def baseHeader (call : SealCall) : Json :=
  .mkObj ([
    ("v", .int 1),
    ("transfer", .str call.transferId),
    ("from", .str call.senderDeviceId),
    ("eph", .str (b64e (suite.dhPublic call.ephemeralPrivate))),
    ("ts", .int call.timestamp),
    ("seq", .int call.seq)] ++ call.extra.fields)

def header (call : SealCall) : Json :=
  (call.baseHeader suite).setField "sig"
    (.str (b64e (suite.sign call.senderSdevPrivate
      (canonicalJson (unsigned (call.baseHeader suite))))))

end SealCall

/-- Seal one record for one recipient device. -/
def sealRecord (call : SealCall) : Except Raised Bytes := do
  let shared ← agreement suite call.ephemeralPrivate call.recipientSagree
  let key := transferKey suite shared call.transferId
  let header := call.header suite
  let itemKey ← itemKey suite key call.seq
  match suite.aeadEncrypt itemKey call.nonce call.plaintext
      (canonicalJson header) with
  | none => throw { class_ := .aead }
  | some ciphertext => frame call.kind header (call.nonce ++ ciphertext)

/-- What a header says about how to open its record. -/
def readHeader (header : Json) : Except Raised (Bytes × Bytes × String × Int) :=
  Except.rewrap ErrorClass.isMalformed
    (fun _ => { class_ := .sync, text := "device record header is incomplete" }) do
      let signature ← (Json.str (← header.item "sig").toText).toBytes
      let ephemeral ← (Json.str (← header.item "eph").toText).toBytes
      let transferId := (← header.item "transfer").toText
      let seq ← ((header.getD "seq").orElse (.int 0)).toInt
      return (signature, ephemeral, transferId, seq)

/-- Verify and decrypt a record from a sibling device. -/
def openRecord (blob mySagreePrivate senderSdev : Bytes)
    (senderDeviceId : String) : Except Raised (Nat × Json × Bytes) := do
  let (kind, header, payload) ← parseRecord blob
  refuse ((header.getD "from").toText ≠ senderDeviceId)
    { class_ := .sync
      text := "device record is from an unexpected device" }
  let (signature, ephemeral, transferId, seq) ← readHeader header
  refuse (!suite.verify senderSdev signature (canonicalJson (unsigned header)))
    { class_ := .sync, text := "device record signature is invalid" }
  let shared ← agreement suite mySagreePrivate ephemeral
  let key := transferKey suite shared transferId
  refuse (payload.length ≤ 12)
    { class_ := .sync, text := "device record payload is truncated" }
  let itemKey ← itemKey suite key seq
  match suite.aeadDecrypt itemKey (payload.take 12) (payload.drop 12)
      (canonicalJson header) with
  | none => throw { class_ := .sync, text := "device record could not be opened" }
  | some plaintext => return (kind, header, plaintext)

def hexDigits : List Char := "0123456789abcdef".toList

def hex (data : Bytes) : String :=
  String.ofList (data.flatMap fun byte =>
    [hexDigits.getD (byte.toNat / 16) '0', hexDigits.getD (byte.toNat % 16) '0'])

def unhexDigit (character : Char) : Option Nat :=
  let value := hexDigits.findIdx (· = character.toLower)
  if value < 16 then some value else none

/-- `bytes.fromhex(text)` -/
def unhex : List Char → Except Raised Bytes
  | [] => .ok []
  | ' ' :: rest => unhex rest
  | high :: low :: rest => do
      match unhexDigit high, unhexDigit low with
      | some high, some low =>
          return UInt8.ofNat (high * 16 + low) :: (← unhex rest)
      | _, _ => throw { class_ := .value }
  | [_] => .error { class_ := .value }

/-- Digest of a transfer that starts. -/
def chainStart (seed : String) : Bytes := suite.sha256 (utf8 seed)

/-- Extend a digest by one item. -/
def chainAdd (digest itemBytes : Bytes) (seq : Int) : Except Raised Bytes := do
  return suite.sha256 (digest ++ (← fourBytes seq) ++ itemBytes)

end Channel

end NoKnowledge

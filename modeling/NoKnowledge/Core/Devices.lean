import NoKnowledge.Crypto.Identity

/-!
# Device lists and device key records

An account signs the list of its devices and, for every device, a record with
the keys of the device channel.  Both are stored at publicly derivable
addresses, sealed under a key derived from the account's public keys.
-/

namespace NoKnowledge

def deviceSignInfo : Bytes := utf8 "nk/devices/v1"
def deviceListIdInfo : Bytes := utf8 "nk/devices/v1/id"
def deviceKeysIdInfo : Bytes := utf8 "nk/devices/v1/keys"
def deviceKeysSignInfo : Bytes := utf8 "nk/devices/v1/keys/sig"
def deviceListEncInfo : Bytes := utf8 "nk/devices/v1/enc"

def deviceListVersion : Int := 1

/-- The key of the single-device fallback when a peer has no device list. -/
def legacyDevice : String := "legacy"

variable (suite : Suite)

/-- Address of an account's device list. -/
def deviceListId (edPublic xPublic : Bytes) : String :=
  b64e ((suite.sha256 (deviceListIdInfo ++ edPublic ++ xPublic)).take 16)

/-- Address of one device's sync key record. -/
def deviceKeysId (edPublic xPublic : Bytes) (deviceId : String) : String :=
  b64e ((suite.sha256
    (deviceKeysIdInfo ++ edPublic ++ xPublic ++ utf8 deviceId)).take 16)

/-- One element of a sequence that `dict` reads as a key with its value.  A key
that is no text has no counterpart in an object and is refused. -/
def Json.toPair : Json → Except Raised (String × Json)
  | .arr [.str key, value] => .ok (key, value)
  | .str text =>
      match text.toList with
      | [key, value] => .ok (String.ofList [key], .str (String.ofList [value]))
      | _ => .error { class_ := .value }
  | .obj [(key, _), (value, _)] => .ok (key, .str value)
  | .arr _ => .error { class_ := .value }
  | .obj _ => .error { class_ := .value }
  | _ => .error { class_ := .type }

/-- `dict(value)` -/
def Json.toDict (value : Json) : Except Raised Json :=
  match value with
  | .obj fields => .ok (.obj fields)
  | .arr items => do return .mkObj (← items.mapM Json.toPair)
  | .str "" => .ok (.obj [])
  | .str _ => .error { class_ := .value }
  | _ => .error { class_ := .type }

/-- One device's delivery address, as advertised to senders. -/
structure DeviceEntry where
  deviceId : String
  inbox : Json
  relays : List Json
  bundleId : String
  name : String := ""
deriving DecidableEq

namespace DeviceEntry

def toDict (entry : DeviceEntry) : Json :=
  let fields : List (String × Json) := [
    ("device", .str entry.deviceId),
    ("inbox", entry.inbox),
    ("relays", .arr entry.relays),
    ("bundle", .str entry.bundleId)]
  .mkObj (fields ++ if entry.name ≠ "" then [("name", .str entry.name)] else [])

def fromDict (data : Json) : Except Raised DeviceEntry :=
  Except.rewrap ErrorClass.isMalformed
    (fun _ => { class_ := .deviceList, text := "malformed device entry" }) do
      let deviceId := (← data.item "device").toText
      let inbox ← (← data.item "inbox").toDict
      let relays ← (← data.item "relays").elements
      let bundleId := (← data.item "bundle").toText
      let name := ((data.getD "name").orElse (.str "")).toText
      return { deviceId, inbox, relays := relays.map fun relay => .str relay.toText
               bundleId, name }

end DeviceEntry

structure DeviceList where
  account : String
  devices : List DeviceEntry
  updated : Int
  isign : Bytes
  idh : Bytes
  signature : Bytes := []
deriving DecidableEq

namespace DeviceList

def address (listing : DeviceList) : String :=
  deviceListId suite listing.isign listing.idh

def payload (listing : DeviceList) : Json :=
  .mkObj [
    ("v", .int deviceListVersion),
    ("account", .str listing.account),
    ("isign", .str (b64e listing.isign)),
    ("idh", .str (b64e listing.idh)),
    ("bundle_id", .str (listing.address suite)),
    ("updated", .int listing.updated),
    ("devices", .arr (listing.devices.map DeviceEntry.toDict))]

def signedBytes (listing : DeviceList) : Bytes :=
  deviceSignInfo ++ canonicalJson (listing.payload suite)

def toBytes (listing : DeviceList) : Bytes :=
  canonicalJson ((listing.payload suite).setField "sig"
    (.str (b64e listing.signature)))

def readFields (data : Json) : Except Raised DeviceList := do
  let isign ← (← data.item "isign").toBytes
  let idh ← (← data.item "idh").toBytes
  let account := (← data.item "account").toText
  let devices ← (← (← data.item "devices").elements).mapM DeviceEntry.fromDict
  let updated ← (← data.item "updated").toInt
  let signature ← (← data.item "sig").toBytes
  return { account, devices, updated, isign, idh, signature }

def fromDict (data : Json) : Except Raised DeviceList := do
  refuse (!data.isObj)
    { class_ := .deviceList, text := "device list is not an object" }
  refuse (!(data.getD "v").equalsInt deviceListVersion)
    { class_ := .deviceList
      text := "unsupported device list version: " ++ (data.getD "v").toText }
  let listing ← Except.rewrap ErrorClass.isMalformed
    (fun _ => { class_ := .deviceList, text := "malformed device list" })
    (readFields data)
  refuse (computeIdentityId suite listing.isign listing.idh ≠ listing.account)
    { class_ := .deviceList
      text := "device list account does not match its keys" }
  refuse (listing.devices.isEmpty)
    { class_ := .deviceList, text := "device list has no devices" }
  refuse (!suite.verify listing.isign listing.signature (listing.signedBytes suite))
    { class_ := .deviceList, text := "device list signature is invalid" }
  return listing

def fromBytes (data : Bytes) : Except Raised DeviceList :=
  match decodeUtf8 data with
  | none => .error { class_ := .value }
  | some text =>
      match Json.parse text.toList with
      | none => .error { class_ := .deviceList
                         text := "device list is not valid JSON" }
      | some value => fromDict suite value

def create (identity : Identity) (devices : List DeviceEntry) (updated : Int) :
    DeviceList :=
  let listing : DeviceList := {
    account := identity.identityId suite
    devices
    updated
    isign := identity.edPublic suite
    idh := identity.xPublic suite }
  { listing with signature := identity.sign suite (listing.signedBytes suite) }

/-- Whether this list is really the one for the peer we asked about. -/
def belongsTo (listing : DeviceList) (account : String) (isign idh : Bytes) :
    Bool :=
  listing.account = account && listing.isign = isign && listing.idh = idh

end DeviceList

/-- Sealing key for one account's records, from its public keys. -/
def deviceListKey (isign idh : Bytes) : Bytes :=
  suite.hkdf (isign ++ idh) zeroSalt deviceListEncInfo keySize

def sealPayload (isign idh : Bytes) (address : String) (nonce plaintext : Bytes) :
    Except Raised Json :=
  match suite.aeadEncrypt (deviceListKey suite isign idh) nonce plaintext [] with
  | none => .error { class_ := .aead }
  | some ciphertext => .ok (.mkObj [
      ("v", .int deviceListVersion),
      ("bundle_id", .str address),
      ("box", .str (b64e (nonce ++ ciphertext)))])

/-- Open a record fetched from a relay, using the peer's public keys. -/
def openPayload (data : Json) (isign idh : Bytes) : Except Raised Bytes := do
  let raw ← match data with
    | .str text =>
        match Json.parse text.toList with
        | some parsed => pure parsed
        | none => throw { class_ := .deviceList
                          text := "record is not valid JSON" }
    | other => pure other
  refuse (!raw.isObj)
    { class_ := .deviceList, text := "record is not an object" }
  let box := raw.getD "box"
  refuse (box = .null)
    { class_ := .deviceList, text := "record is not sealed" }
  let blob ← match b64d box.toText with
    | some blob => pure blob
    | none => throw { class_ := .deviceList
                      text := "record box is not valid base64" }
  refuse (blob.length ≤ 12)
    { class_ := .deviceList, text := "record box is truncated" }
  match suite.aeadDecrypt (deviceListKey suite isign idh) (blob.take 12)
      (blob.drop 12) [] with
  | some plaintext => return plaintext
  | none => throw { class_ := .deviceList, text := "record could not be opened" }

/-- The object an unsealed textual record holds, if it is one. -/
def unsealedRecord (data : Json) : Except Raised (Option Json) :=
  match data with
  | .str text =>
      match Json.parse text.toList with
      | none => .error { class_ := .deviceList
                         text := "record is not valid JSON" }
      | some parsed =>
          .ok (if parsed.isObj && parsed.getD "box" = .null then some parsed
            else none)
  | _ => .ok none

/-- Open a device-list record fetched from a relay. -/
def openDeviceList (data : Json) (isign idh : Bytes) : Except Raised DeviceList := do
  match ← unsealedRecord data with
  | some parsed => DeviceList.fromDict suite parsed
  | none => DeviceList.fromBytes suite (← openPayload suite data isign idh)

/-- Open any account-signed record, sealed or plain. -/
def openSignedPayload (data : Json) (isign idh : Bytes) : Except Raised Json := do
  match ← unsealedRecord data with
  | some parsed => return parsed
  | none =>
      let plaintext ← openPayload suite data isign idh
      match loadJson plaintext with
      | none => throw { class_ := .deviceList, text := "record could not be parsed" }
      | some opened =>
          if opened.isObj then return opened
          else throw { class_ := .deviceList, text := "record is not an object" }

/-- One device's own signing and agreement keys, vouched for by the account. -/
structure DeviceKeys where
  deviceId : String
  sdev : Bytes
  sagree : Bytes
  isign : Bytes
  idh : Bytes
  account : String := ""
  signature : Bytes := []
deriving DecidableEq

namespace DeviceKeys

def address (record : DeviceKeys) : String :=
  deviceKeysId suite record.isign record.idh record.deviceId

def payload (record : DeviceKeys) : Json :=
  .mkObj [
    ("v", .int deviceListVersion),
    ("account", .str record.account),
    ("isign", .str (b64e record.isign)),
    ("idh", .str (b64e record.idh)),
    ("device", .str record.deviceId),
    ("sdev", .str (b64e record.sdev)),
    ("sagree", .str (b64e record.sagree)),
    ("bundle_id", .str (record.address suite))]

def signedBytes (record : DeviceKeys) : Bytes :=
  deviceKeysSignInfo ++ canonicalJson (record.payload suite)

def toDict (record : DeviceKeys) : Json :=
  (record.payload suite).setField "sig" (.str (b64e record.signature))

def toBytes (record : DeviceKeys) : Bytes := canonicalJson (record.toDict suite)

def readFields (data : Json) : Except Raised DeviceKeys := do
  let isign ← (Json.str (← data.item "isign").toText).toBytes
  let idh ← (Json.str (← data.item "idh").toText).toBytes
  let account := (← data.item "account").toText
  let deviceId := (← data.item "device").toText
  let sdev ← (Json.str (← data.item "sdev").toText).toBytes
  let sagree ← (Json.str (← data.item "sagree").toText).toBytes
  let signature ← (Json.str (← data.item "sig").toText).toBytes
  return { deviceId, sdev, sagree, isign, idh, account, signature }

def fromDict (data : Json) : Except Raised DeviceKeys := do
  refuse (!data.isObj || !(data.getD "v").equalsInt deviceListVersion)
    { class_ := .deviceList, text := "unsupported device keys version" }
  let record ← Except.rewrap ErrorClass.isMalformed
    (fun _ => { class_ := .deviceList, text := "malformed device keys" })
    (readFields data)
  refuse (record.sdev.length ≠ keySize || record.sagree.length ≠ keySize)
    { class_ := .deviceList, text := "device keys have the wrong length" }
  refuse (computeIdentityId suite record.isign record.idh ≠ record.account)
    { class_ := .deviceList
      text := "device keys account does not match its keys" }
  refuse (!suite.verify record.isign record.signature (record.signedBytes suite))
    { class_ := .deviceList, text := "device keys signature is invalid" }
  return record

def fromBytes (data : Bytes) : Except Raised DeviceKeys :=
  match decodeUtf8 data with
  | none => .error { class_ := .value }
  | some text =>
      match Json.parse text.toList with
      | none => .error { class_ := .deviceList
                         text := "device keys are not valid JSON" }
      | some value => fromDict suite value

def belongsTo (record : DeviceKeys) (account : String) (isign idh : Bytes) :
    Bool :=
  record.account = account && record.isign = isign && record.idh = idh

def create (identity : Identity) (deviceId : String) (sdev sagree : Bytes) :
    DeviceKeys :=
  let record : DeviceKeys := {
    deviceId, sdev, sagree
    isign := identity.edPublic suite
    idh := identity.xPublic suite
    account := identity.identityId suite }
  { record with signature := identity.sign suite (record.signedBytes suite) }

end DeviceKeys

end NoKnowledge

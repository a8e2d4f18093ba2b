import NoKnowledge.Crypto.Identity

/-!
# Mailbox capabilities and contact cards

A card carries the identity keys, the prekey bundle handle, the write
capability of the inbox and the relay set, signed by its owner.
-/

namespace NoKnowledge

def tokenSize : Nat := 32

/-- An address plus the capabilities needed to use it. -/
structure MailboxCapability where
  mailboxId : String
  writeToken : String
  readToken : Option String := none
deriving DecidableEq, Repr

namespace MailboxCapability

/-- The write-only view that goes into a contact card. -/
def cardView (capability : MailboxCapability) : Json :=
  .mkObj [("id", .str capability.mailboxId), ("w", .str capability.writeToken)]

def fromCardView (view : Json) : Except Raised MailboxCapability := do
  return {
    mailboxId := (← view.item "id").toText
    writeToken := (← view.item "w").toText }

def validateToken (name token : String) : Except Raised Unit :=
  match b64d token with
  | none => .error { class_ := .value
                     text := name ++ " is not valid base64url" }
  | some raw =>
      if raw.length ≠ tokenSize then
        .error { class_ := .value, text := name ++ " has the wrong length" }
      else .ok ()

def validate (capability : MailboxCapability) : Except Raised Unit := do
  validateToken "write_token" capability.writeToken
  match capability.readToken with
  | none => return
  | some token => validateToken "read_token" token

end MailboxCapability

def cardPrefix : String := "nk://1/"

/-- What the libraries make of the text of a card: compression, and the reading of
octets in any encoding of JSON. -/
structure CardLibrary where
  compress : (data : Bytes) → (level : Nat) → Bytes
  decompress : Bytes → Option Bytes
  loads : Bytes → Except Raised Json

/-- Decompression undoes compression, and octets that are UTF-8 are read as such. -/
structure CardLibrary.Restores (library : CardLibrary) : Prop where
  decompress : ∀ data level, library.decompress (library.compress data level) = some data
  loads : ∀ data value, loadJson data = some value → library.loads data = .ok value

/-- Serialise a card payload to its compact text. -/
def cardEncode (library : CardLibrary) (payload : Json) : String :=
  cardPrefix ++ b64e (library.compress (canonicalJson payload) 9)

/-- A letter of a text in lower case, as far as the prefix shows it: besides the
letters of ASCII the Kelvin sign has a letter of the prefix as its small letter. -/
def lowerLetter (letter : Char) : Char :=
  if letter.toNat = 0x212A then 'k' else letter.toLower

/-- Parse a card text. -/
def cardDecode (library : CardLibrary) (text : String) : Except Raised Json := do
  let stripped := Json.strip text.toList
  refuse (!cardPrefix.toList.isPrefixOf (stripped.map lowerLetter))
    { class_ := .value, text := "not a noknowledge contact card" }
  let raw ← (Json.str (String.ofList (stripped.drop cardPrefix.length))).toBytes
  match library.decompress raw with
  | some data => library.loads data
  | none => throw { class_ := .value, text := "corrupt contact card" }

structure ContactCard where
  identityId : String
  isign : Bytes
  idh : Bytes
  bundleId : String
  inbox : MailboxCapability
  relays : List Json
  name : Json := .null
  signature : Bytes := []
deriving DecidableEq

namespace ContactCard

variable (suite : Suite)

def payload (card : ContactCard) : Json :=
  let fields : List (String × Json) := [
    ("v", .int 1),
    ("id", .str card.identityId),
    ("isign", .str (b64e card.isign)),
    ("idh", .str (b64e card.idh)),
    ("bundle", .str card.bundleId),
    ("inbox", card.inbox.cardView),
    ("relays", .arr card.relays)]
  .mkObj (fields ++ if card.name.truthy then [("name", card.name)] else [])

def signedDict (card : ContactCard) : Json :=
  card.payload.setField "sig" (.str (b64e card.signature))

def signedBytes (card : ContactCard) : Bytes :=
  cardSignInfo ++ canonicalJson card.payload

/-- Read the fields of a card, before any check. -/
def readFields (data : Json) : Except Raised ContactCard := do
  let isign ← (← data.item "isign").toBytes
  let idh ← (← data.item "idh").toBytes
  let identityId := (← data.item "id").toText
  let bundleId := (← data.item "bundle").toText
  let inbox ← MailboxCapability.fromCardView (← data.item "inbox")
  let relays ← ((data.getD "relays").orElse (.arr [])).elements
  let name := data.getD "name"
  let signature ← (← data.item "sig").toBytes
  return { identityId, isign, idh, bundleId, inbox, relays, name, signature }

def fromDict (data : Json) : Except Raised ContactCard := do
  let version ← data.attempt "v"
  refuse (!version.equalsInt 1)
    { class_ := .card
      text := "unsupported card version: " ++ version.toText }
  let card ← Except.rewrap ErrorClass.isMalformed
    (fun _ => { class_ := .card, text := "malformed contact card" })
    (readFields data)
  refuse (card.relays.isEmpty)
    { class_ := .card, text := "contact card has no relays" }
  refuse (computeIdentityId suite card.isign card.idh ≠ card.identityId)
    { class_ := .card
      text := "contact card id does not match its public keys" }
  card.inbox.validate
  refuse (!suite.verify card.isign card.signature card.signedBytes)
    { class_ := .card, text := "contact card signature is invalid" }
  return card

def create (identity : Identity) (bundleId : String)
    (inbox : MailboxCapability) (relays : List String) (name : String) :
    ContactCard :=
  let card : ContactCard := {
    identityId := identity.identityId suite
    isign := identity.edPublic suite
    idh := identity.xPublic suite
    bundleId
    inbox := { mailboxId := inbox.mailboxId, writeToken := inbox.writeToken }
    relays := relays.map Json.str
    name := .str name }
  { card with signature := identity.sign suite card.signedBytes }

variable (library : CardLibrary)

def toString (card : ContactCard) : String := cardEncode library card.signedDict

def fromString (text : String) : Except Raised ContactCard := do
  let data ← Except.rewrap (fun class_ => class_ = .value)
    (fun raised => { class_ := .card, text := raised.text }) (cardDecode library text)
  fromDict suite data

end ContactCard

end NoKnowledge

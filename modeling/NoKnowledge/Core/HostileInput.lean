import NoKnowledge.Core.Card
import NoKnowledge.Crypto.SymbolicSuite
import NoKnowledge.Foundation.Values
import NoKnowledge.Wire.Protocol

/-!
# Parsers of hostile input

A contact card, an identity vault and a wire message come from elsewhere: any
text, any octets and in them a JSON value of any shape in any place.  The parsers
are given here with such values, and with every exception that the expressions
of the source raise on them, so that it can be said which of them escape.
-/

namespace NoKnowledge.Hostile

/-- What is handed to a parser. -/
inductive Input where
  | bytes (data : Bytes)
  | text (content : Text)

/-- `data.decode("utf-8")` of octets, with a handler -/
def Input.decoded (malformed : Thrown) : Input → Except Thrown Text
  | .bytes data =>
      match decodeUtf8 data with
      | some content => .ok (Text.ofString content)
      | none => .error malformed
  | .text content => .ok content

variable (python : Interpreter)

/-- `json.loads` of a text, with a handler for what is no JSON.  Another exception says
that an integer has too many digits. -/
def loadsText (malformed : Thrown) (content : Text) : Except Thrown Value :=
  match Reader.loads python.digitLimit content with
  | .ok value => .ok value
  | .error .syntax_ => .error malformed
  | .error .digits => .error { class_ := .value }

/-- `json.loads` of octets -/
def loadsBytes (data : Bytes) : Except Thrown Value :=
  match python.decodeJson data with
  | none => .error { class_ := .value }
  | some content =>
      match Reader.decode python.digitLimit content with
      | .ok value => .ok value
      | .error _ => .error { class_ := .value }

def wireError (text : Text) : Thrown := { class_ := .wire, text }

/-- A wire object in which no required field is missing. -/
def requireFields (wire : Value) : Except Thrown Value :=
  match Wire.requiredFields.find? fun field => (wire.get? field).isNone with
  | some field =>
      .error (wireError (Text.ofString ("wire message is missing '" ++ field ++ "'")))
  | none => .ok wire

def parseWire (blob : Input) : Except Thrown Value := do
  let content ← blob.decoded (wireError (Text.ofString "wire message is not UTF-8"))
  let wire ← loadsText python
    (wireError (Text.ofString "wire message is not valid JSON")) content
  let version := wire.getD "v"
  demand (wire.isObj && version.equalsInt python Wire.wireVersion)
    (wireError (Text.ofString "unsupported wire version: " ++ version.toText python))
  requireFields wire

def cardPrefix : String := "nk://1/"

/-- `text.strip()` -/
def strip (text : Text) : Text :=
  let blank : Point → Bool
    | .char character => Json.isBlank character
    | .lone _ _ => false
  ((text.dropWhile blank).reverse.dropWhile blank).reverse

def valueError (text : String) : Thrown := { class_ := .value, text := Text.ofString text }

/-- Parse a card text. -/
def cardDecode (text : Text) : Except Thrown Value := do
  let text := strip text
  demand ((Text.ofString cardPrefix).isPrefixOf (python.lower text))
    (valueError "not a noknowledge contact card")
  let raw ← (Value.text (text.drop (Text.ofString cardPrefix).length)).toBytes
  match python.decompress raw with
  | some data => loadsBytes python data
  | none => throw (valueError "corrupt contact card")

structure MailboxCapability where
  mailboxId : Text
  writeToken : Text
  readToken : Option Text := none

namespace MailboxCapability

/-- The write-only view that goes into a contact card. -/
def cardView (capability : MailboxCapability) : Value :=
  .mkObj [("id", .text capability.mailboxId), ("w", .text capability.writeToken)]

def fromCardView (view : Value) : Except Thrown MailboxCapability := do
  let mailboxId ← view.textAt python "id"
  let writeToken ← view.textAt python "w"
  return { mailboxId, writeToken }

def validateToken (name : String) (token : Text) : Except Thrown Unit :=
  match token.toString?.bind b64d with
  | none => .error (valueError (name ++ " is not valid base64url"))
  | some raw => demand (raw.length = tokenSize) (valueError (name ++ " has the wrong length"))

def validate (capability : MailboxCapability) : Except Thrown Unit := do
  validateToken "write_token" capability.writeToken
  match capability.readToken with
  | none => return
  | some token => validateToken "read_token" token

end MailboxCapability

structure ContactCard where
  identityId : Text
  isign : Bytes
  idh : Bytes
  bundleId : Text
  inbox : MailboxCapability
  relays : List Value := []
  name : Value := .null
  signature : Bytes := []

def cardError (text : Text) : Thrown := { class_ := .card, text }

namespace ContactCard

def payload (card : ContactCard) : Value :=
  let fields : List (String × Value) := [
    ("v", .int 1),
    ("id", .text card.identityId),
    ("isign", .text (Text.ofString (b64e card.isign))),
    ("idh", .text (Text.ofString (b64e card.idh))),
    ("bundle", .text card.bundleId),
    ("inbox", card.inbox.cardView),
    ("relays", .arr card.relays)]
  .mkObj (fields ++ if card.name.truthy python then [("name", card.name)] else [])

def signedBytes (card : ContactCard) : Except Thrown Bytes := do
  return cardSignInfo ++ (← (card.payload python).canonicalJson python)

/-- Read the fields of a card, before any check. -/
def readFields (data : Value) : Except Thrown ContactCard := do
  let isign ← data.bytesAt "isign"
  let idh ← data.bytesAt "idh"
  let identityId ← data.textAt python "id"
  let bundleId ← data.textAt python "bundle"
  let inbox ← MailboxCapability.fromCardView python (← data.item "inbox")
  let relays ← ((data.getD "relays").orElse python (.arr [])).elements
  let name := data.getD "name"
  let signature ← data.bytesAt "sig"
  return { identityId, isign, idh, bundleId, inbox, relays, name, signature }

variable (suite : Suite)

def fromDict (data : Value) : Except Thrown ContactCard := do
  let version ← data.attempt "v"
  demand (version.equalsInt python 1)
    (cardError (Text.ofString "unsupported card version: " ++ version.toText python))
  let card ← rescue Thrown.isMalformed
    (fun _ => cardError (Text.ofString "malformed contact card")) (readFields python data)
  demand (!card.relays.isEmpty) (cardError (Text.ofString "contact card has no relays"))
  demand (Text.ofString (computeIdentityId suite card.isign card.idh) = card.identityId)
    (cardError (Text.ofString "contact card id does not match its public keys"))
  card.inbox.validate
  let signed ← card.signedBytes python
  demand (suite.verify card.isign card.signature signed)
    (cardError (Text.ofString "contact card signature is invalid"))
  return card

def fromString : Input → Except Thrown ContactCard
  -- Octets begin with no text: `startswith` refuses its argument.
  | .bytes _ => .error { class_ := .type }
  | .text text => do
      let data ← rescue (·.class_ = .value) (fun raised => cardError raised.text)
        (cardDecode python text)
      fromDict python suite data

end ContactCard

/-- The functions of the cryptography package that open a vault: a key derivation may
refuse its parameters, or fail when it runs. -/
structure VaultLibrary where
  pbkdf2 : (salt : Bytes) → (iterations : Int) →
    Except Foreign ((password : Bytes) → Except Foreign Bytes)
  aesGcmDecrypt : (key nonce data associated : Bytes) → Option Bytes

def edSeedSize : Nat := 32
def xSeedSize : Nat := 32
def vaultVersion : Int := 1

def identityError (text : Text) : Thrown := { class_ := .identity, text }

variable (library : VaultLibrary)

def vaultKey (passphrase : Text) (salt : Bytes) (iterations : Int) : Except Thrown Bytes := do
  let derive ← Foreign.lift (library.pbkdf2 salt iterations)
  match passphrase.encode with
  | some password => Foreign.lift (derive password)
  | none => throw { class_ := .value }

/-- Everything that is raised here has one handler. -/
def decryptSecret (key blob : Bytes) (payload : Value) : Except Thrown Bytes := do
  let nonce ← payload.bytesAt "nonce"
  let id ← payload.item "id"
  let associated ← (Value.mkObj [("id", id)]).canonicalJson python
  match library.aesGcmDecrypt key nonce blob associated with
  | some secret => return secret
  | none => throw { class_ := .aead }

/-- A passphrase that is there and not empty. -/
def given (passphrase : Option Text) : Option Text := passphrase.filter (!·.isEmpty)

def kdfParams (payload : Value) : Value := (payload.getD "kdf").orElse python (.obj [])

/-- The key of an encrypted vault. -/
def passphraseKey (payload : Value) (passphrase : Text) : Except Thrown Bytes := do
  let salt ← (kdfParams python payload).bytesAt "salt"
  let iterations ← (kdfParams python payload).intAt python "iterations"
  vaultKey library passphrase salt iterations

def readSecret (payload : Value) (blob : Bytes) (passphrase : Option Text) :
    Except Thrown Bytes :=
  if (payload.getD "encrypted").truthy python then
    match given passphrase with
    | none =>
        throw (identityError
          (Text.ofString "vault is encrypted but no passphrase was given"))
    | some passphrase => do
        let key ← passphraseKey python library payload passphrase
        rescue (fun _ => true)
          (fun _ => identityError (Text.ofString "wrong passphrase or corrupted vault"))
          (decryptSecret python library key blob payload)
  else
    match given passphrase with
    | some _ =>
        throw (identityError
          (Text.ofString "vault is not encrypted; remove the passphrase"))
    | none => return blob

/-- An identity with its label. -/
def fromPrivateBytes (edSeed xSeed : Bytes) (label : Value) :
    Except Thrown (Identity × Value) := do
  demand (edSeed.length = edSeedSize && xSeed.length = xSeedSize)
    (identityError (Text.ofString "invalid private key length"))
  return (⟨edSeed, xSeed⟩, label)

variable (suite : Suite)

def fromVault (data : Input) (passphrase : Option Text) :
    Except Thrown (Identity × Value) := do
  let content ← data.decoded (identityError (Text.ofString "vault is not valid UTF-8"))
  let payload ← loadsText python
    (identityError (Text.ofString "vault is not valid JSON")) content
  demand payload.isObj (identityError (Text.ofString "vault is not a JSON object"))
  let version := payload.getD "v"
  demand (version.equalsInt python vaultVersion)
    (identityError (Text.ofString "unsupported vault version: " ++ version.toText python))
  let blob ← payload.bytesAt "secret"
  let secret ← readSecret python library payload blob passphrase
  demand (secret.length = edSeedSize + xSeedSize)
    (identityError (Text.ofString "vault secret has the wrong length"))
  let identity ← fromPrivateBytes (secret.take edSeedSize) (secret.drop edSeedSize)
    (payload.getD "label")
  demand ((payload.getD "id").isText (Text.ofString (identity.1.identityId suite)))
    (identityError (Text.ofString "vault does not match its recorded identity id"))
  return identity

/-- What an input says, once it is decoded. -/
def Input.Denotes (content : Text) : Input → Prop
  | .bytes data => ∃ text, decodeUtf8 data = some text ∧ Text.ofString text = content
  | .text other => other = content

/-- An input whose JSON has an integer of more digits than the interpreter converts. -/
def HasLongInteger (input : Input) : Prop :=
  ∃ content, input.Denotes content ∧ content.head? ≠ some (.char (Char.ofNat 0xFEFF)) ∧
    Reader.LongInteger python.digitLimit content

def WireEscapes (blob : Input) : Prop := HasLongInteger python blob

/-- A document has every field of a card, in a shape from which it is read. -/
structure ContactCard.Reads (data : Value) (card : ContactCard) : Prop where
  isign : data.HoldsBytes "isign" card.isign
  idh : data.HoldsBytes "idh" card.idh
  identityId : data.HoldsText python "id" card.identityId
  bundleId : data.HoldsText python "bundle" card.bundleId
  inbox : ∃ view, data.get? "inbox" = some view ∧
    view.HoldsText python "id" card.inbox.mailboxId ∧
    view.HoldsText python "w" card.inbox.writeToken
  readToken : card.inbox.readToken = none
  relays : ((data.getD "relays").orElse python (.arr [])).elements = .ok card.relays
  name : data.getD "name" = card.name
  signature : data.HoldsBytes "sig" card.signature

/-- A write token is the base64 of 32 octets. -/
def MailboxCapability.Valid (capability : MailboxCapability) : Prop :=
  ∃ raw, capability.writeToken.toString?.bind b64d = some raw ∧ raw.length = tokenSize

/-- A lone surrogate in what a card signs besides its id and the write token. -/
def ContactCard.HasLone (card : ContactCard) : Prop :=
  card.bundleId.HasLone ∨ card.inbox.mailboxId.HasLone ∨
    (∃ relay ∈ card.relays, relay.hasLone = true) ∨ card.name.hasLone = true

/-- A document that is no object; or a card of this version, with relays and with the id
of its keys, that has an invalid write token or cannot be signed. -/
def DocumentEscapes (suite : Suite) (data : Value) : Prop :=
  data.isObj = false ∨
    (data.getD "v").equalsInt python 1 = true ∧
      ∃ card, ContactCard.Reads python data card ∧ card.relays ≠ [] ∧
        Text.ofString (computeIdentityId suite card.isign card.idh) = card.identityId ∧
        (¬ card.inbox.Valid ∨ card.HasLone)

def CardEscapes (suite : Suite) : Input → Prop
  | .bytes _ => True
  | .text text => ∃ data, cardDecode python text = .ok data ∧ DocumentEscapes python suite data

/-- The parameters of a vault and a passphrase give this key. -/
def KeyDerives (library : VaultLibrary) (payload : Value) (passphrase : Text)
    (key : Bytes) : Prop :=
  ∃ salt iterations derive password,
    (kdfParams python payload).HoldsBytes "salt" salt ∧
    (kdfParams python payload).HoldsInt python "iterations" iterations ∧
    library.pbkdf2 salt iterations = .ok derive ∧ passphrase.encode = some password ∧
    derive password = .ok key

/-- An integer of too many digits; or an object of this version whose secret is no base64,
or that is encrypted and whose key cannot be derived. -/
def VaultEscapes (library : VaultLibrary) (data : Input) (passphrase : Option Text) : Prop :=
  HasLongInteger python data ∨
    ∃ content payload, data.Denotes content ∧
      Reader.loads python.digitLimit content = .ok payload ∧ payload.isObj = true ∧
      (payload.getD "v").equalsInt python vaultVersion = true ∧
      ((¬ ∃ blob, payload.HoldsBytes "secret" blob) ∨
        (payload.getD "encrypted").truthy python = true ∧
          ∃ passphrase_, given passphrase = some passphrase_ ∧
            ¬ ∃ key, KeyDerives python library payload passphrase_ key)

variable {python} {library} {suite} {class_ : ErrorClass} {malformed : Thrown}

theorem decoded_eq_ok {input : Input} {content : Text} :
    input.decoded malformed = .ok content ↔ input.Denotes content := by
  cases input with
  | bytes data =>
      rw [Input.decoded, Input.Denotes]
      cases decodeUtf8 data with
      | none => exact iff_of_false nofun (fun ⟨_, same, _⟩ => nomatch same)
      | some text => simp
  | text other => simp [Input.decoded, Input.Denotes]

theorem not_escapes_decoded (named : malformed.class_ = class_) (input : Input) :
    ¬ Escapes (·.class_ = class_) (input.decoded malformed) := by
  cases input with
  | bytes data =>
      rw [Input.decoded]
      cases decodeUtf8 data with
      | none => exact not_escapes_error named
      | some text => exact not_escapes_ok _
  | text content => exact not_escapes_ok content

theorem loadsText_eq_ok {content : Text} {value : Value} :
    loadsText python malformed content = .ok value ↔
      Reader.loads python.digitLimit content = .ok value := by
  rw [loadsText]
  split
  · rename_i other same
    rw [same]
    exact ⟨fun same => congrArg _ (Except.ok.inj same), fun same => congrArg _ (Except.ok.inj same)⟩
  · rename_i same
    rw [same]
    exact iff_of_false nofun nofun
  · rename_i same
    rw [same]
    exact iff_of_false nofun nofun

/-- Only the digits of an integer raise what the handler for JSON does not catch. -/
theorem escapes_loadsText (named : malformed.class_ = class_) (other : class_ ≠ .value)
    {content : Text} :
    Escapes (·.class_ = class_) (loadsText python malformed content) ↔
      content.head? ≠ some (.char (Char.ofNat 0xFEFF)) ∧
        Reader.LongInteger python.digitLimit content := by
  rw [← Reader.loads_eq_digits, loadsText]
  split
  · rename_i value same
    rw [same]
    exact iff_of_false (not_escapes_ok value) nofun
  · rename_i same
    rw [same]
    exact iff_of_false (not_escapes_error named) nofun
  · rename_i same
    exact iff_of_true (escapes_error.mpr other.symm) same

/-- A parser begins with decoding its input and reading it as JSON. -/
theorem escapes_loaded {α : Type} (class_ : ErrorClass) {undecoded : Thrown}
    (decodes : undecoded.class_ = class_) (named : malformed.class_ = class_)
    (other : class_ ≠ .value) {input : Input} {next : Value → Except Thrown α} :
    Escapes (·.class_ = class_)
        (input.decoded undecoded >>= fun content =>
          loadsText python malformed content >>= next) ↔
      HasLongInteger python input ∨
        ∃ content value, input.Denotes content ∧
          Reader.loads python.digitLimit content = .ok value ∧
          Escapes (·.class_ = class_) (next value) := by
  rw [escapes_bind_of_quiet (not_escapes_decoded decodes input), HasLongInteger, ← exists_or]
  refine exists_congr fun content => ?_
  rw [decoded_eq_ok, escapes_bind, escapes_loadsText named other, and_or_left]
  refine or_congr_right ?_
  simp only [loadsText_eq_ok, exists_and_left]

/-- An object that has every required field. -/
def Complete (wire : Value) : Prop :=
  wire.isObj = true ∧ ∀ field ∈ Wire.requiredFields, (wire.get? field).isSome = true

theorem not_escapes_requireFields (wire : Value) :
    ¬ Escapes (·.class_ = .wire) (requireFields wire) := by
  rw [requireFields]
  split
  · exact not_escapes_error rfl
  · exact not_escapes_ok wire

theorem requireFields_eq_ok {wire result : Value} (required : requireFields wire = .ok result) :
    result = wire ∧ ∀ field ∈ Wire.requiredFields, (wire.get? field).isSome = true := by
  rw [requireFields] at required
  split at required
  · cases required
  · rename_i missing
    cases required
    refine ⟨rfl, fun field member => ?_⟩
    have present := List.find?_eq_none.mp missing field member
    rw [Bool.not_eq_true, Option.isNone_eq_false_iff] at present
    exact present

theorem complete_of_parseWire {blob : Input} {wire : Value}
    (parsed : parseWire python blob = .ok wire) : Complete wire := by
  obtain ⟨content, -, parsed⟩ := except_bind_eq_ok.mp parsed
  obtain ⟨found, -, parsed⟩ := except_bind_eq_ok.mp parsed
  obtain ⟨_, current, parsed⟩ := except_bind_eq_ok.mp parsed
  obtain ⟨rfl, present⟩ := requireFields_eq_ok parsed
  rw [demand_eq_ok, Bool.and_eq_true] at current
  exact ⟨current.1, present⟩

theorem escapes_parseWire {blob : Input} :
    Escapes (·.class_ = .wire) (parseWire python blob) ↔ WireEscapes python blob := by
  rw [parseWire, escapes_loaded .wire rfl rfl (by decide), WireEscapes]
  refine or_iff_left ?_
  intro ⟨content, wire, _, _, escapes⟩
  obtain ⟨-, escapes⟩ := (escapes_demand_bind (by rfl)).mp escapes
  exact not_escapes_requireFields wire escapes

theorem not_escapes_loadsBytes (data : Bytes) :
    ¬ Escapes (·.class_ = .value) (loadsBytes python data) := by
  rw [loadsBytes]
  cases python.decodeJson data with
  | none => exact not_escapes_error rfl
  | some content =>
      dsimp only
      cases Reader.decode python.digitLimit content with
      | ok value => exact not_escapes_ok value
      | error fault => exact not_escapes_error rfl

theorem not_escapes_cardDecode (text : Text) :
    ¬ Escapes (·.class_ = .value) (cardDecode python text) := by
  intro escapes
  rw [cardDecode] at escapes
  obtain ⟨-, escapes⟩ := (escapes_demand_bind (by rfl)).mp escapes
  obtain ⟨raw, -, escapes⟩ :=
    (escapes_bind_of_quiet (Value.not_escapes_toBytes_text _)).mp escapes
  revert escapes
  cases python.decompress raw with
  | some data => exact not_escapes_loadsBytes data
  | none => exact not_escapes_error rfl

theorem not_escapes_fromCardView (view : Value) :
    ¬ Escapes (·.isMalformed = true) (MailboxCapability.fromCardView python view) := by
  rw [MailboxCapability.fromCardView,
    escapes_bind_of_quiet (Value.not_escapes_textAt view "id")]
  intro ⟨mailboxId, _, escapes⟩
  rw [escapes_bind_of_quiet (Value.not_escapes_textAt view "w")] at escapes
  obtain ⟨writeToken, -, escapes⟩ := escapes
  exact not_escapes_ok _ escapes

/-- Whatever the fields hold, reading them raises what the handler catches. -/
theorem not_escapes_readFields (data : Value) :
    ¬ Escapes (·.isMalformed = true) (ContactCard.readFields python data) := by
  intro escapes
  rw [ContactCard.readFields] at escapes
  obtain ⟨isign, -, escapes⟩ :=
    (escapes_bind_of_quiet (Value.not_escapes_bytesAt data "isign")).mp escapes
  obtain ⟨idh, -, escapes⟩ :=
    (escapes_bind_of_quiet (Value.not_escapes_bytesAt data "idh")).mp escapes
  obtain ⟨identityId, -, escapes⟩ :=
    (escapes_bind_of_quiet (Value.not_escapes_textAt data "id")).mp escapes
  obtain ⟨bundleId, -, escapes⟩ :=
    (escapes_bind_of_quiet (Value.not_escapes_textAt data "bundle")).mp escapes
  obtain ⟨view, -, escapes⟩ :=
    (escapes_bind_of_quiet (Value.not_escapes_item data "inbox")).mp escapes
  obtain ⟨inbox, -, escapes⟩ :=
    (escapes_bind_of_quiet (not_escapes_fromCardView view)).mp escapes
  obtain ⟨relays, -, escapes⟩ :=
    (escapes_bind_of_quiet (Value.not_escapes_elements _)).mp escapes
  obtain ⟨signature, -, escapes⟩ :=
    (escapes_bind_of_quiet (Value.not_escapes_bytesAt data "sig")).mp escapes
  exact not_escapes_ok _ escapes

theorem fromCardView_eq_ok {view : Value} {capability : MailboxCapability} :
    MailboxCapability.fromCardView python view = .ok capability ↔
      view.HoldsText python "id" capability.mailboxId ∧
        view.HoldsText python "w" capability.writeToken ∧ capability.readToken = none := by
  rw [MailboxCapability.fromCardView, except_bind_eq_ok]
  constructor
  · intro ⟨mailboxId, id, read⟩
    obtain ⟨writeToken, token, read⟩ := except_bind_eq_ok.mp read
    cases read
    exact ⟨Value.textAt_eq_ok.mp id, Value.textAt_eq_ok.mp token, rfl⟩
  · intro ⟨id, token, unread⟩
    obtain ⟨mailboxId, writeToken, readToken⟩ := capability
    obtain rfl : readToken = none := unread
    exact ⟨mailboxId, Value.textAt_eq_ok.mpr id,
      except_bind_eq_ok.mpr ⟨writeToken, Value.textAt_eq_ok.mpr token, rfl⟩⟩

theorem readFields_eq_ok {data : Value} {card : ContactCard} :
    ContactCard.readFields python data = .ok card ↔ ContactCard.Reads python data card := by
  rw [ContactCard.readFields, except_bind_eq_ok]
  constructor
  · intro ⟨isign, readIsign, read⟩
    obtain ⟨idh, readIdh, read⟩ := except_bind_eq_ok.mp read
    obtain ⟨identityId, readId, read⟩ := except_bind_eq_ok.mp read
    obtain ⟨bundleId, readBundle, read⟩ := except_bind_eq_ok.mp read
    obtain ⟨view, held, read⟩ := except_bind_eq_ok.mp read
    obtain ⟨inbox, viewed, read⟩ := except_bind_eq_ok.mp read
    obtain ⟨relays, listed, read⟩ := except_bind_eq_ok.mp read
    obtain ⟨signature, readSignature, read⟩ := except_bind_eq_ok.mp read
    cases read
    obtain ⟨mailboxId, writeToken, readToken⟩ := fromCardView_eq_ok.mp viewed
    exact {
      isign := Value.bytesAt_eq_ok.mp readIsign
      idh := Value.bytesAt_eq_ok.mp readIdh
      identityId := Value.textAt_eq_ok.mp readId
      bundleId := Value.textAt_eq_ok.mp readBundle
      inbox := ⟨view, Value.item_eq_ok.mp held, mailboxId, writeToken⟩
      readToken
      relays := listed
      name := rfl
      signature := Value.bytesAt_eq_ok.mp readSignature }
  · intro reads
    obtain ⟨identityId, isign, idh, bundleId, inbox, relays, name, signature⟩ := card
    obtain ⟨view, held, mailboxId, writeToken⟩ := reads.inbox
    refine ⟨isign, Value.bytesAt_eq_ok.mpr reads.isign, ?_⟩
    refine except_bind_eq_ok.mpr ⟨idh, Value.bytesAt_eq_ok.mpr reads.idh, ?_⟩
    refine except_bind_eq_ok.mpr ⟨identityId, Value.textAt_eq_ok.mpr reads.identityId, ?_⟩
    refine except_bind_eq_ok.mpr ⟨bundleId, Value.textAt_eq_ok.mpr reads.bundleId, ?_⟩
    refine except_bind_eq_ok.mpr ⟨view, Value.item_eq_ok.mpr held, ?_⟩
    refine except_bind_eq_ok.mpr
      ⟨inbox, fromCardView_eq_ok.mpr ⟨mailboxId, writeToken, reads.readToken⟩, ?_⟩
    refine except_bind_eq_ok.mpr ⟨relays, reads.relays, ?_⟩
    refine except_bind_eq_ok.mpr ⟨signature, Value.bytesAt_eq_ok.mpr reads.signature, ?_⟩
    rw [reads.name]
    rfl

theorem validate_of_valid {capability : MailboxCapability} (valid : capability.Valid)
    (unread : capability.readToken = none) : capability.validate = .ok () := by
  obtain ⟨raw, decoded, size⟩ := valid
  rw [MailboxCapability.validate, MailboxCapability.validateToken, decoded, unread]
  dsimp only
  rw [size, decide_eq_true rfl]
  rfl

theorem escapes_validate {capability : MailboxCapability}
    (unread : capability.readToken = none) :
    Escapes (·.class_ = .card) capability.validate ↔ ¬ capability.Valid := by
  constructor
  · intro escapes valid
    rw [validate_of_valid valid unread] at escapes
    exact not_escapes_ok () escapes
  · intro invalid
    rw [MailboxCapability.validate, escapes_bind]
    refine .inl ?_
    rw [MailboxCapability.validateToken]
    cases decoded : capability.writeToken.toString?.bind b64d with
    | none => exact escapes_error.mpr nofun
    | some raw =>
        have size : raw.length ≠ tokenSize := fun size => invalid ⟨raw, decoded, size⟩
        dsimp only
        rw [decide_eq_false size]
        exact escapes_error.mpr nofun

theorem not_hasLone_of_bytes {content : Text} {data : Bytes}
    (decoded : content.toString?.bind b64d = some data) : ¬ content.HasLone := by
  intro lone
  rw [← Text.encode_eq_none, Text.encode, Option.map_eq_none_iff] at lone
  rw [lone] at decoded
  cases decoded

theorem hasLone_optionalName (name : Value) :
    Value.hasLoneFields ((if name.truthy python then [("name", name)] else []).map fun field =>
      (Text.ofString field.1, field.2)) = name.hasLone := by
  by_cases truthy : name.truthy python = true
  · rw [if_pos truthy, List.map_singleton, Value.hasLoneFields, Value.hasLoneFields,
      decide_eq_false (Text.not_hasLone_ofString "name"), Bool.false_or, Bool.or_false]
  · rw [if_neg truthy, Value.hasLone_of_not_truthy (Bool.not_eq_true _ ▸ truthy)]
    rfl

/-- The id and the write token are texts of the keys' and the tokens' alphabets; what is
left are the parts of a card that nothing checks. -/
theorem hasLone_payload {card : ContactCard}
    (identified : ¬ card.identityId.HasLone) (valid : card.inbox.Valid) :
    (card.payload python).hasLone = true ↔ card.HasLone := by
  obtain ⟨raw, decoded, -⟩ := valid
  have token := not_hasLone_of_bytes decoded
  have plain : ∀ name : String, ¬ (Text.ofString name).HasLone := Text.not_hasLone_ofString
  rw [ContactCard.payload, Value.mkObj, Value.hasLone, Value.hasLoneFields_eq_any,
    List.map_append, List.any_append, ← Value.hasLoneFields_eq_any, ← Value.hasLoneFields_eq_any,
    hasLone_optionalName]
  simp [Value.hasLoneFields, Value.hasLone, plain, identified, token,
    MailboxCapability.cardView, Value.mkObj, Value.hasLoneItems_eq_any, ContactCard.HasLone,
    or_assoc]

theorem escapes_signedBytes {card : ContactCard} :
    Escapes (·.class_ = .card) (card.signedBytes python) ↔
      (card.payload python).hasLone = true := by
  rw [ContactCard.signedBytes, ← @Value.canonicalJson_eq_error python, escapes_bind,
    or_iff_left fun ⟨_, _, escapes⟩ => not_escapes_ok _ escapes]
  constructor
  · intro ⟨raised, same, _⟩
    exact ⟨raised, same⟩
  · intro ⟨raised, same⟩
    refine ⟨raised, same, ?_⟩
    exact fun named => nomatch (Value.class_of_canonicalJson same).symm.trans named

variable (suite) in
/-- What is left to do with a card whose fields were read. -/
theorem escapes_checks {card : ContactCard} (unread : card.inbox.readToken = none) :
    Escapes (·.class_ = .card) (do
      demand (!card.relays.isEmpty) (cardError (Text.ofString "contact card has no relays"))
      demand (Text.ofString (computeIdentityId suite card.isign card.idh) = card.identityId)
        (cardError (Text.ofString "contact card id does not match its public keys"))
      card.inbox.validate
      let signed ← card.signedBytes python
      demand (suite.verify card.isign card.signature signed)
        (cardError (Text.ofString "contact card signature is invalid"))
      return card) ↔
    card.relays ≠ [] ∧
      Text.ofString (computeIdentityId suite card.isign card.idh) = card.identityId ∧
      (¬ card.inbox.Valid ∨ card.HasLone) := by
  rw [escapes_demand_bind (by rfl), escapes_demand_bind (by rfl), decide_eq_true_iff,
    Bool.not_eq_true', List.isEmpty_eq_false_iff]
  refine and_congr_right fun _ => and_congr_right fun same => ?_
  have identified : ¬ card.identityId.HasLone := same ▸ Text.not_hasLone_ofString _
  rw [escapes_bind, escapes_validate unread]
  by_cases valid : card.inbox.Valid
  · refine or_congr_right ?_
    rw [← @hasLone_payload python card identified valid, ← escapes_signedBytes]
    constructor
    · intro ⟨_, _, escapes⟩
      rcases escapes_bind.mp escapes with escapes | ⟨signed, -, escapes⟩
      · exact escapes
      · obtain ⟨-, escapes⟩ := (escapes_demand_bind (by rfl)).mp escapes
        exact absurd escapes (not_escapes_ok card)
    · intro escapes
      exact ⟨(), validate_of_valid valid unread, escapes_bind.mpr (.inl escapes)⟩
  · exact iff_of_true (.inl valid) (.inl valid)

theorem escapes_fromDict {data : Value} :
    Escapes (·.class_ = .card) (ContactCard.fromDict python suite data) ↔
      DocumentEscapes python suite data := by
  rw [ContactCard.fromDict, DocumentEscapes]
  cases data with
  | obj fields =>
      rw [or_iff_right nofun]
      change Escapes _ (demand ((Value.getD (.obj fields) "v").equalsInt python 1) _ >>= _) ↔ _
      rw [escapes_demand_bind (by rfl)]
      refine and_congr_right fun _ => ?_
      rw [escapes_bind_of_quiet]
      · refine exists_congr fun card => ?_
        rw [rescue_eq_ok, readFields_eq_ok]
        exact and_congr_right fun reads => escapes_checks suite reads.readToken
      · rw [escapes_rescue fun _ => by rfl]
        exact fun escapes => not_escapes_readFields _ (escapes.mono fun _ => .inr)
  | _ => exact iff_of_true (escapes_error.mpr nofun) (.inl rfl)

theorem escapes_fromString {input : Input} :
    Escapes (·.class_ = .card) (ContactCard.fromString python suite input) ↔
      CardEscapes python suite input := by
  cases input with
  | bytes data => exact iff_of_true (escapes_error.mpr nofun) trivial
  | text text =>
      rw [ContactCard.fromString, CardEscapes, escapes_bind_of_quiet]
      · refine exists_congr fun data => ?_
        rw [rescue_eq_ok, escapes_fromDict]
      · rw [escapes_rescue fun _ => by rfl]
        intro escapes
        exact not_escapes_cardDecode text
          (escapes.mono fun _ same => .inr (decide_eq_true same))

theorem passphraseKey_eq_ok {payload : Value} {passphrase : Text} {key : Bytes} :
    passphraseKey python library payload passphrase = .ok key ↔
      KeyDerives python library payload passphrase key := by
  rw [passphraseKey, except_bind_eq_ok]
  constructor
  · intro ⟨salt, salted, derived⟩
    obtain ⟨iterations, iterated, derived⟩ := except_bind_eq_ok.mp derived
    obtain ⟨derive, prepared, derived⟩ := except_bind_eq_ok.mp derived
    cases encoded : passphrase.encode with
    | none =>
        rw [encoded] at derived
        cases derived
    | some password =>
        rw [encoded] at derived
        exact ⟨salt, iterations, derive, password, Value.bytesAt_eq_ok.mp salted,
          Value.intAt_eq_ok.mp iterated, Foreign.lift_eq_ok.mp prepared, encoded,
          Foreign.lift_eq_ok.mp derived⟩
  · intro ⟨salt, iterations, derive, password, salted, iterated, prepared, encoded, derived⟩
    refine ⟨salt, Value.bytesAt_eq_ok.mpr salted, ?_⟩
    refine except_bind_eq_ok.mpr ⟨iterations, Value.intAt_eq_ok.mpr iterated, ?_⟩
    refine except_bind_eq_ok.mpr ⟨derive, Foreign.lift_eq_ok.mpr prepared, ?_⟩
    rw [encoded]
    exact Foreign.lift_eq_ok.mpr derived

theorem never_passphraseKey (payload : Value) (passphrase : Text) :
    ¬ Escapes (fun raised => ¬ raised.class_ = .identity)
      (passphraseKey python library payload passphrase) := by
  intro escapes
  rw [passphraseKey] at escapes
  have salted : ¬ Escapes (fun raised => ¬ raised.class_ = .identity)
      ((kdfParams python payload).bytesAt "salt") := fun escapes =>
    Value.not_escapes_bytesAt _ _ (escapes.mono fun _ => class_ne_identity_of_isMalformed)
  obtain ⟨salt, -, escapes⟩ := (escapes_bind_of_quiet salted).mp escapes
  obtain ⟨iterations, -, escapes⟩ :=
    (escapes_bind_of_quiet (Value.not_escapes_intAt _ _)).mp escapes
  rw [vaultKey] at escapes
  obtain ⟨derive, -, escapes⟩ :=
    (escapes_bind_of_quiet (Foreign.not_escapes_lift _)).mp escapes
  revert escapes
  cases passphrase.encode with
  | some password => exact Foreign.not_escapes_lift _
  | none => exact not_escapes_error nofun

theorem escapes_readSecret {payload : Value} {blob : Bytes} {passphrase : Option Text} :
    Escapes (·.class_ = .identity) (readSecret python library payload blob passphrase) ↔
      (payload.getD "encrypted").truthy python = true ∧
        ∃ passphrase_, given passphrase = some passphrase_ ∧
          ¬ ∃ key, KeyDerives python library payload passphrase_ key := by
  rw [readSecret]
  by_cases encrypted : (payload.getD "encrypted").truthy python = true
  · rw [if_pos encrypted, and_iff_right encrypted]
    cases given passphrase with
    | none => exact iff_of_false (not_escapes_error rfl) (fun ⟨_, same, _⟩ => nomatch same)
    | some passphrase_ =>
        -- The last part is guarded against everything.
        have guarded : ∀ key, ¬ Escapes (·.class_ = .identity) (rescue (fun _ => true)
            (fun _ => identityError (Text.ofString "wrong passphrase or corrupted vault"))
            (decryptSecret python library key blob payload)) := by
          intro key
          rw [escapes_rescue fun _ => by rfl]
          exact fun ⟨_, _, uncaught⟩ => uncaught (.inr rfl)
        dsimp only
        rw [escapes_bind, or_iff_left fun ⟨key, _, escapes⟩ => guarded key escapes,
          escapes_iff_of_never (never_passphraseKey payload passphrase_)]
        simp only [passphraseKey_eq_ok, Option.some.injEq, exists_eq_left']
  · rw [if_neg encrypted]
    refine iff_of_false ?_ fun both => encrypted both.1
    cases given passphrase with
    | none => exact not_escapes_ok blob
    | some passphrase_ => exact not_escapes_error rfl

theorem escapes_secret {payload : Value} :
    Escapes (·.class_ = .identity) (payload.bytesAt "secret") ↔
      ¬ ∃ blob, payload.HoldsBytes "secret" blob := by
  rw [escapes_iff_of_never fun escapes => Value.not_escapes_bytesAt payload "secret"
    (escapes.mono fun _ => class_ne_identity_of_isMalformed)]
  simp only [Value.bytesAt_eq_ok]

/-- With the secret at hand every failure is declared. -/
theorem not_escapes_checks (payload : Value) (secret : Bytes) :
    ¬ Escapes (·.class_ = .identity) (do
      demand (secret.length = edSeedSize + xSeedSize)
        (identityError (Text.ofString "vault secret has the wrong length"))
      let identity ← fromPrivateBytes (secret.take edSeedSize) (secret.drop edSeedSize)
        (payload.getD "label")
      demand ((payload.getD "id").isText (Text.ofString (identity.1.identityId suite)))
        (identityError (Text.ofString "vault does not match its recorded identity id"))
      return identity) := by
  intro escapes
  obtain ⟨-, escapes⟩ := (escapes_demand_bind (by rfl)).mp escapes
  rcases escapes_bind.mp escapes with escapes | ⟨identity, -, escapes⟩
  · rw [fromPrivateBytes] at escapes
    obtain ⟨-, escapes⟩ := (escapes_demand_bind (by rfl)).mp escapes
    exact not_escapes_ok _ escapes
  · obtain ⟨-, escapes⟩ := (escapes_demand_bind (by rfl)).mp escapes
    exact not_escapes_ok identity escapes

theorem escapes_fromVault {data : Input} {passphrase : Option Text} :
    Escapes (·.class_ = .identity) (fromVault python library suite data passphrase) ↔
      VaultEscapes python library data passphrase := by
  rw [fromVault, escapes_loaded .identity rfl rfl (by decide), VaultEscapes]
  refine or_congr_right (exists_congr fun content => exists_congr fun payload =>
    and_congr_right fun _ => and_congr_right fun _ => ?_)
  rw [escapes_demand_bind (by rfl), escapes_demand_bind (by rfl), escapes_bind, escapes_secret]
  refine and_congr_right fun _ => and_congr_right fun _ => ?_
  by_cases secret : ∃ blob, payload.HoldsBytes "secret" blob
  · rw [or_iff_right (not_not_intro secret), or_iff_right (not_not_intro secret)]
    constructor
    · intro ⟨blob, _, escapes⟩
      rcases escapes_bind.mp escapes with escapes | ⟨secret, -, escapes⟩
      · exact escapes_readSecret.mp escapes
      · exact absurd escapes (not_escapes_checks payload secret)
    · intro fails
      obtain ⟨blob, held⟩ := secret
      exact ⟨blob, Value.bytesAt_eq_ok.mpr held,
        escapes_bind.mpr (.inl (escapes_readSecret.mpr fails))⟩
  · exact iff_of_true (.inl secret) (.inl secret)

/-- Each parser returns what it promises or raises the error it declares, except for the
inputs that are described here. -/
theorem hostile_input_declared_iff (python : Interpreter) (library : VaultLibrary)
    (suite : Suite) :
    (∀ input, Fulfils (·.class_ = .card) (fun _ => True)
        (ContactCard.fromString python suite input) ↔ ¬ CardEscapes python suite input) ∧
    (∀ data passphrase, Fulfils (·.class_ = .identity) (fun _ => True)
        (fromVault python library suite data passphrase) ↔
          ¬ VaultEscapes python library data passphrase) ∧
    (∀ blob, Fulfils (·.class_ = .wire) Complete (parseWire python blob) ↔
      ¬ WireEscapes python blob) := by
  refine ⟨fun input => ?_, fun data passphrase => ?_, fun blob => ?_⟩
  · rw [fulfils_iff fun _ _ => trivial, escapes_fromString]
  · rw [fulfils_iff fun _ _ => trivial, escapes_fromVault]
  · rw [fulfils_iff fun _ => complete_of_parseWire, escapes_parseWire]

/-- The double that a float token denotes. -/
def doubleOf (literal : String) : Binary64 :=
  if literal = "NaN" then .nan
  else if literal = "Infinity" then .infinite false
  else if literal = "-Infinity" then .infinite true
  else .ofLiteral literal.toList

/-- An interpreter that reads JSON in UTF-8, with the limit on digits in force. -/
def limited : Interpreter where
  digitLimit := 4300
  lower := List.map fun
    | .char character => .char character.toLower
    | point => point
  decompress := fun _ => none
  decodeJson := fun data => (decodeUtf8 data).map Text.ofString
  floatEquals := fun literal => (Json.float (doubleOf literal)).equalsInt
  floatTruthy := fun literal => (Json.float (doubleOf literal)).truthy
  floatToInt := fun literal => (doubleOf literal).truncate.elim
    (.error (if doubleOf literal = .nan then .value else .overflow)) .ok
  textToInt := fun content => content.toString?.bind fun text => (Json.str text).toInt?
  showFloat := fun literal => String.ofList (doubleOf literal).repr
  dumpFloat := fun literal => String.ofList (doubleOf literal).dump
  showText := fun content => Text.ofString "'" ++ content ++ Text.ofString "'"

def refusing : VaultLibrary where
  pbkdf2 := fun _ _ => .error .value
  aesGcmDecrypt := fun _ _ _ _ => none

/-- A vault without a secret ends with the error of the missing key. -/
theorem vault_without_secret_raises_key_error :
    ¬ Fulfils (·.class_ = .identity) (fun _ => True)
      (fromVault limited refusing Symbolic.suite
        (.text (Text.ofString "\x7b\"v\":1\x7d")) none) := by
  have raised : fromVault limited refusing Symbolic.suite
      (.text (Text.ofString "\x7b\"v\":1\x7d")) none =
        .error { class_ := .key, text := Text.ofString "secret" } := by rfl
  rw [raised]
  exact nofun

end NoKnowledge.Hostile

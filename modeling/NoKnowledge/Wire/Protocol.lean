import NoKnowledge.Crypto.Padding
import NoKnowledge.Crypto.Ratchet
import NoKnowledge.Errors

/-!
# Wire message framing

A relay blob is a JSON object with a session id, the ratchet header, a nonce
and a ciphertext, and the handshake header while the session is pending.
-/

namespace NoKnowledge

def RatchetError.raised : RatchetError → Raised
  | .noSendingChain =>
      { class_ := .ratchet, text := "no sending chain; receive a message first" }
  | .malformedHeader => { class_ := .ratchet, text := "malformed header" }
  | .noLocalKey =>
      { class_ := .ratchet, text := "ratchet has no local DH key" }
  | .duplicateMessage =>
      { class_ := .ratchet, text := "message key already consumed" }
  | .skippedTooFar text => { class_ := .ratchet, text }
  | .agreement => { class_ := .value }
  | .authentication => { class_ := .aead, text := "authentication failed" }

namespace Wire

def wireVersion : Int := 1
def envelopeVersion : Int := 1

def buildWire (sid : Bytes) (header : Json) (nonce ciphertext : Bytes)
    (init : Option Json) : Bytes :=
  let wire : List (String × Json) := [
    ("v", .int wireVersion),
    ("sid", .str (b64e sid)),
    ("hdr", header),
    ("nonce", .str (b64e nonce)),
    ("ct", .str (b64e ciphertext))]
  canonicalJson (.mkObj (wire ++ (init.map fun init => ("init", init)).toList))

def requiredFields : List String := ["sid", "hdr", "nonce", "ct"]

def parseWire (blob : Bytes) : Except Raised Json := do
  let text ← match decodeUtf8 blob with
    | some text => pure text
    | none => throw { class_ := .wire, text := "wire message is not UTF-8" }
  let wire ← match Json.parse text.toList with
    | some wire => pure wire
    | none => throw { class_ := .wire, text := "wire message is not valid JSON" }
  refuse (!wire.isObj || !(wire.getD "v").equalsInt wireVersion)
    { class_ := .wire
      text := "unsupported wire version: " ++ (wire.getD "v").toText }
  match requiredFields.find? fun field => (wire.get? field).isNone with
  | some field =>
      throw { class_ := .wire
              text := "wire message is missing '" ++ field ++ "'" }
  | none => return wire

/-- A serialised object with the version and every required field is read back. -/
theorem parseWire_canonicalJson {wire : Json} (canonical : wire.Canonical)
    (object : wire.isObj = true)
    (version : (wire.getD "v").equalsInt wireVersion = true)
    (complete : ∀ field ∈ requiredFields, (wire.get? field).isSome = true) :
    parseWire (canonicalJson wire) = .ok wire := by
  have loaded := loadJson_canonicalJson canonical
  simp only [loadJson, Option.bind_eq_bind, Option.bind_eq_some_iff] at loaded
  obtain ⟨text, decoded, parsed⟩ := loaded
  have absent : requiredFields.find? (fun field => (wire.get? field).isNone) = none := by
    rw [List.find?_eq_none]
    intro field member
    simp [Option.isSome_iff_ne_none.mp (complete field member)]
  unfold parseWire
  rw [decoded]
  dsimp only
  rw [pure_bind, parsed]
  dsimp only
  rw [pure_bind, object, version, absent]
  rfl

variable (suite : Suite)

/-- Run a ratchet operation inside wire code. -/
def liftRatchet {α : Type} (body : Prog RatchetState RatchetError α) :
    Prog RatchetState Raised α := fun state =>
  match body.run state with
  | (.ok value, state) => (.ok value, state)
  | (.error raised, state) => (.error raised.raised, state)

/-- Pad, encrypt and frame an envelope for the relay. -/
def sealWire (draw : Nat → Nat) (nonce : Bytes) (envelope : Json) (sid : Bytes)
    (init : Option Json) (maxSize : Option Nat) :
    Prog RatchetState Raised Bytes := do
  let limit := maxSize.getD Padding.defaultMax
  let plaintext ← Prog.lift (Padding.padEnvelope draw envelope (some limit))
  let (header, nonce, ciphertext) ←
    liftRatchet (Ratchet.encrypt suite nonce plaintext init)
  return buildWire sid header nonce ciphertext init

/-- Decrypt the parts of a wire object; every failure is a wire error. -/
def openParts (newPrivate : Bytes) (wire : Json) :
    Prog RatchetState Raised Bytes :=
  tryCatch (do
    let header ← Prog.lift (wire.item "hdr")
    let nonce ← Prog.lift (do (← wire.item "nonce").toBytes)
    let ciphertext ← Prog.lift (do (← wire.item "ct").toBytes)
    liftRatchet (Ratchet.decrypt suite newPrivate header nonce ciphertext
      (wire.get? "init")))
    fun raised =>
      throw { class_ := .wire
              text := "could not open message: " ++ raised.text }

/-- Parse, decrypt and unpad a relay blob: the envelope, the session id and
the handshake header. -/
def unsealWire (newPrivate : Bytes) (blob : Bytes) :
    Prog RatchetState Raised (Json × Bytes × Json) := do
  let wire ← Prog.lift (parseWire blob)
  let plaintext ← openParts suite newPrivate wire
  let envelope ← Prog.lift (Padding.unpadEnvelope plaintext)
  let sid ← Prog.lift (do (← wire.item "sid").toBytes)
  return (envelope, sid, wire.getD "init")

def makeEnvelope (kind : String) (body : Json) (messageId : String)
    (timestampMs : Int) : Json :=
  .mkObj [
    ("v", .int envelopeVersion),
    ("type", .str kind),
    ("id", .str messageId),
    ("ts", .int timestampMs),
    ("body", body)]

def envelopeMaxSize (kind : String) : Nat :=
  if kind = "file" then Padding.maxAttachmentEnvelope else Padding.defaultMax

end Wire

end NoKnowledge

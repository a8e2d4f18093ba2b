import NoKnowledge.Core.Handshake
import NoKnowledge.Core.PrekeySubstitution
import NoKnowledge.Core.TransferSize
import NoKnowledge.Crypto.Base32
import NoKnowledge.Crypto.OneChain
import NoKnowledge.Wire.Opening

/-!
# The sender of a first contact

A session that was started from a bundle is pending until the peer answers.
Every text sealed on it until then is the next message of one chain, and carries
the handshake header and the proof of its sender.
-/

namespace NoKnowledge.Core.FirstContact

open Prog NoKnowledge.Wire NoKnowledge.Core.Client

variable (suite : Suite) (environment : Environment) (sender : Account)

/-- A text message, as its sender numbers and dates it. -/
structure Text where
  id : String
  text : String
  ts : Int
deriving DecidableEq

def Text.body (text : Text) : Json := .mkObj [("text", .str text.text)]

def Text.envelope (text : Text) : Json :=
  Wire.makeEnvelope "text" text.body text.id text.ts

/-- What the two ends of a session share before its first message. -/
structure Link where
  sid : Bytes
  sk : Bytes
  init : Json
  chain : Bytes
  ratchetKey : Bytes

/-- The envelope of a text with the proof of its sender. -/
def provenEnvelope (link : Link) (text : Text) : Json :=
  (text.envelope.setField "auth"
    (X3dh.buildAuth suite sender.identity link.sid link.init link.sk)).setField
    "card" (card suite sender).signedDict

/-- Texts sealed one after the other on a session, in whatever worlds. -/
inductive Sealed : Session → List Text → List Bytes → Prop
  | none (session : Session) : Sealed session [] []
  | next {session advanced : Session} {text : Text} {texts : List Text} {blob : Bytes}
      {blobs : List Bytes} {world final : World} :
      (sealEnvelope suite environment sender session text.envelope "text").run world =
        (.ok (blob, advanced), final) →
      Sealed advanced texts blobs → Sealed session (text :: texts) (blob :: blobs)

/-- A pending session that sends message `number` of its chain next. -/
structure Sends (link : Link) (number : Nat) (session : Session) : Prop where
  sid : session.sid = link.sid
  sk : session.sk = some link.sk
  init : session.init = some link.init
  pending : session.established = false
  speaks : Ratchet.Speaks suite link.chain link.ratchetKey session.ratchet
  count : session.ratchet.sendCount = number

/-- A blob with message `number` of the session, which is a text. -/
def Copy (link : Link) (number : Nat) (text : Text) (blob : Bytes) : Prop :=
  ∃ header nonce ciphertext plaintext,
    Ratchet.OnChain suite link.chain link.ratchetKey number header nonce ciphertext plaintext
      (some link.init) ∧
    Padding.unpadEnvelope plaintext = .ok (provenEnvelope suite sender link text) ∧
    blob = buildWire link.sid header nonce ciphertext (some link.init)

variable {suite environment sender}

theorem get?_envelope (text : Text) (key : String) :
    text.envelope.get? key =
      if key = "body" then some text.body
      else if key = "ts" then some (.int text.ts)
      else if key = "id" then some (.str text.id)
      else if key = "type" then some (.str "text")
      else if key = "v" then some (.int envelopeVersion)
      else none := by
  unfold Text.envelope Wire.makeEnvelope
  simp only [Json.get?_mkObj, List.reverse_cons, List.reverse_nil, List.nil_append,
    List.cons_append, Dict.lookup_cons_eq_ite, List.lookup_nil]

theorem get?_provenEnvelope (link : Link) (text : Text) (key : String) :
    (provenEnvelope suite sender link text).get? key =
      if key = "card" then some (card suite sender).signedDict
      else if key = "auth" then
        some (X3dh.buildAuth suite sender.identity link.sid link.init link.sk)
      else text.envelope.get? key := by
  refine (Json.get?_setField _ "card" key _).trans ?_
  congr 1
  exact Json.get?_setField _ "auth" key _

theorem canonical_provenEnvelope (link : Link) (text : Text) :
    (provenEnvelope suite sender link text).Canonical := by
  have body : text.body.Canonical := by
    apply Json.canonical_mkObj
    simp [Json.Canonical]
  have envelope : text.envelope.Canonical := by
    apply Json.canonical_mkObj
    simp [Json.Canonical, body]
  have auth : (X3dh.buildAuth suite sender.identity link.sid link.init link.sk).Canonical := by
    apply Json.canonical_mkObj
    simp [Json.Canonical]
  have relays : (Json.arr (card suite sender).relays).Canonical := by
    refine (Json.canonicalItems_iff _).mpr fun item member => ?_
    obtain ⟨url, -, rfl⟩ := List.mem_map.mp member
    exact trivial
  have payload : (card suite sender).payload.Canonical :=
    ContactCard.canonical_payload relays trivial
  have signature : (Json.str (b64e (card suite sender).signature)).Canonical := trivial
  have signed : (card suite sender).signedDict.Canonical :=
    Json.canonical_setField payload signature "sig"
  exact Json.canonical_setField (Json.canonical_setField envelope auth "auth") signed "card"

theorem isObj_provenEnvelope (link : Link) (text : Text) :
    (provenEnvelope suite sender link text).isObj = true := rfl

theorem setField_mkObj (bindings : List (String × Json)) (key : String) (value : Json) :
    (Json.mkObj bindings).setField key value = Json.mkObj (bindings ++ [(key, value)]) := by
  simp [Json.mkObj, Json.sortFields, List.foldl_append, Json.setField]

/-- A field that is set again takes the later value. -/
theorem setField_setField (target : Json) (key : String) (first second : Json) :
    (target.setField key first).setField key second = target.setField key second := by
  cases target with
  | obj fields =>
      refine congrArg Json.obj ?_
      induction fields with
      | nil => simp [Json.insertField]
      | cons field fields induction =>
          obtain ⟨head, old⟩ := field
          by_cases headSame : key = head
          · simp [Json.insertField, headSame]
          · by_cases before : key < head
            · simp [Json.insertField, headSame, before]
            · simp [Json.insertField, headSame, before, induction]
  | _ => rfl

/-- The size of the first envelopes of a session, without padding. -/
theorem baseLength_provenEnvelope (link : Link) (text : Text) :
    Padding.baseLength (provenEnvelope suite sender link text) = 1 + Json.fieldsWidth [
      ("v", .int envelopeVersion), ("type", .str "text"), ("id", .str text.id),
      ("ts", .int text.ts), ("body", text.body),
      ("auth", X3dh.buildAuth suite sender.identity link.sid link.init link.sk),
      ("card", (card suite sender).signedDict), ("pad", .str "")] := by
  have unpadded : (Json.str "").Canonical := trivial
  have spelled : (provenEnvelope suite sender link text).setField "pad" (.str "") = .mkObj [
      ("v", .int envelopeVersion), ("type", .str "text"), ("id", .str text.id),
      ("ts", .int text.ts), ("body", text.body),
      ("auth", X3dh.buildAuth suite sender.identity link.sid link.init link.sk),
      ("card", (card suite sender).signedDict), ("pad", .str "")] := by
    rw [provenEnvelope, Text.envelope, makeEnvelope, setField_mkObj, setField_mkObj,
      setField_mkObj]
    rfl
  rw [Padding.baseLength, Json.length_canonicalJson
    (Json.canonical_setField (canonical_provenEnvelope link text) unpadded "pad"), spelled,
    Json.width_mkObj (List.cons_ne_nil _ _) (by simp)]

/-- A pending session proves who it belongs to. -/
theorem Sends.handshakeEnvelope {link : Link} {number : Nat} {session : Session}
    (sends : Sends suite link number session) (text : Text) :
    Client.handshakeEnvelope suite sender session text.envelope =
      .ok (provenEnvelope suite sender link text, some link.init) := by
  simp [Client.handshakeEnvelope, Session.isPending, sends.pending, sends.sk, sends.init,
    sends.sid, provenEnvelope]

/-- Sealing a text sends the next message of the chain. -/
theorem Sends.seals {link : Link} {number : Nat} {session advanced : Session} {text : Text}
    {blob : Bytes} {world final : World} (sends : Sends suite link number session)
    (returned : (sealEnvelope suite environment sender session text.envelope "text").run
      world = (.ok (blob, advanced), final)) :
    Copy suite sender link number text blob ∧ Sends suite link (number + 1) advanced := by
  obtain ⟨proven, _, lifted, afterProof⟩ := bind_returns returned
  obtain ⟨isProven, rfl⟩ := lift_returns lifted
  rw [sends.handshakeEnvelope text] at isProven
  obtain rfl := Except.ok.inj isProven
  obtain ⟨pad, _, -, afterPad⟩ := bind_returns afterProof
  obtain ⟨nonce, _, nonceRan, afterNonce⟩ := bind_returns afterPad
  split at afterNonce
  · cases afterNonce
  · rename_i sealed_ ratchet ran
    cases afterNonce
    obtain ⟨plaintext, header, used, ciphertext, padded, encrypted, framed⟩ :=
      sealWire_returns ran
    obtain ⟨message, speaks, count⟩ := sends.speaks.sends (length_urandom nonceRan) encrypted
    have unpadded : (provenEnvelope suite sender link text).get? "pad" = none := by
      simp [get?_provenEnvelope, get?_envelope]
    have opened := unpadEnvelope_of_padEnvelope (canonical_provenEnvelope link text)
      (isObj_provenEnvelope link text) unpadded padded
    rw [sends.count] at message count
    rw [sends.sid] at framed
    exact ⟨⟨header, used, ciphertext, plaintext, message, opened, framed⟩,
      ⟨sends.sid, sends.sk, sends.init, sends.pending, speaks, count⟩⟩

/-- Sealing succeeds for a text that fits. -/
theorem Sends.sealable {link : Link} {number : Nat} {session : Session} {text : Text}
    (total : suite.AeadTotal) (sends : Sends suite link number session)
    (fits : Padding.baseLength (provenEnvelope suite sender link text) ≤ Padding.defaultMax)
    (world : World) :
    ∃ blob advanced final, (sealEnvelope suite environment sender session text.envelope
      "text").run world = (.ok (blob, advanced), final) := by
  have unpadded : (provenEnvelope suite sender link text).get? "pad" = none := by
    simp [get?_provenEnvelope, get?_envelope]
  let pad := fun place => (environment.draw world.tick place).toNat
  let nonce := drawnAt environment nonceSize (world.tick + 1)
  obtain ⟨plaintext, padded⟩ : ∃ plaintext, Padding.padEnvelope pad
      (provenEnvelope suite sender link text)
      (some ((some (envelopeMaxSize "text")).getD Padding.defaultMax)) = .ok plaintext :=
    ⟨_, Padding.padEnvelope_fits (canonical_provenEnvelope link text)
      (isObj_provenEnvelope link text) unpadded fits⟩
  obtain ⟨ciphertext, encrypted⟩ := total
    (suite.chainKeyAt link.chain session.ratchet.sendCount) nonce plaintext
    (Ratchet.associatedData (Ratchet.makeHeader session.ratchet) (some link.init))
    (length_drawnAt nonceSize _)
  have sealing := Ratchet.encrypt_run sends.speaks.sending encrypted
  have ran : (sealWire suite pad nonce (provenEnvelope suite sender link text) session.sid
      (some link.init) (some (envelopeMaxSize "text"))).run session.ratchet = _ :=
    run_sealWire padded sealing
  have drew : (consult fun tick => fun place => (environment.draw tick place).toNat).run
      world = (.ok pad, { world with tick := world.tick + 1 }) := rfl
  unfold sealEnvelope
  rw [sends.handshakeEnvelope, run_bind_ok (run_lift_ok _ world)]
  dsimp only
  rw [run_bind_ok drew, run_bind_ok (run_urandom nonceSize _), ran]
  exact ⟨_, _, _, rfl⟩

theorem Sealed.length_eq {session : Session} {texts : List Text} {blobs : List Bytes}
    (run : Sealed suite environment sender session texts blobs) :
    blobs.length = texts.length := by
  induction run with
  | none session => rfl
  | next _ _ induction => exact congrArg (· + 1) induction

/-- The texts sealed on a session are the messages of its chain, in order. -/
theorem Sealed.copies {link : Link} {session : Session} {texts : List Text}
    {blobs : List Bytes} (run : Sealed suite environment sender session texts blobs)
    {number : Nat} (sends : Sends suite link number session) :
    List.Forall₂ (fun entry blob => Copy suite sender link entry.2 entry.1 blob)
      (texts.zipIdx number) blobs := by
  induction run generalizing number with
  | none session => exact .nil
  | next returned _ induction =>
      obtain ⟨copy, later⟩ := sends.seals returned
      exact .cons copy (induction later)

/-- Texts that fit can be sealed one after the other. -/
theorem Sends.seals_all {link : Link} {number : Nat} {session : Session} {texts : List Text}
    (total : suite.AeadTotal) (sends : Sends suite link number session)
    (fit : ∀ text ∈ texts,
      Padding.baseLength (provenEnvelope suite sender link text) ≤ Padding.defaultMax)
    (world : World) :
    ∃ blobs, Sealed suite environment sender session texts blobs := by
  induction texts generalizing number session with
  | nil => exact ⟨[], .none session⟩
  | cons text texts induction =>
      obtain ⟨blob, advanced, final, returned⟩ :=
        sends.sealable total (fit text List.mem_cons_self) world
      obtain ⟨blobs, run⟩ := induction (sends.seals returned).2
        fun other member => fit other (List.mem_cons_of_mem _ member)
      exact ⟨blob :: blobs, .next returned run⟩

/-- A handshake with a bundle, and the chain that the session starts on. -/
structure Begins (suite : Suite) (Private : Bytes → Prop) (contact : ContactRow)
    (bundle : PrekeyBundle) (spkPrivate : Bytes) (link : Link) : Prop where
  handshake : ∃ ephemeral initiation, Private ephemeral ∧
    X3dh.initiate suite bundle contact.isign contact.idh ephemeral = .ok initiation ∧
    initiation.ekPublic = suite.dhPublic ephemeral ∧
    link.sk = initiation.sk ∧ link.init = initiation.initDict
  chained : Ratchet.FirstChain suite link.sk spkPrivate link.ratchetKey link.chain
  ratchetKey : ∃ first, Private first ∧ link.ratchetKey = suite.dhPublic first

theorem startSession_sends {Private : Bytes → Prop} (agrees : suite.Agrees Private)
    (drawn : ∀ tick, Private (drawnAt environment 32 tick)) {contact : ContactRow}
    {device : DeviceEntry} {world middle final : World} {bundle : PrekeyBundle}
    {spkPrivate : Bytes} {session : Session} (spk : bundle.spk = suite.dhPublic spkPrivate)
    (spkDrawn : Private spkPrivate)
    (fetched : (fetchDeviceBundle environment sender contact device).run world =
      (.ok bundle, middle))
    (returned : (startSession suite environment sender contact device).run world =
      (.ok session, final)) :
    ∃ link : Link, link.sid = session.sid ∧ Sends suite link 0 session ∧
      Begins suite Private contact bundle spkPrivate link := by
  unfold startSession at returned
  rw [run_bind_ok fetched] at returned
  obtain ⟨ephemeral, _, drew, afterKey⟩ := bind_returns returned
  rw [run_urandom] at drew
  obtain ⟨isEphemeral, -⟩ := Prod.mk.inj drew
  obtain rfl := Except.ok.inj isEphemeral
  obtain ⟨initiation, _, lifted, afterAgreement⟩ := bind_returns afterKey
  obtain ⟨initiated, -⟩ := lift_returns lifted
  obtain ⟨sid, _, -, afterSid⟩ := bind_returns afterAgreement
  obtain ⟨first, _, drewFirst, afterRatchet⟩ := bind_returns afterSid
  rw [run_urandom] at drewFirst
  obtain ⟨isFirst, -⟩ := Prod.mk.inj drewFirst
  obtain rfl := Except.ok.inj isFirst
  split at afterRatchet
  · cases afterRatchet
  · rename_i ratchet made
    cases afterRatchet
    rw [spk] at made
    obtain ⟨chain, chained, speaks, silent⟩ :=
      Ratchet.initiator_speaks agrees (drawn _) spkDrawn made
    have public_ : initiation.ekPublic = suite.dhPublic (drawnAt environment 32 middle.tick) := by
      obtain ⟨_, _, _, -, -, -, same⟩ := X3dh.initiate_returns initiated
      rw [same]
    exact ⟨⟨sid, initiation.sk, initiation.initDict, chain, _⟩, rfl,
      ⟨rfl, rfl, rfl, rfl, speaks, silent⟩,
      ⟨_, initiation, drawn _, initiated, public_, rfl, rfl⟩, chained, _, drawn _, rfl⟩

/-- An identity id is 26 letters and digits. -/
theorem width_identityId (digest : ∀ message, (suite.sha256 message).length = 32) :
    (Json.str (identityId suite sender)).width = 28 := by
  let data := suite.sha256 (idHashInfo ++ sender.identity.edPublic suite ++
    sender.identity.xPublic suite)
  have bare : ∀ character ∈ (b32e data).toList.take 26, Json.Bare character := by
    have all : ∀ character ∈ b32Alphabet, Json.Bare character :=
      Base32.forall_mem_of_all (by decide)
    exact fun character member => all _ (Base32.mem_b32e (List.mem_of_mem_take member))
  have shown : identityId suite sender = String.ofList ((b32e data).toList.take 26) := by
    rw [← Base32.toList_computeIdentityId suite, String.ofList_toList]
    rfl
  have long : (b32e data).toList.length = 52 := by
    rw [Base32.length_b32e, digest]
  rw [shown, Json.width_str, Json.keyWidth_bare bare, List.length_take, long]
  rfl

/-- What the parts of a proof and of a card take up at most. -/
structure Compact (suite : Suite) (sender : Account) : Prop where
  digest : ∀ message, (suite.sha256 message).length = 32
  signature : ∀ private_ message, (suite.sign private_ message).length = 64
  isign : (sender.identity.edPublic suite).length ≤ 32
  idh : (sender.identity.xPublic suite).length ≤ 32
  bundleId : (Json.str sender.bundleId).width ≤ 26
  mailbox : (Json.str sender.inbox.mailboxId).width ≤ 26
  token : (Json.str sender.inbox.writeToken).width ≤ 45
  relays : (Json.arr (card suite sender).relays).width ≤ 500
  named : (Json.str sender.name).truthy = true
  name : (Json.str sender.name).width ≤ 100

theorem Compact.auth (compact : Compact suite sender) (link : Link) :
    (X3dh.buildAuth suite sender.identity link.sid link.init link.sk).width ≤ 325 := by
  have id := @width_identityId suite sender compact.digest
  have isign := compact.isign
  have idh := compact.idh
  have commit : (X3dh.skCommitment suite link.sk).length = 32 := compact.digest _
  have signature : ∀ message, (sender.identity.sign suite message).length = 64 :=
    compact.signature _
  unfold X3dh.buildAuth
  dsimp only
  rw [Json.width_mkObj (List.cons_ne_nil _ _) (by simp)]
  simp only [Json.fieldsWidth_cons, Json.fieldsWidth_nil, width_b64e, commit, signature]
  have version : (Json.int 1).width = 1 := by decide
  have keys : Json.keyWidth "v" = 3 ∧ Json.keyWidth "id" = 4 ∧ Json.keyWidth "isign" = 7 ∧
      Json.keyWidth "idh" = 5 ∧ Json.keyWidth "sk_commit" = 11 ∧ Json.keyWidth "sig" = 5 := by
    decide
  simp only [version, keys]
  change (Json.str (sender.identity.identityId suite)).width = 28 at id
  omega

theorem Compact.signedDict (compact : Compact suite sender) :
    (card suite sender).signedDict.width ≤ 1100 := by
  have id := @width_identityId suite sender compact.digest
  have isign := compact.isign
  have idh := compact.idh
  have bundleId := compact.bundleId
  have mailbox := compact.mailbox
  have token := compact.token
  have relays := compact.relays
  have name := compact.name
  have signature : (Client.card suite sender).signature.length = 64 := compact.signature _ _
  have shown : (Client.card suite sender).name.truthy = true := compact.named
  have view : (Client.card suite sender).inbox.cardView.width = _ :=
    Json.width_mkObj (List.cons_ne_nil _ _) (by simp)
  unfold ContactCard.signedDict ContactCard.payload
  dsimp only
  rw [if_pos shown, setField_mkObj, Json.width_mkObj (by simp) (by simp)]
  simp only [List.cons_append, List.nil_append, Json.fieldsWidth_cons, Json.fieldsWidth_nil,
    width_b64e, signature, view]
  have version : (Json.int 1).width = 1 := by decide
  have keys : Json.keyWidth "v" = 3 ∧ Json.keyWidth "id" = 4 ∧ Json.keyWidth "isign" = 7 ∧
      Json.keyWidth "idh" = 5 ∧ Json.keyWidth "bundle" = 8 ∧ Json.keyWidth "inbox" = 7 ∧
      Json.keyWidth "relays" = 8 ∧ Json.keyWidth "name" = 6 ∧ Json.keyWidth "sig" = 5 ∧
      Json.keyWidth "w" = 3 := by
    decide
  simp only [version, keys]
  change (Json.str (Client.card suite sender).identityId).width = 28 at id
  change (Client.card suite sender).isign.length ≤ 32 at isign
  change (Client.card suite sender).idh.length ≤ 32 at idh
  change (Json.str (Client.card suite sender).bundleId).width ≤ 26 at bundleId
  change (Json.str (Client.card suite sender).inbox.mailboxId).width ≤ 26 at mailbox
  change (Json.str (Client.card suite sender).inbox.writeToken).width ≤ 45 at token
  change (Client.card suite sender).name.width ≤ 100 at name
  omega

/-- A text that leaves room for the proof and the card fits. -/
theorem Compact.fits (compact : Compact suite sender) (link : Link) {text : Text}
    (room : (Json.str text.id).width + (Json.int text.ts).width + text.body.width ≤ 400) :
    Padding.baseLength (provenEnvelope suite sender link text) ≤ Padding.defaultMax := by
  have auth := compact.auth link
  have introduced := compact.signedDict
  have keys : Json.keyWidth "v" = 3 ∧ Json.keyWidth "type" = 6 ∧ Json.keyWidth "id" = 4 ∧
      Json.keyWidth "ts" = 4 ∧ Json.keyWidth "body" = 6 ∧ Json.keyWidth "auth" = 6 ∧
      Json.keyWidth "card" = 6 ∧ Json.keyWidth "pad" = 5 := by
    decide
  have fixed : (Json.int envelopeVersion).width = 1 ∧ (Json.str "text").width = 6 ∧
      (Json.str "").width = 2 := by
    decide
  rw [baseLength_provenEnvelope]
  simp only [Json.fieldsWidth_cons, Json.fieldsWidth_nil, keys, fixed, Padding.defaultMax]
  omega

end NoKnowledge.Core.FirstContact

import NoKnowledge.Core.PrekeyUse
import NoKnowledge.Crypto.RatchetDraw
import NoKnowledge.Crypto.SymbolicSuite

/-!
# Rejected blobs

A fetched blob is opened and, when it starts a session, its sender is checked.
Many things can be wrong with it.  Everything up to the point where the envelope
is accepted only reads the store: a blob that is rejected changes nothing, and
whatever was accepted before it is accepted after it.
-/

namespace NoKnowledge.Core.RejectedBlobs

open Prog Client Sync

variable (suite : Suite) (environment : Environment) (account : Account)

/-- An envelope that is accepted: of a session we hold, or of a session that
starts with it. -/
inductive Entry where
  | known (contact : ContactRow) (bucket : SessionState.Bucket) (key : String)
      (session : Session) (envelope : Json)
  | fresh (card : ContactCard) (opkId : Json) (session : Session) (envelope : Json)

/-- Open a blob with a session; the session advances in memory. -/
def openBlob (session : Session) (blob : Bytes) :
    ClientProg (Option (Session × Json)) := do
  let newPrivate ← urandom environment 32
  match (Wire.unsealWire suite newPrivate blob).run session.ratchet with
  | (.error raised, _) =>
      if raised.class_.isWire then return none else throw raised
  | (.ok (envelope, _, _), ratchet) => return some ({ session with ratchet }, envelope)

def acceptKnown (contact : ContactRow) (bucket : SessionState.Bucket) (key : String)
    (session : Session) (blob : Bytes) : ClientProg (Option Entry) := do
  match ← openBlob suite environment session blob with
  | none => return none
  | some (session, envelope) => return some (.known contact bucket key session envelope)

def acceptStart (session : Session) (opkId : Json) (blob : Bytes) :
    ClientProg (Option Entry) := do
  match ← openBlob suite environment session blob with
  | none => return none
  | some (session, envelope) =>
      match ← Prog.lift (provenCard suite session envelope) with
      | none => return none
      | some card => return some (.fresh card opkId session envelope)

/-- `handleBlob` up to the point where the envelope is accepted. -/
def acceptBlob (blob : Bytes) : ClientProg (Option Entry) := do
  let wire ← Prog.lift (Wire.parseWire blob)
  let sid ← Prog.lift (do (← wire.item "sid").toBytes)
  let store ← askStore id
  match findSession store (identityId suite account) sid with
  | some (contact, bucket, key, session) =>
      acceptKnown suite environment contact bucket key session blob
  | none =>
      if (wire.get? "init").isNone then return none
      else
        match ← Prog.lift (beginInbound suite account store wire) with
        | none => return none
        | some (session, opkId) => acceptStart suite environment session opkId blob

/-- `handleBlob` from there on. -/
def enterBlob : Option Entry → ClientProg Unit
  | none => return
  | some (.known contact bucket key session envelope) => do
      let state := SessionState.load contact.session
      saveState suite account contact.id (state.file bucket key (Session.confirm session))
      processEnvelope suite environment account contact envelope
  | some (.fresh card opkId session envelope) => do
      let contact ← storeCard suite environment account card none
      consumeOpk opkId
      let state := SessionState.load contact.session
      saveState suite account contact.id (state.file .inbound account.deviceId
        { session with established := true, sk := none })
      processEnvelope suite environment account contact envelope

/-- The envelope of the blob is accepted. -/
def Accepts (world : World) (blob : Bytes) : Prop :=
  ∃ entry final,
    (acceptBlob suite environment account blob).run world = (.ok (some entry), final)

variable {suite environment account}

theorem receiveKnown_eq (contact : ContactRow) (bucket : SessionState.Bucket)
    (key : String) (session : Session) (blob : Bytes) :
    receiveKnown suite environment account contact bucket key session blob =
      acceptKnown suite environment contact bucket key session blob >>=
        enterBlob suite environment account := by
  unfold receiveKnown acceptKnown openBlob
  rw [bind_assoc_eq, bind_assoc_eq]
  congr 1
  funext newPrivate
  rcases (Wire.unsealWire suite newPrivate blob).run session.ratchet with
    ⟨result, ratchet⟩
  cases result with
  | error raised =>
      dsimp only
      split <;> rfl
  | ok opened => rfl

theorem receiveFresh_eq (session : Session) (opkId : Json) (blob : Bytes) :
    receiveFresh suite environment account session opkId blob =
      acceptStart suite environment session opkId blob >>=
        enterBlob suite environment account := by
  unfold receiveFresh acceptStart openBlob
  rw [bind_assoc_eq, bind_assoc_eq]
  congr 1
  funext newPrivate
  rcases (Wire.unsealWire suite newPrivate blob).run session.ratchet with
    ⟨result, ratchet⟩
  cases result with
  | error raised =>
      dsimp only
      split <;> rfl
  | ok opened =>
      obtain ⟨envelope, sid, init⟩ := opened
      show (finishInbound suite environment account session envelope opkId >>= _) = _
      unfold finishInbound
      rw [bind_assoc_eq]
      show _ = ((Prog.lift (provenCard suite session envelope) >>= _) >>= _ : ClientProg Unit)
      rw [bind_assoc_eq]
      congr 1
      funext proven
      cases proven with
      | none => rfl
      | some card =>
          dsimp only
          rw [bind_assoc_eq]
          congr 1
          funext contact
          rw [bind_assoc_eq]
          rfl

/-- A blob is accepted first and entered afterwards. -/
theorem handleBlob_eq (blob : Bytes) :
    handleBlob suite environment account blob =
      acceptBlob suite environment account blob >>=
        enterBlob suite environment account := by
  unfold handleBlob acceptBlob
  rw [bind_assoc_eq]
  congr 1
  funext wire
  rw [bind_assoc_eq]
  congr 1
  funext sid
  rw [bind_assoc_eq]
  congr 1
  funext store
  cases findSession store (identityId suite account) sid with
  | some found => exact receiveKnown_eq _ _ _ _ _
  | none =>
      dsimp only
      split
      · rfl
      · rw [bind_assoc_eq]
        congr 1
        funext started
        cases started with
        | none => rfl
        | some begun => exact receiveFresh_eq _ _ _

theorem openBlob_refused {session : Session} {blob : Bytes} {world : World}
    {raised : Raised} {ratchet : RatchetState}
    (failed : (Wire.unsealWire suite (drawnAt environment 32 world.tick) blob).run
      session.ratchet = (.error raised, ratchet)) (wire : raised.class_.isWire = true) :
    (openBlob suite environment session blob).run world =
      (.ok none, { world with tick := world.tick + 1 }) := by
  unfold openBlob
  rw [run_bind_ok (run_urandom 32 world), failed]
  dsimp only
  rw [if_pos wire]
  rfl

theorem openBlob_opened {session : Session} {blob sid : Bytes} {world : World}
    {envelope init : Json} {ratchet : RatchetState}
    (unsealed : (Wire.unsealWire suite (drawnAt environment 32 world.tick) blob).run
      session.ratchet = (.ok (envelope, sid, init), ratchet)) :
    (openBlob suite environment session blob).run world =
      (.ok (some ({ session with ratchet }, envelope)),
        { world with tick := world.tick + 1 }) := by
  unfold openBlob
  rw [run_bind_ok (run_urandom 32 world), unsealed]
  rfl

/-- The worlds differ in how often the environment was asked. -/
def onlyTicks : Frame World where
  rel := fun first second => second = { first with tick := second.tick }
  refl := fun _ => rfl
  trans := by
    intro first second third toSecond toThird
    rw [toSecond] at toThird
    exact toThird

theorem onlyTicks_consult {α : Type} (answer : Nat → α) :
    Keeps onlyTicks (consult answer) :=
  fun _ => rfl

theorem openBlob_keeps (session : Session) (blob : Bytes) :
    Keeps onlyTicks (openBlob suite environment session blob) := by
  apply keeps_bind (onlyTicks_consult _)
  intro newPrivate
  split
  · split
    · exact keeps_pure _
    · exact keeps_throw _
  · exact keeps_pure _

theorem acceptBlob_keeps (blob : Bytes) :
    Keeps onlyTicks (acceptBlob suite environment account blob) := by
  apply keeps_bind (keeps_lift _)
  intro wire
  apply keeps_bind (keeps_lift _)
  intro sid
  apply keeps_bind (keeps_askStore _)
  intro store
  split
  · apply keeps_bind (openBlob_keeps _ _)
    intro opened
    cases opened <;> exact keeps_pure _
  · apply keeps_ite
    · exact fun _ => keeps_pure _
    · intro _
      apply keeps_bind (keeps_lift _)
      intro started
      cases started with
      | none => exact keeps_pure _
      | some begun =>
          apply keeps_bind (openBlob_keeps _ _)
          intro opened
          cases opened with
          | none => exact keeps_pure _
          | some opened =>
              apply keeps_bind (keeps_lift _)
              intro proven
              cases proven <;> exact keeps_pure _

/-- What a sender is checked against, and the envelope. -/
def checked (opened : Session × Json) : Bytes × Option Bytes × Option Json × Json :=
  (opened.1.sid, opened.1.sk, opened.1.init, opened.2)

theorem provenCard_checked {session session' : Session} {envelope : Json}
    (same : checked (session, envelope) = checked (session', envelope)) :
    provenCard suite session envelope = provenCard suite session' envelope := by
  obtain ⟨sid, rest⟩ := Prod.mk.inj same
  obtain ⟨sk, rest⟩ := Prod.mk.inj rest
  obtain ⟨init, -⟩ := Prod.mk.inj rest
  unfold provenCard
  rw [show session.sid = session'.sid from sid, show session.sk = session'.sk from sk,
    show session.init = session'.init from init]

theorem related_urandom (size : Nat) :
    Related onlyTicks.rel (fun data data' => data.length = size ∧ data'.length = size)
      (urandom environment size) (urandom environment size) := by
  rintro world world' same
  refine ⟨.ok ⟨length_drawnAt size _, length_drawnAt size _⟩, ?_⟩
  show { world' with tick := world'.tick + 1 } = _
  rw [same]
  rfl

section Checks

variable (refuses : suite.RefusesPublic)

include refuses

theorem openBlob_related (session : Session) (blob : Bytes) :
    Related onlyTicks.rel (fun opened opened' => opened.map checked = opened'.map checked)
      (openBlob suite environment session blob) (openBlob suite environment session blob) := by
  apply related_bind (related_urandom 32)
  rintro newPrivate newPrivate' ⟨drawn, drawn'⟩
  have same : ((Wire.unsealWire suite newPrivate blob).run session.ratchet).1 =
      ((Wire.unsealWire suite newPrivate' blob).run session.ratchet).1 :=
    Wire.unsealWire_result refuses drawn drawn' blob session.ratchet
  generalize (Wire.unsealWire suite newPrivate blob).run session.ratchet = first at same ⊢
  generalize (Wire.unsealWire suite newPrivate' blob).run session.ratchet = second
    at same ⊢
  obtain ⟨result, ratchet⟩ := first
  obtain ⟨result', ratchet'⟩ := second
  cases same
  cases result with
  | error raised =>
      dsimp only
      split
      · exact related_pure rfl
      · exact related_throw raised
  | ok opened => exact related_pure rfl

theorem acceptStart_related (session : Session) (opkId : Json) (blob : Bytes) :
    Related onlyTicks.rel (fun entry entry' => entry.isSome = entry'.isSome)
      (acceptStart suite environment session opkId blob)
      (acceptStart suite environment session opkId blob) := by
  apply related_bind (openBlob_related refuses session blob)
  intro opened opened' same
  cases opened with
  | none =>
      cases opened' with
      | none => exact related_pure rfl
      | some other => cases same
  | some opened =>
      cases opened' with
      | none => cases same
      | some other =>
          obtain ⟨session, envelope⟩ := opened
          obtain ⟨session', envelope'⟩ := other
          have sameChecked := Option.some.inj same
          have sameEnvelope : envelope = envelope' := by
            exact congrArg (fun seen => seen.2.2.2) sameChecked
          subst sameEnvelope
          dsimp only
          rw [provenCard_checked sameChecked]
          apply related_bind (blind_lift _)
          rintro proven _ rfl
          cases proven <;> exact related_pure rfl

theorem acceptBlob_related (blob : Bytes) :
    Related onlyTicks.rel (fun entry entry' => entry.isSome = entry'.isSome)
      (acceptBlob suite environment account blob)
      (acceptBlob suite environment account blob) := by
  apply related_bind (blind_lift _)
  rintro wire _ rfl
  apply related_bind (blind_lift _)
  rintro sid _ rfl
  have asked : Related onlyTicks.rel Eq (askStore id) (askStore id) := by
    apply related_ask
    intro world world' same
    rw [same]
  apply related_bind asked
  · rintro store _ rfl
    cases findSession store (identityId suite account) sid with
    | some found =>
        apply related_bind (openBlob_related refuses _ blob)
        intro opened opened' same
        cases opened with
        | none =>
            cases opened' with
            | none => exact related_pure rfl
            | some other => cases same
        | some opened =>
            cases opened' with
            | none => cases same
            | some other => exact related_pure rfl
    | none =>
        apply related_ite
        · exact fun _ => related_pure rfl
        · intro _
          apply related_bind (blind_lift _)
          rintro started _ rfl
          cases started with
          | none => exact related_pure rfl
          | some begun => exact acceptStart_related refuses _ _ blob

/-- Acceptance depends on the store, not on the time. -/
theorem accepts_iff {world final : World} (passed : onlyTicks.rel world final)
    (blob : Bytes) :
    Accepts suite environment account final blob ↔
      Accepts suite environment account world blob := by
  obtain ⟨matched, -⟩ := @acceptBlob_related suite environment account refuses blob world
    final passed
  have accepts : ∀ world, Accepts suite environment account world blob ↔
      ∃ entry, ((acceptBlob suite environment account blob).run world).1 =
        .ok (some entry) := by
    intro world
    constructor
    · rintro ⟨entry, final, ran⟩
      exact ⟨entry, by rw [ran]⟩
    · rintro ⟨entry, ran⟩
      exact ⟨entry, _, Prod.ext ran rfl⟩
  rw [accepts, accepts]
  generalize ((acceptBlob suite environment account blob).run world).1 = before at matched ⊢
  generalize ((acceptBlob suite environment account blob).run final).1 = after at matched ⊢
  cases matched with
  | error raised => simp
  | @ok left right related =>
      constructor
      · rintro ⟨entry, equal⟩
        cases equal
        obtain ⟨found, rfl⟩ := Option.isSome_iff_exists.mp related
        exact ⟨found, rfl⟩
      · rintro ⟨entry, equal⟩
        cases equal
        obtain ⟨found, rfl⟩ := Option.isSome_iff_exists.mp related.symm
        exact ⟨found, rfl⟩

/-- A blob that is rejected is handled up to the check alone: whatever ends it, the
contacts with their sessions, the prekeys, the messages, the outbox and everything
else are as before, and the blobs that were accepted before are accepted after it. -/
theorem rejected_blobs_leave_no_trace {world final : World} {blob : Bytes}
    {outcome : Except Raised Unit}
    (rejected : ¬ Accepts suite environment account world blob)
    (handled : (handleBlob suite environment account blob).run world = (outcome, final)) :
    (∃ verdict, (acceptBlob suite environment account blob).run world = (verdict, final) ∧
      outcome = verdict.map fun _ => ()) ∧
    final.store = world.store ∧ final = { world with tick := final.tick } ∧
    ∀ authentic, Accepts suite environment account final authentic ↔
      Accepts suite environment account world authentic := by
  have kept := @acceptBlob_keeps suite environment account blob world
  rw [handleBlob_eq] at handled
  rcases ran : (acceptBlob suite environment account blob).run world with ⟨verdict, middle⟩
  rw [after_eq ran] at kept
  have ended : outcome = verdict.map (fun _ => ()) ∧ final = middle := by
    cases verdict with
    | error raised =>
        rw [run_bind_error ran] at handled
        cases handled
        exact ⟨rfl, rfl⟩
    | ok entry =>
        cases entry with
        | none =>
            rw [run_bind_ok ran] at handled
            cases handled
            exact ⟨rfl, rfl⟩
        | some entry => exact absurd ⟨entry, middle, ran⟩ rejected
  obtain ⟨same, rfl⟩ := ended
  refine ⟨⟨verdict, rfl, same⟩, ?_, kept, accepts_iff refuses kept⟩
  rw [show final = { world with tick := final.tick } from kept]

end Checks

section Forgery

theorem symbolic_refusesPublic : Symbolic.suite.RefusesPublic := by
  intro private_ private_' public_ _ refused
  show Symbolic.exchange private_' public_ = none
  have here : Symbolic.exchange private_ public_ = none := refused
  unfold Symbolic.exchange at here ⊢
  split at here
  · cases here
  · rfl

def heldSession : Session where
  sid := [1]
  ratchet := { rootKey := [1], receivingChain := some [2], dhRemote := some [3] }
  established := true

def holder : ContactRow where
  identityId := identityId Symbolic.suite .specimen
  id := "peer"
  nickname := none
  isign := []
  idh := []
  bundleId := none
  inbox := .obj []
  relays := []
  session := some (.v1 heldSession)
  verified := false
  createdAt := 1

/-- A client with one session. -/
def holding : World where
  store := { contacts := ⟨[holder], List.nodup_singleton _⟩ }

def heldHeader : Json := .mkObj [("dh", .str "Aw"), ("n", .int 0), ("pn", .int 0)]

/-- A wire message of the session with some ciphertext. -/
def heldWire (ciphertext : Bytes) : Json := .mkObj [
  ("v", .int Wire.wireVersion), ("sid", .str "AQ"), ("hdr", heldHeader),
  ("nonce", .str "BA"), ("ct", .str (b64e ciphertext))]

def heldBlob (ciphertext : Bytes) : Bytes := canonicalJson (heldWire ciphertext)

theorem heldBlob_parses (ciphertext : Bytes) :
    Wire.parseWire (heldBlob ciphertext) = .ok (heldWire ciphertext) := by
  have header : heldHeader.Canonical := by
    apply Json.canonical_mkObj
    simp [Json.Canonical]
  apply Wire.parseWire_canonicalJson
  · apply Json.canonical_mkObj
    simp [Json.Canonical, header]
  · rfl
  · simp [heldWire, Json.getD, Json.get?_mkObj, Dict.lookup_cons_eq_ite]
    rfl
  · simp [Wire.requiredFields, heldWire, Json.get?_mkObj, Dict.lookup_cons_eq_ite]

theorem heldWire_get? (ciphertext : Bytes) (key : String) :
    (heldWire ciphertext).get? key =
      if key = "ct" then some (.str (b64e ciphertext))
      else if key = "nonce" then some (.str "BA")
      else if key = "hdr" then some heldHeader
      else if key = "sid" then some (.str "AQ")
      else if key = "v" then some (.int Wire.wireVersion)
      else none := by
  simp [heldWire, Json.get?_mkObj, Dict.lookup_cons_eq_ite]

theorem heldKey :
    (Ratchet.selectKey Symbolic.suite (drawnAt .idle 32 0) heldHeader).run heldSession.ratchet =
      (.ok [3, 2], { heldSession.ratchet with
        receivingChain := some [4, 2], recvCount := 1 }) := by
  decide +kernel

def unopened : Raised where
  class_ := .wire
  text := "could not open message: " ++ RatchetError.authentication.raised.text

/-- The session opens what the AEAD opens under its next key. -/
theorem heldBlob_opens (ciphertext : Bytes) :
    ((Wire.openParts Symbolic.suite (drawnAt .idle 32 0) (heldWire ciphertext)).run
        heldSession.ratchet).1 =
      match Symbolic.suite.aeadDecrypt [3, 2] [4] ciphertext
          (Ratchet.associatedData heldHeader none) with
      | none => .error unopened
      | some plaintext => .ok plaintext := by
  have header : (heldWire ciphertext).item "hdr" = .ok heldHeader := by
    rw [Json.item_eq_ok, heldWire_get?]
    rfl
  have nonce : (do (← (heldWire ciphertext).item "nonce").toBytes : Except Raised Bytes) =
      .ok [4] := by
    have field : (heldWire ciphertext).item "nonce" = .ok (.str "BA") := by
      rw [Json.item_eq_ok, heldWire_get?]
      rfl
    rw [field, except_ok_bind, Json.toBytes_str_eq_ok]
    decide +kernel
  have body : (do (← (heldWire ciphertext).item "ct").toBytes : Except Raised Bytes) =
      .ok ciphertext := by
    have field : (heldWire ciphertext).item "ct" = .ok (.str (b64e ciphertext)) := by
      rw [Json.item_eq_ok, heldWire_get?]
      rfl
    rw [field, except_ok_bind, Json.toBytes_str_eq_ok, b64d_b64e]
  have context : (heldWire ciphertext).get? "init" = none := by
    rw [heldWire_get?]
    rfl
  unfold Wire.openParts
  rw [run_tryCatch, header, run_bind_ok (run_lift_ok _ _), nonce,
    run_bind_ok (run_lift_ok _ _), body, run_bind_ok (run_lift_ok _ _), context,
    Wire.run_liftRatchet, Prog.after, Ratchet.decrypt_run, heldKey]
  dsimp only
  cases Symbolic.suite.aeadDecrypt [3, 2] [4] ciphertext
    (Ratchet.associatedData heldHeader none) <;> rfl

theorem heldWire_sid (ciphertext : Bytes) :
    (do (← (heldWire ciphertext).item "sid").toBytes : Except Raised Bytes) = .ok [1] := by
  have field : (heldWire ciphertext).item "sid" = .ok (.str "AQ") := by
    rw [Json.item_eq_ok, heldWire_get?]
    rfl
  rw [field, except_ok_bind, Json.toBytes_str_eq_ok]
  decide +kernel

theorem heldBlob_unsealed {ciphertext plaintext : Bytes} {envelope : Json}
    (decrypts : Symbolic.suite.aeadDecrypt [3, 2] [4] ciphertext
      (Ratchet.associatedData heldHeader none) = some plaintext)
    (unpadded : Padding.unpadEnvelope plaintext = .ok envelope) :
    ((Wire.unsealWire Symbolic.suite (drawnAt .idle 32 0) (heldBlob ciphertext)).run
      heldSession.ratchet).1 = .ok (envelope, [1], .null) := by
  have opens := heldBlob_opens ciphertext
  rw [decrypts] at opens
  have context : (heldWire ciphertext).getD "init" = .null := by
    rw [Json.getD, heldWire_get?]
    rfl
  rcases ran : (Wire.openParts Symbolic.suite (drawnAt .idle 32 0) (heldWire ciphertext)).run
    heldSession.ratchet with ⟨result, ratchet⟩
  rw [ran] at opens
  cases opens
  unfold Wire.unsealWire
  rw [heldBlob_parses, run_bind_ok (run_lift_ok _ _), run_bind_ok ran, unpadded,
    run_bind_ok (run_lift_ok _ _), heldWire_sid, run_bind_ok (run_lift_ok _ _), context]
  rfl

theorem heldBlob_refused {ciphertext : Bytes}
    (fails : Symbolic.suite.aeadDecrypt [3, 2] [4] ciphertext
      (Ratchet.associatedData heldHeader none) = none) :
    ((Wire.unsealWire Symbolic.suite (drawnAt .idle 32 0) (heldBlob ciphertext)).run
      heldSession.ratchet).1 = .error unopened := by
  have opens := heldBlob_opens ciphertext
  rw [fails] at opens
  rcases ran : (Wire.openParts Symbolic.suite (drawnAt .idle 32 0) (heldWire ciphertext)).run
    heldSession.ratchet with ⟨result, ratchet⟩
  rw [ran] at opens
  cases opens
  unfold Wire.unsealWire
  rw [heldBlob_parses, run_bind_ok (run_lift_ok _ _), run_bind_error ran]

theorem run_acceptBlob_held (ciphertext : Bytes) :
    (acceptBlob Symbolic.suite .idle .specimen (heldBlob ciphertext)).run holding =
      (acceptKnown Symbolic.suite .idle holder .outbound legacyDevice heldSession
        (heldBlob ciphertext)).run holding := by
  have found : findSession holding.store (identityId Symbolic.suite .specimen) [1] =
      some (holder, .outbound, legacyDevice, heldSession) := by
    decide +kernel
  have asked : (askStore id).run holding = (.ok holding.store, holding) := rfl
  unfold acceptBlob
  rw [heldBlob_parses, run_bind_ok (run_lift_ok _ _), heldWire_sid,
    run_bind_ok (run_lift_ok _ _), run_bind_ok asked, found]

/-- A blob of the session that is not unsealed is not accepted. -/
theorem heldBlob_rejected {ciphertext : Bytes}
    (fails : Symbolic.suite.aeadDecrypt [3, 2] [4] ciphertext
      (Ratchet.associatedData heldHeader none) = none) :
    ¬ Accepts Symbolic.suite .idle .specimen holding (heldBlob ciphertext) ∧
      (handleBlob Symbolic.suite .idle .specimen (heldBlob ciphertext)).run holding =
        (.ok (), { holding with tick := 1 }) := by
  have refused := heldBlob_refused fails
  rcases ran : (Wire.unsealWire Symbolic.suite (drawnAt .idle 32 0) (heldBlob ciphertext)).run
    heldSession.ratchet with ⟨result, ratchet⟩
  rw [ran] at refused
  cases refused
  have opened := @openBlob_refused Symbolic.suite .idle heldSession (heldBlob ciphertext)
    holding unopened ratchet ran rfl
  have checked : (acceptBlob Symbolic.suite .idle .specimen (heldBlob ciphertext)).run
      holding = (.ok none, { holding with tick := 1 }) := by
    rw [run_acceptBlob_held]
    exact run_bind_ok opened
  constructor
  · rintro ⟨entry, final, ran⟩
    rw [checked] at ran
    cases ran
  · rw [handleBlob_eq]
    exact run_bind_ok checked

theorem heldBlob_accepted {ciphertext plaintext : Bytes} {envelope : Json}
    (decrypts : Symbolic.suite.aeadDecrypt [3, 2] [4] ciphertext
      (Ratchet.associatedData heldHeader none) = some plaintext)
    (unpadded : Padding.unpadEnvelope plaintext = .ok envelope) :
    Accepts Symbolic.suite .idle .specimen holding (heldBlob ciphertext) := by
  have unsealed := heldBlob_unsealed decrypts unpadded
  rcases ran : (Wire.unsealWire Symbolic.suite (drawnAt .idle 32 0) (heldBlob ciphertext)).run
    heldSession.ratchet with ⟨result, ratchet⟩
  rw [ran] at unsealed
  cases unsealed
  have opened := @openBlob_opened Symbolic.suite .idle heldSession (heldBlob ciphertext) [1]
    holding envelope .null ratchet ran
  refine ⟨.known holder .outbound legacyDevice { heldSession with ratchet } envelope,
    { holding with tick := 1 }, ?_⟩
  rw [run_acceptBlob_held]
  exact run_bind_ok opened

/-- What the peer has sealed. -/
def sealedBody : Bytes :=
  7 :: Symbolic.pair [3, 2] (Symbolic.pair [4]
    (Symbolic.pair (Ratchet.associatedData heldHeader none)
      (canonicalJson (.mkObj [("type", .str "ping")]))))

/-- A forged blob of a session changes nothing, and the blob of the peer is accepted
after it. -/
theorem rejected_blobs_leave_no_trace_forged :
    ((handleBlob Symbolic.suite .idle .specimen (heldBlob [9])).after holding).store =
        holding.store ∧
      Accepts Symbolic.suite .idle .specimen
        ((handleBlob Symbolic.suite .idle .specimen (heldBlob [9])).after holding)
        (heldBlob sealedBody) := by
  have fails : Symbolic.suite.aeadDecrypt [3, 2] [4] [9]
      (Ratchet.associatedData heldHeader none) = none := rfl
  obtain ⟨rejected, handled⟩ := heldBlob_rejected fails
  have genuine : Accepts Symbolic.suite .idle .specimen holding (heldBlob sealedBody) := by
    have canonical : (Json.mkObj [("type", .str "ping")]).Canonical := by
      apply Json.canonical_mkObj
      simp [Json.Canonical]
    have unpadded : Padding.unpadEnvelope (canonicalJson (.mkObj [("type", .str "ping")])) =
        .ok ((Json.mkObj [("type", .str "ping")]).eraseField "pad") := by
      unfold Padding.unpadEnvelope
      rw [loadJson_canonicalJson canonical]
      rfl
    exact heldBlob_accepted (Symbolic.aeadDecrypt_aeadEncrypt rfl) unpadded
  obtain ⟨-, store, -, accepted⟩ := rejected_blobs_leave_no_trace symbolic_refusesPublic
    rejected handled
  rw [after_eq handled]
  exact ⟨store, (accepted _).mpr genuine⟩

end Forgery

end NoKnowledge.Core.RejectedBlobs

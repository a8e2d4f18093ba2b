import NoKnowledge.Core.Client
import NoKnowledge.Core.RecordDelivery
import NoKnowledge.Core.SignedRecords

/-!
# Prekeys that a relay hands out

The signature of a prekey covers the bundle it belongs to.  Both are taken from
the response of the relay, so a bundle that the contact has published for
another of its devices is accepted in place of the one that was asked for.
-/

namespace NoKnowledge.Core.Client

variable {suite : Suite} {environment : Environment} {account : Account}
  {contact : ContactRow} {device : DeviceEntry} {world : World}

/-- The public keys of a bundle that the initiator agrees on a secret with. -/
def agreementKeys (bundle : PrekeyBundle) : List Bytes :=
  [bundle.idh, bundle.spk] ++ (bundle.opks.head?.map Prod.snd).toList

/-- A response that a session is started from. -/
structure AcceptedResponse (suite : Suite) (environment : Environment) (account : Account)
    (contact : ContactRow) (device : DeviceEntry) (world : World) (urls : List String)
    (payload : Json) (bundle : PrekeyBundle) : Prop where
  relays : backendFor account device.relays = .ok urls
  answered : firstBundle environment device.bundleId urls world.tick = some payload
  parsed : PrekeyBundle.fromPublic payload contact.isign contact.idh = .ok bundle
  verified : bundle.verifyBundle suite contact.isign = .ok ()
  agreed : ∀ public_ ∈ agreementKeys bundle, ∃ shared,
    suite.exchange (drawnAt environment 32 (world.tick + urls.length)) public_ = some shared
  ratcheted : ∃ shared,
    suite.exchange (drawnAt environment 32 (world.tick + urls.length + 2)) bundle.spk =
      some shared

theorem run_attempt_fetchBundle (urls : List String) (bundleId : String) :
    (Sync.attempt (do
        let urls ← Prog.lift (.ok urls)
        fetchBundle environment urls bundleId)).run world =
      (.ok (firstBundle environment bundleId urls world.tick),
        { world with tick := world.tick + urls.length }) := by
  cases answer : firstBundle environment bundleId urls world.tick with
  | none => simp [Sync.attempt, fetchBundle, Prog.run_bind, Prog.run_tryCatch, answer]
  | some payload => simp [Sync.attempt, fetchBundle, Prog.run_bind, Prog.run_tryCatch, answer]

theorem run_fetchDeviceBundle {urls : List String} {payload : Json} {bundle : PrekeyBundle}
    (relays : backendFor account device.relays = .ok urls)
    (answered : firstBundle environment device.bundleId urls world.tick = some payload)
    (parsed : PrekeyBundle.fromPublic payload contact.isign contact.idh = .ok bundle) :
    (fetchDeviceBundle environment account contact device).run world =
      (.ok bundle, { world with tick := world.tick + urls.length }) := by
  unfold fetchDeviceBundle
  rw [relays, Prog.run_bind_ok (run_attempt_fetchBundle urls device.bundleId), answered]
  dsimp only
  rw [parsed]
  rfl

theorem fetchDeviceBundle_returns {bundle : PrekeyBundle} {middle : World}
    (fetched : (fetchDeviceBundle environment account contact device).run world =
      (.ok bundle, middle)) :
    ∃ urls payload, backendFor account device.relays = .ok urls ∧
      firstBundle environment device.bundleId urls world.tick = some payload ∧
      PrekeyBundle.fromPublic payload contact.isign contact.idh = .ok bundle ∧
      middle = { world with tick := world.tick + urls.length } := by
  unfold fetchDeviceBundle at fetched
  cases relays : backendFor account device.relays with
  | error raised =>
      rw [relays] at fetched
      cases fetched
  | ok urls =>
      rw [relays, Prog.run_bind_ok (run_attempt_fetchBundle urls device.bundleId)] at fetched
      cases answered : firstBundle environment device.bundleId urls world.tick with
      | none =>
          rw [answered] at fetched
          cases fetched
      | some payload =>
          rw [answered] at fetched
          dsimp only at fetched
          cases parsed : PrekeyBundle.fromPublic payload contact.isign contact.idh with
          | error raised =>
              rw [parsed] at fetched
              cases fetched
          | ok found =>
              rw [parsed] at fetched
              cases fetched
              exact ⟨urls, payload, rfl, answered, parsed, rfl⟩

theorem fromPublic_idh {payload : Json} {isign idh : Bytes} {bundle : PrekeyBundle}
    (parsed : PrekeyBundle.fromPublic payload isign idh = .ok bundle) :
    bundle.isign = isign ∧ bundle.idh = idh := by
  simp only [PrekeyBundle.fromPublic, except_bind_eq_ok] at parsed
  obtain ⟨_, -, _, -, built⟩ := parsed
  cases built
  exact ⟨rfl, rfl⟩

theorem exchange_eq_ok {private_ public_ shared : Bytes} :
    X3dh.exchange suite private_ public_ = .ok shared ↔
      suite.exchange private_ public_ = some shared := by
  unfold X3dh.exchange
  split
  · rename_i found
    simp [found]
  · rename_i missing
    simp [missing]

/-- What makes the initiator's half of a handshake succeed. -/
theorem initiate_returns_iff {bundle : PrekeyBundle} {isign idh ephemeral : Bytes}
    (sameIdh : bundle.idh = idh) :
    (∃ initiation, X3dh.initiate suite bundle isign idh ephemeral = .ok initiation) ↔
      bundle.verifyBundle suite isign = .ok () ∧
      ∀ public_ ∈ agreementKeys bundle, ∃ shared,
        suite.exchange ephemeral public_ = some shared := by
  subst sameIdh
  have unrefused : ∀ raised : Raised, refuse (bundle.idh ≠ bundle.idh) raised = .ok () :=
    fun _ => refuse_eq_ok.mpr (by simp)
  simp only [X3dh.initiate, unrefused, except_ok_bind]
  constructor
  · rintro ⟨initiation, initiated⟩
    simp only [except_bind_eq_ok, Except.rewrap_eq_ok, exchange_eq_ok] at initiated
    obtain ⟨_, verified, dh1, first, dh2, second, last⟩ := initiated
    refine ⟨verified, fun public_ member => ?_⟩
    rcases List.mem_append.mp member with own | prekey
    · rcases List.mem_pair.mp own with rfl | rfl
      · exact ⟨dh1, first⟩
      · exact ⟨dh2, second⟩
    · split at last
      · rename_i none
        rw [none] at prekey
        cases prekey
      · rename_i opkId opkPublic rest some
        rw [some] at prekey
        obtain ⟨dh3, third, -⟩ := except_bind_eq_ok.mp last
        have same : public_ = opkPublic := by simpa using prekey
        exact ⟨dh3, same ▸ exchange_eq_ok.mp third⟩
  · rintro ⟨verified, agreed⟩
    obtain ⟨dh1, first⟩ := agreed bundle.idh (by simp [agreementKeys])
    obtain ⟨dh2, second⟩ := agreed bundle.spk (by simp [agreementKeys])
    rw [verified, exchange_eq_ok.mpr first, exchange_eq_ok.mpr second]
    cases opks : bundle.opks with
    | nil => exact ⟨_, rfl⟩
    | cons opk rest =>
        obtain ⟨opkId, opkPublic⟩ := opk
        obtain ⟨dh3, third⟩ := agreed opkPublic (by simp [agreementKeys, opks])
        dsimp only
        rw [exchange_eq_ok.mpr third]
        exact ⟨_, rfl⟩

theorem initiator_eq_ok {sessionKey remote newPrivate : Bytes} {state : RatchetState}
    (made : Ratchet.initiator suite sessionKey remote newPrivate = .ok state) :
    (∃ shared, suite.exchange newPrivate remote = some shared) ∧
      state.dhRemote = some remote := by
  unfold Ratchet.initiator at made
  split at made
  · cases made
  · rename_i shared agreed
    cases made
    exact ⟨⟨shared, agreed⟩, rfl⟩

/-- A session starts from an accepted response, with the prekey of the response. -/
theorem AcceptedResponse.starts {urls : List String} {payload : Json} {bundle : PrekeyBundle}
    (accepted : AcceptedResponse suite environment account contact device world urls payload bundle) :
    ∃ session after, (startSession suite environment account contact device).run world =
      (.ok session, after) ∧ session.ratchet.dhRemote = some bundle.spk := by
  obtain ⟨initiation, initiated⟩ := (initiate_returns_iff (fromPublic_idh accepted.parsed).2).mpr
    ⟨accepted.verified, accepted.agreed⟩
  obtain ⟨shared, ratcheted⟩ := accepted.ratcheted
  have made : ∃ ratchet, Ratchet.initiator suite initiation.sk bundle.spk
      (drawnAt environment 32 (world.tick + urls.length + 2)) = .ok ratchet := by
    unfold Ratchet.initiator
    rw [ratcheted]
    exact ⟨_, rfl⟩
  obtain ⟨ratchet, made⟩ := made
  unfold startSession
  rw [Prog.run_bind_ok (run_fetchDeviceBundle accepted.relays accepted.answered accepted.parsed),
    Prog.run_bind_ok (run_urandom 32 _), Prog.run_bind_ok (run_lift_eq initiated _),
    Prog.run_bind_ok (run_urandom 16 _), Prog.run_bind_ok (run_urandom 32 _)]
  dsimp only
  rw [made]
  exact ⟨_, _, rfl, (initiator_eq_ok made).2⟩

theorem startSession_returns {session : Session} {after : World}
    (started : (startSession suite environment account contact device).run world =
      (.ok session, after)) :
    ∃ urls payload bundle,
      AcceptedResponse suite environment account contact device world urls payload bundle ∧
      session.ratchet.dhRemote = some bundle.spk := by
  unfold startSession at started
  rw [Prog.run_bind] at started
  split at started
  · rename_i bundle middle fetched
    obtain ⟨urls, payload, relays, answered, parsed, rfl⟩ := fetchDeviceBundle_returns fetched
    rw [Prog.run_bind_ok (run_urandom 32 _)] at started
    cases initiated : X3dh.initiate suite bundle contact.isign contact.idh
        (drawnAt environment 32 (world.tick + urls.length)) with
    | error raised =>
        rw [initiated] at started
        cases started
    | ok initiation =>
        obtain ⟨verified, agreed⟩ :=
          (initiate_returns_iff (fromPublic_idh parsed).2).mp ⟨initiation, initiated⟩
        rw [Prog.run_bind_ok (run_lift_eq initiated _), Prog.run_bind_ok (run_urandom 16 _),
          Prog.run_bind_ok (run_urandom 32 _)] at started
        dsimp only at started
        split at started
        · cases started
        · rename_i ratchet made
          cases started
          obtain ⟨ratcheted, remote⟩ := initiator_eq_ok made
          exact ⟨urls, payload, bundle, ⟨relays, answered, parsed, verified, agreed, ratcheted⟩,
            remote⟩
  · cases started

theorem read_opk (opk : Int × Bytes) :
    (do
      let entry := Json.mkObj [("opk_id", .int opk.1), ("opk", .str (b64e opk.2))]
      return (← (← entry.item "opk_id").toInt, ← (← entry.item "opk").toBytes) :
        Except Raised (Int × Bytes)) = .ok opk := by
  have number : (Json.mkObj [("opk_id", .int opk.1),
      ("opk", .str (b64e opk.2))]).item "opk_id" = .ok (.int opk.1) :=
    Json.item_eq_ok.mpr (by rw [Json.get?_mkObj]; rfl)
  have key : (Json.mkObj [("opk_id", .int opk.1),
      ("opk", .str (b64e opk.2))]).item "opk" = .ok (.str (b64e opk.2)) :=
    Json.item_eq_ok.mpr (by rw [Json.get?_mkObj]; rfl)
  simp only [number, key, except_ok_bind, toBytes_b64e]
  rfl

/-- What is published is read back, with the identity keys of the card. -/
theorem fromPublic_toPublicDict (bundle : PrekeyBundle) :
    PrekeyBundle.fromPublic bundle.toPublicDict bundle.isign bundle.idh = .ok bundle := by
  have field : ∀ key, bundle.toPublicDict.get? key = ([
      ("v", Json.int 1),
      ("bundle_id", .str (b64e bundle.bundleId)),
      ("spk_id", .int bundle.spkId),
      ("spk", .str (b64e bundle.spk)),
      ("spk_sig", .str (b64e bundle.spkSig)),
      ("opks", .arr (bundle.opks.map fun opk =>
        .mkObj [("opk_id", .int opk.1), ("opk", .str (b64e opk.2))]))] :
      List (String × Json)).reverse.lookup key :=
    fun key => Json.get?_mkObj key _
  have version : bundle.toPublicDict.attempt "v" = .ok (.int 1) :=
    attempt_of_get? (field "v")
  have bundleId : bundle.toPublicDict.item "bundle_id" = .ok (.str (b64e bundle.bundleId)) :=
    Json.item_eq_ok.mpr (field "bundle_id")
  have isign : bundle.toPublicDict.get? "isign" = none := field "isign"
  have idh : bundle.toPublicDict.get? "idh" = none := field "idh"
  have spkId : bundle.toPublicDict.item "spk_id" = .ok (.int bundle.spkId) :=
    Json.item_eq_ok.mpr (field "spk_id")
  have spk : bundle.toPublicDict.item "spk" = .ok (.str (b64e bundle.spk)) :=
    Json.item_eq_ok.mpr (field "spk")
  have spkSig : bundle.toPublicDict.item "spk_sig" = .ok (.str (b64e bundle.spkSig)) :=
    Json.item_eq_ok.mpr (field "spk_sig")
  have opks : bundle.toPublicDict.get? "opks" = some (.arr (bundle.opks.map fun opk =>
      .mkObj [("opk_id", .int opk.1), ("opk", .str (b64e opk.2))])) := field "opks"
  have entries : (bundle.opks.map fun opk =>
      Json.mkObj [("opk_id", .int opk.1), ("opk", .str (b64e opk.2))]).mapM (fun entry => do
        return (← (← entry.item "opk_id").toInt, ← (← entry.item "opk").toBytes)) =
      (.ok bundle.opks : Except Raised _) :=
    mapM_map_eq_ok fun opk _ => read_opk opk
  have read : PrekeyBundle.fromDict bundle.toPublicDict =
      .ok { bundle with isign := [], idh := [] } := by
    have number : (Json.int bundle.spkId).toInt = .ok bundle.spkId := rfl
    have absent : ((none : Option Json).getD (.str "")).toBytes = .ok [] := by decide
    have listed : ((some (Json.arr (bundle.opks.map fun opk =>
        .mkObj [("opk_id", .int opk.1), ("opk", .str (b64e opk.2))]))).getD (.arr [])).elements =
      .ok (bundle.opks.map fun opk =>
        .mkObj [("opk_id", .int opk.1), ("opk", .str (b64e opk.2))]) := rfl
    simp only [PrekeyBundle.fromDict, version, bundleId, isign, idh, spkId, spk, spkSig, opks,
      except_ok_bind, toBytes_b64e, number, absent, listed, entries]
    rfl
  rw [PrekeyBundle.fromPublic,
    show PrekeyBundle.document bundle.toPublicDict = .ok bundle.toPublicDict from rfl,
    except_ok_bind, read]
  rfl

/-- The owner of a prekey has signed it for a bundle id. -/
def SignedFor (signed : Statement → Prop) (bundleId : String) (spk : Bytes) : Prop :=
  ∃ id spkId, b64d bundleId = some id ∧ signed (.prekey id spkId spk)

/-- The prekeys an owner signs have the size of a key, and each is drawn for one
bundle. -/
structure OwnPrekeys (signed : Statement → Prop) : Prop where
  size : ∀ {id spkId spk}, signed (.prekey id spkId spk) → spk.length = keySize
  bundle : ∀ {id id' spkId spkId' spk}, signed (.prekey id spkId spk) →
    signed (.prekey id' spkId' spk) → id = id'

theorem spkMessage_injective {id id' spk spk' message : Bytes} {spkId spkId' : Int}
    (same : spk.length = spk'.length)
    (written : PrekeyBundle.spkMessage id spkId spk = .ok message)
    (written' : PrekeyBundle.spkMessage id' spkId' spk' = .ok message) :
    id = id' ∧ spkId = spkId' ∧ spk = spk' := by
  obtain ⟨number, counted, written⟩ := except_bind_eq_ok.mp written
  obtain ⟨number', counted', written'⟩ := except_bind_eq_ok.mp written'
  obtain ⟨length, value⟩ := Channel.fourBytes_eq_ok counted
  obtain ⟨length', value'⟩ := Channel.fourBytes_eq_ok counted'
  cases written
  have parts := (Except.ok.inj written').symm
  obtain ⟨front, sameSpk⟩ := List.append_inj' parts same
  obtain ⟨names, sameNumber⟩ := List.append_inj' front (length.trans length'.symm)
  subst sameNumber
  exact ⟨List.append_cancel_left names, value.symm.trans value', sameSpk⟩

/-- An accepted bundle is one that the owner has signed, whichever was asked for. -/
theorem verified_bundle_was_signed {owner : Identity} {signed : Statement → Prop}
    (ideal : IdealSignatures suite owner signed) (prekeys : OwnPrekeys signed)
    {bundle : PrekeyBundle}
    (accepted : bundle.verifyBundle suite (owner.edPublic suite) = .ok ()) :
    signed (.prekey bundle.bundleId bundle.spkId bundle.spk) := by
  obtain ⟨_, isign, accepted⟩ := except_bind_eq_ok.mp accepted
  obtain ⟨_, sizes, accepted⟩ := except_bind_eq_ok.mp accepted
  obtain ⟨message, written, accepted⟩ := except_bind_eq_ok.mp accepted
  have key : bundle.isign = owner.edPublic suite := by simpa using refuse_eq_ok.mp isign
  have size : bundle.spk.length = keySize := by
    have refused := refuse_eq_ok.mp sizes
    simp only [Bool.or_eq_false_iff, decide_eq_false_iff_not, not_not] at refused
    exact refused.1
  have verified : suite.verify bundle.isign bundle.spkSig message = true := by
    simpa using refuse_eq_ok.mp accepted
  rw [key] at verified
  obtain ⟨statement, made, statementWritten, -⟩ := ideal.sound _ _ verified
  have domains := Statement.domainOf_message statementWritten
  have prekey : Statement.domainOf message = some .prekey :=
    @Statement.domainOf_message suite owner
      (.prekey bundle.bundleId bundle.spkId bundle.spk) _ written
  have kind := Option.some.inj (domains.symm.trans prekey)
  cases statement with
  | prekey id spkId spk =>
      obtain ⟨rfl, rfl, rfl⟩ :=
        spkMessage_injective (size.trans (prekeys.size made).symm) written statementWritten
      exact made
  | _ => cases kind

/-- The prekey of every session that is started was signed by the contact for the
bundle that was asked for exactly when no response is accepted that carries
another bundle id. -/
theorem prekey_of_requested_bundle_iff {owner : Identity} {signed : Statement → Prop}
    (ideal : IdealSignatures suite owner signed)
    (prekeys : OwnPrekeys signed) (pinned : contact.isign = owner.edPublic suite) :
    (∀ session after, (startSession suite environment account contact device).run world =
        (.ok session, after) →
      ∃ spk, session.ratchet.dhRemote = some spk ∧ SignedFor signed device.bundleId spk) ↔
    ∀ urls payload bundle,
      AcceptedResponse suite environment account contact device world urls payload bundle →
        b64d device.bundleId = some bundle.bundleId := by
  constructor
  · intro kept urls payload bundle accepted
    obtain ⟨session, after, started, remote⟩ := accepted.starts
    obtain ⟨spk, same, id, spkId, requested, statement⟩ := kept session after started
    rw [remote] at same
    cases same
    have verified := accepted.verified
    rw [pinned] at verified
    rw [requested,
      prekeys.bundle statement (verified_bundle_was_signed ideal prekeys verified)]
  · intro named session after started
    obtain ⟨urls, payload, bundle, accepted, remote⟩ := startSession_returns started
    have verified := accepted.verified
    rw [pinned] at verified
    exact ⟨bundle.spk, remote, bundle.bundleId, bundle.spkId, named _ _ _ accepted,
      verified_bundle_was_signed ideal prekeys verified⟩

/-- A bundle of signed prekeys is accepted. -/
theorem verifyBundle_of_signed {owner : Identity} {signed : Statement → Prop}
    (ideal : IdealSignatures suite owner signed) {bundle : PrekeyBundle} {message : Bytes}
    (made : signed (.prekey bundle.bundleId bundle.spkId bundle.spk))
    (written : PrekeyBundle.spkMessage bundle.bundleId bundle.spkId bundle.spk = .ok message)
    (isign : bundle.isign = owner.edPublic suite)
    (sizes : bundle.spk.length = keySize ∧ bundle.idh.length = keySize)
    (signature : bundle.spkSig = owner.sign suite message) :
    bundle.verifyBundle suite (owner.edPublic suite) = .ok () := by
  have verified := ideal.complete _ _ made written
  have unrefused : ∀ raised : Raised, refuse (owner.edPublic suite ≠ owner.edPublic suite)
      raised = .ok () :=
    fun _ => refuse_eq_ok.mpr (by simp)
  rw [PrekeyBundle.verifyBundle, isign, signature, written, sizes.1, sizes.2, unrefused]
  simp only [except_ok_bind, verified]
  rfl

namespace TwoDevices

def owner : Identity := ⟨[1], List.replicate 31 3⟩

def phoneId : Bytes := List.replicate 16 1
def laptopId : Bytes := List.replicate 16 2

def phonePrekey : Bytes := 5 :: List.replicate 31 1
def laptopPrekey : Bytes := 5 :: List.replicate 31 2

def statements : List Statement :=
  [.prekey phoneId 1 phonePrekey, .prekey laptopId 1 laptopPrekey]

def relaySuite : Suite := notaryOf owner statements

theorem signs : IdealSignatures relaySuite owner fun statement => statement ∈ statements :=
  ideal_notaryOf owner statements

theorem prekeys : OwnPrekeys fun statement => statement ∈ statements where
  size := by
    intro id spkId spk made
    simp only [statements, List.mem_cons, List.not_mem_nil, or_false, Statement.prekey.injEq]
      at made
    rcases made with ⟨-, -, rfl⟩ | ⟨-, -, rfl⟩ <;> rfl
  bundle := by
    intro id id' spkId spkId' spk made made'
    simp only [statements, List.mem_cons, List.not_mem_nil, or_false, Statement.prekey.injEq]
      at made made'
    rcases made with ⟨rfl, -, rfl⟩ | ⟨rfl, -, rfl⟩
    · rcases made' with ⟨rfl, -, -⟩ | ⟨-, -, other⟩
      · rfl
      · exact absurd other (by decide)
    · rcases made' with ⟨-, -, other⟩ | ⟨rfl, -, -⟩
      · exact absurd other (by decide)
      · rfl

/-- The bundle of a device, as its owner publishes it. -/
def bundleOf (bundleId spk : Bytes) : PrekeyBundle where
  bundleId
  isign := owner.edPublic relaySuite
  idh := owner.xPublic relaySuite
  spkId := 1
  spk
  spkSig := owner.sign relaySuite (spkSignInfo ++ bundleId ++ bigEndianOctets 4 1 ++ spk)

def peer : ContactRow where
  identityId := "me"
  id := "peer"
  nickname := none
  isign := owner.edPublic relaySuite
  idh := owner.xPublic relaySuite
  bundleId := none
  inbox := .obj []
  relays := []
  session := none
  verified := false
  createdAt := 1

def phone : DeviceEntry where
  deviceId := "phone"
  inbox := .obj []
  relays := [.str "https://relay"]
  bundleId := b64e phoneId

/-- A relay that answers every request with one bundle. -/
def serving (bundle : PrekeyBundle) : Environment :=
  { Environment.idle with fetchBundle := fun _ _ _ => some bundle.toPublicDict }

def start : World where
  store := {}

/-- Either bundle starts a session with the phone. -/
theorem accepted {bundleId spk : Bytes} (made : Statement.prekey bundleId 1 spk ∈ statements)
    (size : spk.length = keySize) (degenerate : spk.head? = some 5) :
    AcceptedResponse relaySuite (serving (bundleOf bundleId spk)) Account.specimen peer phone start
      ["https://relay"] (bundleOf bundleId spk).toPublicDict (bundleOf bundleId spk) := by
  have agrees : ∀ private_, ∃ shared, relaySuite.exchange private_ spk = some shared := by
    obtain ⟨rest, rfl⟩ := List.head?_eq_some_iff.mp degenerate
    exact fun _ => ⟨_, rfl⟩
  exact {
    relays := by decide
    answered := rfl
    parsed := fromPublic_toPublicDict (bundleOf bundleId spk)
    verified := @verifyBundle_of_signed relaySuite owner _ signs (bundleOf bundleId spk) _ made
      rfl rfl ⟨size, rfl⟩ rfl
    agreed := by
      intro public_ member
      rcases List.mem_pair.mp member with rfl | rfl
      · exact ⟨_, rfl⟩
      · exact agrees _
    ratcheted := agrees _ }

end TwoDevices

open TwoDevices in
/-- The bundle of the phone starts a session with the phone. -/
theorem prekey_of_requested_bundle_iff_phone :
    ∃ session after,
      (startSession relaySuite (serving (bundleOf phoneId phonePrekey)) Account.specimen
        peer phone).run start = (.ok session, after) ∧
      ∃ spk, session.ratchet.dhRemote = some spk ∧
        SignedFor (fun statement => statement ∈ statements) phone.bundleId spk := by
  have taken := @accepted phoneId phonePrekey List.mem_cons_self (by decide) rfl
  obtain ⟨session, after, started, -⟩ := taken.starts
  refine ⟨session, after, started, ?_⟩
  apply (prekey_of_requested_bundle_iff signs prekeys rfl).mpr _ session after started
  intro urls payload bundle other
  have relays := Except.ok.inj (taken.relays.symm.trans other.relays)
  subst relays
  have answered := Option.some.inj (taken.answered.symm.trans other.answered)
  subst answered
  rw [← Except.ok.inj (taken.parsed.symm.trans other.parsed)]
  exact b64d_b64e phoneId

open TwoDevices in
/-- The bundle of the laptop starts a session with the phone as well. -/
theorem laptop_prekey_in_place_of_phone :
    ∃ session after,
      (startSession relaySuite (serving (bundleOf laptopId laptopPrekey)) Account.specimen
        peer phone).run start = (.ok session, after) ∧
      session.ratchet.dhRemote = some laptopPrekey ∧
      ¬ ∃ spk, session.ratchet.dhRemote = some spk ∧
        SignedFor (fun statement => statement ∈ statements) phone.bundleId spk := by
  have taken := @accepted laptopId laptopPrekey (List.mem_cons_of_mem _ List.mem_cons_self)
    (by decide) rfl
  obtain ⟨session, after, started, remote⟩ := taken.starts
  refine ⟨session, after, started, remote, ?_⟩
  rintro ⟨spk, same, id, spkId, named, made⟩
  rw [remote] at same
  cases same
  have requested : id = phoneId := by
    rw [show phone.bundleId = b64e phoneId from rfl, b64d_b64e] at named
    exact (Option.some.inj named).symm
  subst requested
  exact absurd (prekeys.bundle made (List.mem_cons_of_mem _ List.mem_cons_self)) (by decide)

end NoKnowledge.Core.Client

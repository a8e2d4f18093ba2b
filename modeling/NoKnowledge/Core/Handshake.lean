import NoKnowledge.Core.SignedRecords

/-!
# The two halves of a handshake

The initiator computes the session key from its ephemeral key and the public
halves of a bundle, the responder from the private halves and the public
ephemeral key.  Both compute the same key, and the proof the initiator builds
with it is one the responder accepts.
-/

namespace NoKnowledge

/-- A signature verifies under the public half of the key it was made with. -/
def Suite.SignaturesVerify (suite : Suite) : Prop :=
  ∀ private_ message,
    suite.verify (suite.signingPublic private_) (suite.sign private_ message) message = true

namespace Initiation

theorem get?_initDict (initiation : Initiation) (key : String) :
    initiation.initDict.get? key =
      if key = "opk_id" then some ((initiation.opkId.map Json.int).getD .null)
      else if key = "spk_id" then some (.int initiation.spkId)
      else if key = "ek" then some (.str (b64e initiation.ekPublic))
      else none := by
  unfold initDict
  simp only [Json.get?_mkObj, List.reverse_cons, List.reverse_nil, List.nil_append,
    List.cons_append, Dict.lookup_cons_eq_ite, List.lookup_nil]

theorem canonical_initDict (initiation : Initiation) : initiation.initDict.Canonical := by
  apply Json.canonical_mkObj
  cases initiation.opkId <;> simp [Json.Canonical]

end Initiation

namespace X3dh

variable {suite : Suite} {Private : Bytes → Prop}

/-- The private halves of the keys of a bundle that the initiator uses. -/
structure Halves (suite : Suite) (Private : Bytes → Prop) (bundle : PrekeyBundle)
    (xPrivate spkPrivate : Bytes) (opkPrivate : Option Bytes) : Prop where
  idh : bundle.idh = suite.dhPublic xPrivate
  spk : bundle.spk = suite.dhPublic spkPrivate
  opk : bundle.opks.head?.map Prod.snd = opkPrivate.map suite.dhPublic
  identityDrawn : Private xPrivate
  signedDrawn : Private spkPrivate
  oneTimeDrawn : ∀ private_ ∈ opkPrivate, private_ ≠ [] ∧ Private private_

theorem exchange_of_agrees (agrees : suite.Agrees Private) {mine theirs : Bytes}
    (drawn : Private mine) (drawn' : Private theirs) :
    ∃ shared, exchange suite mine (suite.dhPublic theirs) = .ok shared ∧
      exchange suite theirs (suite.dhPublic mine) = .ok shared := by
  obtain ⟨shared, here, there⟩ := agrees mine theirs drawn drawn'
  exact ⟨shared, by simp [exchange, here], by simp [exchange, there]⟩

/-- What the initiator computes from a bundle it accepts. -/
theorem initiate_returns {bundle : PrekeyBundle} {isign idh ephemeral : Bytes}
    {initiation : Initiation}
    (initiated : initiate suite bundle isign idh ephemeral = .ok initiation) :
    ∃ dh1 dh2 dh3,
      exchange suite ephemeral bundle.idh = .ok dh1 ∧
      exchange suite ephemeral bundle.spk = .ok dh2 ∧
      (bundle.opks = [] ∧ dh3 = [] ∨
        ∃ opk ∈ bundle.opks.head?, exchange suite ephemeral opk.2 = .ok dh3) ∧
      initiation = {
        ekPublic := suite.dhPublic ephemeral
        spkId := bundle.spkId
        opkId := bundle.opks.head?.map Prod.fst
        sk := sharedSecret suite dh1 dh2 dh3 } := by
  obtain ⟨_, -, initiated⟩ := except_bind_eq_ok.mp initiated
  obtain ⟨_, -, initiated⟩ := except_bind_eq_ok.mp initiated
  obtain ⟨dh1, first, initiated⟩ := except_bind_eq_ok.mp initiated
  obtain ⟨dh2, second, initiated⟩ := except_bind_eq_ok.mp initiated
  cases offered : bundle.opks with
  | nil =>
      rw [offered] at initiated
      cases initiated
      exact ⟨dh1, dh2, [], first, second, .inl ⟨rfl, rfl⟩, rfl⟩
  | cons opk rest =>
      rw [offered] at initiated
      obtain ⟨dh3, exchanged, initiated⟩ := except_bind_eq_ok.mp initiated
      cases initiated
      exact ⟨dh1, dh2, dh3, first, second, .inr ⟨opk, rfl, exchanged⟩, rfl⟩

/-- The responder arrives at the key of the initiator. -/
theorem respond_of_initiate (agrees : suite.Agrees Private) {bundle : PrekeyBundle}
    {isign idh ephemeral xPrivate spkPrivate : Bytes} {opkPrivate : Option Bytes}
    {initiation : Initiation} (drawn : Private ephemeral)
    (halves : Halves suite Private bundle xPrivate spkPrivate opkPrivate)
    (initiated : initiate suite bundle isign idh ephemeral = .ok initiation) :
    respond suite xPrivate spkPrivate opkPrivate (suite.dhPublic ephemeral) =
      .ok initiation.sk := by
  obtain ⟨dh1, dh2, dh3, first, second, third, rfl⟩ := initiate_returns initiated
  obtain ⟨shared1, here1, there1⟩ := exchange_of_agrees agrees drawn halves.identityDrawn
  obtain ⟨shared2, here2, there2⟩ := exchange_of_agrees agrees drawn halves.signedDrawn
  rw [halves.idh, here1] at first
  rw [halves.spk, here2] at second
  cases first
  cases second
  have opk := halves.opk
  unfold respond
  rw [there1, there2]
  simp only [except_ok_bind]
  rcases third with ⟨none, rfl⟩ | ⟨offered, head, third⟩
  · cases opkPrivate with
    | none => rfl
    | some private_ => simp [none] at opk
  · rw [Option.mem_def] at head
    cases opkPrivate with
    | none => simp [head] at opk
    | some private_ =>
        obtain ⟨nonempty, oneTime⟩ := halves.oneTimeDrawn private_ rfl
        obtain ⟨shared3, here3, there3⟩ := exchange_of_agrees agrees drawn oneTime
        have same : offered.2 = suite.dhPublic private_ := by simpa [head] using opk
        rw [same, here3] at third
        cases third
        cases private_ with
        | nil => exact absurd rfl nonempty
        | cons octet rest => simp only [there3]; rfl

theorem get?_buildAuth (identity : Identity) (sid : Bytes) (init : Json) (sk : Bytes)
    (key : String) :
    (buildAuth suite identity sid init sk).get? key =
      if key = "sig" then some (.str (b64e (identity.sign suite
        (authMessage sid init (skCommitment suite sk)))))
      else if key = "sk_commit" then some (.str (b64e (skCommitment suite sk)))
      else if key = "idh" then some (.str (b64e (identity.xPublic suite)))
      else if key = "isign" then some (.str (b64e (identity.edPublic suite)))
      else if key = "id" then some (.str (identity.identityId suite))
      else if key = "v" then some (.int 1)
      else none := by
  unfold buildAuth
  simp only [Json.get?_mkObj, List.reverse_cons, List.reverse_nil, List.nil_append,
    List.cons_append, Dict.lookup_cons_eq_ite, List.lookup_nil]

/-- The responder accepts the proof that was built for its session. -/
theorem verifyAuth_buildAuth (verifies : suite.SignaturesVerify) (identity : Identity)
    (sid : Bytes) (init : Json) (sk : Bytes) :
    verifyAuth suite (buildAuth suite identity sid init sk) sid init sk = true := by
  have version : (buildAuth suite identity sid init sk).attempt "v" = .ok (.int 1) :=
    attempt_of_get? (by simp [get?_buildAuth])
  have named : (buildAuth suite identity sid init sk).attempt "id" =
      .ok (.str (identity.identityId suite)) :=
    attempt_of_get? (by simp [get?_buildAuth])
  have commit : (buildAuth suite identity sid init sk).item "sk_commit" =
      .ok (.str (b64e (skCommitment suite sk))) :=
    Json.item_eq_ok.mpr (by simp [get?_buildAuth])
  have isign : (buildAuth suite identity sid init sk).item "isign" =
      .ok (.str (b64e (identity.edPublic suite))) :=
    Json.item_eq_ok.mpr (by simp [get?_buildAuth])
  have idh : (buildAuth suite identity sid init sk).item "idh" =
      .ok (.str (b64e (identity.xPublic suite))) :=
    Json.item_eq_ok.mpr (by simp [get?_buildAuth])
  have proof : (buildAuth suite identity sid init sk).item "sig" =
      .ok (.str (b64e (identity.sign suite
        (authMessage sid init (skCommitment suite sk))))) :=
    Json.item_eq_ok.mpr (by simp [get?_buildAuth])
  have verified : suite.verify (identity.edPublic suite)
      (identity.sign suite (authMessage sid init (skCommitment suite sk)))
      (authMessage sid init (skCommitment suite sk)) = true :=
    verifies _ _
  have body : verifyAuthBody suite (buildAuth suite identity sid init sk) sid init sk =
      .ok true := by
    simp only [verifyAuthBody, version, named, commit, isign, idh, proof, except_ok_bind,
      toBytes_b64e, verified]
    simp [Json.equalsInt, Identity.identityId]
    rfl
  simp [verifyAuth, body]

end X3dh

end NoKnowledge

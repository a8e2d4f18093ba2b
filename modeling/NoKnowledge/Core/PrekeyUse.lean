import NoKnowledge.Core.Reception

/-!
# One-time prekeys of a client

A blob that starts a session may name one of the one-time prekeys.  The key is
looked up before the blob is opened and deleted after the sender has proven who
it is, with several ways to reject the blob in between.  In every run, each key
opens at most one session.
-/

namespace NoKnowledge.Core.Client

open Prog NoKnowledge.Wire

variable (suite : Suite) (environment : Environment) (account : Account)

/-- A session that was accepted and is not yet saved. -/
structure Accepted where
  contact : ContactRow
  session : Session
  envelope : Json

/-- The first half of `receiveFresh`: open the blob and check its sender. -/
def acceptFresh (session : Session) (opkId : Json) (blob : Bytes) :
    ClientProg (Option Accepted) := do
  let newPrivate ← urandom environment 32
  match (Wire.unsealWire suite newPrivate blob).run session.ratchet with
  | (.error raised, _) =>
      if raised.class_.isWire then return none else throw raised
  | (.ok (envelope, _, _), ratchet) =>
      match ← finishInbound suite environment account session envelope opkId with
      | none => return none
      | some contact =>
          let session := { session with ratchet, established := true, sk := none }
          return some { contact, session, envelope }

/-- The second half: save the session and process the envelope. -/
def enterSession : Option Accepted → ClientProg Unit
  | none => return
  | some accepted => do
      let state := SessionState.load accepted.contact.session
      saveState suite account accepted.contact.id
        (state.file .inbound account.deviceId accepted.session)
      processEnvelope suite environment account accepted.contact accepted.envelope

/-- The session a blob of no known session starts, and the prekey it names. -/
def freshStart (world : World) (blob : Bytes) : Option (Session × Json) :=
  match (do
    let wire ← Wire.parseWire blob
    let sid ← (← wire.item "sid").toBytes
    match findSession world.store (identityId suite account) sid with
    | some _ => return none
    | none =>
        if (wire.get? "init").isNone then return none
        else beginInbound suite account world.store wire) with
  | .ok started => started
  | .error _ => none

/-- The one-time prekey that an accepted blob has used. -/
def openedWith (world : World) (blob : Bytes) : Option String :=
  match freshStart suite account world blob with
  | none => none
  | some (session, opkId) =>
      match (acceptFresh suite environment account session opkId blob).run world with
      | (.ok (some _), _) => if opkId = .null then none else some opkId.toText
      | _ => none

/-- The world after a sequence of blobs. -/
def handleAll (world : World) (blobs : List Bytes) : World :=
  blobs.foldl (fun world blob => (handleBlob suite environment account blob).after world)
    world

/-- The one-time prekeys used by the accepted blobs of a run, in order. -/
def openedIn (world : World) : List Bytes → List String
  | [] => []
  | blob :: blobs =>
      (openedWith suite environment account world blob).toList ++
        openedIn ((handleBlob suite environment account blob).after world) blobs

/-- The stored private half of a one-time prekey. -/
def oneTimePrivate (world : World) (id : String) : Option Bytes :=
  world.store.prekeys.bind fun prekeys => (prekeys.opks.get? id).map Prod.fst

variable {suite environment account}

theorem receiveFresh_eq (session : Session) (opkId : Json) (blob : Bytes) :
    receiveFresh suite environment account session opkId blob =
      acceptFresh suite environment account session opkId blob >>=
        enterSession suite environment account := by
  unfold receiveFresh acceptFresh
  rw [bind_assoc_eq]
  congr 1
  funext newPrivate
  rcases (Wire.unsealWire suite newPrivate blob).run session.ratchet with
    ⟨result, ratchet⟩
  cases result with
  | error raised =>
      dsimp only
      split <;> rfl
  | ok opened =>
      dsimp only
      rw [bind_assoc_eq]
      congr 1
      funext contact
      cases contact <;> rfl

theorem freshStart_eq_some {world : World} {blob : Bytes} {started : Session × Json}
    (fresh : freshStart suite account world blob = some started) :
    ∃ wire sid, Wire.parseWire blob = .ok wire ∧
      (do (← wire.item "sid").toBytes) = Except.ok sid ∧
      findSession world.store (identityId suite account) sid = none ∧
      (wire.get? "init").isNone = false ∧
      beginInbound suite account world.store wire = .ok (some started) := by
  unfold freshStart at fresh
  split at fresh
  · rename_i found read
    subst fresh
    obtain ⟨wire, parsed, read⟩ := except_bind_eq_ok.mp read
    obtain ⟨value, item, read⟩ := except_bind_eq_ok.mp read
    obtain ⟨sid, bytes, read⟩ := except_bind_eq_ok.mp read
    refine ⟨wire, sid, parsed, except_bind_eq_ok.mpr ⟨value, item, bytes⟩, ?_⟩
    split at read
    · cases read
    · rename_i unknown
      split at read
      · cases read
      · rename_i init
        exact ⟨unknown, Bool.eq_false_of_not_eq_true init, read⟩
  · cases fresh

/-- A blob that starts a session is accepted first and entered afterwards. -/
theorem handleBlob_fresh {world : World} {blob : Bytes} {session : Session} {opkId : Json}
    (started : freshStart suite account world blob = some (session, opkId)) :
    (handleBlob suite environment account blob).run world =
      (acceptFresh suite environment account session opkId blob >>=
        enterSession suite environment account).run world := by
  obtain ⟨wire, sid, parsed, read, unknown, init, begun⟩ := freshStart_eq_some started
  rw [← receiveFresh_eq]
  unfold handleBlob
  rw [parsed, run_bind_ok (run_lift_ok wire world), read,
    run_bind_ok (run_lift_ok sid world), run_bind_ok (run_askStore id world)]
  simp only [id, unknown, init, Bool.false_eq_true, if_false, begun]
  rw [run_bind_ok (run_lift_ok _ world)]

/-- No one-time prekey comes back. -/
def spending : Frame World where
  rel := fun first second =>
    ∀ id, oneTimePrivate first id = none → oneTimePrivate second id = none
  refl := fun _ _ => id
  trans := fun first second id gone => second id (first id gone)

theorem spending_same {first second : World}
    (same : second.store.prekeys = first.store.prekeys) : spending.rel first second := by
  intro id gone
  rw [oneTimePrivate, same]
  exact gone

theorem oneTimePrivate_spent {world : World} {prekeys : Prekeys} (spent id : String)
    (held : world.store.prekeys = some prekeys) :
    oneTimePrivate { world with
        store := { world.store with
          prekeys := some { prekeys with opks := prekeys.opks.erase spent } } } id =
      if id = spent then none else oneTimePrivate world id := by
  simp only [oneTimePrivate, held, Option.bind_some, Dict.get?_erase]
  split <;> rfl

theorem permissive_spending : Permissive spending where
  quiet := {
    tick := fun _ _ => spending_same rfl
    put := fun _ _ => spending_same rfl
    siblingKeys := fun _ _ => spending_same rfl
    deviceList := fun _ _ _ => spending_same rfl
    deviceKeys := fun _ _ => spending_same rfl }
  mirror := fun _ _ _ passed _ _ => spending.trans passed (spending_same rfl)
  sessions := fun _ _ _ => spending_same rfl
  outbox := fun _ _ => spending_same rfl
  localBlobs := fun _ _ => spending_same rfl
  prekeys := by
    intro world prekeys spent held id gone
    rw [oneTimePrivate_spent spent id held]
    split
    · rfl
    · exact gone
  state := fun _ _ _ _ _ => spending_same rfl
  messages := fun _ _ => spending_same rfl
  index := fun _ _ => spending_same rfl

theorem storeCard_spending (card : ContactCard) (nickname : Option String) :
    Keeps spending (storeCard suite environment account card nickname) := by
  apply keeps_bind (keeps_askStore _)
  intro existing
  apply keeps_bind (keeps_lift _)
  intro shown
  apply keeps_bind permissive_spending.quiet.nowSeconds
  intro now
  apply keeps_bind fun world => rel_upsertContact (spending_same rfl)
  intro _
  exact keeps_bind (keeps_askStore _) fun _ => keeps_pure _

theorem handleBlob_spending (blob : Bytes) :
    Keeps spending (handleBlob suite environment account blob) :=
  permissive_spending.handleBlob (fun _ _ card _ => storeCard_spending card none) blob

theorem handleAll_spending (blobs : List Bytes) (world : World) :
    spending.rel world (handleAll suite environment account world blobs) := by
  induction blobs generalizing world with
  | nil => exact spending.refl world
  | cons blob blobs induction =>
      exact spending.trans (handleBlob_spending blob world) (induction _)

/-- A named one-time prekey is stored when the session starts. -/
theorem freshStart_holds {world : World} {blob : Bytes} {session : Session} {opkId : Json}
    (started : freshStart suite account world blob = some (session, opkId))
    (named : opkId ≠ .null) : oneTimePrivate world opkId.toText ≠ none := by
  obtain ⟨wire, sid, -, -, -, -, begun⟩ := freshStart_eq_some started
  obtain ⟨init, -, begun⟩ := except_bind_eq_ok.mp begun
  split at begun
  · cases begun
  rename_i prekeys held
  obtain ⟨spkId, -, begun⟩ := except_bind_eq_ok.mp begun
  obtain ⟨number, -, begun⟩ := except_bind_eq_ok.mp begun
  split at begun
  · cases begun
  obtain ⟨found, -, begun⟩ := except_bind_eq_ok.mp begun
  split at begun
  · cases begun
  rename_i opkPrivate looked
  split at begun
  · cases begun
  obtain ⟨value, -, begun⟩ := except_bind_eq_ok.mp begun
  obtain ⟨sid', -, begun⟩ := except_bind_eq_ok.mp begun
  cases begun
  rw [oneTimePrekey, if_neg named] at looked
  rw [oneTimePrivate, held, Option.bind_some]
  cases stored : prekeys.opks.get? opkId.toText with
  | none => rw [stored] at looked; cases looked
  | some entry => exact Option.some_ne_none _

/-- A named one-time prekey is gone once it was consumed. -/
theorem consumeOpk_spends {opkId : Json} (named : opkId ≠ .null) (world : World) :
    oneTimePrivate ((consumeOpk opkId).after world) opkId.toText = none := by
  unfold consumeOpk
  rw [if_neg named, after_bind_ok (run_askStore Store.prekeys world)]
  cases held : world.store.prekeys with
  | none =>
      show oneTimePrivate world opkId.toText = none
      rw [oneTimePrivate, held, Option.bind_none]
  | some prekeys =>
      dsimp only
      split
      · exact (oneTimePrivate_spent opkId.toText opkId.toText held).trans (if_pos rfl)
      · rename_i absent
        show oneTimePrivate world opkId.toText = none
        rw [Bool.not_eq_true, Option.isSome_eq_false_iff, Option.isNone_iff_eq_none] at absent
        rw [oneTimePrivate, held, Option.bind_some, absent, Option.map_none]

theorem finishInbound_spends {session : Session} {envelope opkId : Json}
    {world final : World} {contact : ContactRow} (named : opkId ≠ .null)
    (finished : (finishInbound suite environment account session envelope opkId).run world =
      (.ok (some contact), final)) :
    oneTimePrivate final opkId.toText = none := by
  obtain ⟨proven, middle, lifted, finished⟩ := bind_returns finished
  cases proven with
  | none => cases finished
  | some card =>
      obtain ⟨filed, filedWorld, -, finished⟩ := bind_returns finished
      obtain ⟨_, consumed, ran, finished⟩ := bind_returns finished
      cases finished
      have spent := consumeOpk_spends named filedWorld
      rwa [after_eq ran] at spent

theorem acceptFresh_spends {session : Session} {opkId : Json} {blob : Bytes}
    {world final : World} {accepted : Accepted} (named : opkId ≠ .null)
    (ran : (acceptFresh suite environment account session opkId blob).run world =
      (.ok (some accepted), final)) :
    oneTimePrivate final opkId.toText = none := by
  obtain ⟨newPrivate, drawn, -, ran⟩ := bind_returns ran
  split at ran
  · split at ran <;> cases ran
  · obtain ⟨contact, finished, returned, ran⟩ := bind_returns ran
    cases contact with
    | none => cases ran
    | some contact =>
        cases ran
        exact finishInbound_spends named returned

theorem enterSession_spending (accepted : Option Accepted) :
    Keeps spending (enterSession suite environment account accepted) := by
  cases accepted with
  | none => exact keeps_pure _
  | some accepted =>
      apply keeps_bind (keeps_setContactSession permissive_spending.sessions _ _ _)
      exact fun _ => permissive_spending.processEnvelope _ _

/-- An accepted blob finds its one-time prekey and leaves without it. -/
theorem openedWith_spends {world : World} {blob : Bytes} {id : String}
    (opened : openedWith suite environment account world blob = some id) :
    oneTimePrivate world id ≠ none ∧
      oneTimePrivate ((handleBlob suite environment account blob).after world) id =
        none := by
  unfold openedWith at opened
  split at opened
  · cases opened
  rename_i session opkId started
  split at opened
  · rename_i accepted middle ran
    split at opened
    · cases opened
    · rename_i named
      cases opened
      refine ⟨freshStart_holds started named, ?_⟩
      rw [Prog.after, handleBlob_fresh started, run_bind_ok ran]
      exact enterSession_spending (some accepted) middle _ (acceptFresh_spends named ran)
  · cases opened

theorem openedIn_holds {world : World} {blobs : List Bytes} {id : String}
    (opened : id ∈ openedIn suite environment account world blobs) :
    oneTimePrivate world id ≠ none := by
  induction blobs generalizing world with
  | nil => cases opened
  | cons blob blobs induction =>
      rcases List.mem_append.mp opened with now | later
      · exact (openedWith_spends (Option.mem_toList.mp now)).1
      · intro gone
        exact induction later (handleBlob_spending blob world id gone)

theorem openedIn_spends {world : World} {blobs : List Bytes} {id : String}
    (opened : id ∈ openedIn suite environment account world blobs) :
    oneTimePrivate (handleAll suite environment account world blobs) id = none := by
  induction blobs generalizing world with
  | nil => cases opened
  | cons blob blobs induction =>
      rcases List.mem_append.mp opened with now | later
      · have spent := (openedWith_spends (Option.mem_toList.mp now)).2
        exact handleAll_spending blobs _ id spent
      · exact induction later

/-- In every run each one-time prekey opens at most one session, and its private
half is in no later state. -/
theorem one_time_prekeys_open_one_session (world : World) (blobs : List Bytes) :
    (openedIn suite environment account world blobs).Nodup ∧
      ∀ id ∈ openedIn suite environment account world blobs, ∀ later,
        oneTimePrivate (handleAll suite environment account world (blobs ++ later)) id =
          none := by
  constructor
  · induction blobs generalizing world with
    | nil => exact List.nodup_nil
    | cons blob blobs induction =>
        rw [openedIn, List.nodup_append]
        refine ⟨?_, induction _, ?_⟩
        · cases openedWith suite environment account world blob with
          | none => exact List.nodup_nil
          | some id => exact List.nodup_singleton id
        · rintro id now other later rfl
          exact openedIn_holds later (openedWith_spends (Option.mem_toList.mp now)).2
  · intro id opened later
    rw [handleAll, List.foldl_append]
    exact handleAll_spending later _ id (openedIn_spends opened)

end NoKnowledge.Core.Client

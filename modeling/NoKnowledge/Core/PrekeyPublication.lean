import NoKnowledge.Core.PublishedPrekeys
import NoKnowledge.Server.Noticeboard
import NoKnowledge.Server.OneTimePrekeys

/-!
# The publication of prekeys

A new client draws its prekeys and publishes their public halves, and each time it
starts again it publishes the ones that are left.  Whatever else a relay serves in
between, every bundle it hands out is one that the client can answer, and no two
name the same one-time prekey.
-/

namespace NoKnowledge.Core.FirstContact

open Prog NoKnowledge.Core.Client NoKnowledge.Server

theorem digitGroups_digits {digits : List Char}
    (numeric : ∀ character ∈ digits, character.isDigit = true) (filled : digits ≠ []) :
    Json.digitGroups digits = some digits := by
  induction digits with
  | nil => exact (filled rfl).elim
  | cons first rest induction =>
      have isDigit := numeric first List.mem_cons_self
      have later := fun character member => numeric character (List.mem_cons_of_mem _ member)
      cases rest with
      | nil => simp [Json.digitGroups, isDigit]
      | cons second rest =>
          have other : second ≠ '_' := by
            rintro rfl
            exact absurd (later '_' List.mem_cons_self) (by decide)
          rw [Json.digitGroups, if_pos isDigit, induction later (List.cons_ne_nil _ _)]
          · rfl
          · exact List.cons_ne_nil _ _
          · exact fun rest same => other (List.cons.inj same).1

theorem isBlank_digit {character : Char} (digit : character.isDigit = true) :
    Json.isBlank character = false := by
  have bounds : 48 ≤ character.toNat ∧ character.toNat ≤ 57 := by
    simpa [Char.isDigit, UInt32.le_iff_toNat_le] using digit
  have space : character ≠ ' ' := by
    rintro rfl
    exact absurd bounds.1 (by decide)
  simp [Json.isBlank, space]
  omega

/-- A number is read back from its text. -/
theorem toInt_toText (number : Nat) :
    (Json.str (Json.int number).toText).toInt = .ok (number : Int) := by
  have numeric : ∀ character ∈ Nat.toDigits 10 number, character.isDigit = true :=
    fun character member => Nat.isDigit_of_mem_toDigits (by decide) (by decide) member
  have filled : Nat.toDigits 10 number ≠ [] := Nat.toDigits_ne_nil
  have stripped : Json.strip (Nat.toDigits 10 number) = Nat.toDigits 10 number := by
    have bare := @Base32.strip_between [] (Nat.toDigits 10 number) [] rfl rfl
      fun character member => isBlank_digit (numeric character member)
    simpa using bare
  have shown : (Json.int number).toText.toList = Nat.toDigits 10 number := by
    have written : Json.dumpInt number = Nat.toDigits 10 number := by
      simp [Json.dumpInt]
    rw [← written]
    exact String.toList_ofList
  have read : Json.integerText (Nat.toDigits 10 number) = some (number : Int) := by
    unfold Json.integerText
    rw [stripped]
    split
    · rename_i digits written
      exact absurd (numeric '-' (written ▸ List.mem_cons_self)) (by decide)
    · rename_i digits written
      exact absurd (numeric '+' (written ▸ List.mem_cons_self)) (by decide)
    · rw [digitGroups_digits numeric filled, Option.map_some, Nat.ofDigitChars_ten_toDigits]
  have converted : (Json.str (Json.int number).toText).toInt? = some (number : Int) := by
    rw [Json.toInt?, shown, read]
  rw [Json.toInt, converted]

section Publishing

section Client

variable (suite : Suite) (environment : Environment) (account : Account)

def generateKeypair : ClientProg (Bytes × Bytes) := do
  let private_ ← urandom environment 32
  return (private_, suite.dhPublic private_)

/-- A signed prekey and one-time prekeys with the numbers from one on. -/
def generatePrekeys (count : Nat) : ClientProg Prekeys := do
  let (spkPrivate, spkPublic) ← generateKeypair suite environment
  let opks ← (List.range' 1 count).foldlM (fun opks index => do
    let halves ← generateKeypair suite environment
    return opks.insert (Json.int (index : Nat)).toText halves) Dict.empty
  return { spkId := 1, spkPrivate, spkPublic, opks, nextOpkId := count + 1 }

/-- The numbers and the public halves of the one-time prekeys. -/
def publicOpks (prekeys : Prekeys) : Except Raised (List (Int × Bytes)) :=
  prekeys.opks.entries.mapM fun entry => do return (← (Json.str entry.1).toInt, entry.2.2)

/-- What `_publish_bundle` hands to the relays. -/
def publishedBytes (prekeys : Prekeys) : Except Raised Bytes := do
  let bundleId ← (Json.str account.bundleId).toBytes
  let opks ← publicOpks prekeys
  let bundle ← PrekeyBundle.make suite account.identity bundleId prekeys.spkId
    prekeys.spkPublic opks
  return canonicalJson bundle.toPublicDict

end Client

/-- One-time prekeys that a client has drawn and numbered. -/
def Numbered (suite : Suite) (Private : Bytes → Prop) (opks : Dict String (Bytes × Bytes)) :
    Prop :=
  ∀ key halves, opks.get? key = some halves →
    (∃ number : Nat, key = (Json.int number).toText) ∧
      halves.2 = suite.dhPublic halves.1 ∧ halves.1 ≠ [] ∧ Private halves.1

structure Drawn (suite : Suite) (Private : Bytes → Prop) (prekeys : Prekeys) : Prop where
  spk : prekeys.spkPublic = suite.dhPublic prekeys.spkPrivate
  spkDrawn : Private prekeys.spkPrivate
  opks : Numbered suite Private prekeys.opks

variable {suite : Suite} {environment : Environment} {account : Account}
  {Private : Bytes → Prop} {prekeys left : Prekeys}

theorem generatePrekeys_drawn (drawn : ∀ tick, Private (drawnAt environment 32 tick))
    {count : Nat} {world after : World}
    (generated : (generatePrekeys suite environment count).run world = (.ok prekeys, after)) :
    Drawn suite Private prekeys := by
  have keypair : ∀ {halves : Bytes × Bytes} {before later : World},
      (generateKeypair suite environment).run before = (.ok halves, later) →
        halves.2 = suite.dhPublic halves.1 ∧ halves.1 ≠ [] ∧ Private halves.1 := by
    intro halves before later returned
    cases returned
    exact ⟨rfl, List.map_eq_nil_iff.not.mpr (by decide), drawn before.tick⟩
  obtain ⟨⟨spkPrivate, spkPublic⟩, middle, signed, rest⟩ := bind_returns generated
  obtain ⟨same, -, spkDrawn⟩ := keypair signed
  obtain ⟨opks, last, numbered, packed⟩ := bind_returns rest
  cases packed
  have all : Numbered suite Private opks := by
    refine foldlM_returned ?_ ?_ numbered
    · intro opks index before next later held stepped key halves found
      obtain ⟨fresh, _, paired, inserted⟩ := bind_returns stepped
      cases inserted
      rw [Dict.get?_insert] at found
      split at found
      · rename_i isKey
        cases found
        exact ⟨⟨index, isKey⟩, keypair paired⟩
      · exact held key halves found
    · intro key halves found
      cases found
  exact ⟨same, spkDrawn, all⟩

/-- Prekeys that are left of others. -/
structure Left (prekeys left : Prekeys) : Prop where
  spkId : left.spkId = prekeys.spkId
  spkPublic : left.spkPublic = prekeys.spkPublic
  opks : ∀ key halves, left.opks.get? key = some halves → prekeys.opks.get? key = some halves

theorem left_spent (opkId : Json) : Left prekeys (spent prekeys opkId) := by
  unfold spent
  split
  · exact ⟨rfl, rfl, fun _ _ => id⟩
  · refine ⟨rfl, rfl, fun key halves found => ?_⟩
    rw [Dict.get?_erase] at found
    split at found
    · cases found
    · exact found

theorem left_spentAll (opkIds : List Json) : Left prekeys (spentAll prekeys opkIds) := by
  induction opkIds generalizing prekeys with
  | nil => exact ⟨rfl, rfl, fun _ _ => id⟩
  | cons opkId opkIds induction =>
      have first := @left_spent prekeys opkId
      have rest := @induction (spent prekeys opkId)
      exact ⟨rest.spkId.trans first.spkId, rest.spkPublic.trans first.spkPublic,
        fun key halves found => first.opks key halves (rest.opks key halves found)⟩

/-- A one-time prekey that a document may carry. -/
def Carries (prekeys : Prekeys) (opk : Int × Bytes) : Prop :=
  ∃ halves, prekeys.opks.get? (Json.int opk.1).toText = some halves ∧ opk.2 = halves.2

theorem publicOpks_returns (numbered : Numbered suite Private prekeys.opks)
    (rest : Left prekeys left) {opks : List (Int × Bytes)}
    (read : publicOpks left = .ok opks) : ∀ opk ∈ opks, Carries prekeys opk := by
  intro opk member
  obtain ⟨⟨key, halves⟩, isEntry, made⟩ := mem_of_mapM_eq_ok read member
  have found := rest.opks key halves ((Dict.mem_entries_iff _ _ _).mp isEntry)
  obtain ⟨⟨number, rfl⟩, -⟩ := numbered key halves found
  rw [toInt_toText, except_ok_bind] at made
  cases made
  exact ⟨halves, found, rfl⟩

/-- A bundle of a client under its signature. -/
def signedBundle (suite : Suite) (account : Account) (bundleId : Bytes) (prekeys : Prekeys)
    (message : Bytes) (opks : List (Int × Bytes)) : PrekeyBundle where
  bundleId
  isign := account.identity.edPublic suite
  idh := account.identity.xPublic suite
  spkId := prekeys.spkId
  spk := prekeys.spkPublic
  spkSig := account.identity.sign suite message
  opks

variable {bundleId : Bytes}

theorem publishedBytes_returns (named : account.bundleId = b64e bundleId)
    (numbered : Numbered suite Private prekeys.opks) (rest : Left prekeys left) {bytes : Bytes}
    (published : publishedBytes suite account left = .ok bytes) :
    ∃ message opks,
      PrekeyBundle.spkMessage bundleId prekeys.spkId prekeys.spkPublic = .ok message ∧
      bytes = canonicalJson
        (signedBundle suite account bundleId prekeys message opks).toPublicDict ∧
      ∀ opk ∈ opks, Carries prekeys opk := by
  unfold publishedBytes at published
  rw [named, toBytes_b64e, except_ok_bind] at published
  obtain ⟨opks, read, published⟩ := except_bind_eq_ok.mp published
  obtain ⟨bundle, made, written⟩ := except_bind_eq_ok.mp published
  obtain ⟨_, -, made⟩ := except_bind_eq_ok.mp made
  obtain ⟨_, -, made⟩ := except_bind_eq_ok.mp made
  obtain ⟨message, spelled, made⟩ := except_bind_eq_ok.mp made
  have isBundle := Except.ok.inj made
  have isBytes := Except.ok.inj written
  rw [rest.spkId, rest.spkPublic] at spelled
  refine ⟨message, opks, spelled, ?_, publicOpks_returns numbered rest read⟩
  rw [← isBytes, ← isBundle, signedBundle, rest.spkId, rest.spkPublic]

/-- A one-time prekey as it is published. -/
def opkEntry (opk : Int × Bytes) : Json :=
  .mkObj [("opk_id", .int opk.1), ("opk", .str (b64e opk.2))]

/-- The document is its fields and the one-time prekeys. -/
theorem toPublicDict_eq (bundle : PrekeyBundle) :
    ∃ bare : Json, bare.isObj = true ∧ bare.get? "opks" = none ∧
      ∀ opks, ({ bundle with opks } : PrekeyBundle).toPublicDict =
        bare.setField "opks" (.arr (opks.map opkEntry)) := by
  refine ⟨.mkObj [("v", .int 1), ("bundle_id", .str (b64e bundle.bundleId)),
    ("spk_id", .int bundle.spkId), ("spk", .str (b64e bundle.spk)),
    ("spk_sig", .str (b64e bundle.spkSig))], rfl, ?_, fun opks => ?_⟩
  · simp [Json.get?_mkObj, Dict.lookup_cons_eq_ite]
  · rw [setField_mkObj]
    rfl

theorem canonical_toPublicDict (bundle : PrekeyBundle) : bundle.toPublicDict.Canonical := by
  have opks : (Json.arr (bundle.opks.map opkEntry)).Canonical := by
    refine (Json.canonicalItems_iff _).mpr fun item member => ?_
    obtain ⟨opk, -, rfl⟩ := List.mem_map.mp member
    apply Json.canonical_mkObj
    simp [Json.Canonical]
  change (Json.arr (bundle.opks.map fun opk =>
    Json.mkObj [("opk_id", .int opk.1), ("opk", .str (b64e opk.2))])).Canonical at opks
  apply Json.canonical_mkObj
  simpa [Json.Canonical] using opks

theorem storedFields_eq {fields stored : List (String × Json)}
    (same : ((Json.obj fields).eraseField "opks").setField "opks" (.arr []) = .obj stored) :
    storedFields fields = stored := by
  unfold storedFields
  rw [same]

/-- The document as a relay stores it, and as it hands it out. -/
theorem storedFields_toPublicDict (bundle : PrekeyBundle) :
    ∃ fields, bundle.toPublicDict = .obj fields ∧
      ∀ opks, (Json.obj (storedFields fields)).setField "opks" (.arr (opks.map opkEntry)) =
        ({ bundle with opks } : PrekeyBundle).toPublicDict := by
  obtain ⟨bare, isObj, absent, spelled⟩ := toPublicDict_eq bundle
  have whole := spelled bundle.opks
  cases bare with
  | obj bareFields =>
      refine ⟨_, whole, fun opks => ?_⟩
      have erased := Json.eraseField_setField (.obj bareFields) "opks"
        (.arr (bundle.opks.map opkEntry))
      rw [Padding.eraseField_of_get? absent] at erased
      have stored : storedFields (Json.insertField "opks"
          (.arr (bundle.opks.map opkEntry)) bareFields) =
            Json.insertField "opks" (.arr []) bareFields :=
        storedFields_eq (congrArg (fun bare => bare.setField "opks" (.arr [])) erased)
      have again := setField_setField (.obj bareFields) "opks" (.arr [])
        (.arr (opks.map opkEntry))
      rw [stored, spelled]
      exact again
  | _ => cases isObj

/-- A document, read by a relay. -/
theorem readBundle_toPublicDict {bundle : PrekeyBundle} {request : HttpRequest}
    (body : request.body = canonicalJson bundle.toPublicDict) :
    ∃ fields, bundle.toPublicDict = .obj fields ∧
      readBundle request =
        some (b64e bundle.bundleId, fields, bundle.opks.map opkEntry) := by
  have named : bundle.toPublicDict.get? "bundle_id" = some (.str (b64e bundle.bundleId)) := by
    simp [PrekeyBundle.toPublicDict, Json.get?_mkObj, Dict.lookup_cons_eq_ite]
  have listed : bundle.toPublicDict.get? "opks" = some (.arr (bundle.opks.map opkEntry)) :=
    Json.get?_mkObj "opks" _
  obtain ⟨fields, isObj, -⟩ := storedFields_toPublicDict bundle
  refine ⟨fields, isObj, ?_⟩
  unfold readBundle
  rw [body, loadJson_canonicalJson (canonical_toPublicDict bundle), Option.bind_eq_bind,
    Option.bind_some, Json.item_eq_ok.mpr named, isObj]
  rw [isObj] at listed
  have opks : (((Json.obj fields).getD "opks").orElse (.arr [])).elements.toOption =
      some (bundle.opks.map opkEntry) := by
    rw [Json.getD, listed]
    cases bundle.opks <;> rfl
  dsimp only
  rw [opks]
  rfl

/-- An entry of a document, read by a relay. -/
theorem readOneTime_opkEntry (opk : Int × Bytes) :
    Database.readOneTime (opkEntry opk) =
      (Sql.integer opk.1).map fun number => (number, some (b64e opk.2)) := by
  have id : (opkEntry opk).item "opk_id" = .ok (.int opk.1) :=
    Json.item_eq_ok.mpr (by simp [opkEntry, Json.get?_mkObj, Dict.lookup_cons_eq_ite])
  have key : (opkEntry opk).item "opk" = .ok (.str (b64e opk.2)) :=
    Json.item_eq_ok.mpr (by simp [opkEntry, Json.get?_mkObj])
  have number : (Json.int opk.1).toInt = .ok opk.1 := rfl
  unfold Database.readOneTime
  rw [id, key, except_ok_bind, number, except_ok_bind, except_ok_bind, Sql.text_str]
  cases Sql.integer opk.1 <;> rfl

theorem eq_of_readOneTime {opk : Int × Bytes} {entry : Int × Option String}
    (read : Database.readOneTime (opkEntry opk) = .ok entry) :
    entry = (opk.1, some (b64e opk.2)) := by
  rw [readOneTime_opkEntry] at read
  cases bound : Sql.integer opk.1 with
  | error raised =>
      rw [bound] at read
      cases read
  | ok number =>
      rw [bound] at read
      cases read
      rw [(Sql.integer_eq_ok.mp bound).2]

/-- A request that publishes, if anything under the name of a client, what is left of its
prekeys. -/
def Publishes (suite : Suite) (account : Account) (prekeys : Prekeys) (request : Request) :
    Prop :=
  ∀ payload opks now, request = .publishBundle account.bundleId payload opks now →
    ∃ opkIds bytes posted fields,
      publishedBytes suite account (spentAll prekeys opkIds) = .ok bytes ∧
      posted.body = bytes ∧ readBundle posted = some (account.bundleId, fields, opks) ∧
      payload = storedFields fields

/-- What a relay holds under the name of a client comes from its prekeys. -/
structure Serves (suite : Suite) (account : Account) (bundleId : Bytes) (prekeys : Prekeys)
    (database : Database) : Prop where
  fields : ∀ fields, database.payload? account.bundleId = some fields → ∃ message,
    PrekeyBundle.spkMessage bundleId prekeys.spkId prekeys.spkPublic = .ok message ∧
    ∀ opks, (Json.obj fields).setField "opks" (.arr (opks.map opkEntry)) =
      (signedBundle suite account bundleId prekeys message opks).toPublicDict
  opks : ∀ row ∈ database.oneTime, row.bundleId = account.bundleId →
    ∃ opk, Carries prekeys opk ∧ row.opkId = opk.1 ∧ row.opk = b64e opk.2

theorem publishes_fields (named : account.bundleId = b64e bundleId)
    (numbered : Numbered suite Private prekeys.opks) {payload : List (String × Json)}
    {opks : List Json} {now : Int}
    (ours : Publishes suite account prekeys
      (.publishBundle account.bundleId payload opks now)) :
    ∃ message, PrekeyBundle.spkMessage bundleId prekeys.spkId prekeys.spkPublic = .ok message ∧
      (∀ opks, (Json.obj payload).setField "opks" (.arr (opks.map opkEntry)) =
        (signedBundle suite account bundleId prekeys message opks).toPublicDict) ∧
      ∃ carried : List (Int × Bytes), opks = carried.map opkEntry ∧
        ∀ opk ∈ carried, Carries prekeys opk := by
  obtain ⟨opkIds, bytes, posted, fields, published, body, read, isPayload⟩ :=
    ours payload opks now rfl
  obtain ⟨message, carried, spelled, written, carries⟩ :=
    publishedBytes_returns named numbered (left_spentAll opkIds) published
  rw [written] at body
  obtain ⟨whole, isObj, wasRead⟩ := readBundle_toPublicDict body
  obtain ⟨-, same⟩ := Prod.mk.inj (Option.some.inj (wasRead.symm.trans read))
  obtain ⟨rfl, rfl⟩ := Prod.mk.inj same
  obtain ⟨stored, isStored, handsOut⟩ :=
    storedFields_toPublicDict (signedBundle suite account bundleId prekeys message carried)
  obtain rfl := Json.obj.inj (isObj.symm.trans isStored)
  rw [isPayload]
  exact ⟨message, spelled, handsOut, carried, rfl, carries⟩

section Relay

variable {database : Database} {request : Request}

/-- The only request that changes a document is one that publishes another. -/
theorem payload?_serve (database : Database) (request : Request) (id : String) :
    (database.serve request).payload? id = database.payload? id ∨
      ∃ payload opks now, request = .publishBundle id payload opks now ∧
        (database.serve request).payload? id = some payload := by
  by_cases publishes : ∃ bundleId payload opks now,
      request = .publishBundle bundleId payload opks now
  · obtain ⟨bundleId, payload, opks, now, rfl⟩ := publishes
    have serves : database.serve (.publishBundle bundleId payload opks now) =
        (Database.publishBundle bundleId payload opks now).after database :=
      after_bind_idle (fun _ _ => rfl) database
    rw [serves]
    rcases ran : (Database.publishBundle bundleId payload opks now).run database with
      ⟨result, after⟩
    rw [after_eq ran]
    cases result with
    | error failure =>
        rw [Database.atomic_transaction _ _ _ _ ran]
        exact .inl rfl
    | ok done =>
        rw [Database.publishBundle_payload ran]
        split
        · rename_i same
          exact .inr ⟨payload, opks, now, by rw [same], rfl⟩
        · exact .inl rfl
  · have kept : (database.serve request).bundles = database.bundles := by
      have happened := Database.outcome database request
      generalize database.answer request = answer at happened
      generalize database.serve request = after at happened ⊢
      cases happened with
      | published => exact (publishes ⟨_, _, _, _, rfl⟩).elim
      | cleaned now mailboxTtl blobTtl stale => simp [Database.foldl_without]
      | _ => rfl
    rw [Database.payload?, kept]
    exact .inl rfl

theorem mem_withOneTime {bundleId : String} {entries : List (Int × Option String)}
    {rows : List OneTimeRow} {row : OneTimeRow}
    (member : row ∈ entries.foldl (Database.withOneTime bundleId) rows) :
    row ∈ rows ∨ (row.bundleId = bundleId ∧ (row.opkId, some row.opk) ∈ entries) := by
  induction entries generalizing rows with
  | nil => exact .inl member
  | cons entry entries induction =>
      rcases induction member with old | ⟨owner, later⟩
      · unfold Database.withOneTime at old
        split at old
        · exact .inl old
        · rename_i opk isOpk
          split at old
          · exact .inl old
          · rcases List.mem_append.mp old with known | new
            · exact .inl known
            · obtain rfl := List.mem_singleton.mp new
              exact .inr ⟨rfl, List.mem_cons.mpr (.inl (Prod.ext rfl isOpk.symm))⟩
      · exact .inr ⟨owner, List.mem_cons_of_mem _ later⟩

/-- The only request that brings a one-time prekey is one that publishes it. -/
theorem oneTime_serve (database : Database) (request : Request) {row : OneTimeRow}
    (member : row ∈ (database.serve request).oneTime) :
    (∃ old ∈ database.oneTime,
      old.bundleId = row.bundleId ∧ old.opkId = row.opkId ∧ old.opk = row.opk) ∨
      ∃ payload opks now, request = .publishBundle row.bundleId payload opks now ∧
        ∃ item ∈ opks, Database.readOneTime item = .ok (row.opkId, some row.opk) := by
  have happened := Database.outcome database request
  generalize database.answer request = answer at happened
  generalize database.serve request = after at happened member
  cases happened with
  | @published bundleId payload opks now entries read bundles =>
      rcases mem_withOneTime member with old | ⟨owner, isEntry⟩
      · exact .inl ⟨row, old, rfl, rfl, rfl⟩
      · obtain ⟨item, isItem, made⟩ := mem_of_mapM_eq_ok read isEntry
        exact .inr ⟨payload, opks, now, by rw [owner], item, isItem, made⟩
  | @fetchedOne bundleId payload opk next =>
      obtain ⟨old, isOld, rfl⟩ := List.mem_map.mp member
      refine .inl ⟨old, isOld, ?_⟩
      split <;> exact ⟨rfl, rfl, rfl⟩
  | cleaned now mailboxTtl blobTtl stale stray removed =>
      have kept : row ∈ database.oneTime := by simpa [Database.foldl_without] using member
      exact .inl ⟨row, kept, rfl, rfl, rfl⟩
  | _ => exact .inl ⟨row, member, rfl, rfl, rfl⟩

/-- What a relay serves under the name of a client stays what the client has published. -/
theorem Serves.serve (named : account.bundleId = b64e bundleId)
    (numbered : Numbered suite Private prekeys.opks)
    (serves : Serves suite account bundleId prekeys database)
    (ours : Publishes suite account prekeys request) :
    Serves suite account bundleId prekeys (database.serve request) := by
  constructor
  · intro fields found
    rcases payload?_serve database request account.bundleId with
      kept | ⟨payload, opks, now, rfl, published⟩
    · exact serves.fields fields (kept.symm.trans found)
    · obtain rfl := Option.some.inj (published.symm.trans found)
      obtain ⟨message, spelled, handsOut, -⟩ := publishes_fields named numbered ours
      exact ⟨message, spelled, handsOut⟩
  · intro row member owner
    rcases oneTime_serve database request member with
      ⟨old, isOld, sameOwner, sameId, sameKey⟩ | ⟨payload, opks, now, rfl, item, isItem, read⟩
    · obtain ⟨opk, carried, isId, isKey⟩ := serves.opks old isOld (sameOwner.trans owner)
      exact ⟨opk, carried, sameId.symm.trans isId, sameKey.symm.trans isKey⟩
    · rw [owner] at ours
      obtain ⟨-, -, -, carried, rfl, carries⟩ := publishes_fields named numbered ours
      obtain ⟨opk, isOpk, rfl⟩ := List.mem_map.mp isItem
      have entry := eq_of_readOneTime read
      exact ⟨opk, carries opk isOpk, congrArg Prod.fst entry,
        Option.some.inj (congrArg Prod.snd entry)⟩

end Relay

/-- The document in the answer to a fetch. -/
def document (id : String) (request : Request) (answer : Except Failure Response) :
    List Json :=
  match request, answer with
  | .fetchBundle asked, .ok (.bundle payload) => if asked = id then [payload] else []
  | _, _ => []

/-- The documents that are fetched under a name in the course of a run. -/
def documents (id : String) : Database → List Request → List Json
  | _, [] => []
  | database, request :: requests =>
      document id request (database.answer request) ++
        documents id (database.serve request) requests

/-- A bundle of a client with at most one of its one-time prekeys. -/
def Handed (suite : Suite) (account : Account) (bundleId : Bytes) (prekeys : Prekeys)
    (bundle : PrekeyBundle) : Prop :=
  ∃ message opks, PrekeyBundle.spkMessage bundleId prekeys.spkId prekeys.spkPublic =
      .ok message ∧
    bundle = signedBundle suite account bundleId prekeys message opks ∧
    opks.length ≤ 1 ∧ ∀ opk ∈ opks, Carries prekeys opk

section HandedOut

variable {database : Database} {request : Request} {id : String}

theorem fetchBundle_answer {payload : Json}
    (answered : database.answer (.fetchBundle id) = .ok (.bundle payload)) :
    ∃ fields, database.payload? id = some fields ∧
      payload = (Json.obj fields).setField "opks"
        (.arr ((database.nextOneTime id).toList.map Database.OneTimeRow.published)) := by
  unfold Database.answer at answered
  rcases ran : (Request.fetchBundle id).execute.run database with ⟨result, after⟩
  rw [ran] at answered
  obtain rfl : result = .ok (.bundle payload) := answered
  obtain ⟨_, _, fetched, packed⟩ := Prog.bind_returns ran
  cases packed
  obtain ⟨_, _, got, body⟩ := Prog.bind_returns (Database.transaction_returns fetched)
  cases got
  split at body
  · cases body
  · rename_i row found
    refine ⟨row.payload, by rw [Database.payload?, found]; rfl, ?_⟩
    split at body
    · rename_i exhausted
      cases body
      rw [exhausted]
      rfl
    · rename_i opk next
      cases body
      rw [next]
      rfl

/-- A fetch under the name of a client finds one of its bundles. -/
theorem Serves.answers (serves : Serves suite account bundleId prekeys database)
    {payload : Json}
    (answered : database.answer (.fetchBundle account.bundleId) = .ok (.bundle payload)) :
    ∃ bundle, payload = bundle.toPublicDict ∧
      Handed suite account bundleId prekeys bundle := by
  obtain ⟨fields, found, rfl⟩ := fetchBundle_answer answered
  obtain ⟨message, spelled, handsOut⟩ := serves.fields fields found
  cases next : database.nextOneTime account.bundleId with
  | none =>
      exact ⟨_, handsOut [], message, [], spelled, rfl, Nat.zero_le _, nofun⟩
  | some row =>
      obtain ⟨stored, owner, -⟩ := Database.nextOneTime_eq_some next
      obtain ⟨opk, carried, isId, isKey⟩ := serves.opks row stored owner
      have published : Database.OneTimeRow.published row = opkEntry opk := by
        rw [Database.OneTimeRow.published, isId, isKey]
        rfl
      refine ⟨_, ?_, message, [opk], spelled, rfl, Nat.le_refl _, ?_⟩
      · rw [Option.toList_some, List.map_singleton, published]
        exact handsOut [opk]
      · intro other member
        rw [List.mem_singleton.mp member]
        exact carried

theorem Serves.documents (named : account.bundleId = b64e bundleId)
    (numbered : Numbered suite Private prekeys.opks) {requests : List Request}
    (serves : Serves suite account bundleId prekeys database)
    (ours : ∀ request ∈ requests, Publishes suite account prekeys request) :
    ∃ bundles : List PrekeyBundle,
      documents account.bundleId database requests =
        bundles.map PrekeyBundle.toPublicDict ∧
      ∀ bundle ∈ bundles, Handed suite account bundleId prekeys bundle := by
  induction requests generalizing database with
  | nil => exact ⟨[], rfl, nofun⟩
  | cons request requests induction =>
      obtain ⟨later, isLater, handedLater⟩ :=
        induction (serves.serve named numbered (ours request List.mem_cons_self))
          fun other member => ours other (List.mem_cons_of_mem _ member)
      obtain ⟨now, isNow, handedNow⟩ : ∃ bundles : List PrekeyBundle,
          document account.bundleId request (database.answer request) =
            bundles.map PrekeyBundle.toPublicDict ∧
          ∀ bundle ∈ bundles, Handed suite account bundleId prekeys bundle := by
        unfold document
        split
        · rename_i asked payload answered
          split
          · rename_i same
            rw [same] at answered
            obtain ⟨bundle, rfl, handed⟩ := serves.answers answered
            exact ⟨[bundle], rfl, by simpa using handed⟩
          · exact ⟨[], rfl, nofun⟩
        · exact ⟨[], rfl, nofun⟩
      refine ⟨now ++ later, ?_, fun bundle member => ?_⟩
      · rw [FirstContact.documents, isNow, isLater, List.map_append]
      · exact (List.mem_append.mp member).elim (handedNow bundle) (handedLater bundle)

/-- The one-time prekey in a document. -/
def namesIn (id : String) (payload : Json) : List Database.PrekeyName :=
  Database.handed (.fetchBundle id) (.ok (.bundle payload))

theorem namesIn_toPublicDict (id : String) (bundle : PrekeyBundle) :
    namesIn id bundle.toPublicDict = bundle.opks.map fun opk => (id, opk.1) := by
  have listed : bundle.toPublicDict.get? "opks" = some (.arr (bundle.opks.map opkEntry)) :=
    Json.get?_mkObj "opks" _
  have number : ∀ opk, (opkEntry opk).get? "opk_id" = some (.int opk.1) := by
    simp [opkEntry, Json.get?_mkObj, Dict.lookup_cons_eq_ite]
  unfold namesIn Database.handed
  simp only [listed, List.filterMap_map, Function.comp_def, number]
  exact congrFun List.filterMap_eq_map bundle.opks

theorem names_sublist (id : String) (requests : List Request) (database : Database) :
    ((documents id database requests).flatMap (namesIn id)).Sublist
      (Database.handedOut database requests) := by
  induction requests generalizing database with
  | nil => exact .refl _
  | cons request requests induction =>
      rw [documents, Database.handedOut, List.flatMap_append]
      refine List.Sublist.append ?_ (induction _)
      unfold document
      split
      · rename_i asked payload answered
        split
        · rename_i same
          rw [same] at answered ⊢
          rw [List.flatMap_singleton, answered]
          exact .refl _
        · exact List.nil_sublist _
      · exact List.nil_sublist _

end HandedOut

theorem Handed.offers {bundle : PrekeyBundle} (handed : Handed suite account bundleId prekeys bundle)
    (drawn : Drawn suite Private prekeys) (identityDrawn : Private account.identity.xPrivate) :
    Offers suite Private account prekeys bundle := by
  obtain ⟨message, opks, -, rfl, -, carries⟩ := handed
  refine ⟨rfl, rfl, drawn.spk, ?_, identityDrawn, drawn.spkDrawn⟩
  intro opk first
  obtain ⟨halves, held, same⟩ := carries opk (List.mem_of_mem_head? first)
  obtain ⟨-, isPublic, nonempty, isPrivate⟩ := drawn.opks _ halves held
  exact ⟨halves, held, same.trans isPublic, nonempty, isPrivate⟩

theorem Handed.verified {bundle : PrekeyBundle}
    (handed : Handed suite account bundleId prekeys bundle)
    (drawn : Drawn suite Private prekeys) (verifies : suite.SignaturesVerify)
    (sized : ∀ private_, (suite.dhPublic private_).length = keySize) :
    bundle.verifyBundle suite (account.identity.edPublic suite) = .ok () := by
  obtain ⟨message, opks, spelled, rfl, -, -⟩ := handed
  have spk : prekeys.spkPublic.length = keySize := by
    rw [drawn.spk, sized]
  have idh : (account.identity.xPublic suite).length = keySize := sized _
  have signed : suite.verify (account.identity.edPublic suite)
      (account.identity.sign suite message) message = true := verifies _ _
  simp [PrekeyBundle.verifyBundle, signedBundle, refuse, spk, idh, spelled, signed,
    except_ok_bind]

theorem namedOpk_cases (bundle : PrekeyBundle) :
    namedOpk bundle = .null ∨ ∃ opk ∈ bundle.opks, namedOpk bundle = .int opk.1 := by
  unfold namedOpk
  cases first : bundle.opks.head? with
  | none => exact .inl rfl
  | some opk => exact .inr ⟨opk, List.mem_of_mem_head? first, rfl⟩

/-- Documents without a one-time prekey in common name different ones. -/
theorem apart_of_disjoint {id : String} {first second : PrekeyBundle}
    (disjoint : List.Disjoint (namesIn id first.toPublicDict) (namesIn id second.toPublicDict)) :
    Apart (namedOpk first) (namedOpk second) := by
  intro firstNamed secondNamed sameText
  obtain isNull | ⟨opk, member, named⟩ := namedOpk_cases first
  · exact firstNamed isNull
  obtain isNull | ⟨other, otherMember, otherNamed⟩ := namedOpk_cases second
  · exact secondNamed isNull
  rw [named, otherNamed] at sameText
  have sameNumber : opk.1 = other.1 :=
    Json.dumpInt_injective (String.ofList_injective sameText)
  rw [namesIn_toPublicDict, namesIn_toPublicDict] at disjoint
  refine disjoint (List.mem_map_of_mem member) ?_
  rw [sameNumber]
  exact List.mem_map_of_mem otherMember

/-- A client draws prekeys and publishes them on a relay, and later what is left of them.
Whatever the relay serves in between and to whomever, every document it hands out under the
name of the client is read as a bundle that verifies and that the client can answer, and no
two of them name the same one-time prekey. -/
theorem published_prekeys_answered {count : Nat} {world after : World}
    (generated : (generatePrekeys suite environment count).run world = (.ok prekeys, after))
    (drawn : ∀ tick, Private (drawnAt environment 32 tick))
    (identityDrawn : Private account.identity.xPrivate)
    (verifies : suite.SignaturesVerify)
    (sized : ∀ private_, (suite.dhPublic private_).length = keySize)
    (named : account.bundleId = b64e bundleId) {requests : List Request}
    (ours : ∀ request ∈ requests, Publishes suite account prekeys request) :
    ∃ bundles,
      (documents account.bundleId Database.initial requests).mapM (fun payload =>
        PrekeyBundle.fromPublic payload (account.identity.edPublic suite)
          (account.identity.xPublic suite)) = .ok bundles ∧
      (∀ bundle ∈ bundles,
        bundle.verifyBundle suite (account.identity.edPublic suite) = .ok () ∧
          Offers suite Private account prekeys bundle) ∧
      bundles.Pairwise fun first second => Apart (namedOpk first) (namedOpk second) := by
  have owned := generatePrekeys_drawn drawn generated
  have nothing : Serves suite account bundleId prekeys Database.initial :=
    ⟨nofun, nofun⟩
  obtain ⟨bundles, handedOut, handed⟩ := nothing.documents named owned.opks ours
  refine ⟨bundles, ?_, fun bundle member => ⟨(handed bundle member).verified owned verifies sized,
    (handed bundle member).offers owned identityDrawn⟩, ?_⟩
  · rw [handedOut]
    refine mapM_map_eq_ok fun bundle member => ?_
    obtain ⟨message, opks, -, rfl, -⟩ := handed bundle member
    exact fromPublic_toPublicDict (signedBundle suite account bundleId prekeys message opks)
  · have once : (Database.handedOut Database.initial requests).Nodup :=
      (Database.accounts_initial.serveAll requests).givenDistinct
    have distinct := (names_sublist account.bundleId requests Database.initial).nodup once
    rw [handedOut, List.nodup_flatMap, List.pairwise_map] at distinct
    exact distinct.2.imp apart_of_disjoint

end Publishing

namespace Publication

/-- The symbolic suite with public keys of the usual size. -/
def sizedSuite : Suite :=
  { Symbolic.suite with
    dhPublic := fun private_ => (5 :: private_ ++ List.replicate 32 0).take 32 }

def bundleId : Bytes := List.replicate 16 5

def carol : Account := { Account.specimen with bundleId := b64e bundleId }

theorem length_dhPublic (private_ : Bytes) : (sizedSuite.dhPublic private_).length = keySize := by
  simp [sizedSuite, keySize]

theorem length_of_mapM_eq_ok {ε α β : Type} {body : α → Except ε β} {items : List α}
    {results : List β} (ran : items.mapM body = .ok results) :
    items.length = results.length := by
  induction items generalizing results with
  | nil =>
      cases ran
      rfl
  | cons item items induction =>
      rw [List.mapM_cons] at ran
      obtain ⟨first, -, ran⟩ := except_bind_eq_ok.mp ran
      obtain ⟨rest, later, ran⟩ := except_bind_eq_ok.mp ran
      cases ran
      exact congrArg (· + 1) (induction later)

/-- A relay that has stored the document answers every fetch. -/
theorem length_documents {id : String} {fields : List (String × Json)} (count : Nat)
    {database : Database} (found : database.payload? id = some fields) :
    (documents id database (List.replicate count (.fetchBundle id))).length = count := by
  induction count generalizing database fields with
  | zero => rfl
  | succ count induction =>
      obtain ⟨opks, after, fetched⟩ := Database.fetchBundle_found found
      have answered : database.answer (.fetchBundle id) =
          .ok (.bundle ((Json.obj fields).setField "opks" opks)) :=
        congrArg Prod.fst (run_bind_ok fetched)
      have kept : (database.serve (.fetchBundle id)).payload? id = some fields := by
        rcases payload?_serve database (.fetchBundle id) id with same | ⟨_, _, _, publishes, -⟩
        · exact same.trans found
        · cases publishes
      rw [List.replicate_succ, documents, List.length_append, induction kept, answered, document,
        if_pos rfl, List.length_singleton, Nat.add_comm]

theorem payload?_publish (payload : List (String × Json)) (id : String) (key : Bytes) :
    (Database.initial.serve
      (.publishBundle id payload [opkEntry (1, key)] 0)).payload? id = some payload := by
  have read : Database.readOneTime (opkEntry (1, key)) = .ok (1, some (b64e key)) := by
    rw [readOneTime_opkEntry]
    rfl
  have published : Database.initial.serve (.publishBundle id payload [opkEntry (1, key)] 0) =
      { bundles := [⟨id, payload, 0⟩], oneTime := [⟨0, id, 1, b64e key, false⟩] } := by
    unfold Database.serve Request.execute Database.publishBundle
    simp [Database.storeOneTime, read, List.forM_cons]
    rfl
  rw [published]
  simp [Database.payload?]

/-- The prekeys that are drawn. -/
def key : Bytes := List.replicate 32 1

def prekeys : Prekeys where
  spkId := 1
  spkPrivate := List.replicate 32 0
  spkPublic := sizedSuite.dhPublic (List.replicate 32 0)
  opks := Dict.empty.insert (Json.int 1).toText (key, sizedSuite.dhPublic key)
  nextOpkId := 2

theorem generates : ∃ after, (generatePrekeys sizedSuite Environment.idle 1).run { store := {} } =
    (.ok prekeys, after) := ⟨_, rfl⟩

theorem publicOpks_prekeys : publicOpks prekeys = .ok [(1, sizedSuite.dhPublic key)] := by
  have number := toInt_toText 1
  show [((Json.int (1 : Nat)).toText, (key, sizedSuite.dhPublic key))].mapM _ = _
  rw [List.mapM_cons, number]
  rfl

/-- The message under the signature. -/
def message : Bytes := spkSignInfo ++ bundleId ++ [0, 0, 0, 1] ++ prekeys.spkPublic

def bundle : PrekeyBundle :=
  signedBundle sizedSuite carol bundleId prekeys message [(1, sizedSuite.dhPublic key)]

theorem publishes : publishedBytes sizedSuite carol prekeys =
    .ok (canonicalJson bundle.toPublicDict) := by
  have made : PrekeyBundle.make sizedSuite carol.identity bundleId prekeys.spkId prekeys.spkPublic
      [(1, sizedSuite.dhPublic key)] = .ok bundle := rfl
  unfold publishedBytes
  rw [show carol.bundleId = b64e bundleId from rfl, toBytes_b64e, except_ok_bind,
    publicOpks_prekeys, except_ok_bind, made]
  rfl

end Publication

open Publication in
/-- Carol publishes one prekey, and two senders fetch her bundle. -/
theorem published_prekeys_answered_twice : ∃ requests bundles,
    (documents carol.bundleId Database.initial requests).mapM (fun payload =>
      PrekeyBundle.fromPublic payload (carol.identity.edPublic sizedSuite)
        (carol.identity.xPublic sizedSuite)) = .ok bundles ∧
    bundles.length = 2 ∧
    (∀ bundle ∈ bundles,
      bundle.verifyBundle sizedSuite (carol.identity.edPublic sizedSuite) = .ok () ∧
        Offers sizedSuite (fun key => key.length ≤ 32) carol prekeys bundle) ∧
    bundles.Pairwise fun first second => Apart (namedOpk first) (namedOpk second) := by
  obtain ⟨after, generated⟩ := generates
  have posts : ∀ bytes : Bytes, ∃ posted : HttpRequest, posted.body = bytes :=
    fun bytes => ⟨{ body := bytes }, rfl⟩
  obtain ⟨posted, body⟩ := posts (canonicalJson bundle.toPublicDict)
  obtain ⟨fields, -, read⟩ := readBundle_toPublicDict body
  let publication := Request.publishBundle carol.bundleId (storedFields fields)
    [opkEntry (1, sizedSuite.dhPublic key)] 0
  let requests := publication :: List.replicate 2 (.fetchBundle carol.bundleId)
  have ours : ∀ request ∈ requests, Publishes sizedSuite carol prekeys request := by
    rintro request member payload opks now rfl
    rcases List.mem_cons.mp member with same | other
    · obtain ⟨-, rfl, rfl, rfl⟩ := Request.publishBundle.inj same
      exact ⟨[], _, posted, fields, publishes, body, read, rfl⟩
    · cases List.eq_of_mem_replicate other
  let Private : Bytes → Prop := fun key => key.length ≤ 32
  have drawn : ∀ tick, Private (drawnAt Environment.idle 32 tick) := by
    simp [Private, drawnAt]
  have drawnIdentity : Private carol.identity.xPrivate := by decide
  have verifies : sizedSuite.SignaturesVerify := fun private_ message =>
    beq_self_eq_true (8 :: Symbolic.pair (9 :: private_) message)
  obtain ⟨bundles, handedOut, answered⟩ := published_prekeys_answered generated drawn drawnIdentity
    verifies length_dhPublic (rfl : carol.bundleId = b64e bundleId) ours
  refine ⟨requests, bundles, handedOut, ?_, answered⟩
  have stored := payload?_publish (storedFields fields) carol.bundleId (sizedSuite.dhPublic key)
  rw [← length_of_mapM_eq_ok handedOut, documents, List.length_append, length_documents 2 stored]
  rfl

end NoKnowledge.Core.FirstContact

import NoKnowledge.Core.FailedApprovals
import NoKnowledge.Core.RecordSize
import NoKnowledge.Foundation.JsonWidth
import NoKnowledge.Server.Routes

/-!
# The size of the records of a transfer

A relay refuses blobs above its limit.  A record takes a fixed number of octets
besides its plaintext, the device it comes from and its number.  The piece of a
file that an attachment chunk holds is as large as that limit, and its text in the
item is a third larger: such an item does not fit.
-/

namespace NoKnowledge

/-- What the primitives put out: the tag of a ciphertext, a signature and an
agreement key have their sizes. -/
structure Suite.Sizes (suite : Suite) : Prop where
  tag : ∀ {key nonce plaintext ad ciphertext},
    suite.aeadEncrypt key nonce plaintext ad = some ciphertext →
      ciphertext.length = plaintext.length + 16
  signature : ∀ private_ message, (suite.sign private_ message).length = 64
  publicKey : ∀ private_, (suite.dhPublic private_).length = 32
  digest : ∀ message, (suite.sha256 message).length = 32

namespace Base64

theorem bare_encode (data : Bytes) : ∀ character ∈ encode data, Json.Bare character := by
  have digits : ∀ value, Json.Bare (digit value) := by
    have small : ∀ value, value < 64 → Json.Bare (alphabet.getD value 'A') := by
      decide +kernel
    exact fun value => small _ (Nat.mod_lt _ (by decide))
  induction data using encode.induct with
  | case1 first second third rest induction =>
      intro character member
      simp only [encode, List.mem_cons] at member
      rcases member with rfl | rfl | rfl | rfl | later
      · exact digits _
      · exact digits _
      · exact digits _
      · exact digits _
      · exact induction character later
  | case2 first second =>
      intro character member
      simp only [encode, List.mem_cons, List.not_mem_nil, or_false] at member
      rcases member with rfl | rfl | rfl <;> exact digits _
  | case3 first =>
      intro character member
      simp only [encode, List.mem_cons, List.not_mem_nil, or_false] at member
      rcases member with rfl | rfl <;> exact digits _
  | case4 =>
      intro character member
      cases member

end Base64

theorem width_b64e (data : Bytes) :
    (Json.str (b64e data)).width = 2 + (data.length * 4 + 2) / 3 := by
  have bare := Base64.bare_encode data
  have size := length_utf8_b64e data
  rw [length_utf8, b64e, String.toList_ofList, Json.octets_bare bare] at size
  rw [Json.width_str, b64e, Json.keyWidth_bare bare, size]

namespace Channel

theorem width_hex (data : Bytes) : (Json.str (hex data)).width = 2 + 2 * data.length := by
  have digits : ∀ value, value < 16 → Json.Bare (hexDigits.getD value '0') := by
    decide +kernel
  have bare : ∀ character ∈ data.flatMap (fun byte =>
      [hexDigits.getD (byte.toNat / 16) '0', hexDigits.getD (byte.toNat % 16) '0']),
      Json.Bare character := by
    intro character member
    obtain ⟨byte, -, here⟩ := List.mem_flatMap.mp member
    have bound := byte.toNat_lt
    simp only [List.mem_cons, List.not_mem_nil, or_false] at here
    rcases here with rfl | rfl
    · exact digits _ (by omega)
    · exact digits _ (Nat.mod_lt _ (by decide))
  have size : (data.flatMap fun byte =>
      [hexDigits.getD (byte.toNat / 16) '0', hexDigits.getD (byte.toNat % 16) '0']).length =
        2 * data.length := by
    induction data with
    | nil => rfl
    | cons byte data induction =>
        rw [List.flatMap_cons, List.length_append, induction]
        · simp only [List.length_cons, List.length_nil]
          omega
        · intro character member
          exact bare character (by
            rw [List.flatMap_cons]
            exact List.mem_append_right _ member)
  rw [Json.width_str, hex, Json.keyWidth_bare bare, size]

variable {suite : Suite}

/-- What the additional header fields take. -/
def extraWidth (extra : ExtraFields) : Nat := Json.fieldsWidth extra.fields

/-- The octets of a record, from what it says and the time it is written. -/
def recordWidth (call : SealCall) : Nat :=
  227 + extraWidth call.extra + (Json.str call.senderDeviceId).width +
    (Json.str call.transferId).width + (Json.int call.seq).width +
    (Json.int call.timestamp).width + call.plaintext.length

/-- The fields of a header with its signature are distinct. -/
theorem distinct_header {signature : Json} {call : SealCall}
    (distinct : (call.extra.fields.map Prod.fst).Nodup) :
    ((("sig", signature) :: ([
      ("v", .int 1), ("transfer", .str call.transferId), ("from", .str call.senderDeviceId),
      ("eph", .str (b64e (suite.dhPublic call.ephemeralPrivate))),
      ("ts", .int call.timestamp), ("seq", .int call.seq)] ++
        call.extra.fields)).map Prod.fst).Nodup := by
  have apart : ∀ key ∈ ["sig", "v", "transfer", "from", "eph", "ts", "seq"],
      ∀ other ∈ call.extra.fields.map Prod.fst, key ≠ other := by
    rintro key fixed other member rfl
    obtain ⟨field, here, rfl⟩ := List.mem_map.mp member
    exact call.extra.additional field here
      ((by decide : ["sig", "v", "transfer", "from", "eph", "ts", "seq"] ⊆ headerFields) fixed)
  exact List.nodup_append.mpr ⟨by decide, distinct, apart⟩

theorem length_header (sizes : suite.Sizes) {call : SealCall}
    (distinct : (call.extra.fields.map Prod.fst).Nodup) :
    (canonicalJson (call.header suite)).length =
      187 + extraWidth call.extra + (Json.str call.senderDeviceId).width +
        (Json.str call.transferId).width + (Json.int call.seq).width +
        (Json.int call.timestamp).width := by
  rw [Json.length_canonicalJson call.canonical_header]
  apply (Json.width_setField _ (distinct_header distinct)).trans
  have keys : Json.keyWidth "sig" = 5 ∧ Json.keyWidth "v" = 3 ∧
      Json.keyWidth "transfer" = 10 ∧ Json.keyWidth "from" = 6 ∧ Json.keyWidth "eph" = 5 ∧
      Json.keyWidth "ts" = 4 ∧ Json.keyWidth "seq" = 5 := by
    decide
  have version : (Json.int 1).width = 1 := by decide
  obtain ⟨sig, v, transfer, sender, eph, ts, seq⟩ := keys
  simp only [List.cons_append, List.nil_append, Json.fieldsWidth_cons, sig, v, transfer,
    sender, eph, ts, seq, version, width_b64e, sizes.signature, sizes.publicKey, extraWidth]
  omega

/-- What a record takes, from what it says and the time it is written. -/
theorem length_sealRecord (sizes : suite.Sizes) {call : SealCall} {blob : Bytes}
    (sealed : sealRecord suite call = .ok blob) (size : call.nonce.length = 12)
    (distinct : (call.extra.fields.map Prod.fst).Nodup) :
    blob.length = recordWidth call := by
  simp only [sealRecord, except_bind_eq_ok] at sealed
  obtain ⟨shared, -, itemKey, -, sealed⟩ := sealed
  split at sealed
  · cases sealed
  · rename_i ciphertext encrypted
    simp only [frame, except_bind_eq_ok] at sealed
    obtain ⟨-, -, octets, sized, framed⟩ := sealed
    have four : octets.length = 4 := (fourBytes_eq_ok sized).1
    cases framed
    have header := length_header sizes distinct
    have tagged := sizes.tag encrypted
    simp only [List.length_append, List.length_cons, List.length_nil, four, header, tagged,
      size, recordWidth, magic, show (utf8 "NKS1").length = 4 from by decide]
    omega

end Channel

namespace Core.TransferSize

open Prog Sync HistoryGate History TransferStream

variable {suite : Suite} {environment : Environment} {account : Account}

/-- The largest blob that a relay with default settings takes. -/
def maxBlobBytes : Nat := ({} : Server.Settings).maxBlobBytes

/-- The sealed record is small enough for such a relay. -/
def Fits (suite : Suite) (record : SentRecord) : Prop :=
  ∀ blob, Channel.sealRecord suite record.call = .ok blob → blob.length ≤ maxBlobBytes

variable (suite environment account) in
/-- A record as the account seals it. -/
structure Sealed (record : SentRecord) : Prop where
  sealable : ∃ blob, Channel.sealRecord suite record.call = .ok blob
  made : Made account record
  dated : ∃ tick, record.call.timestamp = environment.clock tick / 1000

variable (account) in
/-- What a record of a shape takes, at a time of some digits. -/
def shapeWidth (digits : Nat) (shape : RecordShape) : Nat :=
  227 + Channel.extraWidth shape.extra + (Json.str account.deviceId).width +
    (Json.str shape.transferId).width + (Json.int shape.seq).width + digits +
    shape.plaintext.length

theorem Sealed.fits_iff (sizes : suite.Sizes) {digits : Nat}
    (dated : ∀ tick, (Json.int (environment.clock tick / 1000)).width = digits)
    {record : SentRecord} (written : Sealed suite environment account record)
    (distinct : (record.call.extra.fields.map Prod.fst).Nodup) :
    Fits suite record ↔ shapeWidth account digits record.shape ≤ maxBlobBytes := by
  obtain ⟨blob, sealed⟩ := written.sealable
  obtain ⟨tick, time⟩ := written.dated
  have size := Channel.length_sealRecord sizes sealed written.made.nonce distinct
  have same : Channel.recordWidth record.call = shapeWidth account digits record.shape := by
    rw [Channel.recordWidth, written.made.sender, time, dated]
    rfl
  rw [same] at size
  constructor
  · intro fits
    rw [← size]
    exact fits blob sealed
  · intro bound other sealedAs
    cases sealed.symm.trans sealedAs
    rwa [size]

/-- The records of a whole transfer. -/
def transferShapes (transfer : String) (contents : List Bytes) (skipped : Nat)
    (since until_ budget : Int) (digest : Bytes) : List RecordShape :=
  offerShape transfer contents.length skipped since until_ budget ::
    (numbered contents).map (itemShape transfer) ++
    [completeShape transfer contents.length digest]

variable {transfer : String} {contents : List Bytes} {skipped : Nat}
  {since until_ budget : Int} {device : DeviceEntry}

theorem distinct_transferShapes {digest : Bytes} :
    ∀ shape ∈ transferShapes transfer contents skipped since until_ budget digest,
      (shape.extra.fields.map Prod.fst).Nodup := by
  intro shape member
  rcases List.mem_append.mp member with first | last
  · rcases List.mem_cons.mp first with rfl | items
    · exact List.nodup_singleton _
    · obtain ⟨entry, -, rfl⟩ := List.mem_map.mp items
      exact List.nodup_nil
  · rw [List.mem_singleton.mp last]
    exact (by decide : ["count", "chain"].Nodup)

variable {permitted : SentRecord → Prop}

theorem writeRecord_logs {kind : Nat} {plaintext : Bytes} {seq : Int}
    {extra : Channel.ExtraFields}
    (allowed : ∀ record, Sealed suite environment account record →
      record.shape = ⟨kind, plaintext, transfer, seq, extra⟩ → permitted record) :
    Keeps (logging permitted)
      (writeRecord suite environment account device kind plaintext transfer seq extra) := by
  intro world
  have stopped : ∀ final, (logging permitted).rel world final →
      (logging permitted).rel world final := fun _ passed => passed
  apply reaches_bind ((logging permitted).refl world) quiet_logging.ensureDeviceKeys stopped
  intro keys keyed _ passed
  apply reaches_bind passed (quiet_logging.fetchDeviceKeys device) stopped
  intro found fetched _ passed
  split
  · exact passed
  apply reaches_bind passed (quiet_logging.urandom 32) stopped
  intro ephemeralPrivate drawn _ passed
  apply reaches_bind passed (quiet_logging.urandom 12) stopped
  intro nonce second nonceRan passed
  apply reaches_bind passed quiet_logging.nowMs stopped
  intro timestamp dated datedRan passed
  apply reaches_bind passed (keeps_lift _) stopped
  intro blob middle sealedRan passed
  obtain ⟨sealed, -⟩ := lift_returns sealedRan
  apply reaches_bind passed (keeps_lift _) stopped
  intro urls addressed _ passed
  apply reaches_bind passed (keeps_lift _) stopped
  intro capability opened _ passed
  have size : nonce.length = 12 := by
    cases nonceRan
    simp
  have time : ∃ tick, timestamp = environment.clock tick / 1000 := by
    cases datedRan
    exact ⟨_, rfl⟩
  have recorded := @logging_record permitted opened _
    (allowed ⟨device.deviceId, _⟩ ⟨⟨blob, sealed⟩, ⟨rfl, size⟩, time⟩ rfl)
  exact (logging permitted).trans passed ((logging permitted).trans recorded
    (quiet_logging.putBlobOn urls capability blob _))

/-- A digest of a transfer has the size of a hash. -/
theorem length_digest (sizes : suite.Sizes) {world final : World} {digest : Bytes}
    {entries : List (Bytes × Nat)}
    (ran : (entries.foldlM (sendItem suite environment account device transfer)
      (Channel.chainStart suite transfer)).run world = (.ok digest, final)) :
    digest.length = 32 := by
  refine @foldlM_returned World Raised _ _ _ (fun digest : Bytes => digest.length = 32)
    ?_ _ _ _ _ _ (sizes.digest _) ran
  intro chain entry state next later _ stepped
  obtain ⟨_, middle, -, added⟩ := bind_returns stepped
  obtain ⟨extended, -⟩ := lift_returns added
  obtain ⟨-, hashed⟩ := @Channel.chainAdd_eq_ok suite chain next
    (entry.1, ((entry.2 + 1 : Nat) : Int)) |>.mp extended
  rw [← hashed]
  exact sizes.digest _

/-- What a transfer writes, when every record of it may be written. -/
theorem sendHistory_logs (sizes : suite.Sizes) {world : World}
    (built : buildItems world.store (account.identity.identityId suite) since until_ budget =
      .ok (contents, skipped))
    (allowed : ∀ digest : Bytes, digest.length = 32 → ∀ record,
      Sealed suite environment account record →
      record.shape ∈ transferShapes transfer contents skipped since until_ budget digest →
      permitted record) :
    (logging permitted).rel world ((sendHistory suite environment account device since until_
      budget transfer).after world) := by
  have early : ∀ record, Sealed suite environment account record →
      record.shape ∈ offerShape transfer contents.length skipped since until_ budget ::
        (numbered contents).map (itemShape transfer) → permitted record :=
    fun record written member => allowed (List.replicate 32 0) List.length_replicate record
      written (List.mem_append_left _ member)
  unfold sendHistory
  rw [after_bind_ok (run_askStore id world)]
  dsimp only [id]
  rw [built, after_bind_ok (run_lift_ok _ world)]
  dsimp only
  apply keeps_bind_run
  · apply writeRecord_logs
    intro record written same
    exact early record written (same ▸ List.mem_cons_self)
  intro _ offered _
  apply keeps_bind_run
  · refine keeps_foldlM (fun chain entry member => keeps_bind ?_ fun _ => keeps_lift _) _ _
    apply writeRecord_logs
    intro record written same
    apply early record written
    rw [same]
    exact List.mem_cons_of_mem _ (List.mem_map.mpr
      ⟨(entry.1, ((entry.2 + 1 : Nat) : Int)), List.mem_map_of_mem member, rfl⟩)
  intro digest sent streamed
  apply keeps_bind_run
  · apply writeRecord_logs
    intro record written same
    apply allowed digest (length_digest sizes streamed) record written
    rw [same]
    exact List.mem_append_right _ List.mem_cons_self
  · exact fun _ final _ => (logging permitted).refl final

/-- A transfer that is carried through writes all its records. -/
theorem sendHistory_returned (sizes : suite.Sizes) {world final : World}
    {counts : Nat × Nat}
    (returned : (sendHistory suite environment account device since until_ budget
      transfer).run world = (.ok counts, final)) :
    ∃ contents skipped digest,
      buildItems world.store (account.identity.identityId suite) since until_ budget =
        .ok (contents, skipped) ∧ digest.length = 32 ∧
      Posts account (transferShapes transfer contents skipped since until_ budget digest)
        world final := by
  obtain ⟨store, _, asked, building⟩ := bind_returns returned
  cases asked
  obtain ⟨⟨contents, skipped⟩, _, builtRan, offering⟩ := bind_returns building
  obtain ⟨built, rfl⟩ := lift_returns builtRan
  obtain ⟨_, offered, offerRan, streaming⟩ := bind_returns offering
  obtain ⟨digest, streamed, streamRan, completing⟩ := bind_returns streaming
  obtain ⟨_, completed, completeRan, ended⟩ := bind_returns completing
  cases ended
  have items := @sendItems_stretch suite environment account device transfer
    contents.zipIdx [] _ rfl offered
  rw [streamRan] at items
  cases items with
  | returned posts reached =>
      exact ⟨contents, skipped, digest, built, length_digest sizes streamRan,
        ((writeRecord_returned offerRan).trans posts).trans (writeRecord_returned completeRan)⟩

variable (suite account) in
/-- The items of a transfer leave room for the octets around them: the offer, every
item and the completion are at most as large as a relay takes. -/
def Roomy (store : Store) (since until_ budget : Int) (transfer : String)
    (digits : Nat) : Prop :=
  ∀ contents skipped, buildItems store (account.identity.identityId suite) since until_
      budget = .ok (contents, skipped) →
    ∀ digest : Bytes, digest.length = 32 →
      ∀ shape ∈ transferShapes transfer contents skipped since until_ budget digest,
        shapeWidth account digits shape ≤ maxBlobBytes

/-- Every record that was written fits. -/
def AllFit (suite : Suite) : World → World → Prop := (logging (Fits suite)).rel

/-- The completions of two transfers with as many items take the same. -/
theorem shapeWidth_complete {digits count : Nat} {digest other : Bytes}
    (same : digest.length = other.length) :
    shapeWidth account digits (completeShape transfer count digest) =
      shapeWidth account digits (completeShape transfer count other) := by
  have plaintext : ∀ data : Bytes, (canonicalJson (.mkObj [("count", .int count),
      ("chain", .str (Channel.hex data))])).length =
        1 + Json.fieldsWidth [("count", .int count), ("chain", .str (Channel.hex data))] := by
    intro data
    rw [Json.length_canonicalJson (Json.canonical_mkObj (by simp [Json.Canonical]))]
    exact Json.width_mkObj (by simp) (by decide : ["count", "chain"].Nodup)
  unfold shapeWidth completeShape
  simp only [plaintext, Channel.extraWidth, completeFields, Json.fieldsWidth_cons,
    Channel.width_hex, same]

theorem sendHistory_fits (sizes : suite.Sizes) {digits : Nat}
    (dated : ∀ tick, (Json.int (environment.clock tick / 1000)).width = digits)
    {world : World}
    (roomy : Roomy suite account world.store since until_ budget transfer digits) :
    AllFit suite world ((sendHistory suite environment account device since until_ budget
      transfer).after world) := by
  rcases built : buildItems world.store (account.identity.identityId suite) since until_
    budget with raised | ⟨contents, skipped⟩
  · unfold sendHistory
    rw [after_bind_ok (run_askStore id world)]
    dsimp only [id]
    rw [built, after_bind_error (run_lift_error _ world)]
    exact (logging _).refl world
  · apply sendHistory_logs sizes built
    intro digest size record written member
    have distinct := distinct_transferShapes _ member
    exact (written.fits_iff sizes dated distinct).mpr (roomy _ _ built digest size _ member)

theorem roomy_of_fits (sizes : suite.Sizes) {digits : Nat}
    (dated : ∀ tick, (Json.int (environment.clock tick / 1000)).width = digits)
    {world final : World} {counts : Nat × Nat}
    (returned : (sendHistory suite environment account device since until_ budget
      transfer).run world = (.ok counts, final))
    (fits : AllFit suite world final) :
    Roomy suite account world.store since until_ budget transfer digits := by
  obtain ⟨contents, skipped, digest, built, size, new, records, shaped, -⟩ :=
    sendHistory_returned sizes returned
  have logged := @sendHistory_logs suite environment account transfer contents skipped since
    until_ budget device _ sizes world built (fun _ _ record written _ => written)
  rw [after_eq returned] at logged
  obtain ⟨others, same, written⟩ := logged
  obtain ⟨again, alike, fitting⟩ := fits
  cases List.append_cancel_left (records.symm.trans same)
  cases List.append_cancel_left (records.symm.trans alike)
  have bounded : ∀ shape ∈
      transferShapes transfer contents skipped since until_ budget digest,
      shapeWidth account digits shape ≤ maxBlobBytes := by
    intro shape member
    have distinct := distinct_transferShapes shape member
    rw [← shaped] at member
    obtain ⟨record, here, rfl⟩ := List.mem_map.mp member
    exact ((written record here).fits_iff sizes dated distinct).mp (fitting record here)
  intro contents' skipped' built' digest' size' shape member
  cases built.symm.trans built'
  rcases List.mem_append.mp member with first | last
  · exact bounded shape (List.mem_append_left _ first)
  · rw [List.mem_singleton.mp last, shapeWidth_complete (size'.trans size.symm)]
    exact bounded _ (List.mem_append_right _ List.mem_cons_self)

/-- A transfer stays within the limit of the relays if its items leave room; and one
that is carried through stays within it only then. -/
theorem transfers_fit_relays (sizes : suite.Sizes) {digits : Nat}
    (dated : ∀ tick, (Json.int (environment.clock tick / 1000)).width = digits)
    {world : World} :
    (Roomy suite account world.store since until_ budget transfer digits →
      AllFit suite world ((sendHistory suite environment account device since until_ budget
        transfer).after world)) ∧
    ∀ counts final, (sendHistory suite environment account device since until_ budget
        transfer).run world = (.ok counts, final) →
      (AllFit suite world final ↔
        Roomy suite account world.store since until_ budget transfer digits) := by
  refine ⟨sendHistory_fits sizes dated, fun counts final returned => ?_⟩
  constructor
  · exact roomy_of_fits sizes dated returned
  · intro roomy
    have fits := @sendHistory_fits suite environment account transfer since until_ budget
      device sizes digits dated world roomy
    rwa [after_eq returned] at fits

/-- The octets of the item of a chunk. -/
theorem length_chunkPayload (chunkId : String) (ciphertext : Bytes) :
    (itemPayload "chunk" (.mkObj [("id", .str chunkId), ("ct", .str (b64e ciphertext))])).length
      = 30 + (Json.str chunkId).width + (ciphertext.length * 4 + 2) / 3 := by
  have sorted : Json.mkObj [("id", .str chunkId), ("ct", .str (b64e ciphertext))] =
      .obj [("ct", .str (b64e ciphertext)), ("id", .str chunkId)] := by
    have order : "ct" < "id" := by decide
    simp [Json.mkObj, Json.sortFields, Json.insertField, order]
  have distinct : ([("kind", .str "chunk"), ("ct", .str (b64e ciphertext)),
      ("id", .str chunkId)] : List (String × Json)).map Prod.fst |>.Nodup :=
    (by decide : ["kind", "ct", "id"].Nodup)
  have keys : Json.keyWidth "kind" = 6 ∧ Json.keyWidth "ct" = 4 ∧ Json.keyWidth "id" = 4 ∧
      Json.keyWidth "chunk" = 7 := by
    decide
  obtain ⟨kind, ct, id, chunk⟩ := keys
  rw [sorted]
  show (canonicalJson (.mkObj [("kind", .str "chunk"), ("ct", .str (b64e ciphertext)),
    ("id", .str chunkId)])).length = _
  rw [Json.length_canonicalJson (Json.canonical_mkObj (by simp [Json.Canonical])),
    Json.width_mkObj (by simp) distinct]
  simp only [Json.fieldsWidth_cons, Json.fieldsWidth_nil, kind, ct, id, width_b64e,
    Json.width_str "chunk", chunk]
  omega

/-- An item of a transfer that fits is smaller than the limit. -/
theorem Roomy.bounded {digits : Nat} {store : Store} {content : Bytes}
    (roomy : Roomy suite account store since until_ budget transfer digits)
    (built : buildItems store (account.identity.identityId suite) since until_ budget =
      .ok (contents, skipped))
    (carried : content ∈ contents) : 227 + content.length ≤ maxBlobBytes := by
  obtain ⟨place, here⟩ := List.mem_iff_getElem?.mp carried
  have listed : (content, place) ∈ contents.zipIdx :=
    List.mk_mem_zipIdx_iff_getElem?.mpr here
  have numberedHere : (content, ((place + 1 : Nat) : Int)) ∈ numbered contents :=
    List.mem_map.mpr ⟨_, listed, rfl⟩
  have bounded := roomy contents skipped built (List.replicate 32 0) List.length_replicate
    (itemShape transfer (content, ((place + 1 : Nat) : Int)))
    (List.mem_append_left _ (List.mem_cons_of_mem _ (List.mem_map_of_mem numberedHere)))
  have least : 227 + content.length ≤ shapeWidth account digits
      (itemShape transfer (content, ((place + 1 : Nat) : Int))) := by
    unfold shapeWidth itemShape
    dsimp only
    omega
  exact least.trans bounded

/-- A chunk of three quarters of the limit leaves no room. -/
theorem large_chunks_do_not_fit {digits : Nat} {chunkId : String} {ciphertext : Bytes}
    {store : Store}
    (built : buildItems store (account.identity.identityId suite) since until_ budget =
      .ok (contents, skipped))
    (carried : itemPayload "chunk" (.mkObj [
      ("id", .str chunkId), ("ct", .str (b64e ciphertext))]) ∈ contents)
    (large : 3 * maxBlobBytes ≤ 4 * ciphertext.length) :
    ¬ Roomy suite account store since until_ budget transfer digits := by
  intro roomy
  have bounded := roomy.bounded built carried
  rw [length_chunkPayload] at bounded
  omega

/-- A suite that hides nothing, whose outputs have their sizes. -/
def sized : Suite :=
  { TransferCompletion.plain with
    dhPublic := fun _ => List.replicate 32 0
    sign := fun _ _ => List.replicate 64 0
    aeadEncrypt := fun _ _ plaintext _ => some (plaintext ++ List.replicate 16 0)
    aeadDecrypt := fun _ _ ciphertext _ =>
      some (ciphertext.take (ciphertext.length - 16)) }

theorem sized_sizes : sized.Sizes where
  tag := by
    intro key nonce plaintext ad ciphertext encrypted
    cases encrypted
    rw [List.length_append, List.length_replicate]
  signature := fun _ _ => List.length_replicate
  publicKey := fun _ => List.length_replicate
  digest := TransferCompletion.plain_size

/-- Relays with default settings. -/
def limiting : Environment :=
  { Environment.idle with
    put := fun _ _ _ blob => if maxBlobBytes < blob.length then .failed else .accepted }

theorem limiting_dated (tick : Nat) : (Json.int (limiting.clock tick / 1000)).width = 7 := by
  show (Json.int (1000000000 / 1000)).width = 7
  decide

def pieceEntry : Json :=
  .mkObj [("id", .str "c"), ("nonce", .str (b64e (List.replicate 12 0)))]

/-- A message with a file of one piece. -/
def fileMessage : Message where
  id := "m"
  identityId := (TransferCompletion.accountOf "s").identity.identityId sized
  contactId := "peer"
  direction := "in"
  type := "file"
  body := .mkObj [("caption", .str ""), ("attachment", .mkObj [
    ("key", .str (b64e (List.replicate 32 0))), ("size", .int 262144),
    ("sha256", .str (Channel.hex (List.replicate 32 0))),
    ("chunks", .arr [pieceEntry]),
    ("name", .str "f"), ("mime", .str "application/octet-stream")])]
  remoteId := some "e"
  ts := 1
  state := some "received"

/-- A device that holds the message and the encrypted piece. -/
def holding (ciphertext : Bytes) : World :=
  { TransferCompletion.deviceBeside "r" with
    store := { (TransferCompletion.deviceBeside "r").store with
      contacts := Table.empty
      messages := ⟨[fileMessage], List.nodup_singleton _⟩
      localBlobs := ⟨[⟨"c", ciphertext, 1⟩], List.nodup_singleton _⟩ } }

def messagePayload : Bytes := itemPayload "message" (messageItem "peer" fileMessage)

def chunkPayload (ciphertext : Bytes) : Bytes :=
  itemPayload "chunk" (.mkObj [("id", .str "c"), ("ct", .str (b64e ciphertext))])

theorem holding_items {ciphertext : Bytes} (within : ciphertext.length ≤ defaultBudgetBytes) :
    buildItems (holding ciphertext).store
      ((TransferCompletion.accountOf "s").identity.identityId sized) 0 1000000
      defaultBudgetBytes = .ok ([messagePayload, chunkPayload ciphertext], 0) := by
  have contacts : (holding ciphertext).store.listContacts
      ((TransferCompletion.accountOf "s").identity.identityId sized) = [] := by
    rfl
  have messages : windowItems (holding ciphertext).store
      ((TransferCompletion.accountOf "s").identity.identityId sized) 0 1000000 =
        [messageItem "peer" fileMessage] := by
    rfl
  have entries : chunkEntries (messageItem "peer" fileMessage) = .ok [pieceEntry] := by
    decide +kernel
  have id : pieceEntry.attempt "id" = .ok (.str "c") := by
    decide +kernel
  have held : (holding ciphertext).store.getLocalBlob "c" = some ciphertext := by
    rfl
  have text : (Json.str "c").toText = "c" := by rfl
  have collected : collectItem (holding ciphertext).store defaultBudgetBytes {}
      (messageItem "peer" fileMessage) = .ok ⟨["c"], 0 + ciphertext.length,
        [.mkObj [("id", .str "c"), ("ct", .str (b64e ciphertext))]], []⟩ := by
    unfold collectItem
    rw [entries]
    simp [collectChunk, id, text, held, not_lt.mpr within, bind, Except.bind, pure, Except.pure]
  unfold buildItems buildBundle
  rw [contacts, messages]
  simp only [List.foldlM_cons, List.foldlM_nil, collected]
  rfl

open TransferCompletion (accountOf deviceNamed keysOf deviceBeside)

/-- A record of the sender, written at a tick. -/
def callAt (shape : RecordShape) (tick : Nat) : Channel.SealCall :=
  writtenCall limiting (accountOf "s") (keysOf "r") [5] shape.kind shape.plaintext
    shape.transferId shape.seq shape.extra tick

theorem recordWidth_callAt (shape : RecordShape) (tick : Nat) :
    Channel.recordWidth (callAt shape tick) = shapeWidth (accountOf "s") 7 shape := by
  rw [Channel.recordWidth, shapeWidth, ← limiting_dated (tick + 3)]
  rfl

theorem sealed_callAt {shape : RecordShape} (tick : Nat) (kindByte : shape.kind < 256)
    (numbered : 0 ≤ shape.seq ∧ shape.seq < 2 ^ 32)
    (distinct : (shape.extra.fields.map Prod.fst).Nodup)
    (short : shapeWidth (accountOf "s") 7 shape < 2 ^ 32) :
    ∃ blob, Channel.sealRecord sized (callAt shape tick) = .ok blob ∧
      blob.length = shapeWidth (accountOf "s") 7 shape := by
  have header := @Channel.length_header sized sized_sizes (callAt shape tick) distinct
  have width := recordWidth_callAt shape tick
  unfold Channel.recordWidth at width
  obtain ⟨blob, sealed⟩ := @Channel.sealRecord_succeeds sized (callAt shape tick) kindByte []
    rfl numbered (fun _ _ _ => ⟨_, rfl⟩) (by omega)
  refine ⟨blob, sealed, ?_⟩
  rw [Channel.length_sealRecord sized_sizes sealed (length_drawnAt 12 (tick + 2)) distinct,
    recordWidth_callAt]

/-- The sender when it has written a record, to relays with default settings. -/
theorem run_write {world : World} {shape : RecordShape}
    (own : world.store.getState deviceKeysState =
      (deviceBeside "r").store.getState deviceKeysState)
    (keys : world.siblingKeys = (deviceBeside "r").siblingKeys) (kindByte : shape.kind < 256)
    (numbered : 0 ≤ shape.seq ∧ shape.seq < 2 ^ 32)
    (distinct : (shape.extra.fields.map Prod.fst).Nodup)
    (short : shapeWidth (accountOf "s") 7 shape < 2 ^ 32) :
    ∃ sent, (writeRecord sized limiting (accountOf "s") (deviceNamed "r") shape.kind
      shape.plaintext shape.transferId shape.seq shape.extra).run world =
        (if maxBlobBytes < shapeWidth (accountOf "s") 7 shape then
            .error FailedApprovals.refusal else .ok (),
          world.withRecord ⟨"r", callAt shape world.tick⟩ sent) := by
  obtain ⟨blob, sealed, size⟩ := sealed_callAt world.tick kindByte numbered distinct short
  have cached : world.siblingKeys.get? (deviceNamed "r").deviceId =
      some (keysOf "r", 1000000000) := by
    rw [keys]
    decide
  have answered : putOne limiting ["https://relay"] { mailboxId := "r", writeToken := "w" }
      blob (world.tick + 4) =
        if maxBlobBytes < shapeWidth (accountOf "s") 7 shape then
          .error FailedApprovals.refusal else .ok () := by
    rw [← size]
    unfold putOne limiting FailedApprovals.refusal
    by_cases large : maxBlobBytes < blob.length <;> simp [large]
  refine ⟨⟨["https://relay"], { mailboxId := "r", writeToken := "w" }, blob⟩, ?_⟩
  rw [← answered]
  exact @run_writeRecord sized limiting (accountOf "s") world (deviceNamed "r")
    (keysOf "r") [5] [2] 1000000000 (TransferCompletion.own_keys own) cached
    (Int.lt_trans TransferCompletion.recent (by decide)) _ _ _ _ _ _ sealed ["https://relay"]
    (by decide) _ (by decide +kernel)

def pieceTransfer : String := "AQEBAQEBAQEBAQEBAQEBAQ"

/-- The transfer of the message with its encrypted piece. -/
def sending : ClientProg (Nat × Nat) :=
  sendHistory sized limiting (accountOf "s") (deviceNamed "r") 0 1000000 defaultBudgetBytes
    pieceTransfer

def offerShaped : RecordShape :=
  offerShape pieceTransfer 2 0 0 1000000 defaultBudgetBytes

def messageShaped : RecordShape := itemShape pieceTransfer (messagePayload, 1)

def chunkShaped (ciphertext : Bytes) : RecordShape :=
  itemShape pieceTransfer (chunkPayload ciphertext, 2)

theorem fileMessage_canonical : fileMessage.body.Canonical := by
  have entry : pieceEntry.Canonical := Json.canonical_mkObj (by simp [Json.Canonical])
  have attachment : (Json.mkObj [
      ("key", .str (b64e (List.replicate 32 0))), ("size", .int 262144),
      ("sha256", .str (Channel.hex (List.replicate 32 0))), ("chunks", .arr [pieceEntry]),
      ("name", .str "f"), ("mime", .str "application/octet-stream")]).Canonical :=
    Json.canonical_mkObj (by simp [Json.Canonical, Json.CanonicalItems, entry])
  apply Json.canonical_mkObj
  intro field member
  simp only [List.mem_cons, List.not_mem_nil, or_false] at member
  rcases member with rfl | rfl
  · exact trivial
  · exact attachment

/-- The widths of the fields are summed up; no octets are written. -/
theorem length_messagePayload : messagePayload.length =
    (Json.mkObj (("kind", .str "message") ::
      Json.sortFields (messageFields "peer" fileMessage))).width := by
  refine Json.length_canonicalJson (Json.canonical_mkObj ?_)
  intro field member
  rcases List.mem_cons.mp member with rfl | held
  · exact trivial
  · have listed := Json.mem_sortFields held
    simp only [messageFields, List.mem_cons, List.not_mem_nil, or_false] at listed
    rcases listed with rfl | rfl | rfl | rfl | rfl | rfl | rfl
    · exact trivial
    · exact trivial
    · exact trivial
    · exact fileMessage_canonical
    · exact trivial
    · exact trivial
    · exact trivial

/-- A record with a short payload and short fields of its own fits. -/
theorem small_shape {shape : RecordShape} (transfer : shape.transferId = pieceTransfer)
    (seq : (Json.int shape.seq).width = 1) (extra : Channel.extraWidth shape.extra ≤ 1000)
    (payload : shape.plaintext.length ≤ 1000) :
    shapeWidth (accountOf "s") 7 shape ≤ maxBlobBytes := by
  have fixed : (Json.str (accountOf "s").deviceId).width = 3 ∧
      (Json.str pieceTransfer).width = 24 ∧ maxBlobBytes = 262144 := by
    decide
  obtain ⟨sender, transferId, limit⟩ := fixed
  unfold shapeWidth
  rw [sender, transfer, transferId, seq, limit]
  omega

theorem small_offer : shapeWidth (accountOf "s") 7 offerShaped ≤ maxBlobBytes := by
  have canonical : (Json.mkObj [("count", .int 2), ("skipped", .int 0), ("since", .int 0),
      ("until", .int 1000000), ("budget", .int defaultBudgetBytes)]).Canonical :=
    Json.canonical_mkObj (by simp [Json.Canonical])
  have payload : (Json.mkObj [("count", .int 2), ("skipped", .int 0), ("since", .int 0),
      ("until", .int 1000000), ("budget", .int defaultBudgetBytes)]).width ≤ 1000 := by
    decide
  rw [← Json.length_canonicalJson canonical] at payload
  have extra : Channel.extraWidth (countField 2) ≤ 1000 := by decide
  exact @small_shape offerShaped rfl (by decide : (Json.int 0).width = 1) extra payload

/-- A short item fits. -/
theorem small_item {payload : Bytes} (small : payload.length ≤ 1000) :
    shapeWidth (accountOf "s") 7 (itemShape pieceTransfer (payload, 1)) ≤ maxBlobBytes := by
  have extra : Channel.extraWidth ({} : Channel.ExtraFields) ≤ 1000 := by decide
  exact small_shape rfl (by decide : (Json.int 1).width = 1) extra small

theorem small_message : shapeWidth (accountOf "s") 7 messageShaped ≤ maxBlobBytes := by
  have payload : (Json.mkObj (("kind", .str "message") ::
      Json.sortFields (messageFields "peer" fileMessage))).width ≤ 1000 := by
    decide +kernel
  exact small_item (length_messagePayload.trans_le payload)

theorem small_completion : shapeWidth (accountOf "s") 7
    (completeShape pieceTransfer 2 (List.replicate 32 0)) ≤ maxBlobBytes := by
  have canonical : (Json.mkObj [("count", .int 2),
      ("chain", .str (Channel.hex (List.replicate 32 0)))]).Canonical :=
    Json.canonical_mkObj (by simp [Json.Canonical])
  have payload : (Json.mkObj [("count", .int 2),
      ("chain", .str (Channel.hex (List.replicate 32 0)))]).width ≤ 1000 := by
    decide
  rw [← Json.length_canonicalJson canonical] at payload
  have extra : Channel.extraWidth (completeFields 2 (Channel.hex (List.replicate 32 0))) ≤
      1000 := by
    decide
  exact @small_shape (completeShape pieceTransfer 2 (List.replicate 32 0)) rfl
    (by decide : (Json.int 0).width = 1) extra payload

theorem width_chunkShaped (ciphertext : Bytes) :
    shapeWidth (accountOf "s") 7 (chunkShaped ciphertext) =
      295 + (ciphertext.length * 4 + 2) / 3 := by
  have fixed : Channel.extraWidth ({} : Channel.ExtraFields) = 0 ∧
      (Json.str (accountOf "s").deviceId).width = 3 ∧ (Json.str pieceTransfer).width = 24 ∧
      (Json.int 2).width = 1 ∧ (Json.str "c").width = 3 := by
    decide
  obtain ⟨extra, sender, transfer, seq, id⟩ := fixed
  have payload := length_chunkPayload "c" ciphertext
  rw [id] at payload
  unfold shapeWidth chunkShaped itemShape chunkPayload
  dsimp only
  rw [extra, sender, transfer, seq, payload]
  omega

/-- A small piece leaves room. -/
theorem holding_roomy {ciphertext : Bytes} (small : ciphertext.length ≤ 196000) :
    Roomy sized (accountOf "s") (holding ciphertext).store 0 1000000 defaultBudgetBytes
      pieceTransfer 7 := by
  have budget : defaultBudgetBytes = 104857600 := by rfl
  have limit : maxBlobBytes = 262144 := by rfl
  have items := @holding_items ciphertext (by omega)
  intro contents skipped built digest size shape member
  cases items.symm.trans built
  have listed : shape = offerShape pieceTransfer 2 0 0 1000000 defaultBudgetBytes ∨
      shape = itemShape pieceTransfer (messagePayload, 1) ∨
      shape = itemShape pieceTransfer (chunkPayload ciphertext, 2) ∨
      shape = completeShape pieceTransfer 2 digest := by
    simpa [transferShapes, numbered] using member
  rcases listed with rfl | rfl | rfl | rfl
  · exact small_offer
  · exact small_message
  · apply (le_of_eq (width_chunkShaped ciphertext)).trans
    omega
  · rw [shapeWidth_complete (size.trans List.length_replicate.symm)]
    exact small_completion

theorem transfers_fit_relays_small :
    AllFit sized (holding [1, 2, 3]) (sending.after (holding [1, 2, 3])) :=
  (transfers_fit_relays sized_sizes limiting_dated).1 (holding_roomy (by decide))

/-- A transfer that stops at an item. -/
theorem run_stoppedTransfer {items : List Bytes} {raised : Raised}
    {world offered final : World}
    (built : buildItems world.store (account.identity.identityId suite) since until_ budget =
      .ok (items, skipped))
    (offers : (writeRecord suite environment account device Channel.offer
      (offerShape transfer items.length skipped since until_ budget).plaintext transfer 0
      (countField items.length)).run world = (.ok (), offered))
    (streams : (items.zipIdx.foldlM (sendItem suite environment account device transfer)
      (Channel.chainStart suite transfer)).run offered = (.error raised, final)) :
    (sendHistory suite environment account device since until_ budget transfer).run world =
      (.error raised, final) := by
  unfold offerShape at offers
  unfold sendHistory
  rw [run_bind_ok (run_askStore id world)]
  dsimp only [id]
  rw [run_bind_ok (run_lift_eq built world)]
  dsimp only
  rw [run_bind_ok offers]
  exact run_bind_error streams

attribute [local irreducible] messagePayload chunkPayload

/-- The transfer stops at a piece that is too large. -/
theorem run_sending {ciphertext : Bytes} (within : ciphertext.length ≤ defaultBudgetBytes)
    (large : maxBlobBytes < shapeWidth (accountOf "s") 7 (chunkShaped ciphertext))
    (short : shapeWidth (accountOf "s") 7 (chunkShaped ciphertext) < 2 ^ 32) :
    ∃ final earlier tick, sending.run (holding ciphertext) =
        (.error FailedApprovals.refusal, final) ∧
      final.records = earlier ++ [⟨"r", callAt (chunkShaped ciphertext) tick⟩] := by
  have offerFits := small_offer
  have messageFits := small_message
  have limit : maxBlobBytes < 2 ^ 32 := by decide
  have twoFields : ["count"].Nodup := by decide
  obtain ⟨sentOffer, offers⟩ := @run_write (holding ciphertext) offerShaped rfl rfl (by decide)
    (by decide) twoFields (by omega)
  rw [if_neg (not_lt.mpr offerFits)] at offers
  generalize offeredEq : (holding ciphertext).withRecord _ sentOffer = offered at offers
  obtain ⟨sentMessage, tells⟩ := @run_write offered messageShaped (by rw [← offeredEq]; rfl)
    (by rw [← offeredEq]; rfl) (by decide) (by decide) List.nodup_nil (by omega)
  rw [if_neg (not_lt.mpr messageFits)] at tells
  generalize toldEq : offered.withRecord _ sentMessage = told at tells
  obtain ⟨sentChunk, fails⟩ := @run_write told (chunkShaped ciphertext)
    (by rw [← toldEq, ← offeredEq]; rfl) (by rw [← toldEq, ← offeredEq]; rfl)
    (show Channel.item < 256 by decide)
    (show (0 : Int) ≤ 2 ∧ (2 : Int) < 2 ^ 32 by decide) List.nodup_nil short
  rw [if_pos large] at fails
  refine ⟨told.withRecord ⟨"r", callAt (chunkShaped ciphertext) told.tick⟩ sentChunk,
    told.records, told.tick, ?_, rfl⟩
  have items := holding_items within
  obtain ⟨digest, digested⟩ : ∃ digest, Channel.chainAdd sized
      (Channel.chainStart sized pieceTransfer) messagePayload ((0 + 1 : Nat) : Int) =
        .ok digest := ⟨_, rfl⟩
  have first : (sendItem sized limiting (accountOf "s") (deviceNamed "r") pieceTransfer
      (Channel.chainStart sized pieceTransfer) (messagePayload, 0)).run offered =
        (.ok digest, told) := by
    have written : (writeRecord sized limiting (accountOf "s") (deviceNamed "r") Channel.item
        messagePayload pieceTransfer ((0 + 1 : Nat) : Int) {}).run offered = (.ok (), told) :=
      tells
    unfold sendItem
    rw [run_bind_ok written]
    exact run_lift_eq digested told
  have second : (sendItem sized limiting (accountOf "s") (deviceNamed "r") pieceTransfer
      digest (chunkPayload ciphertext, 1)).run told = (.error FailedApprovals.refusal,
        told.withRecord ⟨"r", callAt (chunkShaped ciphertext) told.tick⟩ sentChunk) := by
    have refused : (writeRecord sized limiting (accountOf "s") (deviceNamed "r") Channel.item
        (chunkPayload ciphertext) pieceTransfer ((1 + 1 : Nat) : Int) {}).run told =
          (.error FailedApprovals.refusal,
            told.withRecord ⟨"r", callAt (chunkShaped ciphertext) told.tick⟩ sentChunk) :=
      fails
    unfold sendItem
    rw [run_bind_error refused]
  have streams : ([messagePayload, chunkPayload ciphertext].zipIdx.foldlM
      (sendItem sized limiting (accountOf "s") (deviceNamed "r") pieceTransfer)
      (Channel.chainStart sized pieceTransfer)).run offered =
        (.error FailedApprovals.refusal,
          told.withRecord ⟨"r", callAt (chunkShaped ciphertext) told.tick⟩ sentChunk) := by
    rw [List.zipIdx_cons, List.foldlM_cons, run_bind_ok first, List.zipIdx_cons,
      List.foldlM_cons]
    exact run_bind_error second
  exact run_stoppedTransfer items offers streams

/-- A file of one full piece, encrypted: the transfer stops, and its record exceeds the
limit of the relays. -/
theorem full_piece_exceeds_limit :
    (sending.run (holding (List.replicate (262144 + 16) 0))).1 =
        .error FailedApprovals.refusal ∧
      ¬ AllFit sized (holding (List.replicate (262144 + 16) 0))
        (sending.after (holding (List.replicate (262144 + 16) 0))) := by
  have width := width_chunkShaped (List.replicate (262144 + 16) 0)
  rw [List.length_replicate] at width
  have limit : maxBlobBytes = 262144 := by rfl
  obtain ⟨final, earlier, tick, ran, records⟩ := @run_sending
    (List.replicate (262144 + 16) 0) (by rw [List.length_replicate]; decide) (by omega)
    (by omega)
  rw [after_eq ran, ran]
  refine ⟨rfl, ?_⟩
  rintro ⟨new, same, fits⟩
  obtain ⟨blob, sealed, size⟩ := @sealed_callAt (chunkShaped (List.replicate (262144 + 16) 0))
    tick (show Channel.item < 256 by decide)
    (show (0 : Int) ≤ 2 ∧ (2 : Int) < 2 ^ 32 by decide) List.nodup_nil
    (by omega)
  have written : (⟨"r", callAt (chunkShaped (List.replicate (262144 + 16) 0)) tick⟩ :
      SentRecord) ∈ new := by
    have nothing : (holding (List.replicate (262144 + 16) 0)).records = [] := by rfl
    rw [records, nothing, List.nil_append] at same
    rw [← same]
    exact List.mem_append_right _ List.mem_cons_self
  have bound := fits _ written blob sealed
  omega

end Core.TransferSize

end NoKnowledge

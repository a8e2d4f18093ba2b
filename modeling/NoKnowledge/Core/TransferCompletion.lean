import NoKnowledge.Core.RecordSize
import NoKnowledge.Core.TransferProgress

/-!
# Transfers that are reported complete

A sibling sends any number of transfers and other records, the relay delivers
what it likes of them, in any order and any number of times, amid whatever else
happens to the receiver.  A completion that reports its transfer complete does
so only after every item of the transfer was merged.
-/

namespace NoKnowledge.Core.TransferCompletion

open Prog Sync HistoryGate TransferStream TransferProgress

variable {suite : Suite} {environment : Environment} {account : Account}

/-- The records of one transfer. -/
def transferRecords (records : List SentRecord) (transfer : String) : List SentRecord :=
  (gatedOf records).filter fun record => record.call.transferId = transfer

theorem transferRecords_append (records new : List SentRecord) (transfer : String) :
    transferRecords (records ++ new) transfer =
      transferRecords records transfer ++ transferRecords new transfer := by
  simp only [transferRecords, gatedOf, List.filter_append]

theorem mem_transferRecords {records : List SentRecord} {transfer : String}
    {record : SentRecord} :
    record ∈ transferRecords records transfer ↔
      record ∈ records ∧ Gated record.call.kind ∧ record.call.transferId = transfer := by
  simp only [transferRecords, gatedOf, List.mem_filter, decide_eq_true_eq]
  exact and_assoc

/-- The history among some records is that of separate transfers. -/
structure Separate (suite : Suite) (account : Account) (records : List SentRecord) :
    Prop where
  streams : ∀ transfer, ∃ contents,
    Streamed suite transfer contents ((transferRecords records transfer).map SentRecord.shape)
  made : ∀ record ∈ records, Gated record.call.kind → Made account record
  drawn : ∀ record ∈ records, Gated record.call.kind →
    Channel.TransferId record.call.transferId

theorem separate_nil : Separate suite account [] where
  streams := fun transfer => ⟨[], streamed_nil transfer⟩
  made := by simp
  drawn := by simp

/-- New records are for transfers that no earlier record belongs to. -/
def Fresh (records new : List SentRecord) : Prop :=
  ∀ record ∈ new, ∀ old ∈ records, record.call.transferId ≠ old.call.transferId

theorem Separate.append {records new : List SentRecord}
    (separate : Separate suite account records) (fresh : Fresh records new)
    {transfer : String} {contents : List Bytes} (drawn : Channel.TransferId transfer)
    (streamed : Streamed suite transfer contents ((gatedOf new).map SentRecord.shape))
    (made : ∀ record ∈ gatedOf new, Made account record) :
    Separate suite account (records ++ new) := by
  have mem_gated : ∀ record, record ∈ gatedOf new ↔ record ∈ new ∧ Gated record.call.kind := by
    intro record
    simp [gatedOf]
  have same : ∀ record ∈ gatedOf new, record.call.transferId = transfer := fun record member =>
    (streamed.shape record.shape (List.mem_map_of_mem member)).2
  refine ⟨fun other => ?_, fun record member gated => ?_, fun record member gated => ?_⟩
  · rw [transferRecords_append]
    by_cases nothing : transferRecords new other = []
    · rw [nothing, List.append_nil]
      exact separate.streams other
    · obtain ⟨record, member⟩ := List.exists_mem_of_ne_nil _ nothing
      obtain ⟨inNew, gated, named⟩ := mem_transferRecords.mp member
      have others : other = transfer :=
        named.symm.trans (same record ((mem_gated record).mpr ⟨inNew, gated⟩))
      subst others
      have before : transferRecords records other = [] := by
        rw [List.eq_nil_iff_forall_not_mem]
        intro old oldMember
        obtain ⟨inRecords, -, oldNamed⟩ := mem_transferRecords.mp oldMember
        exact fresh record inNew old inRecords (named.trans oldNamed.symm)
      have all : transferRecords new other = gatedOf new := by
        apply List.filter_eq_self.mpr
        exact fun record member => decide_eq_true (same record member)
      rw [before, List.nil_append, all]
      exact ⟨contents, streamed⟩
  · rcases List.mem_append.mp member with before | after
    · exact separate.made record before gated
    · exact made record ((mem_gated record).mpr ⟨after, gated⟩)
  · rcases List.mem_append.mp member with before | after
    · exact separate.drawn record before gated
    · rw [same record ((mem_gated record).mpr ⟨after, gated⟩)]
      exact drawn

/-- The items a device has written for a transfer. -/
def written (records : List SentRecord) (transfer : String) : List (Bytes × Int) :=
  (records.filter fun record =>
    record.call.kind = Channel.item && record.call.transferId = transfer).map
      fun record => (record.call.plaintext, record.call.seq)

/-- The items among some shapes. -/
def itemsOf (shapes : List RecordShape) : List (Bytes × Int) :=
  (shapes.filter fun shape => shape.kind = Channel.item).map
    fun shape => (shape.plaintext, shape.seq)

theorem written_eq (records : List SentRecord) (transfer : String) :
    written records transfer =
      itemsOf ((transferRecords records transfer).map SentRecord.shape) := by
  unfold written itemsOf transferRecords gatedOf
  rw [List.filter_map, List.map_map, List.filter_filter, List.filter_filter]
  congr 1
  apply List.filter_congr
  intro record _
  by_cases isItem : record.call.kind = Channel.item
  · simp [SentRecord.shape, isItem, Gated]
  · simp [SentRecord.shape, isItem]

theorem itemsOf_whole {transfer : String} {contents : List Bytes} {skipped : Nat}
    {since until_ budget : Int} {digest : Bytes} :
    itemsOf (offerShape transfer contents.length skipped since until_ budget ::
      (numbered contents).map (itemShape transfer) ++
      [completeShape transfer contents.length digest]) = numbered contents := by
  have items : itemsOf ((numbered contents).map (itemShape transfer)) = numbered contents := by
    have all : ((numbered contents).map (itemShape transfer)).filter
        (fun shape => decide (shape.kind = Channel.item)) =
          (numbered contents).map (itemShape transfer) := by
      apply List.filter_eq_self.mpr
      intro shape member
      obtain ⟨entry, -, rfl⟩ := List.mem_map.mp member
      rfl
    rw [itemsOf, all, List.map_map]
    exact List.map_id _
  unfold itemsOf at items ⊢
  rw [List.filter_append, List.map_append, List.filter_cons_of_neg (by
    exact of_decide_eq_false rfl), items]
  exact List.append_nil _

/-- A completion that was written announces the digest of the items that were. -/
theorem Separate.announced {records : List SentRecord}
    (separate : Separate suite account records) {record : SentRecord}
    (member : record ∈ records) (kind : record.call.kind = Channel.complete) :
    ∃ digest, Channel.chainDigest suite record.call.transferId
        (written records record.call.transferId) = .ok digest ∧
      record.call.plaintext = (completeShape record.call.transferId
        (written records record.call.transferId).length digest).plaintext := by
  obtain ⟨contents, streamed⟩ := separate.streams record.call.transferId
  have inStream : record.shape ∈
      (transferRecords records record.call.transferId).map SentRecord.shape :=
    List.mem_map_of_mem (mem_transferRecords.mpr
      ⟨member, Or.inr (Or.inr kind), rfl⟩)
  rw [written_eq]
  generalize (transferRecords records record.call.transferId).map SentRecord.shape = shapes
    at streamed inStream
  have notFront : ∀ skipped since until_ budget, record.shape ∉
      offerShape record.call.transferId contents.length skipped since until_ budget ::
        (numbered contents).map (itemShape record.call.transferId) := by
    intro skipped since until_ budget inFront
    have isComplete : record.shape.kind = Channel.complete := kind
    rcases List.mem_cons.mp inFront with same | later
    · rw [same] at isComplete
      cases isComplete
    · obtain ⟨entry, -, same⟩ := List.mem_map.mp later
      rw [← same] at isComplete
      cases isComplete
  cases streamed with
  | part front => exact absurd (front.subset inStream) (notFront _ _ _ _)
  | @whole skipped since until_ budget digest reached =>
      rw [itemsOf_whole]
      refine ⟨digest, reached, ?_⟩
      rcases List.mem_append.mp inStream with inFront | last
      · exact absurd inFront (notFront _ _ _ _)
      · have same := congrArg RecordShape.plaintext (List.mem_singleton.mp last)
        rw [show (numbered contents).length = contents.length by simp [numbered]]
        exact same

/-- A ciphertext opens to nothing but what it was made from, whatever key is
tried on it. -/
def Committing (suite : Suite) : Prop :=
  ∀ {key key' nonce plaintext ad ciphertext opened},
    suite.aeadEncrypt key nonce plaintext ad = some ciphertext →
    suite.aeadDecrypt key' nonce ciphertext ad = some opened → opened = plaintext

/-- A record that is delivered as it was sealed opens to what was sealed. -/
theorem openRecord_of_sealed (committing : Committing suite) {call : Channel.SealCall}
    {blob sagreePrivate sdev plaintext : Bytes} {deviceId : String} {kind : Nat}
    {header : Json} (sealed : Channel.sealRecord suite call = .ok blob)
    (size : call.nonce.length = 12)
    (opened : Channel.openRecord suite blob sagreePrivate sdev deviceId =
      .ok (kind, header, plaintext)) :
    kind = call.kind ∧ header = call.header suite ∧ plaintext = call.plaintext ∧
      deviceId = call.senderDeviceId := by
  obtain ⟨sameBlob, sameKind⟩ := Channel.sealRecord_kind sealed
  simp only [Channel.sealRecord, except_bind_eq_ok] at sealed
  obtain ⟨shared, -, key, -, framed⟩ := sealed
  split at framed
  · cases framed
  rename_i ciphertext encrypted
  have parsed := Channel.parseRecord_frame call.canonical_header
    (show (call.header suite).isObj = true from rfl) framed (UInt8.ofNat call.kind)
  rw [sameBlob, sameKind] at parsed
  have sender : (call.header suite).getD "from" = .str call.senderDeviceId := by
    rw [Json.getD, call.header_get?, if_neg (by decide), call.baseHeader_get? (by decide)]
    rfl
  unfold Channel.openRecord at opened
  rw [parsed, except_ok_bind] at opened
  dsimp only at opened
  obtain ⟨_, named, opened⟩ := except_bind_eq_ok.mp opened
  rw [sender, Json.toText_str, refuse_eq_ok] at named
  obtain ⟨⟨signature, ephemeral, transferId, seq⟩, -, opened⟩ := except_bind_eq_ok.mp opened
  obtain ⟨_, -, opened⟩ := except_bind_eq_ok.mp opened
  obtain ⟨_, -, opened⟩ := except_bind_eq_ok.mp opened
  obtain ⟨_, -, opened⟩ := except_bind_eq_ok.mp opened
  obtain ⟨_, -, opened⟩ := except_bind_eq_ok.mp opened
  rw [← size, List.take_left, List.drop_left] at opened
  split at opened
  · cases opened
  rename_i found decrypted
  cases opened
  have sameSender : call.senderDeviceId = deviceId := by simpa using named
  exact ⟨rfl, rfl, committing encrypted decrypted, sameSender.symm⟩

theorem header_transfer (call : Channel.SealCall) :
    (((call.header suite).getD "transfer").orElse (.str "")).toText = call.transferId := by
  have field : (call.header suite).getD "transfer" = .str call.transferId := by
    rw [Json.getD, call.header_get?, if_neg (by decide), call.baseHeader_get? (by decide)]
    rfl
  rw [field, toText_orElse_str]

theorem header_seq (call : Channel.SealCall) :
    integerOr ((call.header suite).getD "seq") 0 = .ok call.seq := by
  have field : (call.header suite).getD "seq" = .int call.seq := by
    rw [Json.getD, call.header_get?, if_neg (by decide), call.baseHeader_get? (by decide)]
    rfl
  rw [field, integerOr_int]

/-- What a record that is dispatched does to the notes, when it fails. -/
theorem dispatch_fails {deviceId transfer : String} {kind : Nat} {header : Json}
    {plaintext : Bytes} {world final : World} {raised : Raised}
    (failed : (dispatch suite environment account deviceId transfer kind header
      plaintext).run world = (.error raised, final)) : noted final = noted world := by
  by_cases transferring : Transferring kind
  · rcases transferring with rfl | rfl | rfl
    · exact handleOffer_fails failed
    · show (keeping noted).rel world final
      exact fails_bind failed (keeps_lift _) fun seq middle _ failed => applyItem_fails failed
    · exact handleComplete_fails failed
  · have same := @dispatch_noted suite environment account kind transferring deviceId
      transfer header plaintext world
    rwa [after_eq failed] at same

/-- A record that is not handled to its end changes no note. -/
theorem handleRecord_fails {blob : Bytes} {world final : World} {raised : Raised}
    (failed : (handleRecord suite environment account blob).run world =
      (.error raised, final)) : noted final = noted world := by
  rw [handleRecord_eq] at failed
  show (keeping noted).rel world final
  exact fails_bind failed (permissive_noted.quiet.openInbound blob)
    fun inbound middle _ failed => dispatch_fails failed

/-- Handling a sealed record to its end is dispatching it. -/
theorem handleRecord_delivered (committing : Committing suite) {call : Channel.SealCall}
    {blob : Bytes} {world final : World} {result : Unit}
    (sealed : Channel.sealRecord suite call = .ok blob) (size : call.nonce.length = 12)
    (returned : (handleRecord suite environment account blob).run world =
      (.ok result, final)) :
    ∃ opened, noted opened = noted world ∧ SameTables world.store opened.store ∧
      (dispatch suite environment account call.senderDeviceId call.transferId call.kind
        (call.header suite) call.plaintext).run opened = (.ok result, final) := by
  rw [handleRecord_eq] at returned
  obtain ⟨⟨deviceId, kind, header, plaintext⟩, opened, opening, dispatched⟩ :=
    bind_returns returned
  have same := (permissive_noted.quiet.openInbound blob).view opening
  have tables : (writing Ungated).rel world
      ((openInbound suite environment account blob).after world) :=
    quiet_writing.openInbound blob world
  rw [after_eq opening] at tables
  obtain ⟨sagreePrivate, sdev, unsealed⟩ := openInbound_returns opening
  obtain ⟨rfl, rfl, rfl, rfl⟩ := openRecord_of_sealed committing sealed size unsealed
  refine ⟨opened, same, tables.1, ?_⟩
  unfold dispatchOpened at dispatched
  dsimp only at dispatched
  rwa [header_transfer] at dispatched

/-- A transfer in progress: where its digest started, and the items since. -/
abbrev Progress := String × List (Bytes × Int)

/-- What a record makes of the transfer in progress. -/
def advance (progress : Progress) (call : Channel.SealCall) : Progress :=
  if call.kind = Channel.offer then (call.transferId, [])
  else if call.kind = Channel.item then
    (if progress.2 = [] then call.transferId else progress.1,
      progress.2 ++ [(call.plaintext, call.seq)])
  else progress

/-- The transfer in progress after the records of a sender. -/
def progressOf (calls : List Channel.SealCall) : Progress := calls.foldl advance ("", [])

variable (suite environment account) in
/-- An item was merged by a run that starts in a world. -/
def MergedFrom (world : World) (plaintext : Bytes) (final : World) : Prop :=
  ∃ item opened merged, loads plaintext = .ok item ∧
    SameTables world.store opened.store ∧
    (mergeItem suite environment account (item.getD "kind") (item.eraseField "kind")).run
      opened = (.ok (), merged) ∧
    SameTables merged.store final.store

/-- What a note about a sender says of the records that were handled. -/
structure Noted (suite : Suite) (world : World) (deviceId : String) (progress : Progress) :
    Prop where
  tabled : Tabled world
  held : Held suite (noteOf world deviceId) progress.1 progress.2

theorem Noted.of_noted {first second : World} {deviceId : String} {progress : Progress}
    (notes : Noted suite first deviceId progress) (same : noted second = noted first) :
    Noted suite second deviceId progress := by
  refine ⟨notes.tabled.of_noted same, ?_⟩
  rw [noteOf_of_noted same]
  exact notes.held

theorem Noted.withNote {world : World} {deviceId : String} {progress : Progress} {note : Json}
    (tabled : Tabled world) (nonempty : note.truthy = true)
    (held : Held suite note progress.1 progress.2) :
    Noted suite (withNote world deviceId note) deviceId progress := by
  refine ⟨tabled.withNote deviceId note, ?_⟩
  rw [noteOf_withNote tabled nonempty]
  exact held

/-- A sealed record that is handled to its end advances the note about its
sender. -/
theorem Noted.delivered (size : ∀ data, (suite.sha256 data).length = 32)
    (committing : Committing suite) {call : Channel.SealCall} {blob : Bytes}
    {world final : World} {result : Unit} {progress : Progress}
    (notes : Noted suite world call.senderDeviceId progress)
    (sealed : Channel.sealRecord suite call = .ok blob) (nonce : call.nonce.length = 12)
    (returned : (handleRecord suite environment account blob).run world =
      (.ok result, final)) :
    Noted suite final call.senderDeviceId (advance progress call) := by
  obtain ⟨opened, same, -, dispatched⟩ :=
    handleRecord_delivered committing sealed nonce returned
  have before := notes.of_noted same
  by_cases isOffer : call.kind = Channel.offer
  · rw [advance, if_pos isOffer]
    rw [isOffer] at dispatched
    obtain ⟨started, note, startedNoted, rfl, nonempty, held, -⟩ :=
      handleOffer_returned before.tabled dispatched
    exact Noted.withNote (before.tabled.of_noted startedNoted) nonempty held
  by_cases isItem : call.kind = Channel.item
  · rw [advance, if_neg isOffer, if_pos isItem]
    rw [isItem] at dispatched
    obtain ⟨seq, middle, seqRan, applied⟩ := bind_returns dispatched
    obtain ⟨seqRead, rfl⟩ := lift_returns seqRan
    rw [header_seq] at seqRead
    cases seqRead
    obtain ⟨item, merged, note, -, mergeRan, rfl, nonempty, held, -⟩ :=
      applyItem_returned size before.held applied
    have mergedNoted := (mergeItem_noted _ _).view mergeRan
    exact Noted.withNote (before.tabled.of_noted mergedNoted) nonempty held
  rw [advance, if_neg isOffer, if_neg isItem]
  by_cases isComplete : call.kind = Channel.complete
  · rw [isComplete] at dispatched
    obtain ⟨announced, expected, note, -, -, rfl, nonempty, held, -⟩ :=
      handleComplete_returned before.held dispatched
    exact Noted.withNote before.tabled nonempty held
  · have untransferring : ¬ Transferring call.kind := by
      rintro (offer | item | complete)
      · exact isOffer offer
      · exact isItem item
      · exact isComplete complete
    have unchanged := @dispatch_noted suite environment account call.kind untransferring
      call.senderDeviceId call.transferId (call.header suite) call.plaintext opened
    rw [after_eq dispatched] at unchanged
    exact before.of_noted unchanged

/-- An item that was handled to its end was merged. -/
theorem merged_of_item (size : ∀ data, (suite.sha256 data).length = 32)
    (committing : Committing suite) {call : Channel.SealCall} {blob : Bytes}
    {world final : World} {result : Unit} {progress : Progress}
    (notes : Noted suite world call.senderDeviceId progress)
    (sealed : Channel.sealRecord suite call = .ok blob) (nonce : call.nonce.length = 12)
    (isItem : call.kind = Channel.item)
    (returned : (handleRecord suite environment account blob).run world =
      (.ok result, final)) :
    MergedFrom suite environment account world call.plaintext final := by
  obtain ⟨opened, same, tables, dispatched⟩ :=
    handleRecord_delivered committing sealed nonce returned
  rw [isItem] at dispatched
  obtain ⟨seq, middle, seqRan, applied⟩ := bind_returns dispatched
  obtain ⟨-, rfl⟩ := lift_returns seqRan
  obtain ⟨item, merged, note, loaded, mergeRan, rfl, -⟩ :=
    applyItem_returned size (notes.of_noted same).held applied
  exact ⟨item, _, merged, loaded, tables, mergeRan, rfl, rfl, rfl⟩

/-- What a completion reports is whether the transfer in progress is the one
it announces. -/
theorem complete_reports (committing : Committing suite) {call : Channel.SealCall} {blob : Bytes}
    {world final : World} {result : Unit} {progress : Progress}
    (notes : Noted suite world call.senderDeviceId progress)
    (sealed : Channel.sealRecord suite call = .ok blob) (nonce : call.nonce.length = 12)
    (isComplete : call.kind = Channel.complete) {count : Nat} {digest : Bytes}
    (announced : call.plaintext = (completeShape call.transferId count digest).plaintext)
    (returned : (handleRecord suite environment account blob).run world =
      (.ok result, final)) :
    (noteOf final call.senderDeviceId).getD "done" = .bool true ∧
      (noteOf final call.senderDeviceId).getD "complete" =
        .bool (decide ((count : Int) ≤ (progress.2.length : Int)) &&
          decide (chainOf (noteOf world call.senderDeviceId) = Channel.hex digest)) := by
  obtain ⟨opened, same, -, dispatched⟩ :=
    handleRecord_delivered committing sealed nonce returned
  have before := notes.of_noted same
  rw [isComplete] at dispatched
  obtain ⟨value, expected, note, loaded, counted, rfl, nonempty, held, done, whole⟩ :=
    handleComplete_returned before.held dispatched
  obtain ⟨value', loaded', counted', chained⟩ :=
    @loads_completeShape call.transferId count digest
  rw [announced] at loaded
  cases loaded.symm.trans loaded'
  cases counted.symm.trans counted'
  rw [noteOf_withNote before.tabled nonempty, ← noteOf_of_noted same, ← chained]
  exact ⟨done, whole⟩

theorem parseRecord_sealed {call : Channel.SealCall} {blob : Bytes}
    (sealed : Channel.sealRecord suite call = .ok blob) :
    ∃ payload, Channel.parseRecord blob = .ok (call.kind, call.header suite, payload) := by
  obtain ⟨sameBlob, sameKind⟩ := Channel.sealRecord_kind sealed
  simp only [Channel.sealRecord, except_bind_eq_ok] at sealed
  obtain ⟨shared, -, key, -, framed⟩ := sealed
  split at framed
  · cases framed
  have parsed := Channel.parseRecord_frame call.canonical_header
    (show (call.header suite).isObj = true from rfl) framed (UInt8.ofNat call.kind)
  rw [sameBlob, sameKind] at parsed
  exact ⟨_, parsed⟩

/-- A sealed record that carries no transfer changes no note. -/
theorem handleRecord_untransferring {call : Channel.SealCall} {blob : Bytes}
    (sealed : Channel.sealRecord suite call = .ok blob)
    (untransferring : ¬ Transferring call.kind) (world : World) :
    noted ((handleRecord suite environment account blob).after world) = noted world := by
  have handled : Handled suite environment account (keeping noted) blob world _ :=
    permissive_noted.quiet.handleRecord blob world
  generalize (handleRecord suite environment account blob).after world = final at handled ⊢
  cases handled with
  | stopped passed => exact passed
  | @opened middle passed plaintext sender kind header returned =>
      obtain ⟨sagreePrivate, sdev, unsealed⟩ := openInbound_returns returned
      obtain ⟨payload, parsed⟩ := (Channel.openRecord_returns unsealed).parsed
      obtain ⟨payload', parsed'⟩ := parseRecord_sealed sealed
      cases parsed.symm.trans parsed'
      exact (dispatch_noted untransferring _ _ _ _ middle).trans passed

/-- A run changes no note, or only the one about a device. -/
def Writes (deviceId : String) (first second : World) : Prop :=
  noted second = noted first ∨
    ∃ merged note, noted merged = noted first ∧
      second = merged.withState incomingState ((notes first).setField deviceId note)

theorem Writes.of_withNote {deviceId : String} {first merged : World} {note : Json}
    (same : noted merged = noted first) : Writes deviceId first (withNote merged deviceId note) :=
  Or.inr ⟨merged, note, same, by rw [withNote, notes_of_noted same]⟩

theorem handleOffer_writes {deviceId transfer : String} {plaintext : Bytes}
    {world final : World} {result : Unit}
    (returned : (handleOffer deviceId transfer plaintext).run world = (.ok result, final)) :
    Writes deviceId world final := by
  obtain ⟨offer, read, loading, looking⟩ := bind_returns returned
  obtain ⟨_, rfl⟩ := lift_returns loading
  obtain ⟨state, _, asked, opening⟩ := bind_returns looking
  cases asked
  obtain ⟨_, started, starting, counting⟩ := bind_returns opening
  have startedNoted := (permissive_noted.startTransfer _ _).view starting
  obtain ⟨expected, _, counted, leaving⟩ := bind_returns counting
  obtain ⟨_, rfl⟩ := lift_returns counted
  obtain ⟨skipped, _, left, setting⟩ := bind_returns leaving
  obtain ⟨_, rfl⟩ := lift_returns left
  rw [run_setIncoming] at setting
  cases setting
  exact Writes.of_withNote startedNoted

theorem applyItem_writes {deviceId transfer : String} {plaintext : Bytes} {seq : Int}
    {world final : World} {result : Unit}
    (returned : (applyItem suite environment account deviceId transfer plaintext seq).run
      world = (.ok result, final)) : Writes deviceId world final := by
  obtain ⟨item, read, loading, looking⟩ := bind_returns returned
  obtain ⟨_, rfl⟩ := lift_returns loading
  obtain ⟨state, _, asked, merging⟩ := bind_returns looking
  cases asked
  obtain ⟨_, merged, mergeRan, extending⟩ := bind_returns merging
  have mergedNoted : noted merged = noted read := (mergeItem_noted _ _).view mergeRan
  obtain ⟨chain, _, chainRan, counting⟩ := bind_returns extending
  obtain ⟨_, rfl⟩ := lift_returns chainRan
  obtain ⟨received, _, receivedRan, expecting⟩ := bind_returns counting
  obtain ⟨_, rfl⟩ := lift_returns receivedRan
  obtain ⟨expected, _, expectedRan, setting⟩ := bind_returns expecting
  obtain ⟨_, rfl⟩ := lift_returns expectedRan
  cases setting
  exact Or.inr ⟨_, _, mergedNoted, rfl⟩

theorem handleComplete_writes {deviceId : String} {plaintext : Bytes}
    {world final : World} {result : Unit}
    (returned : (handleComplete deviceId plaintext).run world = (.ok result, final)) :
    Writes deviceId world final := by
  obtain ⟨announced, read, loading, looking⟩ := bind_returns returned
  obtain ⟨_, rfl⟩ := lift_returns loading
  obtain ⟨state, _, asked, counting⟩ := bind_returns looking
  cases asked
  obtain ⟨expected, _, expectedRan, receiving⟩ := bind_returns counting
  obtain ⟨_, rfl⟩ := lift_returns expectedRan
  obtain ⟨received, last, receivedRan, setting⟩ := bind_returns receiving
  obtain ⟨_, rfl⟩ := lift_returns receivedRan
  rw [run_setIncoming] at setting
  cases setting
  exact Writes.of_withNote rfl

theorem dispatch_writes (deviceId transfer : String) (kind : Nat) (header : Json)
    (plaintext : Bytes) (world : World) :
    Writes deviceId world ((dispatch suite environment account deviceId transfer kind header
      plaintext).after world) := by
  rcases ran : (dispatch suite environment account deviceId transfer kind header
    plaintext).run world with ⟨result, final⟩
  rw [after_eq ran]
  cases result with
  | error raised => exact Or.inl (dispatch_fails ran)
  | ok value =>
      by_cases transferring : Transferring kind
      · rcases transferring with rfl | rfl | rfl
        · exact handleOffer_writes ran
        · obtain ⟨seq, middle, seqRan, applied⟩ := bind_returns ran
          obtain ⟨-, rfl⟩ := lift_returns seqRan
          exact applyItem_writes applied
        · exact handleComplete_writes ran
      · have same := @dispatch_noted suite environment account kind transferring deviceId
          transfer header plaintext world
        rw [after_eq ran] at same
        exact Or.inl same

theorem openRecord_names {blob sagreePrivate sdev plaintext : Bytes} {deviceId : String}
    {kind : Nat} {header : Json}
    (opened : Channel.openRecord suite blob sagreePrivate sdev deviceId =
      .ok (kind, header, plaintext)) :
    ∃ payload, Channel.parseRecord blob = .ok (kind, header, payload) ∧
      (header.getD "from").toText = deviceId := by
  obtain ⟨payload, parsed⟩ := (Channel.openRecord_returns opened).parsed
  refine ⟨payload, parsed, ?_⟩
  unfold Channel.openRecord at opened
  rw [parsed, except_ok_bind] at opened
  obtain ⟨_, named, -⟩ := except_bind_eq_ok.mp opened
  simpa [refuse_eq_ok] using named

/-- A record that names another sender leaves the note about this one alone. -/
theorem Noted.foreign {deviceId : String} {progress : Progress} {world : World}
    (notes : Noted suite world deviceId progress) {blob : Bytes}
    (foreign : ∀ kind header payload, Channel.parseRecord blob = .ok (kind, header, payload) →
      (header.getD "from").toText ≠ deviceId) :
    Noted suite ((handleRecord suite environment account blob).after world) deviceId
      progress := by
  have handled : Handled suite environment account (keeping noted) blob world _ :=
    permissive_noted.quiet.handleRecord blob world
  generalize (handleRecord suite environment account blob).after world = final at handled ⊢
  cases handled with
  | stopped passed => exact notes.of_noted passed
  | @opened middle passed plaintext sender kind header returned =>
      have before := notes.of_noted passed
      have other : deviceId ≠ sender := by
        obtain ⟨sagreePrivate, sdev, unsealed⟩ := openInbound_returns returned
        obtain ⟨payload, parsed, named⟩ := openRecord_names unsealed
        rw [← named]
        exact (foreign kind header payload parsed).symm
      rcases @dispatch_writes suite environment account sender
        ((header.getD "transfer").orElse (.str "")).toText kind header plaintext middle
        with same | ⟨merged, note, same, written⟩
      · exact before.of_noted same
      · rw [← notes_of_noted same] at written
        change _ = TransferProgress.withNote merged sender note at written
        rw [written]
        have tabled := before.tabled.of_noted same
        refine ⟨tabled.withNote sender note, ?_⟩
        rw [noteOf_withNote_other tabled other, noteOf_of_noted same]
        exact before.held

/-! ## Two siblings -/

/-- A record of the sender that the receiver has handled to its end, and the
receiver before and after. -/
structure Handling where
  call : Channel.SealCall
  before : World
  after : World

/-- A device that sends, a device that receives, and what the second has handled
of the first. -/
structure Siblings where
  sender : World
  receiver : World
  handled : List Handling

namespace Siblings

/-- The transfer in progress, by the records that were handled. -/
def progress (siblings : Siblings) : Progress :=
  progressOf (siblings.handled.map Handling.call)

/-- An item with these bytes and this number was merged. -/
def Merged (suite : Suite) (environment : Environment) (account : Account)
    (siblings : Siblings) (entry : Bytes × Int) : Prop :=
  ∃ handling ∈ siblings.handled,
    handling.call.kind = Channel.item ∧
    (handling.call.plaintext, handling.call.seq) = entry ∧
    MergedFrom suite environment account handling.before entry.1 handling.after

end Siblings

section Runs

variable (suite environment account) (senderEnvironment : Environment)
  (senderAccount : Account)

/-- What happens to the two.  The sender may do anything, as long as the transfer
identifiers it draws are new.  The relay hands on records of the sender as they
are; the receiver may also be handed records of others, and do anything else. -/
inductive Step : Siblings → Siblings → Prop
  | send {siblings : Siblings} (step : DeviceStep)
      (fresh : ∀ new, ((step.program suite senderEnvironment senderAccount).after
        siblings.sender).records = siblings.sender.records ++ new →
          Fresh siblings.sender.records new) :
      Step siblings { siblings with
        sender := (step.program suite senderEnvironment senderAccount).after
          siblings.sender }
  | handle {siblings : Siblings} {record : SentRecord} {blob : Bytes} {final : World}
      (sent : record ∈ siblings.sender.records)
      (sealed : Channel.sealRecord suite record.call = .ok blob)
      (returned : (handleRecord suite environment account blob).run siblings.receiver =
        (.ok (), final)) :
      Step siblings { siblings with
        receiver := final
        handled := siblings.handled ++ [⟨record.call, siblings.receiver, final⟩] }
  | fail {siblings : Siblings} {record : SentRecord} {blob : Bytes} {raised : Raised}
      {final : World} (sent : record ∈ siblings.sender.records)
      (sealed : Channel.sealRecord suite record.call = .ok blob)
      (failed : (handleRecord suite environment account blob).run siblings.receiver =
        (.error raised, final)) :
      Step siblings { siblings with receiver := final }
  | foreign {siblings : Siblings} (blob : Bytes)
      (other : ∀ kind header payload,
        Channel.parseRecord blob = .ok (kind, header, payload) →
          (header.getD "from").toText ≠ senderAccount.deviceId) :
      Step siblings { siblings with
        receiver := (handleRecord suite environment account blob).after siblings.receiver }
  | other {siblings : Siblings} (step : DeviceStep)
      (other : ∀ blob, step ≠ .handleRecord blob) :
      Step siblings { siblings with
        receiver := (step.program suite environment account).after siblings.receiver }

/-- Nothing was sent or handled, and the receiver has no note about the sender. -/
structure Initial (siblings : Siblings) : Prop where
  sent : siblings.sender.records = []
  handled : siblings.handled = []
  tabled : Tabled siblings.receiver
  unnoted : (notes siblings.receiver).getD senderAccount.deviceId = .null

inductive Reachable : Siblings → Prop
  | initial {siblings : Siblings} (initial : Initial senderAccount siblings) :
      Reachable siblings
  | step {first second : Siblings} (reached : Reachable first)
      (step : Step suite environment account senderEnvironment senderAccount first second) :
      Reachable second

end Runs

/-- What holds of the two at any time. -/
structure Invariant (suite : Suite) (environment : Environment)
    (account senderAccount : Account) (siblings : Siblings) : Prop where
  separate : Separate suite senderAccount siblings.sender.records
  noted : Noted suite siblings.receiver senderAccount.deviceId siblings.progress
  drawn : siblings.progress.2 ≠ [] → Channel.TransferId siblings.progress.1
  merged : ∀ entry ∈ siblings.progress.2,
    siblings.Merged suite environment account entry

theorem advance_untransferring {progress : Progress} {call : Channel.SealCall}
    (untransferring : ¬ Transferring call.kind) : advance progress call = progress := by
  have notOffer : call.kind ≠ Channel.offer := fun same => untransferring (Or.inl same)
  have notItem : call.kind ≠ Channel.item := fun same =>
    untransferring (Or.inr (Or.inl same))
  rw [advance, if_neg notOffer, if_neg notItem]

theorem Siblings.progress_handle (siblings : Siblings) (receiver : World)
    (handling : Handling) :
    Siblings.progress { siblings with
      receiver, handled := siblings.handled ++ [handling] } =
      advance siblings.progress handling.call := by
  simp [Siblings.progress, progressOf]

theorem Siblings.Merged.later {siblings : Siblings} {entry : Bytes × Int}
    (merged : siblings.Merged suite environment account entry) (receiver : World)
    (handling : Handling) :
    Siblings.Merged suite environment account { siblings with
      receiver, handled := siblings.handled ++ [handling] } entry := by
  obtain ⟨earlier, member, rest⟩ := merged
  exact ⟨earlier, List.mem_append_left _ member, rest⟩

variable {senderEnvironment : Environment} {senderAccount : Account} {siblings : Siblings}

theorem Invariant.initial (initial : Initial senderAccount siblings) :
    Invariant suite environment account senderAccount siblings := by
  have empty : siblings.progress = ("", []) := by
    rw [Siblings.progress, initial.handled]
    rfl
  have note : noteOf siblings.receiver senderAccount.deviceId = .obj [] := by
    rw [noteOf, initial.unnoted]
    rfl
  refine ⟨?_, ⟨initial.tabled, ?_⟩, ?_, ?_⟩
  · rw [initial.sent]
    exact separate_nil
  · rw [note, empty]
    exact ⟨rfl, rfl, Chained.fresh⟩
  · rw [empty]
    exact fun nonempty => absurd rfl nonempty
  · rw [empty]
    exact fun entry member => absurd member List.not_mem_nil

/-- The receiver's notes stay as they are. -/
theorem Invariant.unchanged
    (holds : Invariant suite environment account senderAccount siblings) {receiver : World}
    (noted : Noted suite receiver senderAccount.deviceId siblings.progress) :
    Invariant suite environment account senderAccount { siblings with receiver } :=
  ⟨holds.separate, noted, holds.drawn, holds.merged⟩

/-- A record that carries a transfer is handled. -/
theorem Invariant.handle (size : ∀ data, (suite.sha256 data).length = 32)
    (committing : Committing suite)
    (holds : Invariant suite environment account senderAccount siblings)
    {record : SentRecord} {blob : Bytes} {final : World}
    (sent : record ∈ siblings.sender.records)
    (sealed : Channel.sealRecord suite record.call = .ok blob)
    (returned : (handleRecord suite environment account blob).run siblings.receiver =
      (.ok (), final)) :
    Invariant suite environment account senderAccount { siblings with
      receiver := final
      handled := siblings.handled ++ [⟨record.call, siblings.receiver, final⟩] } := by
  have progressed := siblings.progress_handle final ⟨record.call, siblings.receiver, final⟩
  by_cases transferring : Transferring record.call.kind
  · have made := holds.separate.made record sent transferring
    have before := holds.noted
    rw [← made.sender] at before
    have after := before.delivered size committing sealed made.nonce returned
    refine ⟨holds.separate, ?_, ?_, ?_⟩
    · rw [progressed, ← made.sender]
      exact after
    · rw [progressed]
      intro nonempty
      have drawn := holds.separate.drawn record sent transferring
      unfold advance at nonempty ⊢
      split
      · exact drawn
      · split
        · dsimp only
          split
          · exact drawn
          · exact holds.drawn ‹_›
        · simp only [*, if_false] at nonempty
          exact holds.drawn nonempty
    · rw [progressed]
      intro entry member
      have earlier : ∀ entry ∈ siblings.progress.2, _ := fun entry member =>
        (holds.merged entry member).later final ⟨record.call, siblings.receiver, final⟩
      unfold advance at member
      split at member
      · cases member
      · split at member
        · rename_i isItem
          rcases List.mem_append.mp member with old | new
          · exact earlier entry old
          · rw [List.mem_singleton.mp new]
            exact ⟨_, List.mem_append_right _ (List.mem_singleton_self _), isItem, rfl,
              merged_of_item size committing before sealed made.nonce isItem returned⟩
        · exact earlier entry member
  · have same := @handleRecord_untransferring suite environment account _ _ sealed
      transferring siblings.receiver
    rw [after_eq returned] at same
    have unmoved := @advance_untransferring siblings.progress _ transferring
    refine ⟨holds.separate, ?_, ?_, ?_⟩
    · rw [progressed, unmoved]
      exact holds.noted.of_noted same
    · rw [progressed, unmoved]
      exact holds.drawn
    · rw [progressed, unmoved]
      exact fun entry member => (holds.merged entry member).later _ _

theorem Invariant.step (size : ∀ data, (suite.sha256 data).length = 32)
    (committing : Committing suite) {next : Siblings}
    (holds : Invariant suite environment account senderAccount siblings)
    (step : Step suite environment account senderEnvironment senderAccount siblings next) :
    Invariant suite environment account senderAccount next := by
  cases step with
  | send step fresh =>
      obtain ⟨new, records, transfer, contents, drawn, streamed, made⟩ :=
        @step_wroteStream suite senderEnvironment senderAccount step siblings.sender
      refine ⟨?_, holds.noted, holds.drawn, holds.merged⟩
      have separate := holds.separate.append (fresh new records) drawn streamed made
      rwa [← records] at separate
  | handle sent sealed returned => exact holds.handle size committing sent sealed returned
  | fail sent sealed failed =>
      exact holds.unchanged (holds.noted.of_noted (handleRecord_fails failed))
  | foreign blob other => exact holds.unchanged (holds.noted.foreign other)
  | other step other => exact holds.unchanged (holds.noted.of_noted (step_noted other _))

theorem Reachable.invariant (size : ∀ data, (suite.sha256 data).length = 32)
    (committing : Committing suite)
    (reached : Reachable suite environment account senderEnvironment senderAccount siblings) :
    Invariant suite environment account senderAccount siblings := by
  induction reached with
  | initial initial => exact .initial initial
  | step _ step holds => exact holds.step size committing step

/-- Handling a completion reports its transfer complete only when every item
that was written for the transfer, with the same bytes and the same number, has
been merged. -/
theorem complete_transfers_are_merged (size : ∀ data, (suite.sha256 data).length = 32)
    (committing : Committing suite)
    (reached : Reachable suite environment account senderEnvironment senderAccount siblings)
    {record : SentRecord} (sent : record ∈ siblings.sender.records)
    (isComplete : record.call.kind = Channel.complete)
    (collisionFree : Channel.CollisionFree suite
      (Channel.hashed suite siblings.progress.1 siblings.progress.2 ++
        Channel.hashed suite record.call.transferId
          (written siblings.sender.records record.call.transferId)))
    {blob : Bytes} {final : World} (sealed : Channel.sealRecord suite record.call = .ok blob)
    (returned : (handleRecord suite environment account blob).run siblings.receiver =
      (.ok (), final))
    (complete : (noteOf final senderAccount.deviceId).getD "complete" = .bool true) :
    ∀ item ∈ siblings.sender.records, item.call.kind = Channel.item →
      item.call.transferId = record.call.transferId →
      siblings.Merged suite environment account (item.call.plaintext, item.call.seq) := by
  have holds := reached.invariant size committing
  have gated : Gated record.call.kind := Or.inr (Or.inr isComplete)
  have made := holds.separate.made record sent gated
  obtain ⟨digest, digested, announced⟩ := holds.separate.announced sent isComplete
  have notes := holds.noted
  rw [← made.sender] at notes complete
  obtain ⟨-, whole⟩ := complete_reports committing notes sealed made.nonce isComplete
    announced returned
  rw [complete] at whole
  have reported := (Json.bool.inj whole).symm
  have nonempty : siblings.progress.2 ≠ [] := by
    intro empty
    have chained := notes.held.chain
    obtain ⟨-, sameText⟩ := Bool.and_eq_true_iff.mp reported
    have text := of_decide_eq_true sameText
    rw [text, empty] at chained
    generalize shape : Channel.hex digest = hex at chained
    cases chained with
    | fresh => exact Channel.hex_ne_empty (digest_nonempty size digested) shape
    | reached filled _ => exact filled rfl
  obtain ⟨-, -, same⟩ := (whole_iff size notes.held (holds.drawn nonempty)
    (holds.separate.drawn record sent gated) collisionFree digested).mp reported
  intro item member isItem sameTransfer
  apply holds.merged
  rw [same]
  exact List.mem_map.mpr ⟨item, List.mem_filter.mpr ⟨member, by simp [isItem, sameTransfer]⟩,
    rfl⟩

/-- A suite that hides nothing, with hashes of 32 bytes. -/
def plain : Suite :=
  { Symbolic.suite with
    hkdf := fun _ _ _ _ => []
    sha256 := fun message => (message.reverse ++ List.replicate 32 0).take 32
    dhPublic := fun _ => []
    exchange := fun _ _ => some []
    signingPublic := fun _ => []
    sign := fun _ _ => []
    verify := fun _ _ _ => true
    aeadEncrypt := fun _ _ plaintext _ => some (0 :: plaintext)
    aeadDecrypt := fun _ _ ciphertext _ => some (ciphertext.drop 1) }

theorem plain_size (data : Bytes) : (plain.sha256 data).length = 32 := by
  show ((data.reverse ++ List.replicate 32 0).take 32).length = 32
  simp

theorem plain_committing : Committing plain := by
  intro key key' nonce plaintext ad ciphertext opened encrypted decrypted
  cases encrypted
  cases decrypted
  rfl

def deviceNamed (id : String) : DeviceEntry where
  deviceId := id
  inbox := .mkObj [("id", .str id), ("w", .str "w")]
  relays := [.str "https://relay"]
  bundleId := id

def keysOf (id : String) : DeviceKeys where
  deviceId := id
  sdev := []
  sagree := []
  isign := []
  idh := []

def accountOf (id : String) : Account := { Account.specimen with deviceId := id }

def friend : ContactRow where
  identityId := Account.specimen.identity.identityId plain
  id := "peer"
  nickname := none
  isign := []
  idh := []
  bundleId := none
  inbox := .obj []
  relays := []
  session := none
  verified := false
  createdAt := 1

/-- A device with one sibling and one contact. -/
def deviceBeside (sibling : String) : World where
  store := {
    contacts := ⟨[friend], List.nodup_singleton _⟩
    state := Dict.empty.insert deviceKeysState
      (.mkObj [("sdev", .str (b64e [5])), ("sagree", .str (b64e [2]))]) }
  siblingKeys := Dict.empty.insert sibling (keysOf sibling, 1000000000)
  deviceList := some {
    account := "", devices := [deviceNamed sibling], updated := 0, isign := [], idh := [] }
  deviceListTs := 1000000000

/-- The sender, once it has approved the receiver. -/
def approving : World :=
  (DeviceStep.program plain .idle (accountOf "s") (.approveDevice "r" (some 0) none)).after
    (deviceBeside "r")

def friendTransfer : String := "AQEBAQEBAQEBAQEBAQEBAQ"

def friendFields : List (String × Json) := [
  ("bundle", .null), ("created_at", .int 1), ("id", .str "peer"), ("idh", .str ""),
  ("inbox", .obj []), ("isign", .str ""), ("nickname", .null), ("relays", .arr []),
  ("verified", .bool false)]

theorem contactItem_friend : History.contactItem friend = .obj friendFields := by
  rfl

def friendPayload : Bytes := itemPayload "contact" (History.contactItem friend)

def friendEntry : Bytes × Int := (friendPayload, 1)

def friendDigest : Bytes :=
  plain.sha256 (Channel.chainStart plain friendTransfer ++ [0, 0, 0, 1] ++ friendPayload)

/-- A record of the sender, written at a tick. -/
def friendCall (shape : RecordShape) (tick : Nat) : Channel.SealCall :=
  writtenCall .idle (accountOf "s") (keysOf "r") [5] shape.kind shape.plaintext
    shape.transferId shape.seq shape.extra tick

def approvalShaped : RecordShape where
  kind := Channel.approval
  plaintext := canonicalJson (.mkObj [
    ("device", .str "r"), ("since", .int 0), ("until", .int 1000000),
    ("budget", .int History.defaultBudgetBytes)])
  transferId := friendTransfer
  seq := 0
  extra := rangeFields 0 1000000

def offerShaped : RecordShape :=
  offerShape friendTransfer 1 0 0 1000000 History.defaultBudgetBytes

def itemShaped : RecordShape := itemShape friendTransfer friendEntry

def completeShaped : RecordShape := completeShape friendTransfer 1 friendDigest

def friendApproval : Channel.SealCall := friendCall approvalShaped 3

def friendOffer : Channel.SealCall := friendCall offerShaped 10

def friendItem : Channel.SealCall := friendCall itemShaped 15

def friendComplete : Channel.SealCall := friendCall completeShaped 20

def blobOf (call : Channel.SealCall) : Bytes :=
  (Channel.sealRecord plain call).toOption.getD []

theorem sealed_blobOf {call : Channel.SealCall}
    (sealable : call.kind < 256 ∧ (0 ≤ call.seq ∧ call.seq < 2 ^ 32) ∧
      4 * (call.header plain).normalize.dump.length < 2 ^ 32) :
    Channel.sealRecord plain call = .ok (blobOf call) := by
  obtain ⟨kindByte, numbered, short⟩ := sealable
  obtain ⟨blob, sealed⟩ := @Channel.sealRecord_succeeds plain call kindByte [] rfl numbered
    (fun _ _ _ => ⟨0 :: call.plaintext, rfl⟩)
    (lt_of_le_of_lt (length_canonicalJson_le _) short)
  rw [sealed, blobOf, sealed]
  rfl

theorem sealed_approval :
    Channel.sealRecord plain friendApproval = .ok (blobOf friendApproval) :=
  sealed_blobOf (by decide +kernel)

theorem sealed_offer : Channel.sealRecord plain friendOffer = .ok (blobOf friendOffer) :=
  sealed_blobOf (by decide)

theorem sealed_item : Channel.sealRecord plain friendItem = .ok (blobOf friendItem) :=
  sealed_blobOf (by decide)

theorem sealed_complete :
    Channel.sealRecord plain friendComplete = .ok (blobOf friendComplete) :=
  sealed_blobOf (by decide +kernel)

theorem recent : (1000000000 : Int) - 1000000000 < deviceListMaxAge := by decide

/-- The relays of the receiver, and its mailbox there. -/
def sentTo (call : Channel.SealCall) : Put where
  urls := ["https://relay"]
  capability := { mailboxId := "r", writeToken := "w" }
  blob := blobOf call

/-- The sender when it has written a record. -/
theorem run_friendWrite {world : World} {tick : Nat} {shape : RecordShape}
    (own : (ensureDeviceKeys .idle).run world = (.ok ([5], [2]), world))
    (keys : world.siblingKeys = (deviceBeside "r").siblingKeys) (ticked : world.tick = tick)
    (sealed : Channel.sealRecord plain (friendCall shape tick) =
      .ok (blobOf (friendCall shape tick))) :
    (writeRecord plain .idle (accountOf "s") (deviceNamed "r") shape.kind shape.plaintext
      shape.transferId shape.seq shape.extra).run world =
      (.ok (), world.withRecord ⟨"r", friendCall shape tick⟩
        (sentTo (friendCall shape tick))) := by
  subst ticked
  have cached : world.siblingKeys.get? (deviceNamed "r").deviceId =
      some (keysOf "r", 1000000000) := by
    rw [keys]
    decide
  exact @run_writeRecord plain .idle (accountOf "s") world (deviceNamed "r") (keysOf "r")
    [5] [2] 1000000000 own cached
    (Int.lt_trans recent (by decide)) _ _ _ _ _ _ sealed ["https://relay"]
    (by decide) _ (by decide +kernel)

/-- The sender before the approval is written. -/
def begun : World := { deviceBeside "r" with tick := 3 }

def allowed : World := begun.withRecord ⟨"r", friendApproval⟩ (sentTo friendApproval)

def marked : World :=
  { allowed.withState approvalsState (.mkObj [("r", .mkObj [
      ("transfer", .str friendTransfer), ("since", .int 0), ("until", .int 1000000),
      ("ts", .int 1000000)])]) with tick := 10 }

def announced : World := marked.withRecord ⟨"r", friendOffer⟩ (sentTo friendOffer)

def itemized : World := announced.withRecord ⟨"r", friendItem⟩ (sentTo friendItem)

def finished : World := itemized.withRecord ⟨"r", friendComplete⟩ (sentTo friendComplete)

theorem run_marking : (markApproved .idle "r" friendTransfer (.int 0) (.int 1000000)).run
    allowed = (.ok (), marked) := by
  rfl

theorem marked_items : buildItems marked.store
    ((accountOf "s").identity.identityId plain) 0 1000000 History.defaultBudgetBytes =
      .ok ([friendPayload], 0) := by
  have bundle : History.buildBundle marked.store
      ((accountOf "s").identity.identityId plain) 0 1000000 History.defaultBudgetBytes =
        .ok ⟨[History.contactItem friend], [], [], []⟩ := by
    have contacts : marked.store.listContacts ((accountOf "s").identity.identityId plain) =
        [friend] := by
      decide
    have messages : History.windowItems marked.store
        ((accountOf "s").identity.identityId plain) 0 1000000 = [] := by
      decide
    unfold History.buildBundle
    rw [contacts, messages]
    rfl
  unfold buildItems
  rw [bundle]
  rfl

theorem friend_digested : Channel.chainAdd plain (Channel.chainStart plain friendTransfer)
    friendPayload 1 = .ok friendDigest := by
  have number : fourBytes 1 = .ok [0, 0, 0, 1] := by decide
  unfold Channel.chainAdd friendDigest
  rw [number]
  rfl

theorem loads_offer : loads offerShaped.plaintext = .ok (.mkObj [
    ("count", .int 1), ("skipped", .int 0), ("since", .int 0), ("until", .int 1000000),
    ("budget", .int History.defaultBudgetBytes)]) :=
  loads_canonicalJson (by simp [Json.Canonical])

theorem loads_friendPayload : loads friendPayload = .ok (.mkObj (("kind", .str "contact") ::
    friendFields)) := by
  unfold friendPayload itemPayload
  rw [contactItem_friend]
  exact loads_canonicalJson (by
    simp [friendFields, Json.Canonical, Json.Sorted, Json.CanonicalFields,
      Json.CanonicalItems])

attribute [local irreducible] blobOf friendPayload friendDigest

theorem own_keys {environment : Environment} {world : World}
    (stored : world.store.getState deviceKeysState =
      (deviceBeside "r").store.getState deviceKeysState) :
    (ensureDeviceKeys environment).run world = (.ok ([5], [2]), world) := by
  have asked : (askStore fun store => store.getState deviceKeysState).run world =
      (.ok ((deviceBeside "r").store.getState deviceKeysState), world) := by
    rw [← stored]
    rfl
  unfold ensureDeviceKeys
  rw [run_bind_ok asked]
  rfl

/-- The sender streams its one contact from any world with its keys. -/
theorem run_friendSend_of {world : World}
    (own : world.store.getState deviceKeysState =
      (deviceBeside "r").store.getState deviceKeysState)
    (keys : world.siblingKeys = (deviceBeside "r").siblingKeys) (ticked : world.tick = 10)
    (built : buildItems world.store ((accountOf "s").identity.identityId plain) 0 1000000
      History.defaultBudgetBytes = .ok ([friendPayload], 0)) :
    (sendHistory plain .idle (accountOf "s") (deviceNamed "r") 0 1000000
      History.defaultBudgetBytes friendTransfer).run world =
        (.ok (1, 0), ((world.withRecord ⟨"r", friendOffer⟩ (sentTo friendOffer)).withRecord
          ⟨"r", friendItem⟩ (sentTo friendItem)).withRecord
            ⟨"r", friendComplete⟩ (sentTo friendComplete)) := by
  have offered : (writeRecord plain .idle (accountOf "s") (deviceNamed "r") offerShaped.kind
      offerShaped.plaintext offerShaped.transferId offerShaped.seq offerShaped.extra).run
        world = (.ok (), world.withRecord ⟨"r", friendOffer⟩ (sentTo friendOffer)) :=
    @run_friendWrite world 10 offerShaped (own_keys own) keys ticked sealed_offer
  generalize announcing : world.withRecord ⟨"r", friendOffer⟩ (sentTo friendOffer) = announced
    at offered ⊢
  have announcedOwn : announced.store.getState deviceKeysState =
      (deviceBeside "r").store.getState deviceKeysState := announcing ▸ own
  have announcedKeys : announced.siblingKeys = (deviceBeside "r").siblingKeys :=
    announcing ▸ keys
  have announcedTick : announced.tick = 15 := by
    rw [← announcing]
    show world.tick + 5 = 15
    rw [ticked]
  have written : (writeRecord plain .idle (accountOf "s") (deviceNamed "r") Channel.item
      friendPayload friendTransfer (0 + 1 : Nat) {}).run announced =
        (.ok (), announced.withRecord ⟨"r", friendItem⟩ (sentTo friendItem)) :=
    @run_friendWrite announced 15 itemShaped (own_keys announcedOwn) announcedKeys
      announcedTick sealed_item
  generalize itemizing : announced.withRecord ⟨"r", friendItem⟩ (sentTo friendItem) = itemized
    at written ⊢
  have itemizedTick : itemized.tick = 20 := by
    rw [← itemizing]
    show announced.tick + 5 = 20
    rw [announcedTick]
  have streams : ([friendPayload].zipIdx.foldlM
      (sendItem plain .idle (accountOf "s") (deviceNamed "r") friendTransfer)
      (Channel.chainStart plain friendTransfer)).run announced =
        (.ok friendDigest, itemized) := by
    show (sendItem plain .idle (accountOf "s") (deviceNamed "r") friendTransfer
      (Channel.chainStart plain friendTransfer) (friendPayload, 0) >>= pure).run announced = _
    have sent : (sendItem plain .idle (accountOf "s") (deviceNamed "r") friendTransfer
        (Channel.chainStart plain friendTransfer) (friendPayload, 0)).run announced =
          (.ok friendDigest, itemized) := by
      unfold sendItem
      rw [run_bind_ok written]
      exact run_lift_eq friend_digested itemized
    rw [run_bind_ok sent]
    rfl
  have completed : (writeRecord plain .idle (accountOf "s") (deviceNamed "r")
      completeShaped.kind completeShaped.plaintext completeShaped.transferId
      completeShaped.seq completeShaped.extra).run itemized =
        (.ok (), itemized.withRecord ⟨"r", friendComplete⟩ (sentTo friendComplete)) :=
    @run_friendWrite itemized 20 completeShaped (own_keys (itemizing ▸ announcedOwn))
      (itemizing ▸ announcedKeys) itemizedTick sealed_complete
  exact run_sendHistory built offered streams completed

theorem run_friendSend : (sendHistory plain .idle (accountOf "s") (deviceNamed "r") 0 1000000
    History.defaultBudgetBytes friendTransfer).run marked = (.ok (1, 0), finished) :=
  run_friendSend_of (by decide) rfl rfl marked_items

/-- A world in which a device knows its sibling. -/
theorem acquainted_of {environment : Environment} {world : World} {sibling : String}
    (clock : environment.clock = Environment.idle.clock)
    (list : world.deviceList = (deviceBeside sibling).deviceList)
    (listTs : world.deviceListTs = 1000000000)
    (keys : world.siblingKeys = (deviceBeside sibling).siblingKeys)
    (own : world.store.getState deviceKeysState =
      (deviceBeside "r").store.getState deviceKeysState) :
    Acquainted environment world (deviceNamed sibling) (keysOf sibling) [2] where
  listed := ⟨_, list, by simp [deviceNamed]⟩
  listRecent := by
    rw [listTs, clock]
    exact recent
  keys := by
    refine ⟨1000000000, ?_, ?_⟩
    · rw [keys]
      exact Dict.get?_insert_self _ _ _
    · rw [clock]
      exact Int.lt_trans recent (by decide)
  own := ⟨[5], fun tick => own_keys own⟩

theorem approving_records : approving.records =
    [⟨"r", friendApproval⟩, ⟨"r", friendOffer⟩, ⟨"r", friendItem⟩, ⟨"r", friendComplete⟩] := by
  have acquainted : Acquainted .idle (deviceBeside "r") (deviceNamed "r") (keysOf "r") [2] :=
    acquainted_of rfl rfl rfl rfl rfl
  have approves := @run_approveDevice plain .idle (accountOf "s") (deviceNamed "r") "r"
    friendTransfer (some 0) none 0 (1, 0) (deviceBeside "r")
    { deviceBeside "r" with tick := 1 } { deviceBeside "r" with tick := 2 } allowed marked
    finished acquainted.run_locateDevice rfl (by decide)
    (@run_friendWrite begun 3 approvalShaped (own_keys rfl) rfl rfl sealed_approval)
    run_marking run_friendSend
  have after : approving = finished.withState requestsState _ :=
    (discard_after _ _).trans (after_eq approves)
  rw [after]
  rfl

/-- A sealed record is dispatched by a device that knows its sender. -/
theorem run_friendCall {world : World}
    (acquainted : Acquainted .idle world (deviceNamed "s") (keysOf "s") [2])
    {shape : RecordShape} {tick : Nat} {blob : Bytes}
    (sealed : Channel.sealRecord plain (friendCall shape tick) = .ok blob) :
    (handleRecord plain .idle (accountOf "r") blob).run world =
      (dispatch plain .idle (accountOf "r") "s" shape.transferId shape.kind
        ((friendCall shape tick).header plain) shape.plaintext).run
          { world with tick := world.tick + 2 } := by
  obtain ⟨sameBlob, sameKind⟩ := Channel.sealRecord_kind sealed
  have opens : Channel.openRecord plain (blob.set 5 (UInt8.ofNat shape.kind)) [2] [] "s" =
      .ok ((UInt8.ofNat shape.kind).toNat, (friendCall shape tick).header plain,
        shape.plaintext) :=
    Channel.openRecord_sealRecord sealed rfl (fun agreed => agreed) (fun _ => rfl)
      (fun _ encrypted => by
        cases encrypted
        exact ⟨List.cons_ne_nil _ _, rfl⟩) (UInt8.ofNat shape.kind)
  change blob.set 5 (UInt8.ofNat shape.kind) = blob at sameBlob
  change (UInt8.ofNat shape.kind).toNat = shape.kind at sameKind
  rw [sameBlob, sameKind] at opens
  obtain ⟨payload, parsed, -⟩ := openRecord_names opens
  have named : ((friendCall shape tick).header plain).getD "from" = .str "s" := by
    rw [Json.getD, (friendCall shape tick).header_get?, if_neg (by decide),
      (friendCall shape tick).baseHeader_get? (by decide)]
    rfl
  rw [handleRecord_eq, run_bind_ok (acquainted.run_openInbound parsed named opens)]
  unfold dispatchOpened
  dsimp only
  rw [header_transfer]
  rfl

def offerNote : Json := .mkObj [
    ("transfer", .str friendTransfer), ("received", .int 0), ("expected", .int 1),
    ("skipped", .int 0), ("chain", .str ""), ("done", .bool false)]

def offered : World := withNote { deviceBeside "s" with tick := 2 } "s" offerNote

def received : World := withNote { offered with tick := 4 } "s"
  (extendedNote offerNote friendTransfer (Channel.hex friendDigest) 0 1)

def completed : World := withNote { received with tick := 6 } "s"
  (completeNote (extendedNote offerNote friendTransfer (Channel.hex friendDigest) 0 1)
    (.mkObj [("count", .int 1), ("chain", .str (Channel.hex friendDigest))]) 1 1)

theorem loads_complete : loads completeShaped.plaintext = .ok (.mkObj [
    ("count", .int 1), ("chain", .str (Channel.hex friendDigest))]) :=
  loads_canonicalJson (by simp [Json.Canonical])

/-- The receiver dispatches a record of the transfer. -/
theorem run_offer : (dispatch plain .idle (accountOf "r") "s" offerShaped.transferId
    offerShaped.kind (friendOffer.header plain) offerShaped.plaintext).run
      { deviceBeside "s" with tick := (deviceBeside "s").tick + 2 } = (.ok (), offered) := by
  show (handleOffer "s" friendTransfer offerShaped.plaintext).run
    { deviceBeside "s" with tick := 2 } = _
  unfold handleOffer
  rw [run_bind_ok (run_lift_eq loads_offer _)]
  rfl

theorem run_item : (dispatch plain .idle (accountOf "r") "s" itemShaped.transferId
    itemShaped.kind (friendItem.header plain) itemShaped.plaintext).run
      { offered with tick := offered.tick + 2 } = (.ok (), received) := by
  have number : integerOr ((friendItem.header plain).getD "seq") 0 = .ok 1 := by
    rw [header_seq]
    exact integerOr_int 1
  have extended : extendChain plain friendTransfer (.str "") friendPayload 1 =
      .ok (Channel.hex friendDigest) := by
    show (Channel.chainAdd plain (Channel.chainStart plain friendTransfer) friendPayload 1 >>=
      fun digest => pure (Channel.hex digest)) = _
    rw [friend_digested]
    rfl
  show (Prog.lift (integerOr ((friendItem.header plain).getD "seq") 0) >>= fun seq =>
    applyItem plain .idle (accountOf "r") "s" friendTransfer friendPayload seq).run
      { offered with tick := 4 } = _
  rw [run_bind_ok (run_lift_eq number _)]
  exact @run_applyItem plain .idle (accountOf "r") "s" friendTransfer friendPayload 1 _ _ 0 1
    { offered with tick := 4 } { offered with tick := 4 } loads_friendPayload rfl extended rfl rfl

theorem run_complete : (dispatch plain .idle (accountOf "r") "s" completeShaped.transferId
    completeShaped.kind (friendComplete.header plain) completeShaped.plaintext).run
      { received with tick := received.tick + 2 } = (.ok (), completed) := by
  exact @run_handleComplete "s" completeShaped.plaintext _ 1 1 { received with tick := 6 }
    loads_complete rfl rfl

theorem acquainted_start :
    Acquainted .idle (deviceBeside "s") (deviceNamed "s") (keysOf "s") [2] :=
  acquainted_of rfl rfl rfl rfl rfl

theorem acquainted_offered : Acquainted .idle offered (deviceNamed "s") (keysOf "s") [2] :=
  acquainted_of rfl rfl rfl rfl (by decide)

theorem acquainted_received : Acquainted .idle received (deviceNamed "s") (keysOf "s") [2] :=
  acquainted_of rfl rfl rfl rfl (by decide)

theorem handles_offer : (handleRecord plain .idle (accountOf "r") (blobOf friendOffer)).run
    (deviceBeside "s") = (.ok (), offered) :=
  (run_friendCall acquainted_start sealed_offer).trans run_offer

theorem handles_item : (handleRecord plain .idle (accountOf "r") (blobOf friendItem)).run
    offered = (.ok (), received) :=
  (run_friendCall acquainted_offered sealed_item).trans run_item

theorem handles_complete : (handleRecord plain .idle (accountOf "r")
    (blobOf friendComplete)).run received = (.ok (), completed) :=
  (run_friendCall acquainted_received sealed_complete).trans run_complete

/-- The sender has approved the receiver, which has handled all but the completion. -/
def siblingsBefore : Siblings where
  sender := approving
  receiver := received
  handled := [⟨friendOffer, deviceBeside "s", offered⟩, ⟨friendItem, offered, received⟩]

theorem progress_before : siblingsBefore.progress = (friendTransfer, [friendEntry]) := by
  rfl

theorem written_approving :
    written approving.records friendComplete.transferId = [friendEntry] := by
  rw [approving_records]
  rfl

theorem approval_sends : Step plain .idle (accountOf "r") .idle (accountOf "s")
    ⟨deviceBeside "r", deviceBeside "s", []⟩ ⟨approving, deviceBeside "s", []⟩ :=
  Step.send (.approveDevice "r" (some 0) none) fun _ _ _ _ _ member =>
    absurd member List.not_mem_nil

theorem friendItem_kind : friendItem.kind = Channel.item := rfl

theorem friendComplete_kind : friendComplete.kind = Channel.complete := rfl

theorem friendItem_transfer : friendItem.transferId = friendComplete.transferId := rfl

theorem completed_reported : (noteOf completed "s").getD "complete" = .bool true := by
  have tabled : Tabled { received with tick := 6 } := ⟨_, rfl⟩
  have held : chainOf (extendedNote offerNote friendTransfer (Channel.hex friendDigest) 0 1) =
      Channel.hex friendDigest := toText_orElse_str _
  have announces : chainOf (.mkObj [("count", .int 1),
      ("chain", .str (Channel.hex friendDigest))]) = Channel.hex friendDigest :=
    toText_orElse_str _
  unfold completed
  rw [noteOf_withNote tabled rfl, completeNote, held, announces]
  simp [Json.getD, Json.setField, Json.get?, Json.lookup_insertField, extendedNote, offerNote,
    Json.mkObj]

theorem friend_collisionFree : Channel.CollisionFree plain
    (Channel.hashed plain friendTransfer [friendEntry] ++
      Channel.hashed plain friendComplete.transferId [friendEntry]) := by
  unfold Channel.CollisionFree
  decide +kernel

attribute [local irreducible] approving offered received completed friendOffer friendItem
  friendComplete

theorem siblingsBefore_reachable :
    Reachable plain .idle (accountOf "r") .idle (accountOf "s") siblingsBefore := by
  have start : Initial (accountOf "s") ⟨deviceBeside "r", deviceBeside "s", []⟩ :=
    ⟨rfl, rfl, ⟨[], rfl⟩, rfl⟩
  have offers : Step plain .idle (accountOf "r") .idle (accountOf "s")
      ⟨approving, deviceBeside "s", []⟩
      ⟨approving, offered, [⟨friendOffer, deviceBeside "s", offered⟩]⟩ := by
    apply @Step.handle plain .idle (accountOf "r") .idle (accountOf "s")
      ⟨approving, deviceBeside "s", []⟩ ⟨"r", friendOffer⟩ (blobOf friendOffer) offered ?_
      sealed_offer handles_offer
    rw [approving_records]
    simp
  have delivers : Step plain .idle (accountOf "r") .idle (accountOf "s")
      ⟨approving, offered, [⟨friendOffer, deviceBeside "s", offered⟩]⟩ siblingsBefore := by
    apply @Step.handle plain .idle (accountOf "r") .idle (accountOf "s")
      ⟨approving, offered, [⟨friendOffer, deviceBeside "s", offered⟩]⟩ ⟨"r", friendItem⟩
      (blobOf friendItem) received ?_ sealed_item handles_item
    rw [approving_records]
    simp
  exact (((Reachable.initial start).step approval_sends).step offers).step delivers

theorem friend_transfer_merged :
    siblingsBefore.Merged plain .idle (accountOf "r")
      (friendItem.plaintext, friendItem.seq) := by
  have sent : ∀ record ∈ [(⟨"r", friendItem⟩ : SentRecord), ⟨"r", friendComplete⟩],
      record ∈ siblingsBefore.sender.records := by
    intro record member
    show record ∈ approving.records
    rw [approving_records]
    exact List.mem_cons_of_mem _ (List.mem_cons_of_mem _ member)
  have collisionFree : Channel.CollisionFree plain
      (Channel.hashed plain siblingsBefore.progress.1 siblingsBefore.progress.2 ++
        Channel.hashed plain friendComplete.transferId
          (written approving.records friendComplete.transferId)) := by
    rw [progress_before, written_approving]
    exact friend_collisionFree
  exact complete_transfers_are_merged plain_size plain_committing siblingsBefore_reachable
    (sent ⟨"r", friendComplete⟩ (by simp)) friendComplete_kind collisionFree sealed_complete
    handles_complete completed_reported ⟨"r", friendItem⟩ (sent ⟨"r", friendItem⟩ (by simp))
    friendItem_kind friendItem_transfer

end NoKnowledge.Core.TransferCompletion

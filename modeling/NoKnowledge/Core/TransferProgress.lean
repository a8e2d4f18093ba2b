import NoKnowledge.Core.RecordDelivery
import NoKnowledge.Core.TransferStream

/-!
# The progress of incoming transfers

A device keeps one note for each sibling that sends it history.  An offer starts
the note afresh, an item extends its digest and its count, a completion compares
both with what the sender announces.  Nothing else touches the notes.
-/

namespace NoKnowledge.Core.TransferProgress

open Prog Sync History

variable {suite : Suite} {environment : Environment} {account : Account}

/-- The table of notes, as it is stored. -/
def noted (world : World) : Json := world.store.getState incomingState

/-- The table of notes, as it is read. -/
def notes (world : World) : Json := stateOrEmpty world.store incomingState

/-- The note about a sender. -/
def noteOf (world : World) (deviceId : String) : Json :=
  ((notes world).getD deviceId).orElse (.obj [])

def receivedOf (note : Json) : Except Raised Int := integerOr (note.getD "received") 0

def chainOf (note : Json) : String := ((note.getD "chain").orElse (.str "")).toText

theorem notes_of_noted {first second : World} (same : noted second = noted first) :
    notes second = notes first := by
  unfold notes stateOrEmpty
  rw [show second.store.getState incomingState = _ from same]
  rfl

theorem noteOf_of_noted {first second : World} (same : noted second = noted first)
    (deviceId : String) : noteOf second deviceId = noteOf first deviceId := by
  rw [noteOf, notes_of_noted same, noteOf]

theorem noted_withState {world : World} {key : String} (other : key ≠ incomingState)
    (value : Json) : noted (world.withState key value) = noted world := by
  simp [noted, World.withState, Store.getState, Dict.get?_insert, other.symm]

/-- The notes after one of them was written. -/
theorem notes_withState {world : World} {fields : List (String × Json)} {deviceId : String}
    {note : Json} :
    notes (world.withState incomingState ((Json.obj fields).setField deviceId note)) =
      (Json.obj fields).setField deviceId note := by
  have written : (world.withState incomingState
      ((Json.obj fields).setField deviceId note)).store.getState incomingState =
        (Json.obj fields).setField deviceId note := by
    simp [World.withState, Store.getState]
  have nonempty : ((Json.obj fields).setField deviceId note).truthy = true := by
    have found := Json.get?_setField fields deviceId deviceId note
    rw [if_pos rfl] at found
    simp only [Json.setField, Json.get?] at found ⊢
    simp only [Json.truthy]
    cases shape : Json.insertField deviceId note fields with
    | nil =>
        rw [shape] at found
        cases found
    | cons field rest => rfl
  unfold notes stateOrEmpty
  rw [written, Json.orElse, if_pos nonempty]

/-- The notes are an object. -/
def Tabled (world : World) : Prop := ∃ fields, notes world = .obj fields

theorem Tabled.of_noted {first second : World} (tabled : Tabled first)
    (same : noted second = noted first) : Tabled second := by
  obtain ⟨fields, table⟩ := tabled
  exact ⟨fields, (notes_of_noted same).trans table⟩

/-- The world after the note about a sender was replaced. -/
def withNote (world : World) (deviceId : String) (note : Json) : World :=
  world.withState incomingState ((notes world).setField deviceId note)

theorem Tabled.withNote {world : World} (tabled : Tabled world) (deviceId : String)
    (note : Json) : Tabled (withNote world deviceId note) := by
  obtain ⟨fields, table⟩ := tabled
  refine ⟨Json.insertField deviceId note fields, ?_⟩
  rw [TransferProgress.withNote, table, notes_withState]
  rfl

theorem noteOf_withNote {world : World} (tabled : Tabled world) {deviceId : String}
    {note : Json} (nonempty : note.truthy = true) :
    noteOf (withNote world deviceId note) deviceId = note := by
  obtain ⟨fields, table⟩ := tabled
  rw [noteOf, withNote, table, notes_withState, Json.getD, Json.get?_setField, if_pos rfl,
    Option.getD_some, Json.orElse, if_pos nonempty]

theorem noteOf_withNote_other {world : World} (tabled : Tabled world) {deviceId : String}
    {note : Json} {other : String} (different : other ≠ deviceId) :
    noteOf (withNote world deviceId note) other = noteOf world other := by
  obtain ⟨fields, table⟩ := tabled
  rw [noteOf, withNote, table, notes_withState, Json.getD, Json.get?_setField,
    if_neg different, noteOf, table, Json.getD]

theorem permissive_noted : Permissive (keeping noted) where
  quiet := {
    tick := fun _ _ => rfl
    put := fun _ _ => rfl
    siblingKeys := fun _ _ => rfl
    deviceList := fun _ _ _ => rfl
    deviceKeys := fun _ value => noted_withState (by decide) value }
  mirror := AllowsRecord.mirrors fun _ _ _ => rfl
  sessions := fun _ _ _ => rfl
  outbox := fun _ _ => rfl
  localBlobs := fun _ _ => rfl
  prekeys := fun _ _ _ _ => rfl
  state := fun _ _ other _ value => noted_withState other value
  messages := fun _ _ => rfl
  index := fun _ _ => rfl

theorem noted_contacts : AllowsContacts (keeping noted) := fun _ _ => rfl

/-- Every step of a device but the handling of a record leaves the notes alone. -/
theorem step_noted {step : DeviceStep} (other : ∀ blob, step ≠ .handleRecord blob)
    (world : World) :
    noted ((step.program suite environment account).after world) = noted world := by
  have quiet := permissive_noted.quiet
  have marked : ∀ deviceId transfer since until_, Keeps (keeping noted)
      (markApproved environment deviceId transfer since until_) :=
    quiet.markApproved (fun _ value => noted_withState (by decide) value)
  by_cases plain : step.Approves
  · cases step with
    | approveDevice deviceId since budget =>
        show noted ((discard _).after world) = _
        rw [discard_after]
        exact permissive_noted.approveDevice (fun _ _ _ _ _ => rfl) (marked _) since budget world
    | revokeApproval deviceId =>
        exact @noted_withState world _ (by decide) _
    | handleRecord blob => exact absurd rfl (other blob)
    | _ => exact plain.elim
  · exact permissive_noted.step noted_contacts (fun _ _ _ => rfl) plain world

/-- A record that carries no transfer leaves the notes alone. -/
theorem dispatch_noted {kind : Nat} (untransferring : ¬ Transferring kind)
    (deviceId transfer : String) (header : Json) (plaintext : Bytes) (world : World) :
    noted ((dispatch suite environment account deviceId transfer kind header
      plaintext).after world) = noted world := by
  have acts : Acts (keeping noted).action (dispatch suite environment account deviceId
      transfer kind header plaintext) :=
    permissive_noted.toReceptive.dispatch {
      approval := fun _ => permissive_noted.quiet.markApproved
        (fun _ value => noted_withState (by decide) value) _ _ _ _
      offer := fun _ previous => permissive_noted.startTransfer previous _
      incoming := fun transferring => absurd transferring untransferring
      contacts := fun _ _ => permissive_noted.mergeAnyContacts noted_contacts _ _
      item := fun _ _ _ _ => permissive_noted.mergeTransferMessage _
      mirror := fun _ _ _ _ => permissive_noted.mergeIndexed _ _
      state := fun _ _ _ _ => permissive_noted.applyMirroredState _ }
  exact acts world

theorem mergeItem_noted (kind payload : Json) :
    Keeps (keeping noted) (mergeItem suite environment account kind payload) := by
  apply keeps_ite
  · exact fun _ => keeps_bind (permissive_noted.mergeAnyContacts noted_contacts _ _)
      fun _ => keeps_pure _
  intro _
  apply keeps_ite
  · exact fun _ => permissive_noted.mergeTransferMessage _
  intro _
  apply keeps_ite
  · exact fun _ => keeps_bind (permissive_noted.toReceptive.mergeChunks _ _)
      fun _ => keeps_pure _
  · exact fun _ => keeps_throw _

/-- The text a note has for the digest of its items. -/
inductive Chained (suite : Suite) (origin : String) : List (Bytes × Int) → String → Prop
  | fresh : Chained suite origin [] ""
  | reached {entries : List (Bytes × Int)} {digest : Bytes} (nonempty : entries ≠ [])
      (digested : Channel.chainDigest suite origin entries = .ok digest) :
      Chained suite origin entries (Channel.hex digest)

/-- A note counts and digests these items, since a transfer began. -/
structure Held (suite : Suite) (note : Json) (origin : String)
    (entries : List (Bytes × Int)) : Prop where
  object : note.isObj = true
  received : receivedOf note = .ok entries.length
  chain : Chained suite origin entries (chainOf note)

theorem run_setIncoming (deviceId : String) (note : Json) (world : World) :
    (setIncoming deviceId note).run world = (.ok (), withNote world deviceId note) := rfl

theorem integerOr_int (number : Int) :
    integerOr (.int number) 0 = .ok number := Json.toInt_orElse_int number

theorem truthy_of_get? {note value : Json} {field : String}
    (found : note.get? field = some value) : note.truthy = true := by
  cases note with
  | obj fields =>
      cases fields with
      | nil => cases found
      | cons field rest => rfl
  | _ => cases found

theorem handleOffer_fails {deviceId transfer : String} {plaintext : Bytes}
    {world final : World} {raised : Raised}
    (failed : (handleOffer deviceId transfer plaintext).run world = (.error raised, final)) :
    noted final = noted world := by
  show (keeping noted).rel world final
  refine fails_bind failed (keeps_lift _) fun offer read _ failed => ?_
  refine fails_bind failed (keeps_askStore _) fun state asked _ failed => ?_
  refine fails_bind failed (permissive_noted.startTransfer _ _) fun _ started _ failed => ?_
  refine fails_bind failed (keeps_lift _) fun expected counted _ failed => ?_
  refine fails_bind failed (keeps_lift _) fun skipped last _ failed => ?_
  cases failed

/-- An offer starts its note afresh. -/
theorem handleOffer_returned {deviceId transfer : String} {plaintext : Bytes}
    {world final : World} {result : Unit} (tabled : Tabled world)
    (returned : (handleOffer deviceId transfer plaintext).run world = (.ok result, final)) :
    ∃ started note, noted started = noted world ∧ final = withNote started deviceId note ∧
      note.truthy = true ∧ Held suite note transfer [] ∧
      note.getD "done" = .bool false ∧ note.getD "complete" = .null := by
  obtain ⟨offer, read, loading, looking⟩ := bind_returns returned
  obtain ⟨_, rfl⟩ := lift_returns loading
  obtain ⟨state, _, asked, opening⟩ := bind_returns looking
  cases asked
  obtain ⟨_, started, starting, counting⟩ := bind_returns opening
  have startedNoted : noted started = noted read :=
    (permissive_noted.startTransfer _ _).view starting
  obtain ⟨expected, _, counted, leaving⟩ := bind_returns counting
  obtain ⟨_, rfl⟩ := lift_returns counted
  obtain ⟨skipped, _, left, setting⟩ := bind_returns leaving
  obtain ⟨_, rfl⟩ := lift_returns left
  rw [run_setIncoming] at setting
  cases setting
  refine ⟨_, _, startedNoted, rfl, ?_, ⟨rfl, ?_, ?_⟩, ?_, ?_⟩
  · exact @truthy_of_get? _ (.bool false) "done" (by simp [Json.get?_mkObj])
  · simp [receivedOf, Json.getD, Json.get?_mkObj, Dict.lookup_cons_eq_ite, integerOr_int]
  · simp only [chainOf, Json.getD, Json.get?_mkObj]
    exact Chained.fresh
  · simp [Json.getD, Json.get?_mkObj]
  · simp [Json.getD, Json.get?_mkObj, Dict.lookup_cons_eq_ite]

/-- The digest a note is resumed from, or the start of a transfer. -/
def resumedFrom (suite : Suite) (transfer text : String) : Except Raised Bytes :=
  if text = "" then .ok (Channel.chainStart suite transfer) else Channel.unhex text.toList

theorem extendChain_returns {transfer text : String} {chain : Json} {plaintext : Bytes}
    {seq : Int} (extended : extendChain suite transfer chain plaintext seq = .ok text) :
    ∃ digest next,
      resumedFrom suite transfer (chain.orElse (.str "")).toText = .ok digest ∧
      Channel.chainAdd suite digest plaintext seq = .ok next ∧ text = Channel.hex next := by
  unfold extendChain at extended
  dsimp only at extended
  unfold resumedFrom
  split at extended
  · rename_i empty
    simp only [except_bind_eq_ok] at extended
    obtain ⟨digest, started, next, linked, built⟩ := extended
    cases built
    exact ⟨digest, next, by rw [if_pos empty]; exact started, linked, rfl⟩
  · rename_i nonempty
    simp only [except_bind_eq_ok] at extended
    obtain ⟨digest, resumed, next, linked, built⟩ := extended
    cases built
    exact ⟨digest, next, by rw [if_neg nonempty]; exact resumed, linked, rfl⟩

theorem digest_nonempty (size : ∀ data, (suite.sha256 data).length = 32)
    {transfer : String} {entries : List (Bytes × Int)} {digest : Bytes}
    (digested : Channel.chainDigest suite transfer entries = .ok digest) : digest ≠ [] := by
  rintro rfl
  obtain ⟨-, hash⟩ := Channel.chainDigest_eq_ok.mp digested
  obtain ⟨message, -, same⟩ := @HashChain.digest_mem_range _ _ _ _
    suite.sha256 utf8 Channel.joined transfer entries
  have length := size message
  rw [← same, hash] at length
  cases length

theorem extendChain_chained (size : ∀ data, (suite.sha256 data).length = 32)
    {origin transfer : String} {note : Json} {entries : List (Bytes × Int)}
    {plaintext : Bytes} {seq : Int} {text : String}
    (chained : Chained suite origin entries (chainOf note))
    (extended : extendChain suite transfer (note.getD "chain") plaintext seq = .ok text) :
    Chained suite (if entries = [] then transfer else origin)
      (entries ++ [(plaintext, seq)]) text := by
  obtain ⟨digest, next, resumed, linked, rfl⟩ := extendChain_returns extended
  refine Chained.reached (by simp) ?_
  rw [Channel.chainDigest_append_singleton]
  refine except_bind_eq_ok.mpr ⟨digest, ?_, linked⟩
  change resumedFrom suite transfer (chainOf note) = _ at resumed
  unfold resumedFrom at resumed
  generalize chainOf note = held at chained resumed
  cases chained with
  | fresh =>
      cases resumed
      rfl
  | reached nonempty digested =>
      rw [if_neg (Channel.hex_ne_empty (digest_nonempty size digested)),
        Channel.unhex_hex] at resumed
      cases resumed
      rw [if_neg nonempty]
      exact digested

theorem applyItem_fails {deviceId transfer : String} {plaintext : Bytes} {seq : Int}
    {world final : World} {raised : Raised}
    (failed : (applyItem suite environment account deviceId transfer plaintext seq).run
      world = (.error raised, final)) : noted final = noted world := by
  show (keeping noted).rel world final
  refine fails_bind failed (keeps_lift _) fun item read _ failed => ?_
  refine fails_bind failed (keeps_askStore _) fun state asked _ failed => ?_
  refine fails_bind failed (mergeItem_noted _ _) fun _ merged _ failed => ?_
  refine fails_bind failed (keeps_lift _) fun chain extended _ failed => ?_
  refine fails_bind failed (keeps_lift _) fun received counted _ failed => ?_
  refine fails_bind failed (keeps_lift _) fun expected last _ failed => ?_
  cases failed

/-- The note an item extends: the one there is, or a new one. -/
def itemNote (note : Json) (transfer : String) : Json :=
  note.orElse (.mkObj [
    ("transfer", .str transfer), ("seq", .int 0), ("count", .int 0),
    ("chain", .str ""), ("done", .bool false)])

/-- A new note says of its items what an absent one says. -/
theorem itemNote_same (note : Json) (transfer : String) :
    receivedOf (itemNote note transfer) = receivedOf (note.orElse (.obj [])) ∧
      chainOf (itemNote note transfer) = chainOf (note.orElse (.obj [])) ∧
      (itemNote note transfer).getD "complete" = (note.orElse (.obj [])).getD "complete" := by
  unfold itemNote Json.orElse
  by_cases present : note.truthy = true
  · rw [if_pos present, if_pos present]
    exact ⟨rfl, rfl, rfl⟩
  · rw [if_neg present, if_neg present]
    have nothing : ∀ field, (Json.obj []).get? field = none := fun _ => rfl
    refine ⟨?_, ?_, ?_⟩
    · simp [receivedOf, Json.getD, Json.get?_mkObj, Dict.lookup_cons_eq_ite, nothing]
    · simp [chainOf, Json.getD, Json.get?_mkObj, Dict.lookup_cons_eq_ite, nothing]
      rfl
    · simp [Json.getD, Json.get?_mkObj, Dict.lookup_cons_eq_ite, nothing]

theorem itemNote_object {note : Json} (transfer : String)
    (object : (note.orElse (.obj [])).isObj = true) :
    ∃ fields, itemNote note transfer = .obj fields := by
  unfold itemNote Json.orElse at *
  split
  · rename_i present
    rw [if_pos present] at object
    cases note with
    | obj fields => exact ⟨fields, rfl⟩
    | _ => cases object
  · exact ⟨_, rfl⟩

/-- The fields an item leaves in its note. -/
theorem get?_itemEntry {fields : List (String × Json)} {transfer chain : String}
    {received expected : Int} {field : String} :
    (((((((Json.obj fields).setField "transfer" (.str transfer)).setField "received"
      (.int received)).setField "expected" (.int expected)).setField "chain"
        (.str chain)).setField "done" (.bool false)).get? field) =
      if field = "done" then some (.bool false)
      else if field = "chain" then some (.str chain)
      else if field = "expected" then some (.int expected)
      else if field = "received" then some (.int received)
      else if field = "transfer" then some (.str transfer)
      else (Json.obj fields).get? field := by
  simp only [Json.setField, Json.get?, Json.lookup_insertField]

/-- An item that was handled was merged, and extends what its note holds. -/
theorem applyItem_returned (size : ∀ data, (suite.sha256 data).length = 32)
    {deviceId transfer origin : String} {plaintext : Bytes} {seq : Int}
    {entries : List (Bytes × Int)} {world final : World} {result : Unit}
    (held : Held suite (noteOf world deviceId) origin entries)
    (returned : (applyItem suite environment account deviceId transfer plaintext seq).run
      world = (.ok result, final)) :
    ∃ item merged note, loads plaintext = .ok item ∧
      (mergeItem suite environment account (item.getD "kind")
        (item.eraseField "kind")).run world = (.ok (), merged) ∧
      final = withNote merged deviceId note ∧ note.truthy = true ∧
      Held suite note (if entries = [] then transfer else origin)
        (entries ++ [(plaintext, seq)]) ∧
      note.getD "done" = .bool false ∧
      note.getD "complete" = (noteOf world deviceId).getD "complete" := by
  obtain ⟨item, read, loading, looking⟩ := bind_returns returned
  obtain ⟨loaded, rfl⟩ := lift_returns loading
  obtain ⟨state, _, asked, merging⟩ := bind_returns looking
  cases asked
  obtain ⟨_, merged, mergeRan, extending⟩ := bind_returns merging
  have mergedNoted : noted merged = noted read := (mergeItem_noted _ _).view mergeRan
  obtain ⟨chain, _, chainRan, counting⟩ := bind_returns extending
  obtain ⟨extended, rfl⟩ := lift_returns chainRan
  obtain ⟨received, _, receivedRan, expecting⟩ := bind_returns counting
  obtain ⟨counted, rfl⟩ := lift_returns receivedRan
  obtain ⟨expected, _, expectedRan, setting⟩ := bind_returns expecting
  obtain ⟨_, rfl⟩ := lift_returns expectedRan
  cases setting
  obtain ⟨sameReceived, sameChain, sameComplete⟩ :=
    itemNote_same ((notes read).getD deviceId) transfer
  obtain ⟨fields, object⟩ := itemNote_object transfer held.object
  change receivedOf (itemNote ((notes read).getD deviceId) transfer) = _ at counted
  change extendChain suite transfer ((itemNote ((notes read).getD deviceId) transfer).getD
    "chain") plaintext seq = _ at extended
  rw [sameReceived] at counted
  have before : received = entries.length := by
    have same := counted.symm.trans held.received
    cases same
    rfl
  have chained : Chained suite (if entries = [] then transfer else origin)
      (entries ++ [(plaintext, seq)]) chain := by
    apply extendChain_chained size _ extended
    rw [sameChain]
    exact held.chain
  rw [object] at sameComplete
  have field := fun field => @get?_itemEntry fields transfer chain (received + 1) expected field
  refine ⟨item, _, _, loaded, mergeRan, ?_, truthy_of_get? (field "done"), ⟨rfl, ?_, ?_⟩,
    ?_, ?_⟩
  · rw [withNote, notes_of_noted mergedNoted, ← object]
    rfl
  · rw [receivedOf, Json.getD, field]
    simp [before, integerOr_int]
  · rw [chainOf, Json.getD, field]
    simp only [String.reduceEq, if_false, if_true, Option.getD_some]
    rw [toText_orElse_str]
    exact chained
  · rw [Json.getD, field]
    rfl
  · rw [noteOf, ← sameComplete, Json.getD, field, Json.getD]
    simp

theorem handleComplete_fails {deviceId : String} {plaintext : Bytes} {world final : World}
    {raised : Raised}
    (failed : (handleComplete deviceId plaintext).run world = (.error raised, final)) :
    noted final = noted world := by
  show (keeping noted).rel world final
  refine fails_bind failed (keeps_lift _) fun complete read _ failed => ?_
  refine fails_bind failed (keeps_askStore _) fun state asked _ failed => ?_
  refine fails_bind failed (keeps_lift _) fun expected counted _ failed => ?_
  refine fails_bind failed (keeps_lift _) fun received last _ failed => ?_
  cases failed

/-- The fields a completion leaves in its note. -/
theorem get?_completeEntry {fields : List (String × Json)} {expected : Int} {whole : Bool}
    {field : String} :
    (((((Json.obj fields).setField "done" (.bool true)).setField "expected"
      (.int expected)).setField "complete" (.bool whole)).get? field) =
      if field = "complete" then some (.bool whole)
      else if field = "expected" then some (.int expected)
      else if field = "done" then some (.bool true)
      else (Json.obj fields).get? field := by
  simp only [Json.setField, Json.get?, Json.lookup_insertField]

/-- A completion compares the note with what it announces. -/
theorem handleComplete_returned {deviceId origin : String} {plaintext : Bytes}
    {entries : List (Bytes × Int)} {world final : World} {result : Unit}
    (held : Held suite (noteOf world deviceId) origin entries)
    (returned : (handleComplete deviceId plaintext).run world = (.ok result, final)) :
    ∃ announced expected note, loads plaintext = .ok announced ∧
      integerOr (announced.getD "count") 0 = .ok expected ∧
      final = withNote world deviceId note ∧ note.truthy = true ∧
      Held suite note origin entries ∧ note.getD "done" = .bool true ∧
      note.getD "complete" = .bool (decide (expected ≤ (entries.length : Int)) &&
        decide (chainOf (noteOf world deviceId) = chainOf announced)) := by
  obtain ⟨announced, read, loading, looking⟩ := bind_returns returned
  obtain ⟨loaded, rfl⟩ := lift_returns loading
  obtain ⟨state, _, asked, counting⟩ := bind_returns looking
  cases asked
  obtain ⟨expected, _, expectedRan, receiving⟩ := bind_returns counting
  obtain ⟨counted, rfl⟩ := lift_returns expectedRan
  obtain ⟨received, last, receivedRan, setting⟩ := bind_returns receiving
  obtain ⟨found, rfl⟩ := lift_returns receivedRan
  change receivedOf (noteOf last deviceId) = _ at found
  have same := found.symm.trans held.received
  cases same
  obtain ⟨fields, object⟩ : ∃ fields, noteOf last deviceId = .obj fields := by
    have isObject := held.object
    cases shape : noteOf last deviceId with
    | obj fields => exact ⟨fields, rfl⟩
    | _ =>
        rw [shape] at isObject
        cases isObject
  change (Except.ok (), withNote last deviceId ((((noteOf last deviceId).setField "done"
    (.bool true)).setField "expected" (.int expected)).setField "complete"
      (.bool (decide (expected ≤ (entries.length : Int)) &&
        decide (chainOf (noteOf last deviceId) = chainOf announced))))) = _ at setting
  generalize outcome : (decide (expected ≤ (entries.length : Int)) &&
    decide (chainOf (noteOf last deviceId) = chainOf announced)) = whole at setting
  rw [object] at setting held
  cases setting
  have field := fun field => @get?_completeEntry fields expected whole field
  refine ⟨announced, expected, _, loaded, counted, rfl, truthy_of_get? (field "done"),
    ⟨rfl, ?_, ?_⟩, ?_, ?_⟩
  · rw [receivedOf, Json.getD, field]
    exact held.received
  · rw [chainOf, Json.getD, field]
    exact held.chain
  · rw [Json.getD, field]
    rfl
  · rw [Json.getD, field, outcome]
    rfl

theorem loads_canonicalJson {fields : List (String × Json)}
    (canonical : ∀ field ∈ fields, field.2.Canonical) :
    loads (canonicalJson (.mkObj fields)) = .ok (.mkObj fields) := by
  unfold loads
  rw [loadJson_canonicalJson (Json.canonical_mkObj canonical)]
  rfl

/-- What a completion announces. -/
theorem loads_completeShape {transfer : String} {count : Nat} {digest : Bytes} :
    ∃ announced,
      loads (TransferStream.completeShape transfer count digest).plaintext = .ok announced ∧
      integerOr (announced.getD "count") 0 = .ok count ∧
      chainOf announced = Channel.hex digest := by
  have canonical : ∀ field ∈ [("count", Json.int count), ("chain", .str (Channel.hex digest))],
      field.2.Canonical := by
    simp [Json.Canonical]
  refine ⟨.mkObj [("count", .int count), ("chain", .str (Channel.hex digest))], ?_, ?_, ?_⟩
  · unfold TransferStream.completeShape
    dsimp only
    exact loads_canonicalJson canonical
  · rw [Json.getD, Json.get?_mkObj]
    exact integerOr_int count
  · rw [chainOf, Json.getD, Json.get?_mkObj]
    exact toText_orElse_str _

/-- A completion finds its transfer whole exactly when the note holds the items
that were announced, and there are any. -/
theorem whole_iff (size : ∀ data, (suite.sha256 data).length = 32) {note : Json}
    {origin transfer : String} {entries contents : List (Bytes × Int)} {digest : Bytes}
    (held : Held suite note origin entries) (drawn : Channel.TransferId origin)
    (drawn' : Channel.TransferId transfer)
    (collisionFree : Channel.CollisionFree suite
      (Channel.hashed suite origin entries ++ Channel.hashed suite transfer contents))
    (announced : Channel.chainDigest suite transfer contents = .ok digest) :
    (decide ((contents.length : Int) ≤ (entries.length : Int)) &&
      decide (chainOf note = Channel.hex digest)) = true ↔
      entries ≠ [] ∧ origin = transfer ∧ entries = contents := by
  rw [Bool.and_eq_true_iff, decide_eq_true_eq, decide_eq_true_eq]
  have chained := held.chain
  generalize chainOf note = text at chained
  constructor
  · rintro ⟨-, rfl⟩
    generalize same : Channel.hex digest = text at chained
    cases chained with
    | fresh => exact absurd same (Channel.hex_ne_empty (digest_nonempty size announced))
    | reached nonempty digested =>
        rw [← Channel.hex_injective same] at digested
        obtain ⟨rfl, rfl⟩ := Channel.chainDigest_injective size drawn drawn' collisionFree
          digested announced
        exact ⟨nonempty, rfl, rfl⟩
  · rintro ⟨nonempty, rfl, rfl⟩
    refine ⟨Int.le_refl _, ?_⟩
    cases chained with
    | fresh => exact absurd rfl nonempty
    | reached _ digested =>
        rw [announced] at digested
        cases digested
        rfl

/-- The note a completion leaves. -/
def completeNote (note announced : Json) (expected received : Int) : Json :=
  ((note.setField "done" (.bool true)).setField "expected" (.int expected)).setField
    "complete" (.bool (decide (expected ≤ received) &&
      decide (chainOf note = chainOf announced)))

theorem run_handleComplete {deviceId : String} {plaintext : Bytes} {announced : Json}
    {expected received : Int} {world : World} (loaded : loads plaintext = .ok announced)
    (counted : integerOr (announced.getD "count") 0 = .ok expected)
    (held : receivedOf (noteOf world deviceId) = .ok received) :
    (handleComplete deviceId plaintext).run world =
      (.ok (), withNote world deviceId
        (completeNote (noteOf world deviceId) announced expected received)) := by
  have asked : (askStore fun store => stateOrEmpty store incomingState).run world =
      (.ok (notes world), world) := rfl
  unfold handleComplete
  rw [run_bind_ok (run_lift_eq loaded world), run_bind_ok asked]
  dsimp only
  rw [run_bind_ok (run_lift_eq counted world)]
  exact run_bind_ok (run_lift_eq held world)

/-- The note an item leaves. -/
def extendedNote (note : Json) (transfer chain : String) (received expected : Int) : Json :=
  ((((note.setField "transfer" (.str transfer)).setField "received"
    (.int (received + 1))).setField "expected" (.int expected)).setField "chain"
      (.str chain)).setField "done" (.bool false)

theorem run_applyItem {deviceId transfer : String} {plaintext : Bytes} {seq : Int}
    {item : Json} {chain : String} {received expected : Int} {world merged : World}
    (loaded : loads plaintext = .ok item)
    (merges : (mergeItem suite environment account (item.getD "kind")
      (item.eraseField "kind")).run world = (.ok (), merged))
    (extended : extendChain suite transfer
      ((itemNote ((notes world).getD deviceId) transfer).getD "chain") plaintext seq = .ok chain)
    (held : receivedOf (itemNote ((notes world).getD deviceId) transfer) = .ok received)
    (counted : integerOr ((itemNote ((notes world).getD deviceId) transfer).getD "expected") 0 =
      .ok expected) :
    (applyItem suite environment account deviceId transfer plaintext seq).run world =
      (.ok (), merged.withState incomingState ((notes world).setField deviceId
        (extendedNote (itemNote ((notes world).getD deviceId) transfer) transfer chain
          received expected))) := by
  have asked : (askStore fun store => stateOrEmpty store incomingState).run world =
      (.ok (notes world), world) := rfl
  unfold applyItem
  rw [run_bind_ok (run_lift_eq loaded world), run_bind_ok asked]
  dsimp only
  rw [run_bind_ok merges]
  refine (run_bind_ok (run_lift_eq extended merged)).trans ?_
  refine (run_bind_ok (run_lift_eq held merged)).trans ?_
  refine (run_bind_ok (run_lift_eq counted merged)).trans ?_
  rfl

end NoKnowledge.Core.TransferProgress

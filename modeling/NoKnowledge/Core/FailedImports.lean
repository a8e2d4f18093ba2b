import NoKnowledge.Core.ExportFile
import NoKnowledge.Core.HistoryGate
import NoKnowledge.Core.MergeRepeat

/-!
# Imports that fail

The merge of a bundle writes item by item.  When an item cannot be read or
stored, what was written for the items before it stays: a failed import leaves
the store as it was only if it found all of them there already.
-/

namespace NoKnowledge.Core.FailedImports

open Prog History HistoryGate MergeRepeat ExportFile

variable {suite : Suite} {environment : Environment} {account : Account}

def Fails {α : Type} (program : ClientProg α) (world : World) : Prop :=
  ∃ raised final, program.run world = (.error raised, final)

/-- The worlds with one store. -/
abbrev storing : Frame World := keeping World.store

theorem keeps_storing_time : Keeps storing (time environment) := fun _ => rfl

theorem onStore_fails {α : Type} {body : StoreProg α} {world final : World} {raised : Raised}
    (unchanged : ∀ raised after, body.run world.store = (.error raised, after) →
      after = world.store)
    (failed : (onStore body).run world = (.error raised, final)) :
    final.store = world.store := by
  have ran : (onStore body).run world = ((body.run world.store).1,
      { world with store := (body.run world.store).2 }) := rfl
  obtain ⟨result, same⟩ := Prod.mk.inj (ran.symm.trans failed)
  rw [← same]
  exact unchanged raised _ (Prod.ext result rfl)

/-- A contact that cannot be merged is not written. -/
theorem mergeContact_fails {item : Json} {world final : World} {raised : Raised}
    (failed : (mergeContact suite environment account item).run world =
      (.error raised, final)) : final.store = world.store := by
  show storing.rel world final
  refine fails_bind failed (keeps_lift _) fun id first attempted failed => ?_
  dsimp only at failed
  split at failed
  · cases failed
  · refine fails_bind failed (keeps_askStore _) fun found second asked failed => ?_
    cases found with
    | some row => cases failed
    | none =>
        refine fails_bind failed (keeps_bind keeps_storing_time fun _ => keeps_pure _)
          fun now third timed failed => ?_
        refine fails_bind failed (keeps_lift _) fun row fourth read failed => ?_
        rcases bind_raises failed with refused | ⟨_, last, _, finished⟩
        · apply onStore_fails _ refused
          intro other after stored
          rcases bind_raises stored with overflows | ⟨_, middle, _, written⟩
          · cases bounded : Sql.integer row.createdAt with
            | error wrong =>
                rw [bounded] at overflows
                cases overflows
                rfl
            | ok value =>
                rw [bounded] at overflows
                cases overflows
          · cases written
        · cases finished

/-- A message that cannot be merged is not written. -/
theorem mergeMessage_fails {progress : MessageIndex × Counts} {item : Json}
    {world final : World} {raised : Raised}
    (failed : (mergeMessage suite environment account progress item).run world =
      (.error raised, final)) : final.store = world.store := by
  have outcome : Merge suite environment account item progress world _ :=
    run_mergeMessage progress item world
  rw [failed] at outcome
  cases outcome
  rfl

/-- A chunk that cannot be merged is not written. -/
theorem mergeChunk_fails {counts : Counts} {chunk : Json} {world final : World}
    {raised : Raised}
    (failed : (mergeChunk environment counts chunk).run world = (.error raised, final)) :
    final.store = world.store := by
  show storing.rel world final
  refine fails_bind failed (keeps_lift _) fun id first attempted failed => ?_
  dsimp only at failed
  split at failed
  · cases failed
  · refine fails_bind failed (keeps_lift _) fun data second decoded failed => ?_
    refine fails_bind failed (keeps_askStore _) fun held third asked failed => ?_
    split at failed
    · cases failed
    · refine fails_bind failed keeps_storing_time fun now fourth timed failed => ?_
      rcases bind_raises failed with refused | ⟨_, last, _, finished⟩
      · cases refused
      · cases finished

/-- A loop stops at the first item that fails. -/
theorem foldlM_stops {α β : Type} {step : β → α → ClientProg β} {before after : List α}
    {item : α} {start accumulated : β} {world middle final : World} {raised : Raised}
    (ran : (before.foldlM step start).run world = (.ok accumulated, middle))
    (failed : (step accumulated item).run middle = (.error raised, final)) :
    ((before ++ item :: after).foldlM step start).run world = (.error raised, final) := by
  have := @lawful World Raised
  rw [List.foldlM_append, run_bind_ok ran, List.foldlM_cons, run_bind_error failed]

variable (suite environment account) in
/-- The first thing a merge does not find in the store is an item that it cannot
merge. -/
inductive StopsEarly (bundle : Json) (world : World) : Prop
  | contact {before after : List Json} {item : Json}
      (contactsRead : itemsOf bundle "contacts" = .ok (before ++ item :: after))
      (filed : ∀ other ∈ before, Filed suite account world.store.contacts other)
      (fails : Fails (mergeContact suite environment account item) world)
  | message {contacts before after : List Json} {item : Json}
      (contactsRead : itemsOf bundle "contacts" = .ok contacts)
      (filed : ∀ other ∈ contacts, Filed suite account world.store.contacts other)
      (messagesRead : itemsOf bundle "messages" = .ok (before ++ item :: after))
      (absorbed : ∀ other ∈ before, Absorbed suite account world.store.messages other)
      (fails : Fails (mergeMessage suite environment account
        (messageIndex suite world.store (account.identity.identityId suite), {}) item) world)
  | chunk {contacts messages before after : List Json} {item : Json}
      (contactsRead : itemsOf bundle "contacts" = .ok contacts)
      (filed : ∀ other ∈ contacts, Filed suite account world.store.contacts other)
      (messagesRead : itemsOf bundle "messages" = .ok messages)
      (absorbed : ∀ other ∈ messages, Absorbed suite account world.store.messages other)
      (chunksRead : itemsOf bundle "chunks" = .ok (before ++ item :: after))
      (cached : ∀ other ∈ before, Cached world.store other)
      (fails : Fails (mergeChunk environment {} item) world)

/-- The step of the loop over the contacts fails with the merge of its item. -/
theorem run_contactStep_error {item : Json} {counts : Counts} {world final : World}
    {raised : Raised} :
    (do
      if ← mergeContact suite environment account item then
        return { counts with contacts := counts.contacts + 1 }
      else return counts : ClientProg Counts).run world = (.error raised, final) ↔
      (mergeContact suite environment account item).run world = (.error raised, final) := by
  constructor
  · intro failed
    rcases bind_raises failed with here | ⟨added, middle, -, later⟩
    · exact here
    · cases added <;> cases later
  · exact run_bind_error

theorem run_mergeIndexed_absorbed {items : List Json} {counts : Counts} {world : World}
    (absorbed : ∀ item ∈ items, Absorbed suite account world.store.messages item) :
    (mergeIndexed suite environment account items counts).run world = (.ok counts, world) := by
  unfold mergeIndexed mergeMessages
  rw [run_bind_ok (run_askStore _ _), run_bind_ok (run_mergeMessages_absorbed absorbed)]
  rfl

/-- A merge that stops early leaves the store alone. -/
theorem mergeBundle_of_stopsEarly {bundle : Json} {world : World}
    (stops : StopsEarly suite environment account bundle world) :
    ∃ raised final, (mergeBundle suite environment account bundle).run world =
      (.error raised, final) ∧ final.store = world.store := by
  unfold mergeBundle
  cases stops with
  | contact contactsRead filed fails =>
      obtain ⟨raised, final, failed⟩ := fails
      refine ⟨raised, final, ?_, mergeContact_fails failed⟩
      rw [contactsRead, run_bind_ok (run_lift_ok _ world)]
      exact run_bind_error (foldlM_stops (run_mergeContacts_filed filed)
        (run_contactStep_error.mpr failed))
  | message contactsRead filed messagesRead absorbed fails =>
      obtain ⟨raised, final, failed⟩ := fails
      refine ⟨raised, final, ?_, mergeMessage_fails failed⟩
      rw [contactsRead, run_bind_ok (run_lift_ok _ world),
        run_bind_ok (run_mergeContacts_filed filed), messagesRead,
        run_bind_ok (run_lift_ok _ world)]
      apply run_bind_error
      unfold mergeIndexed mergeMessages
      rw [run_bind_ok (run_askStore _ _)]
      exact run_bind_error (foldlM_stops (run_mergeMessages_absorbed absorbed) failed)
  | chunk contactsRead filed messagesRead absorbed chunksRead cached fails =>
      obtain ⟨raised, final, failed⟩ := fails
      refine ⟨raised, final, ?_, mergeChunk_fails failed⟩
      rw [contactsRead, run_bind_ok (run_lift_ok _ world),
        run_bind_ok (run_mergeContacts_filed filed), messagesRead,
        run_bind_ok (run_lift_ok _ world),
        run_bind_ok (run_mergeIndexed_absorbed absorbed), chunksRead,
        run_bind_ok (run_lift_ok _ world)]
      exact foldlM_stops (run_mergeChunks_cached cached) failed

theorem EachItem.first {accepts : Json → MessageIndex → World → Prop}
    {before after : List Json} {progress : MessageIndex × Counts} {world : World}
    (each : EachItem suite environment account accepts (before ++ after) progress world) :
    EachItem suite environment account accepts before progress world := by
  induction before generalizing progress world with
  | nil => trivial
  | cons item before induction =>
      exact ⟨each.1, fun next later ran => induction (each.2 next later ran)⟩

theorem EachChunk.first {accepts : Json → World → Prop} {before after : List Json}
    {counts : Counts} {world : World}
    (each : EachChunk environment accepts (before ++ after) counts world) :
    EachChunk environment accepts before counts world := by
  induction before generalizing counts world with
  | nil => trivial
  | cons item before induction =>
      exact ⟨each.1, fun next later ran => induction (each.2 next later ran)⟩

/-- Contacts that are filed in the end were filed before, when no contact was
added. -/
theorem filed_before {items : List Json} {counts : Counts} {world middle final : World}
    (merged : (mergeContacts suite environment account items {}).run world =
      (.ok counts, middle))
    (grown : contactsGrow.rel middle final)
    (same : final.store.contacts = world.store.contacts) :
    ∀ item ∈ items, Filed suite account world.store.contacts item := by
  intro item member
  obtain ⟨id, attempted, known⟩ := filed_of_mergeContacts merged item member
  rw [← same]
  exact ⟨id, attempted, known.imp_right (grown _)⟩

/-- Messages that are absorbed in the end were absorbed before, when the messages
are the same. -/
theorem absorbed_before {items : List Json} {counts : Counts}
    {progress : MessageIndex × Counts} {world middle final : World}
    (settles : EachItem suite environment account (Settles suite environment account) items
      (messageIndex suite world.store (account.identity.identityId suite), counts) world)
    (merged : (items.foldlM (mergeMessage suite environment account)
      (messageIndex suite world.store (account.identity.identityId suite), counts)).run world =
        (.ok progress, middle))
    (kept : final.store.messages = middle.store.messages)
    (same : final.store.messages = world.store.messages) :
    ∀ item ∈ items, Absorbed suite account world.store.messages item := by
  have all := @mergeMessages_absorbs suite environment account items [] _ progress world
    middle (tracks_messageIndex world.store) (fun _ member => absurd member List.not_mem_nil)
    settles merged
  rwa [List.append_nil, ← kept, same] at all

theorem cached_before {items : List Json} {world middle final : World}
    (cached : ∀ item ∈ items, Cached middle.store item) (kept : final.store = middle.store)
    (same : final.store.localBlobs = world.store.localBlobs) :
    ∀ item ∈ items, Cached world.store item := by
  intro item member
  obtain ⟨id, attempted, found⟩ := cached item member
  refine ⟨id, attempted, found.imp_right fun held => ⟨held.1, ?_⟩⟩
  rw [Store.getLocalBlob, ← same, kept]
  exact held.2

/-- The loop over the contacts fails at a contact; those before it were filed, when no
contact was added. -/
theorem contacts_stop {contacts : List Json} {world final : World} {raised : Raised}
    (failed : (mergeContacts suite environment account contacts {}).run world =
      (.error raised, final))
    (same : final.store.contacts = world.store.contacts) :
    ∃ before item after, contacts = before ++ item :: after ∧
      (∀ other ∈ before, Filed suite account world.store.contacts other) ∧
      Fails (mergeContact suite environment account item) world := by
  obtain ⟨before, item, after, accumulated, middle, split, ran, stopped⟩ := foldlM_raises failed
  have refused := run_contactStep_error.mp stopped
  have stored := mergeContact_fails refused
  have known := filed_before ran (contactsGrow.refl middle)
    ((congrArg Store.contacts stored).symm.trans same)
  have idle := (@run_mergeContacts_filed suite environment account _ {} world known).symm.trans
    ran
  cases idle
  exact ⟨before, item, after, split, known, raised, final, refused⟩

/-- The loop over the messages fails at a message; those before it were absorbed, when
the messages stay the same. -/
theorem messages_stop {messages : List Json} {world final : World} {raised : Raised}
    (settled : EachItem suite environment account (Settles suite environment account) messages
      (messageIndex suite world.store (account.identity.identityId suite), {}) world)
    (failed : (mergeIndexed suite environment account messages {}).run world =
      (.error raised, final))
    (same : final.store.messages = world.store.messages) :
    ∃ before item after, messages = before ++ item :: after ∧
      (∀ other ∈ before, Absorbed suite account world.store.messages other) ∧
      Fails (mergeMessage suite environment account
        (messageIndex suite world.store (account.identity.identityId suite), {}) item)
        world := by
  unfold mergeIndexed mergeMessages at failed
  rw [run_bind_ok (run_askStore _ _)] at failed
  rcases bind_raises failed with stopped | ⟨progress, middle, -, finished⟩
  · obtain ⟨before, item, after, accumulated, middle, rfl, ran, refused⟩ :=
      foldlM_raises stopped
    have kept := congrArg Store.messages (mergeMessage_fails refused)
    have found := absorbed_before (EachItem.first settled) ran kept same
    have passed := (@run_mergeMessages_absorbed suite environment account _ {} world
      found).symm.trans ran
    cases passed
    exact ⟨before, item, after, rfl, found, raised, final, refused⟩
  · cases finished

/-- Messages that were merged were absorbed before, when they stay the same to the end. -/
theorem absorbed_of_mergeIndexed {messages : List Json} {counted : Counts}
    {world stored final : World}
    (settled : EachItem suite environment account (Settles suite environment account) messages
      (messageIndex suite world.store (account.identity.identityId suite), {}) world)
    (indexed : (mergeIndexed suite environment account messages {}).run world =
      (.ok counted, stored))
    (kept : final.store.messages = stored.store.messages)
    (same : final.store.messages = world.store.messages) :
    ∀ item ∈ messages, Absorbed suite account world.store.messages item := by
  unfold mergeIndexed mergeMessages at indexed
  rw [run_bind_ok (run_askStore _ _)] at indexed
  obtain ⟨progress, middle, merging, finished⟩ := bind_returns indexed
  cases finished
  exact absorbed_before settled merging kept same

/-- The loop over the chunks fails at a chunk; those before it were cached, when the
cache stays the same. -/
theorem chunks_stop {chunks : List Json} {world final : World} {raised : Raised}
    (fits : EachChunk environment Fits chunks {} world)
    (failed : (mergeChunks environment chunks {}).run world = (.error raised, final))
    (same : final.store.localBlobs = world.store.localBlobs) :
    ∃ before item after, chunks = before ++ item :: after ∧
      (∀ other ∈ before, Cached world.store other) ∧
      Fails (mergeChunk environment {} item) world := by
  obtain ⟨before, item, after, accumulated, middle, rfl, ran, refused⟩ := foldlM_raises failed
  have cached := @mergeChunks_caches environment before [] {} accumulated world middle
    (fun _ member => absurd member List.not_mem_nil) (EachChunk.first fits) ran
  rw [List.append_nil] at cached
  have held := cached_before cached (mergeChunk_fails refused) same
  have again := (@run_mergeChunks_cached environment before {} world held).symm.trans ran
  cases again
  exact ⟨before, item, after, rfl, held, raised, final, refused⟩

/-- A merge that fails and leaves the tables alone stops early. -/
theorem stopsEarly_of_same {bundle : Json} {contacts messages chunks : List Json}
    {world final : World} {raised : Raised}
    (contactsRead : itemsOf bundle "contacts" = .ok contacts)
    (messagesRead : itemsOf bundle "messages" = .ok messages)
    (chunksRead : itemsOf bundle "chunks" = .ok chunks)
    (settles : SettlesBundle suite environment account bundle world)
    (fits : FitsBundle suite environment account bundle world)
    (failed : (mergeBundle suite environment account bundle).run world =
      (.error raised, final))
    (same : SameTables final.store world.store) :
    StopsEarly suite environment account bundle world := by
  unfold mergeBundle at failed
  rw [contactsRead, run_bind_ok (run_lift_ok contacts world)] at failed
  rcases bind_raises failed with inContacts | ⟨counts, filed, merged, failed⟩
  · obtain ⟨before, item, after, rfl, known, fails⟩ := contacts_stop inContacts same.contacts
    exact .contact contactsRead known fails
  · have settled := settles contacts messages counts filed contactsRead messagesRead merged
    rw [messagesRead, run_bind_ok (run_lift_ok messages filed)] at failed
    rcases bind_raises failed with inMessages | ⟨counted, stored, indexed, failed⟩
    · have grown := @Permissive.mergeIndexed _ suite environment account
        permissive_contactsGrow messages counts filed
      rw [after_eq inMessages] at grown
      have known := filed_before merged grown same.contacts
      have idle := (@run_mergeContacts_filed suite environment account _ {} world
        known).symm.trans merged
      cases idle
      obtain ⟨before, item, after, rfl, found, fails⟩ :=
        messages_stop settled inMessages same.messages
      exact .message contactsRead known messagesRead found fails
    · rw [chunksRead, run_bind_ok (run_lift_ok chunks stored)] at failed
      have byMessages := @Permissive.mergeIndexed _ suite environment account
        permissive_contactsGrow messages counts filed
      have byChunks := @Receptive.mergeChunks _ environment
        permissive_contactsGrow.toReceptive chunks counted stored
      have passed := @Receptive.mergeChunks _ environment receptive_aside chunks counted stored
      rw [after_eq indexed] at byMessages
      rw [after_eq failed] at byChunks passed
      have known := filed_before merged (contactsGrow.trans byMessages byChunks) same.contacts
      have idle := (@run_mergeContacts_filed suite environment account _ {} world
        known).symm.trans merged
      cases idle
      have found := absorbed_of_mergeIndexed settled indexed passed.messages same.messages
      have quiet := (@run_mergeIndexed_absorbed suite environment account _ {} world
        found).symm.trans indexed
      cases quiet
      have fitting := fits contacts messages chunks {} world {} world contactsRead messagesRead
        chunksRead merged indexed
      obtain ⟨before, item, after, rfl, held, fails⟩ :=
        chunks_stop fitting failed same.localBlobs
      exact .chunk contactsRead known messagesRead found chunksRead held fails

variable {library : Library}

variable (library suite) in
/-- The bundle of a file, once it has passed the checks. -/
def decoded (data : Bytes) (passphrase : String) : Except Raised Json := do
  decodeBundle (← openFile library suite data passphrase)

theorem run_importHistory (data : Bytes) (passphrase : String) (world : World) :
    (ExportFile.importHistory library suite environment account data passphrase).run world =
      match decoded suite library data passphrase with
      | .error raised => (.error raised, world)
      | .ok bundle => (mergeBundle suite environment account bundle).run world := by
  unfold ExportFile.importHistory decoded
  cases openFile library suite data passphrase with
  | error raised => rfl
  | ok opened =>
      rw [run_bind_ok (run_lift_ok opened world), except_ok_bind]
      unfold History.importHistory
      cases decodeBundle opened with
      | error raised => rfl
      | ok bundle => rfl

/-- The lists of a bundle that passed the checks. -/
theorem itemsOf_of_decoded {data : Bytes} {passphrase : String} {bundle : Json}
    (passed : decoded suite library data passphrase = .ok bundle) (field : String)
    (member : field ∈ bundleFields) : ∃ items, itemsOf bundle field = .ok items := by
  obtain ⟨opened, -, checked⟩ := except_bind_eq_ok.mp passed
  have same := decodeBundle_eq checked
  subst same
  simp only [decodeBundle, except_bind_eq_ok] at checked
  obtain ⟨_, refused, checked⟩ := checked
  split at checked
  · cases checked
  · rename_i missing
    have isList : isArr (bundle.getD field) = true := by
      simpa using List.find?_eq_none.mp missing field member
    rw [refuse_eq_ok, Bool.or_eq_false_iff, Bool.not_eq_false'] at refused
    cases bundle with
    | obj fields =>
        rw [itemsOf, Json.attempt_obj, except_ok_bind]
        cases found : (Json.obj fields).getD field with
        | arr items =>
            cases items with
            | nil => exact ⟨[], rfl⟩
            | cons item items => exact ⟨item :: items, rfl⟩
        | _ =>
            rw [found] at isList
            cases isList
    | _ => cases refused.1

/-- A failed import leaves contacts, messages and cached chunks as they were if the
first thing it does not find in the store is the item that it cannot merge, and
for a bundle whose items are stored under their own keys, into a cache with room
for its chunks, only then. -/
theorem failed_import_leaves_store {data : Bytes} {passphrase : String} {world final : World}
    {raised : Raised}
    (failed : (ExportFile.importHistory library suite environment account data
      passphrase).run world = (.error raised, final)) :
    ((∀ bundle, decoded suite library data passphrase = .ok bundle →
        StopsEarly suite environment account bundle world) →
      SameTables final.store world.store) ∧
    ((∀ bundle, decoded suite library data passphrase = .ok bundle →
        SettlesBundle suite environment account bundle world ∧
          FitsBundle suite environment account bundle world) →
      SameTables final.store world.store →
        ∀ bundle, decoded suite library data passphrase = .ok bundle →
          StopsEarly suite environment account bundle world) := by
  rw [run_importHistory] at failed
  cases opened : decoded suite library data passphrase with
  | error refused =>
      rw [opened] at failed
      cases failed
      exact ⟨fun _ => ⟨rfl, rfl, rfl⟩, fun _ _ bundle same => by cases same⟩
  | ok bundle =>
      rw [opened] at failed
      constructor
      · intro stops
        obtain ⟨other, ended, ran, same⟩ := mergeBundle_of_stopsEarly (stops bundle rfl)
        cases failed.symm.trans ran
        rw [same]
        exact ⟨rfl, rfl, rfl⟩
      · intro regular same other read
        cases read
        obtain ⟨settles, fits⟩ := regular bundle rfl
        obtain ⟨contacts, contactsRead⟩ :=
          itemsOf_of_decoded opened "contacts" (by decide)
        obtain ⟨messages, messagesRead⟩ :=
          itemsOf_of_decoded opened "messages" (by decide)
        obtain ⟨chunks, chunksRead⟩ :=
          itemsOf_of_decoded opened "chunks" (by decide)
        exact stopsEarly_of_same contactsRead messagesRead chunksRead settles fits failed same

namespace ImportSpecimen

/-- A message whose time is no number. -/
def untimed : Json :=
  .obj [("contact_id", .str "peer"), ("direction", .str "received"), ("remote_id", .str "y"),
    ("ts", .str "soon")]

def timed : Json := messageWith [("direction", .str "received")]

def dated : DatedBundle where
  created := 7
  fromDevice := "legacy"
  since := 0
  until_ := 9
  bundle := { contacts := [], messages := [timed, untimed], chunks := [], skipped := [] }

theorem sorted_dated : dated.sorted = dated := by
  have timedSorted : timed.normalize = timed := by decide
  have untimedSorted : untimed.normalize = untimed := by decide
  simp only [DatedBundle.sorted, dated, List.map_cons, List.map_nil, timedSorted,
    untimedSorted]

/-- There is a file with this bundle. -/
theorem exists_file : ∃ data,
    decoded Symbolic.suite plainLibrary data "correct horse" = .ok dated.toDict := by
  have short : (fourBytes (canonicalJson (exportHeader dated [])).length).toBool = true := by
    decide +kernel
  obtain ⟨octets, encoded⟩ : ∃ octets,
      fourBytes (canonicalJson (exportHeader dated [])).length = .ok octets := by
    cases encoded : fourBytes (canonicalJson (exportHeader dated [])).length with
    | error raised =>
        rw [encoded] at short
        cases short
    | ok octets => exact ⟨octets, rfl⟩
  have derived : deriveKeyFromPassphrase plainLibrary "correct horse" [] pbkdf2Iterations =
      .ok ([] ++ utf8 "correct horse") := rfl
  obtain ⟨ciphertext, sealed⟩ : ∃ ciphertext, sealBundle plainLibrary Symbolic.suite dated
      ([] ++ utf8 "correct horse") (List.replicate 12 0) = .ok ciphertext := ⟨_, rfl⟩
  obtain ⟨data, built⟩ : ∃ data,
      layout (exportHeader dated []) (List.replicate 12 0) ciphertext = .ok data := by
    unfold layout
    dsimp only
    rw [encoded]
    exact ⟨_, rfl⟩
  have opened : openFile plainLibrary Symbolic.suite data "correct horse" =
      .ok dated.sorted.toDict :=
    openFile_of_layout restores_plainLibrary (by decide) List.length_replicate derived sealed
      built
  refine ⟨data, ?_⟩
  rw [decoded, opened, except_ok_bind, sorted_dated]
  exact decodeBundle_toDict dated

/-- The row of the message that can be merged. -/
def known : Message where
  id := "known"
  identityId := Client.identityId Symbolic.suite .specimen
  contactId := "peer"
  direction := "received"
  type := "text"
  body := .obj []
  remoteId := some "x"
  ts := 1
  state := none

def holding : World where
  store := { messages := ⟨[known], List.nodup_singleton _⟩ }

theorem fails_of_toBool {α : Type} {program : ClientProg α} {world : World}
    (failed : (program.run world).1.toBool = false) : Fails program world := by
  cases ran : program.run world with
  | mk result final =>
      rw [ran] at failed
      cases result with
      | error raised => exact ⟨raised, final, ran⟩
      | ok value => cases failed

/-- In an empty store the first message is not found and can be merged. -/
theorem not_stopsEarly_empty :
    ¬ StopsEarly Symbolic.suite .idle .specimen dated.toDict { store := {} } := by
  obtain ⟨contactsRead, messagesRead, chunksRead⟩ := itemsOf_toDict dated
  intro stops
  cases stops with
  | contact split filed fails =>
      rw [contactsRead] at split
      exact absurd (Except.ok.inj split) (List.append_ne_nil_of_right_ne_nil _
        (List.cons_ne_nil _ _)).symm
  | message contactsFound filed split absorbed fails =>
      rename_i before after item
      rw [messagesRead] at split
      have items := Except.ok.inj split
      cases before with
      | nil =>
          obtain ⟨rfl, -⟩ := List.cons.inj items
          obtain ⟨raised, final, refused⟩ := fails
          have merges : ((mergeMessage Symbolic.suite .idle .specimen
              (messageIndex Symbolic.suite ({ store := {} } : World).store
                (Account.specimen.identity.identityId Symbolic.suite), {}) timed).run
                  { store := {} }).1.toBool = true := by
            decide +kernel
          rw [show (mergeMessage _ _ _ _ timed).run _ = _ from refused] at merges
          cases merges
      | cons first before =>
          obtain ⟨rfl, -⟩ := List.cons.inj items
          obtain ⟨contactId, attempted, found⟩ := absorbed timed List.mem_cons_self
          cases attempted
          obtain ⟨key, row, rank, -, latest, -⟩ := found rfl
          exact absurd latest.stored List.not_mem_nil
  | chunk contactsFound filed messagesFound absorbed split cached fails =>
      rw [chunksRead] at split
      exact absurd (Except.ok.inj split) (List.append_ne_nil_of_right_ne_nil _
        (List.cons_ne_nil _ _)).symm

theorem settlesBundle_empty :
    SettlesBundle Symbolic.suite .idle .specimen dated.toDict { store := {} } := by
  obtain ⟨contactsRead, messagesRead, -⟩ := itemsOf_toDict dated
  intro contacts messages counts middle contactsFound messagesFound merged
  rw [contactsRead] at contactsFound
  rw [messagesRead] at messagesFound
  cases contactsFound
  cases messagesFound
  cases merged
  refine ⟨⟨?_, ?_⟩, fun next later _ => ⟨⟨?_, ?_⟩, fun _ _ _ => trivial⟩⟩
  · intro key ts row _ keyed _ timed converted
    cases keyed
    cases timed
    cases converted
    exact ⟨rfl, fun old member => absurd member List.not_mem_nil⟩
  · intro key existing state _ present
    cases present
  · intro key ts row _ _ _ timed
    cases timed
  · intro key existing state _ _ given
    cases given

theorem fitsBundle_empty :
    FitsBundle Symbolic.suite .idle .specimen dated.toDict { store := {} } := by
  obtain ⟨-, -, chunksRead⟩ := itemsOf_toDict dated
  intro contacts messages chunks counts middle counted later _ _ chunksFound _ _
  rw [chunksRead] at chunksFound
  cases chunksFound
  trivial

end ImportSpecimen

open ImportSpecimen in
/-- A file with two messages, the second of which cannot be merged: it leaves alone a
store that has the first, and another one it does not. -/
theorem failed_import_leaves_store_late :
    ∃ data, (∃ raised final, (ExportFile.importHistory plainLibrary Symbolic.suite .idle
        .specimen data "correct horse").run holding = (.error raised, final) ∧
      SameTables final.store holding.store) ∧
    ∃ raised final, (ExportFile.importHistory plainLibrary Symbolic.suite .idle .specimen
        data "correct horse").run { store := {} } = (.error raised, final) ∧
      ¬ SameTables final.store {} := by
  obtain ⟨data, read⟩ := exists_file
  obtain ⟨contactsRead, messagesRead, chunksRead⟩ := itemsOf_toDict dated
  refine ⟨data, ?_, ?_⟩
  · have stops : StopsEarly Symbolic.suite .idle .specimen dated.toDict holding := by
      refine @StopsEarly.message Symbolic.suite .idle .specimen dated.toDict holding []
        [timed] [] untimed contactsRead (fun _ member => absurd member List.not_mem_nil)
        messagesRead ?_ ?_
      · intro other member
        rw [List.mem_singleton] at member
        subst member
        refine ⟨.str "peer", rfl, fun _ => ⟨_, known, 0, rfl, ?_, rfl, Nat.zero_le _⟩⟩
        refine ⟨List.mem_cons_self, rfl, rfl, fun row rowMember _ _ => ?_⟩
        cases List.mem_singleton.mp rowMember
        exact olderFirst_refl known
      · exact fails_of_toBool (by decide +kernel)
    obtain ⟨raised, final, ran, -⟩ := mergeBundle_of_stopsEarly stops
    have failed : (ExportFile.importHistory plainLibrary Symbolic.suite .idle .specimen data
        "correct horse").run holding = (.error raised, final) := by
      rw [run_importHistory, read]
      exact ran
    refine ⟨raised, final, failed, (failed_import_leaves_store failed).1 fun bundle other => ?_⟩
    rw [read] at other
    cases other
    exact stops
  · obtain ⟨raised, final, ran⟩ : Fails (mergeBundle Symbolic.suite .idle .specimen
        dated.toDict) { store := {} } := fails_of_toBool (by decide +kernel)
    have failed : (ExportFile.importHistory plainLibrary Symbolic.suite .idle .specimen data
        "correct horse").run { store := {} } = (.error raised, final) := by
      rw [run_importHistory, read]
      exact ran
    refine ⟨raised, final, failed, fun same => not_stopsEarly_empty ?_⟩
    refine (failed_import_leaves_store failed).2 (fun bundle other => ?_) same _ read
    rw [read] at other
    cases other
    exact ⟨settlesBundle_empty, fitsBundle_empty⟩

end NoKnowledge.Core.FailedImports

import NoKnowledge.Core.MessageMerge
import NoKnowledge.Crypto.SymbolicSuite
import NoKnowledge.Foundation.Summary

/-!
# Merging histories converges

Merging well-formed bundles leaves one row per message key, at the highest
state rank that the store or one of the bundles has for that key.  The result
is a summary of a set of facts, so neither the order of the bundles nor their
repetition matters.
-/

namespace NoKnowledge.Core.History

open Prog

variable {suite : Suite} {environment : Environment} {account : Account}

/-- A field that is a text with something in it. -/
def HasText (item : Json) (field : String) : Prop :=
  ∃ text, item.getD field = .str text ∧ text ≠ ""

/-- A field that is a text or missing. -/
def MayHaveText (item : Json) (field : String) : Prop :=
  ∃ text, item.getD field = nullable text

/-- An item that is stored with the key and the rank that it has itself, whatever
identity and identifier it is stored under. -/
def StoredAsGiven (suite : Suite) (item : Json) : Prop :=
  ∀ identityId messageId, ∃ ts row,
    ((item.getD "ts").orElse (.int 0)).toInt = .ok ts ∧
    Store.messageRow (inputOf identityId item messageId ts) = .ok row ∧
    row.id = messageId ∧ row.identityId = identityId ∧
    messageKey suite item = .ok (keyOf suite row) ∧
    rankOf (item.getD "state") = .ok (rowRank row)

/-- An item with a contact and without an identifier, stored as it is given. -/
structure MessageItem (suite : Suite) (item : Json) : Prop where
  contactId : HasText item "contact_id"
  noId : item.get? "id" = none
  stored : StoredAsGiven suite item

/-- An item whose fields are texts where texts are looked up. -/
structure TextItem (item : Json) : Prop where
  contactId : HasText item "contact_id"
  direction : HasText item "direction"
  type : HasText item "type"
  noId : item.get? "id" = none
  remoteId : MayHaveText item "remote_id"
  ts : ∃ ts, ((item.getD "ts").orElse (.int 0)).toInt = .ok ts ∧ Sql.fits ts = true
  state : MayHaveText item "state"

/-- The identifier a contact or a chunk is filed under. -/
def filedUnder (item : Json) : String := ((item.getD "id").orElse (.str "")).toText

structure ContactItem (item : Json) : Prop where
  isObject : item.isObj = true
  readable : filedUnder item = "" ∨
    ∀ identityId now, Sql.fits now = true →
      ∃ row, contactRow identityId item (filedUnder item) now = .ok row ∧
        Sql.fits row.createdAt = true

structure ChunkItem (chunk : Json) : Prop where
  isObject : chunk.isObj = true
  readable : filedUnder chunk = "" ∨
    ∃ text data, chunk.item "ct" = .ok text ∧ (Json.str text.toText).toBytes = .ok data

/-- A bundle whose items are well formed and whose message keys are pairwise
distinct. -/
structure WellFormed (suite : Suite) (bundle : Json) : Prop where
  contacts : ∃ items, itemsOf bundle "contacts" = .ok items ∧
    ∀ item ∈ items, ContactItem item
  messages : ∃ items, itemsOf bundle "messages" = .ok items ∧
    (∀ item ∈ items, MessageItem suite item) ∧ (items.map (messageKey suite)).Nodup
  chunks : ∃ items, itemsOf bundle "chunks" = .ok items ∧
    ∀ item ∈ items, ChunkItem item

/-- The messages of one identity. -/
def ownRows (store : Store) (identityId : String) : List Message :=
  (store.messages.filter fun row => row.identityId = identityId).rows

def itemFacts (suite : Suite) (items : List Json) : Set (MessageKey × Nat) :=
  {fact | ∃ item ∈ items, messageKey suite item = .ok fact.1 ∧
    rankOf (item.getD "state") = .ok fact.2}

theorem HasText.isObj {item : Json} {field : String} (present : HasText item field) :
    ∃ fields, item = .obj fields := by
  obtain ⟨text, read, _⟩ := present
  cases item with
  | obj fields => exact ⟨fields, rfl⟩
  | _ => cases read

theorem rankOf_nullable (text : Option String) :
    rankOf (nullable text) = .ok (stateRank text) := by
  cases text <;> rfl

theorem text_nullable (text : Option String) : Sql.text (nullable text) = .ok text := by
  cases text <;> rfl

/-- Texts are stored as they are given. -/
theorem TextItem.stored {item : Json} (wellFormed : TextItem item) (suite : Suite) :
    StoredAsGiven suite item := by
  intro identityId messageId
  obtain ⟨fields, rfl⟩ := wellFormed.contactId.isObj
  obtain ⟨contactId, contactRead, contactGiven⟩ := wellFormed.contactId
  obtain ⟨direction, directionRead, directionGiven⟩ := wellFormed.direction
  obtain ⟨type, typeRead, typeGiven⟩ := wellFormed.type
  obtain ⟨remoteId, remoteRead⟩ := wellFormed.remoteId
  obtain ⟨ts, timed, fits⟩ := wellFormed.ts
  obtain ⟨state, stateRead⟩ := wellFormed.state
  have tsBound : Sql.integer ts = .ok ts := Sql.integer_eq_ok.mpr ⟨fits, rfl⟩
  refine ⟨ts, { id := messageId, identityId, contactId, direction, type
                body := (Json.obj fields).getD "body", remoteId, ts, state },
    timed, ?_, rfl, rfl, ?_, ?_⟩
  · simp only [Store.messageRow, inputOf, contactRead, directionRead, typeRead,
      remoteRead, stateRead, Json.orElse_str directionGiven, Json.orElse_str typeGiven, tsBound,
      text_nullable]
    rfl
  · simp only [messageKey, Json.attempt_obj, contactRead, directionRead, typeRead,
      remoteRead, except_ok_bind, hashed_str, timed]
    cases remoteId with
    | none => rfl
    | some text =>
        by_cases blank : text = ""
        · subst blank
          rfl
        · simp [nullable, keyOf, blank]
          rfl
  · rw [stateRead, rankOf_nullable]
    rfl

theorem TextItem.messageItem {item : Json} (wellFormed : TextItem item) :
    MessageItem suite item :=
  ⟨wellFormed.contactId, wellFormed.noId, wellFormed.stored suite⟩

theorem MessageItem.not_malformed {item : Json} (wellFormed : MessageItem suite item)
    (tick : Nat) : ¬ Malformed suite environment account item tick := by
  obtain ⟨fields, rfl⟩ := wellFormed.contactId.isObj
  obtain ⟨ts, row, timed, converted, -, -, keyed, ranked⟩ :=
    wellFormed.stored (account.identity.identityId suite)
      (idAt environment (.obj fields) tick).1
  intro malformed
  cases malformed with
  | contactId refused => cases refused
  | key refused =>
      rw [keyed] at refused
      cases refused
  | state refused =>
      rw [ranked] at refused
      cases refused
  | ts refused =>
      rw [timed] at refused
      cases refused
  | row otherTimed refused =>
      rw [timed] at otherTimed
      cases otherTimed
      rw [converted] at refused
      cases refused

/-- An item without an identifier gets a drawn one. -/
theorem idAt_eq {item : Json} (noId : item.get? "id" = none) (tick : Nat) :
    idAt environment item tick = (drawnId environment tick, 1) := by
  simp [idAt, Json.getD, noId]

/-- The identifiers drawn before a tick differ from each other and from those in
use. -/
structure FreshIds (environment : Environment) (limit : Nat) (world : World) : Prop where
  distinct : ∀ first second, world.tick ≤ first → first < limit → world.tick ≤ second →
    second < limit → drawnId environment first = drawnId environment second →
      first = second
  unused : ∀ tick, world.tick ≤ tick → tick < limit → ∀ row ∈ world.store.messages,
    row.id ≠ drawnId environment tick

section Fresh

variable {limit : Nat} {world : World} (fresh : FreshIds environment limit world)

include fresh

theorem FreshIds.later {final : World} (kept : aside.rel world final) :
    FreshIds environment limit final where
  distinct := fun left right leftLater leftBelow rightLater rightBelow same =>
    fresh.distinct left right (kept.tick.trans leftLater) leftBelow
      (kept.tick.trans rightLater) rightBelow same
  unused := by
    intro tick later below row member
    rw [kept.messages] at member
    exact fresh.unused tick (kept.tick.trans later) below row member

variable {row : Message} (drawn : row.id = drawnId environment world.tick)
  (below : world.tick < limit)

include drawn below

/-- A message with a drawn identifier is a new row. -/
theorem FreshIds.get?_eq_none : world.store.messages.get? row.id = none := by
  apply Table.get?_eq_none.mpr
  intro other member
  rw [drawn]
  exact fresh.unused world.tick (Nat.le_refl _) below other member

theorem FreshIds.insert :
    (Store.insertMessage world.store.messages row).rows =
      world.store.messages.rows ++ [row] :=
  Table.upsert_of_none (fresh.get?_eq_none drawn below)

theorem FreshIds.inserted :
    FreshIds environment limit ({ world with tick := world.tick + 1 }.withMessages
      (Store.insertMessage world.store.messages row)) where
  distinct := fun left right leftLater leftBelow rightLater rightBelow same =>
    fresh.distinct left right (Nat.le_of_succ_le leftLater) leftBelow
      (Nat.le_of_succ_le rightLater) rightBelow same
  unused := by
    intro tick later tickBelow other member
    rw [World.withMessages_messages, Table.mem_iff, fresh.insert drawn below,
      List.mem_append, List.mem_singleton] at member
    rcases member with old | rfl
    · exact fresh.unused tick (Nat.le_of_succ_le later) tickBelow other old
    · rw [drawn]
      intro same
      have sameTick := fresh.distinct world.tick tick (Nat.le_refl _) below
        (Nat.le_of_succ_le later) tickBelow same
      rw [World.withMessages_tick, sameTick] at later
      exact absurd later (Nat.not_succ_le_self tick)

end Fresh

section Item

variable (suite environment account)

/-- The state of a merge that still has `items` to come: the rows summarize what
has been merged, and the index knows the rows of the keys to come. -/
structure Merging (limit : Nat) (total : Set (MessageKey × Nat)) (items : List Json)
    (progress : MessageIndex × Counts) (world : World) : Prop where
  distinct : (items.map (messageKey suite)).Nodup
  fresh : FreshIds environment limit world
  summary : ∃ facts, Summarizes (keyOf suite) rowRank
    (ownRows world.store (account.identity.identityId suite)) facts ∧
    facts ∪ itemFacts suite items = total
  absent : ∀ item ∈ items, ∀ key, messageKey suite item = .ok key →
    progress.1.get? key = none →
      key ∉ (ownRows world.store (account.identity.identityId suite)).map (keyOf suite)
  present : ∀ item ∈ items, ∀ key, messageKey suite item = .ok key →
    ∀ row, progress.1.get? key = some row →
      row ∈ ownRows world.store (account.identity.identityId suite) ∧
        keyOf suite row = key

end Item

theorem itemFacts_cons {item : Json} {items : List Json} {key : MessageKey} {rank : Nat}
    (keyed : messageKey suite item = .ok key)
    (ranked : rankOf (item.getD "state") = .ok rank) (facts : Set (MessageKey × Nat)) :
    insert (key, rank) facts ∪ itemFacts suite items =
      facts ∪ itemFacts suite (item :: items) := by
  ext fact
  simp only [itemFacts, Set.mem_union, Set.mem_insert_iff, Set.mem_ofPred_eq,
    List.mem_cons, exists_eq_or_imp, keyed, ranked, Except.ok.injEq, Prod.ext_iff]
  tauto

/-- The keys to come differ from the key of the item at hand. -/
theorem key_ne_of_nodup {item later : Json} {items : List Json}
    {key other : MessageKey} (distinct : ((item :: items).map (messageKey suite)).Nodup)
    (member : later ∈ items) (keyed : messageKey suite item = .ok key)
    (laterKeyed : messageKey suite later = .ok other) : other ≠ key := by
  rintro rfl
  rw [List.map_cons, List.nodup_cons] at distinct
  exact distinct.1 (List.mem_map.mpr ⟨later, member, laterKeyed.trans keyed.symm⟩)

theorem mem_ownRows {store : Store} {identityId : String} {row : Message} :
    row ∈ ownRows store identityId ↔
      row ∈ store.messages ∧ row.identityId = identityId := by
  rw [ownRows, ← Table.mem_iff, Table.mem_filter, decide_eq_true_iff]

theorem withState_at_identityId (state : Option String) (id : String) (row : Message) :
    (((Store.withState state).at id).apply row).identityId = row.identityId := by
  obtain ⟨after, changed⟩ := withState_at_apply state id row
  rw [changed]

theorem withState_at_keyOf (state : Option String) (id : String) (row : Message) :
    keyOf suite (((Store.withState state).at id).apply row) = keyOf suite row := by
  obtain ⟨after, changed⟩ := withState_at_apply state id row
  rw [changed]
  rfl

theorem keys_withState_at (state : Option String) (id : String) (rows : List Message) :
    (rows.map ((Store.withState state).at id).apply).map (keyOf suite) =
      rows.map (keyOf suite) := by
  rw [List.map_map]
  exact List.map_congr_left fun row _ => withState_at_keyOf state id row

theorem ownRows_setMessageState (world : World) (identityId id : String)
    (state : Option String) :
    ownRows (world.withMessages
        (Store.setMessageState world.store.messages id state)).store identityId =
      (ownRows world.store identityId).map ((Store.withState state).at id).apply := by
  simp only [ownRows, World.withMessages, Store.setMessageState, Table.update,
    Table.filter]
  rw [List.filter_map]
  congr 1
  apply List.filter_congr
  intro row _
  simp [withState_at_identityId]

/-- Raising a state keeps the keys and the ranks of the other rows. -/
theorem summarizes_raiseState {world : World} {identityId : String}
    {facts : Set (MessageKey × Nat)}
    (summary : Summarizes (keyOf suite) rowRank (ownRows world.store identityId) facts)
    {row : Message} (member : row ∈ ownRows world.store identityId) {state : String}
    (high : rowRank row ≤ stateRank (some state)) :
    Summarizes (keyOf suite) rowRank (ownRows (world.withMessages
      (Store.setMessageState world.store.messages row.id (some state))).store identityId)
      (insert (keyOf suite row, stateRank (some state)) facts) := by
  rw [ownRows_setMessageState]
  apply summary.raise member high (withState_at_keyOf (some state) row.id)
  · simp [Table.Change.at, Store.withState, rowRank]
  · intro other otherMember different
    have otherId : other.id ≠ row.id := by
      intro same
      rw [Table.unique (mem_ownRows.mp otherMember).1 (mem_ownRows.mp member).1 same]
        at different
      exact different rfl
    simp [Table.Change.at, otherId]

theorem FreshIds.ownRows_insert {limit : Nat} {world : World}
    (fresh : FreshIds environment limit world)
    {row : Message} (drawn : row.id = drawnId environment world.tick)
    (below : world.tick < limit) {identityId : String}
    (own : row.identityId = identityId) :
    ownRows ({ world with tick := world.tick + 1 }.withMessages
        (Store.insertMessage world.store.messages row)).store identityId =
      ownRows world.store identityId ++ [row] := by
  simp only [ownRows, World.withMessages, Table.filter, fresh.insert drawn below]
  rw [List.filter_append]
  simp [own]

section Step

variable {limit : Nat} {total : Set (MessageKey × Nat)} {item : Json}
  {items : List Json} {progress : MessageIndex × Counts} {world : World}
  {key : MessageKey}

section Outcomes

variable
  (merging : Merging suite environment account limit total (item :: items) progress world)

include merging

theorem Merging.kept {existing : Message} {rank : Nat}
    (keyed : messageKey suite item = .ok key)
    (found : progress.1.get? key = some existing)
    (ranked : rankOf (item.getD "state") = .ok rank)
    (low : rank ≤ stateRank existing.state) :
    Merging suite environment account limit total items progress world := by
  obtain ⟨facts, summary, whole⟩ := merging.summary
  obtain ⟨member, sameKey⟩ :=
    merging.present item List.mem_cons_self key keyed existing found
  refine ⟨(List.nodup_cons.mp merging.distinct).2, merging.fresh,
    ⟨_, summary.keep member low, ?_⟩, ?_, ?_⟩
  · rw [sameKey, itemFacts_cons keyed ranked, whole]
  · exact fun later member => merging.absent later (List.mem_cons_of_mem item member)
  · exact fun later member => merging.present later (List.mem_cons_of_mem item member)

theorem Merging.raised {existing : Message} {state : String} (counts : Counts)
    (keyed : messageKey suite item = .ok key)
    (found : progress.1.get? key = some existing)
    (incoming : item.getD "state" = .str state)
    (high : stateRank existing.state < stateRank (some state)) :
    Merging suite environment account limit total items (progress.1, counts)
      (world.withMessages
        (Store.setMessageState world.store.messages existing.id (some state))) := by
  obtain ⟨facts, summary, whole⟩ := merging.summary
  obtain ⟨member, sameKey⟩ :=
    merging.present item List.mem_cons_self key keyed existing found
  have ranked : rankOf (item.getD "state") = .ok (stateRank (some state)) := by
    rw [incoming]
    rfl
  refine ⟨(List.nodup_cons.mp merging.distinct).2, ⟨merging.fresh.distinct, ?_⟩,
    ⟨_, summarizes_raiseState summary member high.le, ?_⟩, ?_, ?_⟩
  · intro tick later below row rowMember
    obtain ⟨old, oldMember, rfl⟩ := Table.mem_update.mp rowMember
    rw [((Store.withState (some state)).at existing.id).keeps old]
    exact merging.fresh.unused tick later below old oldMember
  · rw [sameKey, itemFacts_cons keyed ranked, whole]
  · intro later laterMember other laterKeyed missing
    rw [ownRows_setMessageState, keys_withState_at]
    exact merging.absent later (List.mem_cons_of_mem item laterMember) other laterKeyed
      missing
  · intro later laterMember other laterKeyed row laterFound
    obtain ⟨rowMember, rowKey⟩ := merging.present later
      (List.mem_cons_of_mem item laterMember) other laterKeyed row laterFound
    refine ⟨?_, rowKey⟩
    have different : row.id ≠ existing.id := by
      intro same
      have sameRow := Table.unique (mem_ownRows.mp rowMember).1 (mem_ownRows.mp member).1
        same
      apply key_ne_of_nodup merging.distinct laterMember keyed laterKeyed
      rw [← rowKey, ← sameKey, sameRow]
    rw [ownRows_setMessageState]
    refine List.mem_map.mpr ⟨row, rowMember, ?_⟩
    simp [Table.Change.at, different]

theorem Merging.inserted {row : Message} (counts : Counts)
    (keyed : messageKey suite item = .ok key)
    (missing : progress.1.get? key = none)
    (drawn : row.id = drawnId environment world.tick) (below : world.tick < limit)
    (own : row.identityId = account.identity.identityId suite)
    (rowKey : keyOf suite row = key)
    (ranked : rankOf (item.getD "state") = .ok (rowRank row)) :
    Merging suite environment account limit total items
      (progress.1.insert key row, counts)
      ({ world with tick := world.tick + 1 }.withMessages
        (Store.insertMessage world.store.messages row)) := by
  obtain ⟨facts, summary, whole⟩ := merging.summary
  have new := merging.absent item List.mem_cons_self key keyed missing
  refine ⟨(List.nodup_cons.mp merging.distinct).2, merging.fresh.inserted drawn below,
    ⟨insert (keyOf suite row, rowRank row) facts, ?_, ?_⟩, ?_, ?_⟩
  · rw [merging.fresh.ownRows_insert drawn below own]
    exact summary.append (rowKey ▸ new)
  · rw [rowKey, itemFacts_cons keyed ranked, whole]
  · intro later laterMember other laterKeyed laterMissing
    have different := key_ne_of_nodup merging.distinct laterMember keyed laterKeyed
    rw [Dict.get?_insert_of_ne different] at laterMissing
    rw [merging.fresh.ownRows_insert drawn below own, List.map_append,
      List.map_singleton, List.mem_append, List.mem_singleton, rowKey]
    rintro (old | same)
    · exact merging.absent later (List.mem_cons_of_mem item laterMember) other laterKeyed
        laterMissing old
    · exact different same
  · intro later laterMember other laterKeyed found laterFound
    have different := key_ne_of_nodup merging.distinct laterMember keyed laterKeyed
    rw [Dict.get?_insert_of_ne different] at laterFound
    obtain ⟨foundMember, foundKey⟩ := merging.present later
      (List.mem_cons_of_mem item laterMember) other laterKeyed found laterFound
    refine ⟨?_, foundKey⟩
    rw [merging.fresh.ownRows_insert drawn below own]
    exact List.mem_append_left [row] foundMember

end Outcomes

/-- One item of a merge: it returns and, as long as the identifiers drawn are
fresh, the merge goes on with one item less. -/
theorem Merging.step (wellFormed : MessageItem suite item)
    (merging : world.tick ≤ limit →
      Merging suite environment account limit total (item :: items) progress world) :
    Returns (mergeMessage suite environment account progress item)
      (fun progress final => final.tick ≤ limit →
        Merging suite environment account limit total items progress final) world := by
  have outcome : Merge suite environment account item progress world _ :=
    run_mergeMessage progress item world
  generalize ran : (mergeMessage suite environment account progress item).run world =
    result at outcome
  cases outcome with
  | refused raised elapsed reason =>
      exact absurd reason (wellFormed.not_malformed world.tick)
  | skipped noContact =>
      obtain ⟨text, read, given⟩ := wellFormed.contactId
      rw [read] at noContact
      simp [given] at noContact
  | kept key existing rank keyed found ranked low =>
      exact ⟨_, _, ran, fun below => (merging below).kept keyed found ranked low⟩
  | raised key existing state counts keyed found incoming high =>
      exact ⟨_, _, ran, fun below =>
        (merging below).raised counts keyed found incoming high⟩
  | inserted key ts row counts keyed missing timed converted =>
      refine ⟨_, _, ran, fun below => ?_⟩
      obtain ⟨storedTs, stored, storedTimed, storedConverted, drawn, own, storedKey,
        ranked⟩ := wellFormed.stored (account.identity.identityId suite)
          (idAt environment item world.tick).1
      rw [timed] at storedTimed
      cases storedTimed
      rw [converted] at storedConverted
      cases storedConverted
      rw [keyed] at storedKey
      cases storedKey
      rw [idAt_eq wellFormed.noId] at drawn below ⊢
      have earlier := merging (Nat.le_of_succ_le below)
      rw [earlier.fresh.get?_eq_none drawn below]
      exact earlier.inserted counts keyed missing drawn below own rfl ranked

/-- The state of a merge before `items`, as far as its identifiers are fresh. -/
def Pending (suite : Suite) (environment : Environment) (account : Account)
    (limit : Nat) (total : Set (MessageKey × Nat)) (items : List Json)
    (progress : MessageIndex × Counts) (world : World) : Prop :=
  (∀ item ∈ items, MessageItem suite item) ∧ (world.tick ≤ limit →
    Merging suite environment account limit total items progress world)

theorem Pending.step
    (pending : Pending suite environment account limit total (item :: items) progress
      world) :
    Returns (mergeMessage suite environment account progress item)
      (Pending suite environment account limit total items) world := by
  apply (Merging.step (pending.1 item List.mem_cons_self) pending.2).weaken
  intro progress final merging
  exact ⟨fun other member => pending.1 other (List.mem_cons_of_mem item member), merging⟩

end Step

/-- The clock can be stored in an integer column. -/
def ClockFits (environment : Environment) : Prop :=
  ∀ tick, Sql.fits (environment.clock tick / 1000000) = true

theorem run_nowSeconds (world : World) :
    (nowSeconds environment).run world =
      (.ok (environment.clock world.tick / 1000000), { world with tick := world.tick + 1 }) :=
  rfl

/-- The index of the stored messages, for keys that are pairwise distinct. -/
theorem Merging.start {limit : Nat} {world : World} {items : List Json}
    (counts : Counts) (distinct : (items.map (messageKey suite)).Nodup)
    (fresh : FreshIds environment limit world) {facts : Set (MessageKey × Nat)}
    (summary : Summarizes (keyOf suite) rowRank
      (ownRows world.store (account.identity.identityId suite)) facts) :
    Merging suite environment account limit (facts ∪ itemFacts suite items) items
      (messageIndex suite world.store (account.identity.identityId suite), counts)
      world := by
  refine ⟨distinct, fresh, ⟨facts, summary, rfl⟩, ?_, ?_⟩
  · intro item _ key _ missing member
    obtain ⟨row, rowMember, same⟩ := List.mem_map.mp member
    obtain ⟨stored, own⟩ := mem_ownRows.mp rowMember
    exact messageIndex_get?_eq_none.mp missing row stored own same
  · intro item _ key _ row found
    obtain ⟨stored, own, same⟩ := messageIndex_get? found
    exact ⟨mem_ownRows.mpr ⟨stored, own⟩, same⟩

/-- A merge between two bundles, as far as its identifiers are fresh. -/
def Merged (suite : Suite) (environment : Environment) (account : Account)
    (limit : Nat) (facts : Set (MessageKey × Nat)) (world : World) : Prop :=
  world.tick ≤ limit → FreshIds environment limit world ∧
    Summarizes (keyOf suite) rowRank
      (ownRows world.store (account.identity.identityId suite)) facts

theorem Merged.later {limit : Nat} {facts : Set (MessageKey × Nat)}
    {first second : World} (merged : Merged suite environment account limit facts first)
    (kept : aside.rel first second) :
    Merged suite environment account limit facts second := by
  intro below
  obtain ⟨fresh, summary⟩ := merged (kept.tick.trans below)
  refine ⟨fresh.later kept, ?_⟩
  have same : ownRows second.store (account.identity.identityId suite) =
      ownRows first.store (account.identity.identityId suite) := by
    simp only [ownRows, kept.messages]
  rw [same]
  exact summary

end NoKnowledge.Core.History

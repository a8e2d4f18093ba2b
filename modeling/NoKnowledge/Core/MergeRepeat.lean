import NoKnowledge.Core.BlobCache
import NoKnowledge.Core.Collection
import NoKnowledge.Core.ContactBinding
import NoKnowledge.Core.DeviceSteps
import NoKnowledge.Core.MergeFrame
import NoKnowledge.Crypto.SymbolicSuite

/-!
# Merging a bundle twice

After a merge, every item of the bundle is in the store: its contact and its
chunk are there, and its message key is the one of a row with at least its
state.  A second merge then finds everything and changes nothing.  A message
item gets there when it is stored under its own key and no later item lowers the
state again.
-/

namespace NoKnowledge.Core.MergeRepeat

open Prog History

variable (suite : Suite) (environment : Environment) (account : Account)

/-- The latest own row with a key. -/
structure Latest (messages : Table Message.id) (key : MessageKey) (row : Message) : Prop where
  stored : row ∈ messages
  own : row.identityId = account.identity.identityId suite
  keyed : keyOf suite row = key
  latest : ∀ other ∈ messages, other.identityId = account.identity.identityId suite →
    keyOf suite other = key → Store.olderFirst other row

variable {suite environment account}

theorem olderFirst_refl (row : Message) : Store.olderFirst row row :=
  .inr ⟨rfl, le_refl _⟩

theorem olderFirst_antisymm {left right : Message} (forth : Store.olderFirst left right)
    (back : Store.olderFirst right left) : left.id = right.id := by
  rcases forth with older | ⟨same, before⟩
  · rcases back with younger | ⟨equal, -⟩
    · exact absurd older (not_lt.mpr younger.le)
    · exact absurd older (by rw [equal]; exact lt_irrefl _)
  · rcases back with younger | ⟨-, behind⟩
    · exact absurd younger (by rw [same]; exact lt_irrefl _)
    · exact le_antisymm before behind

theorem Latest.unique {messages : Table Message.id} {key : MessageKey}
    {first second : Message} (left : Latest suite account messages key first)
    (right : Latest suite account messages key second) : first = second :=
  Table.unique left.stored right.stored (olderFirst_antisymm
    (right.latest first left.stored left.own left.keyed)
    (left.latest second right.stored right.own right.keyed))

theorem messageIndex_get?_iff {store : Store} {key : MessageKey} {row : Message} :
    (messageIndex suite store (account.identity.identityId suite)).get? key = some row ↔
      Latest suite account store.messages key row := by
  have listed : ∀ other, other ∈ store.listAllMessages (account.identity.identityId suite) ↔
      other ∈ store.messages ∧ other.identityId = account.identity.identityId suite := by
    intro other
    rw [Store.listAllMessages, List.mem_insertionSort, ← Table.mem_iff, Table.mem_filter,
      decide_eq_true_iff]
  have latest : ∀ found, (messageIndex suite store
      (account.identity.identityId suite)).get? key = some found →
        Latest suite account store.messages key found := by
    intro found present
    obtain ⟨member, same, others⟩ := Dict.last_of_foldl_insert
      (List.pairwise_insertionSort Store.olderFirst _) present
    obtain ⟨stored, own⟩ := (listed found).mp member
    refine ⟨stored, own, same, fun other otherStored otherOwn otherKey => ?_⟩
    rcases others other ((listed other).mpr ⟨otherStored, otherOwn⟩) otherKey with rfl | older
    · exact olderFirst_refl other
    · exact older
  constructor
  · exact latest row
  · intro isLatest
    cases found : (messageIndex suite store (account.identity.identityId suite)).get? key with
    | none =>
        exact absurd isLatest.keyed
          (messageIndex_get?_eq_none.mp found row isLatest.stored isLatest.own)
    | some other => rw [(latest other found).unique isLatest]

/-- The latest row of a key after states were set. -/
theorem Latest.setMessageState {messages : Table Message.id} {key : MessageKey}
    {row : Message} (isLatest : Latest suite account messages key row) (id : String)
    (state : Option String) :
    Latest suite account (Store.setMessageState messages id state) key
      (((Store.withState state).at id).apply row) := by
  have changed : ∀ old : Message, ∃ state',
      ((Store.withState state).at id).apply old = { old with state := state' } := by
    intro old
    simp only [Table.Change.at]
    split
    · exact ⟨state, rfl⟩
    · exact ⟨old.state, rfl⟩
  obtain ⟨state', same⟩ := changed row
  constructor
  case stored => exact Table.mem_update.mpr ⟨row, isLatest.stored, rfl⟩
  case own =>
      rw [same]
      exact isLatest.own
  case keyed =>
      rw [same]
      exact isLatest.keyed
  case latest =>
      intro other member own keyed
      obtain ⟨old, oldMember, rfl⟩ := Table.mem_update.mp member
      obtain ⟨oldState, oldSame⟩ := changed old
      rw [oldSame] at own keyed ⊢
      rw [same]
      exact isLatest.latest old oldMember own keyed

/-- The latest row of a key after a row with another key was added. -/
theorem Latest.insertMessage {messages : Table Message.id} {key : MessageKey}
    {row new : Message} (isLatest : Latest suite account messages key row)
    (fresh : ∀ old ∈ messages, old.id ≠ new.id) (other : keyOf suite new ≠ key) :
    Latest suite account (Store.insertMessage messages new) key row := by
  have absent : messages.get? new.id = none := Table.get?_eq_none.mpr fresh
  constructor
  case stored =>
      exact Table.mem_upsert_iff.mpr
        (.inr ⟨isLatest.stored, fresh row isLatest.stored⟩)
  case own => exact isLatest.own
  case keyed => exact isLatest.keyed
  case latest =>
      intro old member own keyed
      rcases Table.mem_upsert_iff.mp member with rfl | ⟨oldMember, -⟩
      · rw [absent] at keyed
        exact absurd keyed other
      · exact isLatest.latest old oldMember own keyed

/-- The row that was added under a new key. -/
theorem latest_inserted {messages : Table Message.id} {new : Message}
    (fresh : ∀ old ∈ messages, old.id ≠ new.id)
    (own : new.identityId = account.identity.identityId suite)
    (newKey : ∀ old ∈ messages, old.identityId = account.identity.identityId suite →
      keyOf suite old ≠ keyOf suite new) :
    Latest suite account (Store.insertMessage messages new) (keyOf suite new) new := by
  have absent : messages.get? new.id = none := Table.get?_eq_none.mpr fresh
  constructor
  case stored => exact Table.mem_upsert_iff.mpr (.inl (by rw [absent]; rfl))
  case own => exact own
  case keyed => rfl
  case latest =>
      intro old member oldOwn keyed
      rcases Table.mem_upsert_iff.mp member with rfl | ⟨oldMember, -⟩
      · rw [absent]
        exact olderFirst_refl new
      · exact absurd keyed (newKey old oldMember oldOwn)

variable (suite account) in
/-- An item that a merge has nothing left to do for. -/
def Absorbed (messages : Table Message.id) (item : Json) : Prop :=
  ∃ contactId, item.attempt "contact_id" = .ok contactId ∧
    (contactId.truthy = true → ∃ key row rank, messageKey suite item = .ok key ∧
      Latest suite account messages key row ∧
      rankOf (item.getD "state") = .ok rank ∧ rank ≤ rowRank row)

variable (suite environment account) in
/-- An item that is stored under its own key and a new id, or raises a state that
is not higher already. -/
structure Settles (item : Json) (known : MessageIndex) (world : World) : Prop where
  stored : ∀ key ts row, (item.getD "contact_id").truthy = true →
    messageKey suite item = .ok key → known.get? key = none →
    ((item.getD "ts").orElse (.int 0)).toInt = .ok ts →
    Store.messageRow (inputOf (account.identity.identityId suite) item
      (idAt environment item world.tick).1 ts) = .ok row →
    keyOf suite row = key ∧ ∀ old ∈ world.store.messages, old.id ≠ row.id
  raised : ∀ key existing state, messageKey suite item = .ok key →
    known.get? key = some existing → item.getD "state" = .str state →
    stateRank existing.state < stateRank (some state) →
    ∀ row ∈ world.store.messages, row.id = existing.id →
      rowRank row ≤ stateRank (some state)

variable (suite account) in
/-- The index knows the latest row of every key, up to raised states. -/
structure Tracks (known : MessageIndex) (messages : Table Message.id) : Prop where
  present : ∀ key existing, known.get? key = some existing →
    ∃ row, Latest suite account messages key row ∧ row.id = existing.id ∧
      stateRank existing.state ≤ rowRank row
  absent : ∀ key, known.get? key = none → ∀ row ∈ messages,
    row.identityId = account.identity.identityId suite → keyOf suite row ≠ key

theorem tracks_messageIndex (store : Store) :
    Tracks suite account (messageIndex suite store (account.identity.identityId suite))
      store.messages where
  present := fun _ existing present =>
    ⟨existing, messageIndex_get?_iff.mp present, rfl, le_refl _⟩
  absent := fun _ missing => messageIndex_get?_eq_none.mp missing

section Step

variable {known : MessageIndex} {messages : Table Message.id}

/-- Raising the state of a row, when it does not lower it. -/
theorem Tracks.raised (tracks : Tracks suite account known messages) {id state : String}
    (notLower : ∀ row ∈ messages, row.id = id → rowRank row ≤ stateRank (some state)) :
    Tracks suite account known (Store.setMessageState messages id (some state)) where
  present := by
    intro key existing present
    obtain ⟨row, isLatest, sameId, low⟩ := tracks.present key existing present
    refine ⟨_, isLatest.setMessageState id (some state), ?_, ?_⟩
    · rw [((Store.withState (some state)).at id).keeps, sameId]
    · simp only [Table.Change.at]
      split
      · exact low.trans (notLower row isLatest.stored ‹_›)
      · exact low
  absent := by
    intro key missing row member own
    obtain ⟨old, oldMember, rfl⟩ := Table.mem_update.mp member
    have same : keyOf suite (((Store.withState (some state)).at id).apply old) =
        keyOf suite old := by
      simp only [Table.Change.at]
      split <;> rfl
    have sameOwner : (((Store.withState (some state)).at id).apply old).identityId =
        old.identityId := by
      simp only [Table.Change.at]
      split <;> rfl
    rw [same]
    exact tracks.absent key missing old oldMember (sameOwner ▸ own)

theorem Absorbed.raised {item : Json} (absorbed : Absorbed suite account messages item)
    {id state : String}
    (notLower : ∀ row ∈ messages, row.id = id → rowRank row ≤ stateRank (some state)) :
    Absorbed suite account (Store.setMessageState messages id (some state)) item := by
  obtain ⟨contactId, attempted, found⟩ := absorbed
  refine ⟨contactId, attempted, fun contacted => ?_⟩
  obtain ⟨key, row, rank, keyed, isLatest, ranked, low⟩ := found contacted
  refine ⟨key, _, rank, keyed, isLatest.setMessageState id (some state), ranked, ?_⟩
  simp only [Table.Change.at]
  split
  · exact low.trans (notLower row isLatest.stored ‹_›)
  · exact low

variable {new : Message} (fresh : ∀ old ∈ messages, old.id ≠ new.id)
  (absent : known.get? (keyOf suite new) = none)

include fresh absent

theorem Tracks.inserted (tracks : Tracks suite account known messages)
    (own : new.identityId = account.identity.identityId suite) :
    Tracks suite account (known.insert (keyOf suite new) new)
      (Store.insertMessage messages new) where
  present := by
    intro key existing present
    rw [Dict.get?_insert] at present
    split at present
    · rename_i same
      cases present
      exact ⟨new, same ▸ latest_inserted fresh own (tracks.absent _ absent), rfl, le_refl _⟩
    · rename_i different
      obtain ⟨row, isLatest, sameId, low⟩ := tracks.present key existing present
      exact ⟨row, isLatest.insertMessage fresh (Ne.symm different), sameId, low⟩
  absent := by
    intro key missing row member rowOwn
    rw [Dict.get?_insert] at missing
    split at missing
    · cases missing
    · rename_i different
      have unknown : messages.get? new.id = none := Table.get?_eq_none.mpr fresh
      rcases Table.mem_upsert_iff.mp member with rfl | ⟨old, -⟩
      · rw [unknown]
        exact Ne.symm different
      · exact tracks.absent key missing row old rowOwn

theorem Absorbed.inserted (tracks : Tracks suite account known messages) {item : Json}
    (absorbed : Absorbed suite account messages item) :
    Absorbed suite account (Store.insertMessage messages new) item := by
  obtain ⟨contactId, attempted, found⟩ := absorbed
  refine ⟨contactId, attempted, fun contacted => ?_⟩
  obtain ⟨key, row, rank, keyed, isLatest, ranked, low⟩ := found contacted
  refine ⟨key, row, rank, keyed, isLatest.insertMessage fresh ?_, ranked, low⟩
  intro same
  exact tracks.absent _ absent row isLatest.stored isLatest.own
    (isLatest.keyed.trans same.symm)

end Step

/-- Whatever the state of a stored row is made of, it ranks as the item does. -/
theorem rankOf_stored {item : Json} {identityId id : String} {ts : Int} {row : Message}
    (converted : Store.messageRow (inputOf identityId item id ts) = .ok row) :
    ∃ rank, rankOf (item.getD "state") = .ok rank ∧ rank ≤ rowRank row := by
  have bound : Sql.text (item.getD "state") = .ok row.state := messageRow_state converted
  cases given : item.getD "state" with
  | str state =>
      rw [given] at bound
      refine ⟨_, rfl, ?_⟩
      rw [rowRank, ← Except.ok.inj bound]
  | arr items =>
      rw [given] at bound
      cases bound
  | obj fields =>
      rw [given] at bound
      cases bound
  | _ => exact ⟨0, rfl, Nat.zero_le _⟩

theorem attempted_of_returns {item : Json} {progress next : MessageIndex × Counts}
    {world later : World}
    (returned : (mergeMessage suite environment account progress item).run world =
      (.ok next, later)) :
    item.attempt "contact_id" = .ok (item.getD "contact_id") := by
  obtain ⟨contactId, middle, attempted, -⟩ := bind_returns returned
  obtain ⟨same, -⟩ := lift_returns attempted
  rw [same, Json.attempt_eq_ok same]

/-- One item that settles: the index still tracks the table, and the item and those
before it are absorbed. -/
theorem mergeMessage_absorbs {item : Json} {done : List Json}
    {progress next : MessageIndex × Counts} {world later : World}
    (tracks : Tracks suite account progress.1 world.store.messages)
    (absorbed : ∀ other ∈ done, Absorbed suite account world.store.messages other)
    (settles : Settles suite environment account item progress.1 world)
    (returned : (mergeMessage suite environment account progress item).run world =
      (.ok next, later)) :
    Tracks suite account next.1 later.store.messages ∧
      ∀ other ∈ item :: done, Absorbed suite account later.store.messages other := by
  have attempted := attempted_of_returns returned
  have uncontactedCase : (item.getD "contact_id").truthy = false → ∀ messages,
      Absorbed suite account messages item := by
    intro uncontacted messages
    refine ⟨_, attempted, fun contacted => ?_⟩
    rw [uncontacted] at contacted
    cases contacted
  by_cases contacted : (item.getD "contact_id").truthy = true
  case neg =>
    have uncontacted : (item.getD "contact_id").truthy = false := by simpa using contacted
    rcases @MergeFrame.run_uncontacted suite environment account item uncontacted progress
      world with ⟨raised, ran⟩ | ran
    · rw [ran] at returned
      cases returned
    · rw [ran] at returned
      cases returned
      refine ⟨tracks, fun other member => ?_⟩
      rcases List.mem_cons.mp member with rfl | member
      · exact uncontactedCase uncontacted _
      · exact absorbed other member
  have outcome : Merge suite environment account item progress world _ :=
    run_mergeMessage progress item world
  rw [returned] at outcome
  cases outcome with
  | skipped noContact =>
      rw [contacted] at noContact
      cases noContact
  | kept key existing rank keyed present ranked low =>
      refine ⟨tracks, fun other member => ?_⟩
      rcases List.mem_cons.mp member with rfl | member
      · obtain ⟨row, isLatest, -, reached⟩ := tracks.present key existing present
        exact ⟨_, attempted, fun _ => ⟨key, row, rank, keyed, isLatest, ranked,
          low.trans reached⟩⟩
      · exact absorbed other member
  | raised key existing state counts keyed present incoming high =>
      have notLower := settles.raised key existing state keyed present incoming high
      refine ⟨tracks.raised notLower, fun other member => ?_⟩
      rcases List.mem_cons.mp member with rfl | member
      · obtain ⟨row, isLatest, sameId, -⟩ := tracks.present key existing present
        refine ⟨_, attempted, fun _ => ⟨key, _, stateRank (some state), keyed,
          isLatest.setMessageState existing.id (some state), ?_, ?_⟩⟩
        · rw [incoming]
          rfl
        · simp only [Table.Change.at]
          rw [if_pos sameId]
          exact le_refl _
      · exact (absorbed other member).raised notLower
  | inserted key ts row counts keyed absent timed converted =>
      obtain ⟨sameKey, fresh⟩ := settles.stored key ts row contacted keyed absent timed
        converted
      subst sameKey
      have unknown : world.store.messages.get? row.id = none := Table.get?_eq_none.mpr fresh
      have own : row.identityId = account.identity.identityId suite := by
        simp only [Store.messageRow, except_bind_eq_ok] at converted
        obtain ⟨_, _, _, _, _, _, _, _, _, _, _, _, _, _, built⟩ := converted
        cases built
        rfl
      have tracked := tracks.inserted fresh absent own
      rw [unknown]
      refine ⟨tracked, fun other member => ?_⟩
      rcases List.mem_cons.mp member with rfl | member
      · obtain ⟨rank, ranked, low⟩ := rankOf_stored converted
        exact ⟨_, attempted, fun _ => ⟨_, row, rank, keyed,
          latest_inserted fresh own (tracks.absent _ absent), ranked, low⟩⟩
      · exact (absorbed other member).inserted fresh absent tracks

theorem mergeMessages_absorbs {items done : List Json}
    {progress final : MessageIndex × Counts} {world later : World}
    (tracks : Tracks suite account progress.1 world.store.messages)
    (absorbed : ∀ other ∈ done, Absorbed suite account world.store.messages other)
    (settles : EachItem suite environment account (Settles suite environment account)
      items progress world)
    (returned : (items.foldlM (mergeMessage suite environment account) progress).run world =
      (.ok final, later)) :
    ∀ other ∈ items ++ done, Absorbed suite account later.store.messages other := by
  induction items generalizing done progress world with
  | nil =>
      cases returned
      exact absorbed
  | cons item items induction =>
      rw [List.foldlM_cons] at returned
      obtain ⟨next, middle, merged, rest⟩ := bind_returns returned
      obtain ⟨tracked, nowAbsorbed⟩ := mergeMessage_absorbs tracks absorbed settles.1 merged
      have all := induction tracked nowAbsorbed (settles.2 next middle merged) rest
      intro other member
      apply all
      rw [List.mem_append, List.mem_cons] at *
      tauto

/-- A merge has nothing to do for absorbed items. -/
theorem run_mergeMessages_absorbed {items : List Json} {counts : Counts} {world : World}
    (absorbed : ∀ item ∈ items, Absorbed suite account world.store.messages item) :
    (items.foldlM (mergeMessage suite environment account)
      (messageIndex suite world.store (account.identity.identityId suite), counts)).run
        world =
      (.ok (messageIndex suite world.store (account.identity.identityId suite), counts),
        world) := by
  induction items with
  | nil => rfl
  | cons item items induction =>
      have here : (mergeMessage suite environment account
          (messageIndex suite world.store (account.identity.identityId suite), counts)
            item).run world =
          (.ok (messageIndex suite world.store (account.identity.identityId suite), counts),
            world) := by
        obtain ⟨contactId, attempted, found⟩ := absorbed item List.mem_cons_self
        unfold mergeMessage
        rw [attempted, run_bind_ok (run_lift_ok contactId world)]
        by_cases contacted : contactId.truthy = true
        · obtain ⟨key, row, rank, keyed, isLatest, ranked, low⟩ := found contacted
          rw [contacted, keyed]
          simp only [Bool.not_true, Bool.false_eq_true, if_false]
          rw [run_bind_ok (run_lift_ok key world), messageIndex_get?_iff.mpr isLatest]
          dsimp only
          rw [run_bind_ok (run_raiseState_kept ranked low counts world)]
          rfl
        · rw [if_pos (by simpa using contacted)]
          rfl
      rw [List.foldlM_cons, run_bind_ok here]
      exact induction fun other member => absorbed other (List.mem_cons_of_mem _ member)

/-- Contacts are only added. -/
def contactsGrow : Frame World where
  rel := fun first second => ∀ key, first.store.contacts.HasKey key →
    second.store.contacts.HasKey key
  refl := fun _ _ known => known
  trans := fun left right key known => right key (left key known)

theorem permissive_contactsGrow : Permissive contactsGrow where
  quiet := {
    tick := fun _ _ _ known => known
    put := fun _ _ _ known => known
    siblingKeys := fun _ _ _ known => known
    deviceList := fun _ _ _ _ known => known
    deviceKeys := fun _ _ _ known => known }
  mirror := AllowsRecord.mirrors fun _ _ _ _ known => known
  sessions := fun _ _ _ _ known => known.update _
  outbox := fun _ _ _ known => known
  localBlobs := fun _ _ _ known => known
  prekeys := fun _ _ _ _ _ known => known
  state := fun _ _ _ _ _ _ known => known
  messages := fun _ _ _ known => known
  index := fun _ _ _ known => known

variable (suite account) in
/-- A contact item that a merge has nothing left to do for. -/
def Filed (contacts : Table ContactRow.key) (item : Json) : Prop :=
  ∃ id, item.attempt "id" = .ok id ∧ ((id.orElse (.str "")).toText = "" ∨
    contacts.HasKey (account.identity.identityId suite, (id.orElse (.str "")).toText))

theorem filed_of_returns {item : Json} {world final : World} {added : Bool}
    (returned : (mergeContact suite environment account item).run world =
      (.ok added, final)) : Filed suite account final.store.contacts item := by
  have known := Binding.mergeContact_known returned
  obtain ⟨id, middle, attempted, -⟩ := bind_returns returned
  obtain ⟨read, -⟩ := lift_returns attempted
  rw [Binding.itemId, Json.attempt_eq_ok read] at known
  exact ⟨id, read, known⟩

theorem filed_of_mergeContacts {items : List Json} {counts next : Counts}
    {world final : World}
    (returned : (mergeContacts suite environment account items counts).run world =
      (.ok next, final)) :
    ∀ item ∈ items, Filed suite account final.store.contacts item := by
  induction items generalizing counts world with
  | nil => exact fun item member => absurd member List.not_mem_nil
  | cons item items induction =>
      unfold mergeContacts at returned
      rw [List.foldlM_cons] at returned
      obtain ⟨counted, middle, here, rest⟩ := bind_returns returned
      obtain ⟨added, merged, mergedRun, finished⟩ := bind_returns here
      have same : middle = merged := by
        cases added <;> cases finished <;> rfl
      subst same
      intro other member
      rcases List.mem_cons.mp member with rfl | member
      · have grown : Keeps contactsGrow (mergeContacts suite environment account items counted) :=
          permissive_contactsGrow.mergeAnyContacts (fun _ _ _ known => known.upsert _ _) items
            counted
        have ended : (mergeContacts suite environment account items counted).after middle =
            final := after_eq rest
        replace grown := grown middle
        rw [ended] at grown
        obtain ⟨id, attempted, known⟩ := filed_of_returns mergedRun
        exact ⟨id, attempted, known.imp_right (grown _)⟩
      · exact induction rest other member

/-- A merge has nothing to do for filed contacts. -/
theorem run_mergeContacts_filed {items : List Json} {counts : Counts} {world : World}
    (filed : ∀ item ∈ items, Filed suite account world.store.contacts item) :
    (mergeContacts suite environment account items counts).run world =
      (.ok counts, world) := by
  induction items with
  | nil => rfl
  | cons item items induction =>
      have here : (mergeContact suite environment account item).run world =
          (.ok false, world) := by
        obtain ⟨id, attempted, known⟩ := filed item List.mem_cons_self
        unfold mergeContact
        rw [attempted, run_bind_ok (run_lift_ok id world)]
        dsimp only
        split
        · rfl
        · rename_i given
          obtain ⟨row, found⟩ := Option.ne_none_iff_exists'.mp
            (Table.hasKey_iff.mp (known.resolve_left given))
          rw [run_bind_ok (run_askStore _ _)]
          unfold Store.getContact
          rw [found]
          rfl
      unfold mergeContacts
      rw [List.foldlM_cons, run_bind_ok ((run_bind_ok here).trans rfl)]
      exact induction fun other member => filed other (List.mem_cons_of_mem _ member)

def chunkData (chunk : Json) : Except Raised Bytes :=
  Except.rewrap (fun _ => true)
    (fun _ => { class_ := .history
                text := "malformed attachment chunk in history bundle" })
    (do (Json.str (← chunk.item "ct").toText).toBytes)

/-- A chunk that a merge has nothing left to do for. -/
def Cached (store : Store) (chunk : Json) : Prop :=
  ∃ id, chunk.attempt "id" = .ok id ∧ ((id.orElse (.str "")).toText = "" ∨
    (∃ data, chunkData chunk = .ok data) ∧
      (store.getLocalBlob (id.orElse (.str "")).toText).isSome = true)

variable (environment) in
/-- Chunks that fulfil a condition, each when its turn comes. -/
def EachChunk (accepts : Json → World → Prop) : List Json → Counts → World → Prop
  | [], _, _ => True
  | chunk :: chunks, counts, world =>
      accepts chunk world ∧
        ∀ next later, (mergeChunk environment counts chunk).run world = (.ok next, later) →
          EachChunk accepts chunks next later

/-- The cache has room for a chunk. -/
def Fits (chunk : Json) (world : World) : Prop :=
  ∀ data, chunkData chunk = .ok data →
    Store.blobBytes world.store.localBlobs + data.length ≤ Store.localBlobCapBytes

/-- A chunk that is not held yet, put into a cache with room for it. -/
theorem localBlobs_of_fits {store : Store} {chunkId : String} {data : Bytes}
    (missing : store.localBlobs.get? chunkId = none)
    (room : Store.blobBytes store.localBlobs + data.length ≤ Store.localBlobCapBytes)
    (now : Int) :
    ((Store.putLocalBlob chunkId data now).after store).localBlobs =
      store.localBlobs.upsert ⟨chunkId, data, now⟩ Table.Change.none := by
  have bytes : Store.blobBytes (store.localBlobs.upsert ⟨chunkId, data, now⟩
      Table.Change.none) = Store.blobBytes store.localBlobs + data.length := by
    rw [Store.blobBytes, Table.upsert_of_none missing, List.map_append, List.sum_append]
    rfl
  rw [BlobCache.localBlobs_putLocalBlob, BlobCache.putLocalBlob, BlobCache.insertLocalBlob,
    BlobCache.pruneLocalBlobs_of_le]
  rw [bytes]
  exact Int.ofNat_le.mpr room

/-- A chunk that fits is cached, and what was cached stays so. -/
theorem mergeChunk_caches {chunk : Json} {done : List Json} {counts next : Counts}
    {world later : World} (cached : ∀ other ∈ done, Cached world.store other)
    (fits : Fits chunk world)
    (returned : (mergeChunk environment counts chunk).run world = (.ok next, later)) :
    ∀ other ∈ chunk :: done, Cached later.store other := by
  obtain ⟨id, middle, attempted, rest⟩ := bind_returns returned
  obtain ⟨read, rfl⟩ := lift_returns attempted
  dsimp only at rest
  split at rest
  · cases rest
    intro other member
    rcases List.mem_cons.mp member with rfl | member
    · exact ⟨id, read, .inl ‹_›⟩
    · exact cached other member
  · obtain ⟨data, middle, decoded, afterData⟩ := bind_returns rest
    obtain ⟨decodes, rfl⟩ := lift_returns decoded
    rw [run_bind_ok (run_askStore _ _)] at afterData
    split at afterData
    · rename_i held
      cases afterData
      intro other member
      rcases List.mem_cons.mp member with rfl | member
      · exact ⟨id, read, .inr ⟨⟨data, decodes⟩, held⟩⟩
      · exact cached other member
    · rename_i missing
      obtain ⟨now, timed, clock, afterTime⟩ := bind_returns afterData
      cases clock
      obtain ⟨_, stored, put, finished⟩ := bind_returns afterTime
      cases finished
      have blobs : later.store.localBlobs = middle.store.localBlobs.upsert
          ⟨(id.orElse (.str "")).toText, data, environment.clock middle.tick⟩
            Table.Change.none := by
        have unheld : middle.store.localBlobs.get? (id.orElse (.str "")).toText = none := by
          simpa [Store.getLocalBlob] using missing
        have ran : (onStore (Store.putLocalBlob (id.orElse (.str "")).toText data
            (environment.clock middle.tick))).after
              { middle with tick := middle.tick + 1 } = later := after_eq put
        rw [← ran]
        exact localBlobs_of_fits unheld (fits data decodes) _
      have grows : ∀ chunkId, middle.store.localBlobs.HasKey chunkId →
          (later.store.getLocalBlob chunkId).isSome = true := by
        intro chunkId held
        rw [Store.getLocalBlob, blobs, Option.isSome_map, Option.isSome_iff_ne_none]
        exact Table.hasKey_iff.mp (held.upsert _ _)
      intro other member
      rcases List.mem_cons.mp member with rfl | member
      · refine ⟨id, read, .inr ⟨⟨data, decodes⟩, ?_⟩⟩
        rw [Store.getLocalBlob, blobs, Option.isSome_map, Option.isSome_iff_ne_none]
        exact Table.hasKey_iff.mp (Table.hasKey_upsert_self _ _ _)
      · obtain ⟨otherId, otherRead, found⟩ := cached other member
        refine ⟨otherId, otherRead, found.imp_right fun held => ⟨held.1, grows _ ?_⟩⟩
        have present := held.2
        rw [Store.getLocalBlob, Option.isSome_map, Option.isSome_iff_ne_none] at present
        exact Table.hasKey_iff.mpr present

theorem mergeChunks_caches {chunks done : List Json} {counts next : Counts}
    {world later : World} (cached : ∀ other ∈ done, Cached world.store other)
    (fits : EachChunk environment Fits chunks counts world)
    (returned : (mergeChunks environment chunks counts).run world = (.ok next, later)) :
    ∀ other ∈ chunks ++ done, Cached later.store other := by
  induction chunks generalizing done counts world with
  | nil =>
      cases returned
      exact cached
  | cons chunk chunks induction =>
      unfold mergeChunks at returned
      rw [List.foldlM_cons] at returned
      obtain ⟨counted, middle, merged, rest⟩ := bind_returns returned
      have all := induction (mergeChunk_caches cached fits.1 merged)
        (fits.2 counted middle merged) rest
      intro other member
      apply all
      rw [List.mem_append, List.mem_cons] at *
      tauto

/-- A merge has nothing to do for cached chunks. -/
theorem run_mergeChunks_cached {chunks : List Json} {counts : Counts} {world : World}
    (cached : ∀ chunk ∈ chunks, Cached world.store chunk) :
    (mergeChunks environment chunks counts).run world = (.ok counts, world) := by
  induction chunks with
  | nil => rfl
  | cons chunk chunks induction =>
      have here : (mergeChunk environment counts chunk).run world = (.ok counts, world) := by
        obtain ⟨id, attempted, found⟩ := cached chunk List.mem_cons_self
        unfold mergeChunk
        rw [attempted, run_bind_ok (run_lift_ok id world)]
        dsimp only
        split
        · rfl
        · rename_i given
          obtain ⟨⟨data, decodes⟩, held⟩ := found.resolve_left given
          unfold chunkData at decodes
          rw [decodes, run_bind_ok (run_lift_ok data world),
            run_bind_ok (run_askStore _ _), if_pos held]
          rfl
      unfold mergeChunks
      rw [List.foldlM_cons, run_bind_ok here]
      exact induction fun other member => cached other (List.mem_cons_of_mem _ member)

variable (suite environment account) in
/-- The message items of a bundle settle, once its contacts are filed. -/
def SettlesBundle (bundle : Json) (world : World) : Prop :=
  ∀ contacts messages counts middle, itemsOf bundle "contacts" = .ok contacts →
    itemsOf bundle "messages" = .ok messages →
    (mergeContacts suite environment account contacts {}).run world = (.ok counts, middle) →
    EachItem suite environment account (Settles suite environment account) messages
      (messageIndex suite middle.store (account.identity.identityId suite), counts) middle

variable (suite environment account) in
/-- The cache stays below its cap while the chunks of a bundle are put into it. -/
def FitsBundle (bundle : Json) (world : World) : Prop :=
  ∀ contacts messages chunks counts middle counted later,
    itemsOf bundle "contacts" = .ok contacts → itemsOf bundle "messages" = .ok messages →
    itemsOf bundle "chunks" = .ok chunks →
    (mergeContacts suite environment account contacts {}).run world = (.ok counts, middle) →
    (mergeIndexed suite environment account messages counts).run middle =
      (.ok counted, later) →
    EachChunk environment Fits chunks counted later

/-- Merging a bundle again finds everything there, when its items settled. -/
theorem merging_again_changes_nothing {bundle : Json} {world final : World} {counts : Counts}
    (returned : (mergeBundle suite environment account bundle).run world =
      (.ok counts, final))
    (settles : SettlesBundle suite environment account bundle world)
    (fits : FitsBundle suite environment account bundle world) {later : World}
    (same : later.store = final.store) :
    (mergeBundle suite environment account bundle).run later = (.ok {}, later) := by
  obtain ⟨contacts, _, contactsLifted, afterContacts⟩ := bind_returns returned
  obtain ⟨contactsRead, rfl⟩ := lift_returns contactsLifted
  obtain ⟨counted, _, merged, afterFiled⟩ := bind_returns afterContacts
  obtain ⟨messages, filed, messagesLifted, afterRead⟩ := bind_returns afterFiled
  obtain ⟨messagesRead, rfl⟩ := lift_returns messagesLifted
  obtain ⟨recounted, _, indexed, afterStored⟩ := bind_returns afterRead
  obtain ⟨chunks, stored, chunksLifted, chunked⟩ := bind_returns afterStored
  obtain ⟨chunksRead, rfl⟩ := lift_returns chunksLifted
  have filedAll : ∀ item ∈ contacts, Filed suite account final.store.contacts item := by
    have grown : contactsGrow.rel filed final := by
      have byMessages := @Permissive.mergeIndexed _ suite environment account
        permissive_contactsGrow messages counted filed
      have byChunks := @Receptive.mergeChunks _ environment
        permissive_contactsGrow.toReceptive chunks recounted stored
      rw [after_eq indexed] at byMessages
      rw [after_eq chunked] at byChunks
      exact contactsGrow.trans byMessages byChunks
    intro item member
    obtain ⟨id, attempted, known⟩ := filed_of_mergeContacts merged item member
    exact ⟨id, attempted, known.imp_right (grown _)⟩
  have absorbed : ∀ item ∈ messages, Absorbed suite account final.store.messages item := by
    have unchanged : final.store.messages = stored.store.messages := by
      have passed := @Receptive.mergeChunks _ environment receptive_aside chunks recounted stored
      rw [after_eq chunked] at passed
      exact passed.messages
    have ran := indexed
    unfold mergeIndexed at ran
    rw [run_bind_ok (run_askStore _ _)] at ran
    obtain ⟨progress, merging, merged, finished⟩ := bind_returns ran
    cases finished
    rw [unchanged]
    have all := @mergeMessages_absorbs suite environment account messages [] _ progress filed
      stored (tracks_messageIndex filed.store) (fun other member => absurd member
        List.not_mem_nil) (settles contacts messages counted filed contactsRead messagesRead
          ‹_›) merged
    rwa [List.append_nil] at all
  have cached := @mergeChunks_caches environment chunks [] recounted counts stored final
    (fun other member => absurd member List.not_mem_nil)
    (fits contacts messages chunks counted filed recounted stored contactsRead messagesRead
      chunksRead merged indexed) chunked
  rw [List.append_nil] at cached
  unfold mergeBundle
  rw [contactsRead, run_bind_ok (run_lift_ok contacts later),
    run_bind_ok (run_mergeContacts_filed (by rwa [same])), messagesRead,
    run_bind_ok (run_lift_ok messages later)]
  have again : (mergeIndexed suite environment account messages {}).run later =
      (.ok {}, later) := by
    unfold mergeIndexed mergeMessages
    rw [run_bind_ok (run_askStore _ _),
      run_bind_ok (run_mergeMessages_absorbed (by rwa [same]))]
    rfl
  rw [run_bind_ok again, chunksRead, run_bind_ok (run_lift_ok chunks later)]
  exact run_mergeChunks_cached (by rwa [same])

/-- A received message, with or without its direction. -/
def messageWith (direction : List (String × Json)) : Json :=
  .obj ([("contact_id", .str "peer")] ++ direction ++ [("remote_id", .str "x"), ("ts", .int 1)])

def bundleWith (direction : List (String × Json)) : Json :=
  .obj [("chunks", .arr []), ("contacts", .arr []), ("messages", .arr [messageWith direction]),
    ("v", .int 1)]

/-- The bundle with a direction, merged into an empty store. -/
def mergedDirected : Except Raised Counts × World :=
  (mergeBundle Symbolic.suite .idle .specimen
    (bundleWith [("direction", .str "received")])).run { store := {} }

theorem mergedDirected_returned :
    mergedDirected = (.ok { messages := 1 }, mergedDirected.2) := by
  have counted : mergedDirected.1 = .ok { messages := 1 } := by decide +kernel
  rw [← counted]

theorem merging_again_changes_nothing_directed :
    (mergeBundle Symbolic.suite .idle .specimen
        (bundleWith [("direction", .str "received")])).run mergedDirected.2 =
      (.ok {}, mergedDirected.2) := by
  refine @merging_again_changes_nothing Symbolic.suite .idle .specimen
    (bundleWith [("direction", .str "received")]) { store := {} } mergedDirected.2
    { messages := 1 } mergedDirected_returned ?_ ?_ mergedDirected.2 rfl
  · intro contacts messages counts middle contactsRead messagesRead ran
    cases contactsRead
    cases messagesRead
    cases ran
    refine ⟨⟨?_, ?_⟩, fun _ _ _ => trivial⟩
    · intro key ts row _ keyed _ timed converted
      cases keyed
      cases timed
      cases converted
      exact ⟨rfl, fun old member => absurd member List.not_mem_nil⟩
    · intro key existing state _ present
      cases present
  · intro contacts messages chunks counts middle counted later _ _ chunksRead _ _
    cases chunksRead
    trivial

/-- Without a direction the message is looked up by another key than the one it is
stored under: every merge adds it once more. -/
theorem undirected_message_is_merged_again :
    ((mergeBundle Symbolic.suite .idle .specimen (bundleWith [])).run
        { store := {} }).1 = .ok { messages := 1 } ∧
      ((mergeBundle Symbolic.suite .idle .specimen (bundleWith [])).run
        ((mergeBundle Symbolic.suite .idle .specimen (bundleWith [])).after
          { store := {} })).1 = .ok { messages := 1 } := by
  decide +kernel

end NoKnowledge.Core.MergeRepeat

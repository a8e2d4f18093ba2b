import NoKnowledge.Core.Ingestion
import NoKnowledge.Crypto.SymbolicSuite

/-!
# What a merge leaves alone

The key and the row id of a message item are independent of each other.  An item
with a new key and the id of a stored row is stored over that row; any other
item adds a row or raises the state of the row that has its key.
-/

namespace NoKnowledge.Core.MergeFrame

open Prog History

variable (suite : Suite) (environment : Environment) (account : Account)

/-- The item brings a higher state for the row, whose key it has. -/
structure Raises (item : Json) (row : Message) (state : Option String) : Prop where
  own : row.identityId = account.identity.identityId suite
  key : messageKey suite item = .ok (keyOf suite row)
  incoming : ∃ text, item.getD "state" = .str text ∧ state = some text
  high : stateRank row.state < stateRank state

/-- A row is as it was, except that an item may have raised its state. -/
structure LeavesRow (items : List Json) (old kept : Message) : Prop where
  content : { kept with state := old.state } = old
  state : kept.state = old.state ∨ ∃ item ∈ items, Raises suite account item old kept.state

/-- The rows there were are still there. -/
def LeavesRows (items : List Json) (messages final : Table Message.id) : Prop :=
  ∀ old ∈ messages, ∃ kept ∈ final, LeavesRow suite account items old kept

/-- An item with a new key that is stored over a row. -/
structure Overwrites (known : MessageIndex) (tick : Nat) (item : Json)
    (old new : Message) : Prop where
  contact : (item.getD "contact_id").truthy = true
  newKey : ∃ key, messageKey suite item = .ok key ∧ known.get? key = none
  stored : ∃ ts, ((item.getD "ts").orElse (.int 0)).toInt = .ok ts ∧
    Store.messageRow (inputOf (account.identity.identityId suite) item
      (idAt environment item tick).1 ts) = .ok new
  sameId : old.id = new.id

/-- No row of the origin is stored over. -/
def Spares (origin : Table Message.id) (item : Json) (known : MessageIndex)
    (world : World) : Prop :=
  ∀ old ∈ origin, ∀ new, ¬ Overwrites suite environment account known world.tick item old new

variable {suite environment account}

/-- An item without a contact is skipped or refused. -/
theorem run_uncontacted {item : Json}
    (uncontacted : (item.getD "contact_id").truthy = false)
    (progress : MessageIndex × Counts) (world : World) :
    (∃ raised, (mergeMessage suite environment account progress item).run world =
        (.error raised, world)) ∨
      (mergeMessage suite environment account progress item).run world =
        (.ok progress, world) := by
  unfold mergeMessage
  cases attempted : item.attempt "contact_id" with
  | error raised => exact .inl ⟨raised, rfl⟩
  | ok contactId =>
      rw [run_bind_ok (run_lift_ok contactId world)]
      rw [Json.attempt_eq_ok attempted] at uncontacted
      rw [uncontacted]
      exact .inr rfl

variable (suite account) in
/-- What holds while items are merged: the rows of the origin are left alone, and
the index knows them or rows that came later. -/
structure Untouched (origin : Table Message.id) (items : List Json) (known : MessageIndex)
    (messages : Table Message.id) : Prop where
  rows : LeavesRows suite account items origin messages
  known : ∀ key existing, known.get? key = some existing →
    (existing ∈ origin ∧ existing.identityId = account.identity.identityId suite ∧
      keyOf suite existing = key) ∨
    ∀ old ∈ origin, old.id ≠ existing.id

section Step

variable {origin : Table Message.id} {items : List Json} {item : Json}
  {known : MessageIndex} {world : World} {key : MessageKey}

theorem Untouched.raised {existing : Message} {state : String}
    (untouched : Untouched suite account origin items known world.store.messages)
    (member : item ∈ items) (keyed : messageKey suite item = .ok key)
    (present : known.get? key = some existing) (incoming : item.getD "state" = .str state)
    (high : stateRank existing.state < stateRank (some state)) :
    Untouched suite account origin items known
      (Store.setMessageState world.store.messages existing.id (some state)) where
  rows := by
    intro old oldMember
    obtain ⟨kept, keptMember, leaves⟩ := untouched.rows old oldMember
    have sameId : kept.id = old.id := by rw [← leaves.content]
    refine ⟨_, Table.mem_update.mpr ⟨kept, keptMember, rfl⟩, ?_⟩
    by_cases target : kept.id = existing.id
    · rcases untouched.known key existing present with ⟨own, ours, sameKey⟩ | other
      · have same : existing = old := Table.unique own oldMember (target.symm.trans sameId)
        subst same
        simp only [Table.Change.at, if_pos target, Store.withState]
        exact ⟨leaves.content, .inr ⟨item, member, ours, keyed.trans (by rw [sameKey]),
          ⟨state, incoming, rfl⟩, high⟩⟩
      · exact absurd (sameId.symm.trans target) (other old oldMember)
    · simp only [Table.Change.at, if_neg target]
      exact leaves
  known := untouched.known

theorem Untouched.inserted {row : Message}
    (untouched : Untouched suite account origin items known world.store.messages)
    (spared : ∀ old ∈ origin, old.id ≠ row.id) :
    Untouched suite account origin items
      (known.insert key (((world.store.messages.get? row.id).map
        (Store.rewrite row).apply).getD row))
      (Store.insertMessage world.store.messages row) where
  rows := by
    intro old oldMember
    obtain ⟨kept, keptMember, leaves⟩ := untouched.rows old oldMember
    have sameId : kept.id = old.id := by rw [← leaves.content]
    exact ⟨kept, Table.mem_upsert_iff.mpr (.inr ⟨keptMember,
      fun same => spared old oldMember (sameId.symm.trans same)⟩), leaves⟩
  known := by
    intro other existing present
    rw [Dict.get?_insert] at present
    split at present
    · cases present
      right
      intro old oldMember
      have stored := (Table.get?_eq_some.mp (Table.get?_upsert_self world.store.messages row
        (Store.rewrite row))).2
      rw [stored]
      exact spared old oldMember
    · exact untouched.known other existing present

/-- The merge of an item that spares the rows of the origin. -/
theorem Untouched.step {counts : Counts} (member : item ∈ items)
    (untouched : Untouched suite account origin items known world.store.messages)
    (spares : Spares suite environment account origin item known world) :
    LeavesRows suite account items origin
        ((mergeMessage suite environment account (known, counts) item).after
          world).store.messages ∧
      ∀ next later, (mergeMessage suite environment account (known, counts) item).run world =
        (.ok next, later) →
          Untouched suite account origin items next.1 later.store.messages := by
  by_cases contacted : (item.getD "contact_id").truthy = true
  case neg =>
    rcases @run_uncontacted suite environment account item (by simpa using contacted)
      (known, counts) world with ⟨raised, ran⟩ | ran
    · rw [after_eq ran]
      refine ⟨untouched.rows, fun next later same => ?_⟩
      rw [ran] at same
      cases same
    · rw [after_eq ran]
      refine ⟨untouched.rows, fun next later same => ?_⟩
      rw [ran] at same
      cases same
      exact untouched
  have outcome : Merge suite environment account item (known, counts) world _ :=
    run_mergeMessage (known, counts) item world
  unfold Prog.after
  generalize (mergeMessage suite environment account (known, counts) item).run world = result
    at outcome ⊢
  cases outcome with
  | refused raised elapsed reason =>
      exact ⟨untouched.rows, fun next later impossible => by cases impossible⟩
  | skipped noContact =>
      refine ⟨untouched.rows, fun next later same => ?_⟩
      cases same
      exact untouched
  | kept key existing rank keyed present ranked low =>
      refine ⟨untouched.rows, fun next later same => ?_⟩
      cases same
      exact untouched
  | raised key existing state counts keyed present incoming high =>
      have after := untouched.raised member keyed present incoming high
      refine ⟨after.rows, fun next later same => ?_⟩
      cases same
      exact after
  | inserted key ts row counts keyed absent timed converted =>
      have after := @Untouched.inserted suite account origin items known world key row
        untouched fun old oldMember same => spares old oldMember row
          ⟨contacted, ⟨key, keyed, absent⟩, ⟨ts, timed, converted⟩, same⟩
      refine ⟨after.rows, fun next later same => ?_⟩
      cases same
      exact after

end Step

end NoKnowledge.Core.MergeFrame

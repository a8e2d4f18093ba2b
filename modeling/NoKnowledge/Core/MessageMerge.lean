import NoKnowledge.Core.Reception

/-!
# What merging one message item does

The merge of an item either leaves the messages alone, raises the state of one
message or stores one message.  `Merge` lists these outcomes with the conditions
under which the program takes them; every statement about merged histories is
derived from it.
-/

namespace NoKnowledge.Core

/-- The world after a change of the messages. -/
def World.withMessages (world : World) (messages : Table Message.id) : World :=
  { world with store := { world.store with messages } }

@[simp] theorem World.withMessages_messages (world : World)
    (messages : Table Message.id) :
    (world.withMessages messages).store.messages = messages := rfl

@[simp] theorem World.withMessages_tick (world : World) (messages : Table Message.id) :
    (world.withMessages messages).tick = world.tick := rfl

/-- Time passes, and the messages and the index of a transfer stay as they are. -/
structure Aside (first second : World) : Prop where
  messages : second.store.messages = first.store.messages
  index : second.syncMessageIndex = first.syncMessageIndex
  tick : first.tick ≤ second.tick

def aside : Prog.Frame World where
  rel := Aside
  refl := fun _ => ⟨rfl, rfl, Nat.le_refl _⟩
  trans := fun first second => ⟨second.messages.trans first.messages,
    second.index.trans first.index, first.tick.trans second.tick⟩

/-- Most of what a client receives does not touch its messages. -/
theorem receptive_aside : Receptive aside where
  quiet := {
    tick := fun _ elapsed => ⟨rfl, rfl, Nat.le_add_right _ elapsed⟩
    put := fun _ _ => ⟨rfl, rfl, Nat.le_refl _⟩
    siblingKeys := fun _ _ => ⟨rfl, rfl, Nat.le_refl _⟩
    deviceList := fun _ _ _ => ⟨rfl, rfl, Nat.le_refl _⟩
    deviceKeys := fun _ _ => ⟨rfl, rfl, Nat.le_refl _⟩ }
  mirror := AllowsRecord.mirrors fun _ _ _ => ⟨rfl, rfl, Nat.le_refl _⟩
  sessions := fun _ _ _ => ⟨rfl, rfl, Nat.le_refl _⟩
  outbox := fun _ _ => ⟨rfl, rfl, Nat.le_refl _⟩
  localBlobs := fun _ _ => ⟨rfl, rfl, Nat.le_refl _⟩
  prekeys := fun _ _ _ _ => ⟨rfl, rfl, Nat.le_refl _⟩
  state := fun _ _ _ _ _ => ⟨rfl, rfl, Nat.le_refl _⟩

/-- Time passes. -/
def elapsing : Prog.Frame World where
  rel := fun first second => first.tick ≤ second.tick
  refl := fun _ => Nat.le_refl _
  trans := Nat.le_trans

theorem permissive_elapsing : Permissive elapsing where
  quiet := {
    tick := fun _ elapsed => Nat.le_add_right _ elapsed
    put := fun _ _ => Nat.le_refl _
    siblingKeys := fun _ _ => Nat.le_refl _
    deviceList := fun _ _ _ => Nat.le_refl _
    deviceKeys := fun _ _ => Nat.le_refl _ }
  mirror := AllowsRecord.mirrors fun _ _ _ => Nat.le_refl _
  sessions := fun _ _ _ => Nat.le_refl _
  outbox := fun _ _ => Nat.le_refl _
  localBlobs := fun _ _ => Nat.le_refl _
  prekeys := fun _ _ _ _ => Nat.le_refl _
  state := fun _ _ _ _ _ => Nat.le_refl _
  messages := fun _ _ => Nat.le_refl _
  index := fun _ _ => Nat.le_refl _

namespace History

open Prog

variable {suite : Suite} {environment : Environment} {account : Account}

def rowRank (message : Message) : Nat := stateRank message.state

/-- Only a state that is a text has a rank above another one. -/
theorem rankOf_high {value : Json} {low rank : Nat} (ranked : rankOf value = .ok rank)
    (high : low < rank) :
    ∃ state, value = .str state ∧ stateRank (some state) = rank := by
  cases value with
  | str state => exact ⟨state, rfl, by simpa [rankOf] using ranked⟩
  | arr items => cases ranked
  | obj fields => cases ranked
  | _ =>
      cases ranked
      cases high

theorem messageIndex_get? {store : Store} {identityId : String} {key : MessageKey}
    {row : Message} (found : (messageIndex suite store identityId).get? key = some row) :
    row ∈ store.messages ∧ row.identityId = identityId ∧ keyOf suite row = key := by
  rcases Dict.get?_foldl_insert found with ⟨member, same⟩ | impossible
  · rw [Store.listAllMessages, List.mem_insertionSort] at member
    obtain ⟨stored, own⟩ := Table.mem_filter.mp member
    exact ⟨stored, of_decide_eq_true own, same⟩
  · cases impossible

theorem messageIndex_get?_eq_none {store : Store} {identityId : String}
    {key : MessageKey} :
    (messageIndex suite store identityId).get? key = none ↔
      ∀ row ∈ store.messages, row.identityId = identityId → keyOf suite row ≠ key := by
  rw [messageIndex, Dict.get?_foldl_insert_eq_none, Dict.get?_empty]
  simp only [Store.listAllMessages, List.mem_insertionSort, true_and]
  constructor
  · intro absent row member own
    exact absent row (Table.mem_filter.mpr ⟨member, decide_eq_true own⟩)
  · intro absent row member
    obtain ⟨stored, own⟩ := Table.mem_filter.mp member
    exact absent row stored (of_decide_eq_true own)

/-- The index depends on the messages only. -/
theorem messageIndex_congr {first second : Store}
    (same : second.messages = first.messages) (identityId : String) :
    messageIndex suite second identityId = messageIndex suite first identityId := by
  simp only [messageIndex, Store.listAllMessages, same]

theorem run_addMessage {input : MessageInput} {row : Message}
    (converted : Store.messageRow input = .ok row) (world : World) :
    (onStore (Store.addMessage input)).run world =
      (.ok (), world.withMessages (Store.insertMessage world.store.messages row)) := by
  have ran : (Store.addMessage input).run world.store = (.ok (), { world.store with
      messages := Store.insertMessage world.store.messages row }) := by
    rw [Store.addMessage, converted]
    rfl
  simp only [onStore, Prog.run] at ran ⊢
  rw [ran]
  rfl

theorem run_addMessage_refused {input : MessageInput} {raised : Raised}
    (refused : Store.messageRow input = .error raised) (world : World) :
    (onStore (Store.addMessage input)).run world = (.error raised, world) := by
  have ran : (Store.addMessage input).run world.store = (.error raised, world.store) := by
    rw [Store.addMessage, refused]
    rfl
  simp only [onStore, Prog.run] at ran ⊢
  rw [ran]

/-- Adding a message, when the frame allows the row it is stored as. -/
theorem rel_addMessage {frame : Frame World} {input : MessageInput} {world : World}
    (allowed : ∀ row, Store.messageRow input = .ok row → frame.rel world
      (world.withMessages (Store.insertMessage world.store.messages row))) :
    frame.rel world ((onStore (Store.addMessage input)).after world) := by
  unfold Prog.after
  cases converted : Store.messageRow input with
  | error raised =>
      rw [run_addMessage_refused converted]
      exact frame.refl world
  | ok row =>
      rw [run_addMessage converted]
      exact allowed row converted

/-- Setting a state, when the frame allows it for every message. -/
theorem keeps_updateMessage {frame : Frame World}
    (allowed : ∀ world id state, frame.rel world
      (world.withMessages (Store.setMessageState world.store.messages id state)))
    (messageId state : Json) :
    Keeps frame (onStore (Store.updateMessage messageId state)) := by
  intro world
  unfold Store.updateMessage
  cases Sql.text state with
  | error raised => exact frame.refl world
  | ok bound =>
      cases Sql.text messageId with
      | error raised => exact frame.refl world
      | ok target =>
          cases target with
          | none => exact frame.refl world
          | some id => exact allowed world id bound

theorem hashed_str (text : String) : hashed (.str text) = .ok (.str text) := rfl

/-- Setting a state changes nothing else. -/
theorem withState_at_apply (state : Option String) (id : String) (row : Message) :
    ∃ after, ((Store.withState state).at id).apply row = { row with state := after } := by
  simp only [Table.Change.at]
  split
  · exact ⟨state, rfl⟩
  · exact ⟨row.state, rfl⟩

/-- A row belongs to the identity it was made for. -/
theorem messageRow_identityId {input : MessageInput} {row : Message}
    (converted : Store.messageRow input = .ok row) :
    row.identityId = input.identityId := by
  simp only [Store.messageRow, except_bind_eq_ok] at converted
  obtain ⟨_, _, _, _, _, _, _, _, _, _, _, _, _, _, built⟩ := converted
  cases built
  rfl

/-- A row is stored under the identifier it was given. -/
theorem messageRow_id {input : MessageInput} {row : Message} {id : String}
    (converted : Store.messageRow input = .ok row) (given : input.id = .str id) :
    row.id = id := by
  unfold Store.messageRow at converted
  rw [given] at converted
  simp only [except_bind_eq_ok] at converted
  obtain ⟨rowId, idConverted, _, _, _, _, _, _, _, _, _, _, _, _, built⟩ := converted
  cases idConverted
  cases built
  rfl

/-- A message found by its remote id is stored. -/
theorem mem_of_findByRemoteId {identityId : String} {remoteId : Json}
    {direction : Option String} {store final : Store} {row : Message}
    (returned : (Store.findByRemoteId identityId remoteId direction).run store =
      (.ok (some row), final)) : row ∈ store.messages := by
  obtain ⟨text, middle, bound, rest⟩ := bind_returns returned
  obtain ⟨-, rfl⟩ := lift_returns bound
  cases text with
  | none => cases rest
  | some text =>
      rw [run_bind_ok (run_get _)] at rest
      have found := (Prod.mk.inj rest).1
      rw [Except.ok.injEq] at found
      exact List.mem_of_find?_eq_some found

theorem remoteTarget_returns {remoteId : Json} {world final : World}
    {found : Option Message}
    (returned : (Sync.remoteTarget suite account remoteId).run world =
      (.ok found, final)) :
    final = world ∧ ∀ row, found = some row → row ∈ world.store.messages := by
  unfold Sync.remoteTarget at returned
  split at returned
  · obtain ⟨rfl, ran⟩ := onStore_returns (findByRemoteId_after _ _ _ _) returned
    refine ⟨rfl, ?_⟩
    rintro row rfl
    exact mem_of_findByRemoteId ran
  · cases returned
    exact ⟨rfl, fun _ impossible => by cases impossible⟩

/-- A mirrored state change is about a stored message. -/
theorem mirroredTarget_returns {change : Json} {world final : World} {target : Message}
    (returned : (Sync.mirroredTarget suite account change).run world =
      (.ok (some target), final)) :
    final = world ∧ target ∈ world.store.messages := by
  obtain ⟨remoteId, middle, attempted, afterRead⟩ := bind_returns returned
  obtain ⟨-, rfl⟩ := lift_returns attempted
  obtain ⟨byRemote, later, searched, rest⟩ := bind_returns afterRead
  obtain ⟨rfl, stored⟩ := remoteTarget_returns searched
  cases byRemote with
  | some found =>
      cases rest
      exact ⟨rfl, stored target rfl⟩
  | none =>
      obtain ⟨id, middle, attempted, byId⟩ := bind_returns rest
      obtain ⟨-, rfl⟩ := lift_returns attempted
      split at byId
      · obtain ⟨found, rfl⟩ := Prod.mk.inj byId
        rw [Except.ok.injEq] at found
        exact ⟨rfl, (Table.get?_eq_some.mp found).1⟩
      · cases byId

/-- A row has the state of its input. -/
theorem messageRow_state {input : MessageInput} {row : Message}
    (converted : Store.messageRow input = .ok row) :
    Sql.text input.state = .ok row.state := by
  simp only [Store.messageRow, except_bind_eq_ok] at converted
  obtain ⟨_, _, _, _, _, _, _, _, _, _, _, _, state, bound, built⟩ := converted
  cases built
  exact bound

/-- The random identifier of a merged message. -/
def drawnId (environment : Environment) (tick : Nat) : String :=
  Channel.hex (drawnAt environment 16 tick)

/-- The identifier a merged message gets, and how many ticks that takes. -/
def idAt (environment : Environment) (item : Json) (tick : Nat) : String × Nat :=
  if (item.getD "id").truthy then ((item.getD "id").toText, 0)
  else (drawnId environment tick, 1)

theorem run_mergedId (item : Json) (world : World) :
    (mergedId environment item).run world =
      (.ok (idAt environment item world.tick).1,
        { world with tick := world.tick + (idAt environment item world.tick).2 }) := by
  unfold mergedId idAt
  by_cases given : (item.getD "id").truthy = true
  · simp only [if_pos given]
    rfl
  · simp only [if_neg given]
    rfl

variable (suite environment account)

/-- Why the merge of an item may raise: a part of it cannot be read or stored. -/
inductive Malformed (item : Json) (tick : Nat) : Prop
  | contactId {raised : Raised} (refused : item.attempt "contact_id" = .error raised)
  | key {raised : Raised} (refused : messageKey suite item = .error raised)
  | state {raised : Raised} (refused : rankOf (item.getD "state") = .error raised)
  | ts {raised : Raised}
      (refused : ((item.getD "ts").orElse (.int 0)).toInt = .error raised)
  | row {raised : Raised} {ts : Int}
      (timed : ((item.getD "ts").orElse (.int 0)).toInt = .ok ts)
      (refused : Store.messageRow (inputOf (account.identity.identityId suite) item
        (idAt environment item tick).1 ts) = .error raised)

/-- Every way the merge of one item can end. -/
inductive Merge (item : Json) (progress : MessageIndex × Counts) (world : World) :
    Except Raised (MessageIndex × Counts) × World → Prop
  | refused (raised : Raised) (elapsed : Nat)
      (reason : Malformed suite environment account item world.tick) :
      Merge item progress world
        (.error raised, { world with tick := world.tick + elapsed })
  | skipped (noContact : (item.getD "contact_id").truthy = false) :
      Merge item progress world (.ok progress, world)
  | kept (key : MessageKey) (existing : Message) (rank : Nat)
      (keyed : messageKey suite item = .ok key)
      (present : progress.1.get? key = some existing)
      (ranked : rankOf (item.getD "state") = .ok rank)
      (low : rank ≤ stateRank existing.state) :
      Merge item progress world (.ok progress, world)
  | raised (key : MessageKey) (existing : Message) (state : String) (counts : Counts)
      (keyed : messageKey suite item = .ok key)
      (present : progress.1.get? key = some existing)
      (incoming : item.getD "state" = .str state)
      (high : stateRank existing.state < stateRank (some state)) :
      Merge item progress world (.ok (progress.1, counts), world.withMessages
        (Store.setMessageState world.store.messages existing.id (some state)))
  | inserted (key : MessageKey) (ts : Int) (row : Message) (counts : Counts)
      (keyed : messageKey suite item = .ok key)
      (absent : progress.1.get? key = none)
      (timed : ((item.getD "ts").orElse (.int 0)).toInt = .ok ts)
      (converted : Store.messageRow (inputOf (account.identity.identityId suite) item
        (idAt environment item world.tick).1 ts) = .ok row) :
      Merge item progress world
        (.ok (progress.1.insert key (((world.store.messages.get? row.id).map
            (Store.rewrite row).apply).getD row), counts),
          { world with
            tick := world.tick + (idAt environment item world.tick).2 }.withMessages
              (Store.insertMessage world.store.messages row))

variable {suite environment account}

theorem run_insertItem (item : Json) (progress : MessageIndex × Counts) (world : World)
    {key : MessageKey} (keyed : messageKey suite item = .ok key)
    (absent : progress.1.get? key = none) :
    Merge suite environment account item progress world
      ((insertItem suite environment account item key progress.1 progress.2).run
        world) := by
  unfold insertItem
  rw [run_bind_ok (run_mergedId item world)]
  cases timed : ((item.getD "ts").orElse (.int 0)).toInt with
  | error raised => exact Merge.refused raised _ (.ts timed)
  | ok ts =>
      cases converted : Store.messageRow (inputOf (account.identity.identityId suite)
        item (idAt environment item world.tick).1 ts) with
      | error raised =>
          rw [run_bind_ok (run_lift_ok ts _),
            run_bind_error (run_addMessage_refused converted _)]
          exact Merge.refused raised _ (.row timed converted)
      | ok row =>
          have sameId := messageRow_id converted rfl
          rw [run_bind_ok (run_lift_ok ts _), run_bind_ok (run_addMessage converted _)]
          have found := Table.get?_upsert_self world.store.messages row
            (Store.rewrite row)
          have stored : Store.getMessage ({ world with
              tick := world.tick + (idAt environment item world.tick).2 }.withMessages
                (Store.insertMessage world.store.messages row)).store
              (idAt environment item world.tick).1 =
              some (((world.store.messages.get? row.id).map
                (Store.rewrite row).apply).getD row) := by
            rw [← sameId]
            exact found
          rw [run_bind_ok (run_askStore _ _), stored]
          exact Merge.inserted key ts row _ keyed absent timed converted

theorem run_raiseState_refused {item : Json} {raised : Raised}
    (refused : rankOf (item.getD "state") = .error raised) (existing : Message)
    (counts : Counts) (world : World) :
    (raiseState item existing counts).run world = (.error raised, world) := by
  simp only [raiseState, refused]
  rfl

theorem run_raiseState_kept {item : Json} {rank : Nat}
    (ranked : rankOf (item.getD "state") = .ok rank) {existing : Message}
    (low : rank ≤ stateRank existing.state) (counts : Counts) (world : World) :
    (raiseState item existing counts).run world = (.ok counts, world) := by
  simp only [raiseState, ranked]
  rw [run_bind_ok (run_lift_ok rank world), if_neg (Nat.not_lt.mpr low)]
  rfl

theorem run_raiseState_raised {item : Json} {state : String}
    (incoming : item.getD "state" = .str state) {existing : Message}
    (high : stateRank existing.state < stateRank (some state)) (counts : Counts)
    (world : World) :
    (raiseState item existing counts).run world =
      (.ok { counts with updates := counts.updates + 1 }, world.withMessages
        (Store.setMessageState world.store.messages existing.id (some state))) := by
  simp only [raiseState, incoming, rankOf]
  rw [run_bind_ok (run_lift_ok (stateRank (some state)) world), if_pos high]
  rfl

/-- The merge of one item. -/
theorem run_mergeMessage (progress : MessageIndex × Counts) (item : Json)
    (world : World) :
    Merge suite environment account item progress world
      ((mergeMessage suite environment account progress item).run world) := by
  unfold mergeMessage
  cases attempted : item.attempt "contact_id" with
  | error raised => exact Merge.refused raised 0 (.contactId attempted)
  | ok contactId =>
      rw [run_bind_ok (run_lift_ok contactId world)]
      have read : item.getD "contact_id" = contactId := Json.attempt_eq_ok attempted
      cases truthy : contactId.truthy with
      | false => exact Merge.skipped (read ▸ truthy)
      | true =>
          simp only [Bool.not_true, Bool.false_eq_true, if_false]
          cases keyed : messageKey suite item with
          | error raised => exact Merge.refused raised 0 (.key keyed)
          | ok key =>
              rw [run_bind_ok (run_lift_ok key world)]
              cases present : progress.1.get? key with
              | none => exact run_insertItem item progress world keyed present
              | some existing =>
                  cases ranked : rankOf (item.getD "state") with
                  | error raised =>
                      rw [run_bind_error (run_raiseState_refused ranked _ _ _)]
                      exact Merge.refused raised 0 (.state ranked)
                  | ok rank =>
                      by_cases low : rank ≤ stateRank existing.state
                      · rw [run_bind_ok (run_raiseState_kept ranked low _ _)]
                        exact Merge.kept key existing rank keyed present ranked low
                      · have high := Nat.lt_of_not_le low
                        obtain ⟨state, incoming, rfl⟩ := rankOf_high ranked high
                        rw [run_bind_ok (run_raiseState_raised incoming high _ _)]
                        exact Merge.raised key existing state _ keyed present incoming
                          high

variable (suite account) in
/-- The index a back-fill item is merged against. -/
def indexOf (world : World) : MessageIndex :=
  world.syncMessageIndex.getD
    (messageIndex suite world.store (account.identity.identityId suite))

theorem indexOf_congr {first second : World} (passed : Aside first second) :
    indexOf suite account second = indexOf suite account first := by
  rw [indexOf, indexOf, passed.index, messageIndex_congr passed.messages]

theorem run_transferIndex (world : World) :
    (Sync.transferIndex suite account).run world =
      (.ok (indexOf suite account world),
        { world with syncMessageIndex := some (indexOf suite account world) }) := by
  obtain ⟨store, siblingKeys, deviceList, deviceListTs, index, tick, puts, records,
    acks⟩ := world
  cases index <;> rfl

/-- A back-fill item: its message is merged, and the index is what the merge made
of it. -/
theorem run_mergeTransferMessage (payload : Json) (world : World) :
    (Sync.mergeTransferMessage suite environment account payload).run world =
      match (mergeMessage suite environment account (indexOf suite account world, {})
        payload).run
          { world with syncMessageIndex := some (indexOf suite account world) } with
      | (.ok progress, final) =>
          (.ok (), { final with syncMessageIndex := some progress.1 })
      | (.error raised, final) => (.error raised, final) := by
  unfold Sync.mergeTransferMessage
  rw [run_bind_ok (run_transferIndex world)]
  unfold mergeMessages
  rw [List.foldlM_cons, run_bind, run_bind]
  split
  · rename_i progress final ran
    split at ran
    · rename_i found merged mergedRun
      rw [mergedRun]
      cases ran
      rfl
    · cases ran
  · rename_i raised final ran
    split at ran
    · cases ran
    · rename_i mergedRun
      rw [mergedRun]
      cases ran
      rfl

theorem after_mergeIndexed (items : List Json) (counts : Counts) (world : World) :
    (mergeIndexed suite environment account items counts).after world =
      (items.foldlM (mergeMessage suite environment account)
        (messageIndex suite world.store (account.identity.identityId suite),
          counts)).after world := by
  unfold mergeIndexed
  rw [after_bind_ok (run_askStore _ _), after_bind_idle fun _ _ => rfl]
  rfl

end History

end NoKnowledge.Core

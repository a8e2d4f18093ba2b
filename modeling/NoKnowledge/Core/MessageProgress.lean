import NoKnowledge.Core.Ingestion
import NoKnowledge.Crypto.SymbolicSuite

/-!
# Message states move forward

Receipts, merged bundles, back-fill items and mirrors all write the state of a
message.  Only a mirrored state change compares with the stored row.  A receipt
is written unconditionally, and a merge compares with what its index remembers.
So states move forward along the runs in which no receipt is behind its message
and no item falls between what the index remembers and what is stored.
-/

namespace NoKnowledge.Core.Progress

open Prog History

variable {suite : Suite} {environment : Environment} {account : Account}

/-- Every message is still there, in a state that is not behind. -/
def Forward (first second : World) : Prop :=
  ∀ row ∈ first.store.messages, ∃ later ∈ second.store.messages,
    later.id = row.id ∧ stateRank row.state ≤ stateRank later.state

theorem Forward.of_messages {first second : World}
    (same : second.store.messages = first.store.messages) : Forward first second :=
  fun row member => ⟨row, same ▸ member, rfl, Nat.le_refl _⟩

theorem Forward.trans {first second third : World} (left : Forward first second)
    (right : Forward second third) : Forward first third := by
  intro row member
  obtain ⟨middle, middleMember, sameId, low⟩ := left row member
  obtain ⟨later, laterMember, laterId, high⟩ := right middle middleMember
  exact ⟨later, laterMember, laterId.trans sameId, low.trans high⟩

/-- Setting the state of one message to one that is not behind. -/
theorem forward_setMessageState {world : World} {id : String} {state : Option String}
    (ahead : ∀ row ∈ world.store.messages, row.id = id →
      stateRank row.state ≤ stateRank state) :
    Forward world (world.withMessages
      (Store.setMessageState world.store.messages id state)) := by
  intro row member
  refine ⟨((Store.withState state).at id).apply row,
    Table.mem_update.mpr ⟨row, member, rfl⟩,
    ((Store.withState state).at id).keeps row, ?_⟩
  simp only [Table.Change.at]
  split
  · exact ahead row member ‹_›
  · exact Nat.le_refl _

/-- Adding a message, when no message that is ahead of it has its id. -/
theorem forward_insertMessage {world : World} {new : Message}
    (ahead : ∀ row ∈ world.store.messages, row.id = new.id →
      stateRank row.state ≤ stateRank new.state) :
    Forward world (world.withMessages
      (Store.insertMessage world.store.messages new)) := by
  intro row member
  cases found : world.store.messages.get? new.id with
  | none =>
      refine ⟨row, ?_, rfl, Nat.le_refl _⟩
      rw [World.withMessages_messages, Table.mem_iff, Store.insertMessage,
        Table.upsert_of_none found]
      exact List.mem_append_left _ member
  | some old =>
      refine ⟨((Store.rewrite new).at new.id).apply row, ?_,
        ((Store.rewrite new).at new.id).keeps row, ?_⟩
      · rw [World.withMessages_messages, Store.insertMessage, Table.upsert_of_some found]
        exact Table.mem_update.mpr ⟨row, member, rfl⟩
      · simp only [Table.Change.at]
        split
        · exact ahead row member ‹_›
        · exact Nat.le_refl _

/-- An item does not fall between what the index remembers of its message and
what is stored, and does not take the identifier of a message that is ahead. -/
structure Timely (suite : Suite) (environment : Environment) (limit : Nat)
    (item : Json) (known : MessageIndex) (world : World) : Prop where
  remembered : ∀ key existing row rank, messageKey suite item = .ok key →
    known.get? key = some existing → row ∈ world.store.messages →
    row.id = existing.id → rankOf (item.getD "state") = .ok rank →
      rank ≤ stateRank existing.state ∨ stateRank row.state ≤ rank
  taken : ∀ key row state, messageKey suite item = .ok key → known.get? key = none →
    row ∈ world.store.messages → MayGet environment limit item world row.id →
    Sql.text (item.getD "state") = .ok state →
      stateRank row.state ≤ stateRank state

theorem Timely.later {limit : Nat} {item : Json} {known : MessageIndex}
    {first second : World} (same : second.store.messages = first.store.messages)
    (elapsed : first.tick ≤ second.tick)
    (timely : Timely suite environment limit item known first) :
    Timely suite environment limit item known second where
  remembered := by
    intro key existing row rank keyed found member named ranked
    rw [same] at member
    exact timely.remembered key existing row rank keyed found member named ranked
  taken := by
    intro key row state keyed missing member mayGet bound
    rw [same] at member
    exact timely.taken key row state keyed missing member (mayGet.earlier elapsed) bound

/-- The merge of a timely item moves states forward. -/
theorem forward_mergeMessage {limit : Nat} {item : Json}
    {progress : MessageIndex × Counts} {world : World}
    (timely : Timely suite environment limit item progress.1 world)
    (inTime : ((mergeMessage suite environment account progress item).after world).tick ≤
      limit) :
    Forward world ((mergeMessage suite environment account progress item).after world) := by
  have outcome : Merge suite environment account item progress world _ :=
    run_mergeMessage progress item world
  unfold Prog.after at inTime ⊢
  generalize (mergeMessage suite environment account progress item).run world = result
    at outcome inTime ⊢
  cases outcome with
  | refused raised elapsed reason => exact Forward.of_messages rfl
  | skipped noContact => exact Forward.of_messages rfl
  | kept key existing rank keyed found ranked low => exact Forward.of_messages rfl
  | raised key existing state counts keyed found incoming high =>
      apply forward_setMessageState
      intro row member same
      have ranked : rankOf (item.getD "state") = .ok (stateRank (some state)) := by
        rw [incoming]
        rfl
      rcases timely.remembered key existing row _ keyed found member same ranked with
        low | ahead
      · exact absurd low (Nat.not_le.mpr high)
      · exact ahead
  | inserted key ts row counts keyed missing timed converted =>
      refine @forward_insertMessage { world with
        tick := world.tick + (idAt environment item world.tick).2 } row ?_
      intro other member same
      refine timely.taken key other _ keyed missing member ?_ (messageRow_state converted)
      rw [same, messageRow_id converted rfl]
      exact mayGet_idAt inTime

/-- A mirrored state change is compared with the stored row. -/
theorem forward_applyMirroredState (change : Json) (world : World) :
    Forward world ((Sync.applyMirroredState suite account change).after world) := by
  unfold Sync.applyMirroredState
  rcases ran : (Sync.mirroredTarget suite account change).run world with ⟨result, middle⟩
  cases result with
  | error raised =>
      rw [after_bind_error ran]
      have same : middle = world :=
        (@keeps_mirroredTarget (keeping id) suite account change).view ran
      exact Forward.of_messages (same ▸ rfl)
  | ok found =>
      rw [after_bind_ok ran]
      cases found with
      | none =>
          have same : middle = world :=
            (@keeps_mirroredTarget (keeping id) suite account change).view ran
          exact Forward.of_messages (same ▸ rfl)
      | some target =>
          obtain ⟨rfl, stored⟩ := mirroredTarget_returns ran
          dsimp only
          split
          · rename_i high
            apply forward_setMessageState
            intro row member same
            rw [Table.unique member stored same]
            exact high.le
          · exact Forward.of_messages rfl

variable (suite environment account) in
/-- Timely items move states forward. -/
def ingestion : Ingestion suite environment account where
  frame := ⟨Forward, fun _ => Forward.of_messages rfl, Forward.trans⟩
  accepts := Timely suite environment
  aside := fun passed => Forward.of_messages passed.messages
  index := fun _ _ => Forward.of_messages rfl
  later := Timely.later
  merge := forward_mergeMessage
  state := forward_applyMirroredState

/-- What writes the state of a message. -/
inductive Step where
  | receipt (contact : ContactRow) (body : Json)
  | mergeBundle (bundle : Json)
  | handleRecord (blob : Bytes)

variable (suite environment account)

def Step.program : Step → ClientProg Unit
  | receipt contact body =>
      Client.receiveReceipt suite environment account contact body
  | mergeBundle bundle => do
      let _ ← History.mergeBundle suite environment account bundle
  | handleRecord blob => Sync.handleRecord suite environment account blob

/-- A receipt that is not behind the message it names. -/
def ReceiptTimely (body : Json) (world : World) : Prop :=
  ∀ target id state row, body.attempt "of" = .ok target →
    Sql.text target = .ok (some id) →
    Sql.text ((body.getD "kind").orElse (.str "read")) = .ok state →
    row ∈ world.store.messages → row.id = id →
      stateRank row.state ≤ stateRank state

/-- The inputs of a step do not lag behind the messages they are about. -/
def Step.Timely (limit : Nat) (world : World) : Step → Prop
  | receipt _ body => ReceiptTimely body world
  | mergeBundle bundle =>
      (ingestion suite environment account).AcceptsBundle limit bundle world
  | handleRecord blob =>
      (ingestion suite environment account).AcceptsRecord limit blob world

/-- Runs whose inputs do not lag behind. -/
inductive Run (start : World) : World → Prop
  | start : Run start start
  | step {world : World} (step : Step) (reached : Run start world)
      (timely : step.Timely suite environment account
        ((step.program suite environment account).after world).tick world) :
      Run start ((step.program suite environment account).after world)

variable {suite environment account}

theorem forward_receipt {limit : Nat} {contact : ContactRow} {body : Json} {world : World}
    (timely : ReceiptTimely body world)
    (inTime : ((Client.receiveReceipt suite environment account contact body).after
      world).tick ≤ limit) :
    Forward world
      ((Client.receiveReceipt suite environment account contact body).after world) := by
  have stable : ∀ first second, Aside first second → ReceiptTimely body first →
      ReceiptTimely body second := by
    intro first second passed holds target id state row read named bound member same
    rw [passed.messages] at member
    exact holds target id state row read named bound member same
  refine @Receptive.receiveReceipt _
    ((ingestion suite environment account).whenever limit (ReceiptTimely body) stable) _ _ _
    receptive_aside body ?_ contact world timely inTime
  intro target read given current holds _
  unfold Store.updateMessage
  cases bound : Sql.text ((body.getD "kind").orElse (.str "read")) with
  | error raised => exact Forward.of_messages rfl
  | ok state =>
      cases named : Sql.text target with
      | error raised => exact Forward.of_messages rfl
      | ok name =>
          cases name with
          | none => exact Forward.of_messages rfl
          | some id =>
              apply forward_setMessageState
              intro row member same
              exact holds target id state row read named bound member same

theorem Step.forward {step : Step} {world : World}
    (timely : step.Timely suite environment account
      ((step.program suite environment account).after world).tick world) :
    Forward world ((step.program suite environment account).after world) := by
  cases step with
  | receipt contact body => exact forward_receipt timely (Nat.le_refl _)
  | mergeBundle bundle =>
      have same : (Step.program suite environment account (.mergeBundle bundle)).after
          world = (History.mergeBundle suite environment account bundle).after world :=
        after_bind_idle (fun _ _ => rfl) world
      rw [same] at timely ⊢
      exact Ingestion.mergeBundle timely (Nat.le_refl _)
  | handleRecord blob => exact Ingestion.handleRecord timely (Nat.le_refl _)

/-- Along every run whose inputs do not lag behind, no message moves to a lower
state. -/
theorem states_move_forward {start world : World}
    (run : Run suite environment account start world) :
    ∀ row ∈ start.store.messages, ∃ later ∈ world.store.messages,
      later.id = row.id ∧ stateRank row.state ≤ stateRank later.state := by
  induction run with
  | start => exact Forward.of_messages rfl
  | step step reached timely induction => exact Forward.trans induction (Step.forward timely)

def receiptFor (target kind : String) : Json :=
  .mkObj [("of", .str target), ("kind", .str kind)]

/-- A message we sent. -/
def sentMessage : Message where
  id := "m"
  identityId := Account.specimen.identity.identityId Symbolic.suite
  contactId := "peer"
  direction := "sent"
  type := "text"
  body := .obj []
  remoteId := none
  ts := 5
  state := some "sent"

/-- The contact it was sent to. -/
def recipient : ContactRow where
  identityId := Account.specimen.identity.identityId Symbolic.suite
  id := "peer"
  nickname := none
  isign := []
  idh := []
  bundleId := none
  inbox := .obj []
  relays := []
  session := none
  verified := false
  createdAt := 1

def sentWorld : World where
  store := { messages := ⟨[sentMessage], List.nodup_singleton _⟩ }

def afterReceipt (kind : String) (world : World) : World :=
  ((Step.receipt recipient (receiptFor "m" kind)).program Symbolic.suite .idle
    .specimen).after world

/-- A delivered receipt that arrives after the read receipt takes the message back. -/
theorem delivered_receipt_after_read :
    (afterReceipt "read" sentWorld).store.messages.rows.map rowRank = [2] ∧
      (afterReceipt "delivered" (afterReceipt "read" sentWorld)).store.messages.rows.map
        rowRank = [1] := by
  decide +kernel

theorem receiptTimely_receiptFor {target kind : String} {world : World} (given : kind ≠ "")
    (ahead : ∀ row ∈ world.store.messages, row.id = target →
      rowRank row ≤ stateRank (some kind)) :
    ReceiptTimely (receiptFor target kind) world := by
  intro found id state row read named bound member same
  have ofRead : (receiptFor target kind).getD "of" = .str target := by
    simp [receiptFor, Json.getD, Json.get?_mkObj, List.lookup_cons]
  have kindRead : (receiptFor target kind).getD "kind" = .str kind := by
    simp [receiptFor, Json.getD, Json.get?_mkObj]
  rw [← Json.attempt_eq_ok read, ofRead] at named
  cases named
  rw [kindRead, Json.orElse_str given] at bound
  cases bound
  exact ahead row member same

/-- Delivered, then read. -/
theorem states_move_forward_read :
    ∃ later ∈ (afterReceipt "read" (afterReceipt "delivered" sentWorld)).store.messages,
      later.id = sentMessage.id ∧ stateRank sentMessage.state ≤ stateRank later.state := by
  have delivered : Run Symbolic.suite .idle .specimen sentWorld
      (afterReceipt "delivered" sentWorld) :=
    Run.start.step _ (receiptTimely_receiptFor (by decide) (by decide +kernel))
  exact states_move_forward (delivered.step (.receipt recipient (receiptFor "m" "read"))
    (receiptTimely_receiptFor (by decide) (by decide +kernel))) sentMessage
      (List.mem_singleton_self _)

end NoKnowledge.Core.Progress

import NoKnowledge.Core.MessageMerge

/-!
# Ingestion of messages

Merged bundles, back-fill items and mirrors bring messages in through the same
merge of single items, against different indexes: a bundle and a mirror are
merged against an index of what is stored, the items of a transfer against one
that is kept for the whole transfer.  An `Ingestion` is a frame that the merge
of single items stays within under a condition on the item, the index and the
world; bundles and records then stay within it as well.
-/

namespace NoKnowledge.Core

open Prog History

variable (suite : Suite) (environment : Environment) (account : Account)

/-- Items that fulfil a condition, each when its turn comes. -/
def EachItem (accepts : Json → MessageIndex → World → Prop) :
    List Json → (MessageIndex × Counts) → World → Prop
  | [], _, _ => True
  | item :: items, progress, world =>
      accepts item progress.1 world ∧
        ∀ next later, (mergeMessage suite environment account progress item).run world =
          (.ok next, later) → EachItem accepts items next later

/-- The identifiers an item may be stored under: its own, or one drawn before a
tick. -/
def MayGet (limit : Nat) (item : Json) (world : World) (id : String) : Prop :=
  if (item.getD "id").truthy then id = (item.getD "id").toText
  else ∃ tick, world.tick ≤ tick ∧ tick < limit ∧ id = drawnId environment tick

/-- A frame for the merge of items that are accepted; `limit` is the tick at which
the step at hand ends. -/
structure Ingestion where
  frame : Frame World
  accepts : (limit : Nat) → Json → MessageIndex → World → Prop
  aside : ∀ {first second}, Aside first second → frame.rel first second
  index : ∀ world syncMessageIndex, frame.rel world { world with syncMessageIndex }
  later : ∀ {limit item known first second},
    second.store.messages = first.store.messages → first.tick ≤ second.tick →
      accepts limit item known first → accepts limit item known second
  merge : ∀ {limit item progress world}, accepts limit item progress.1 world →
    ((mergeMessage suite environment account progress item).after world).tick ≤ limit →
      frame.rel world ((mergeMessage suite environment account progress item).after world)
  state : ∀ change world,
    frame.rel world ((Sync.applyMirroredState suite account change).after world)

variable {suite environment account}

theorem MayGet.earlier {limit : Nat} {item : Json} {first second : World} {id : String}
    (elapsed : first.tick ≤ second.tick)
    (mayGet : MayGet environment limit item second id) :
    MayGet environment limit item first id := by
  unfold MayGet at mayGet ⊢
  split
  · rwa [if_pos ‹_›] at mayGet
  · rw [if_neg ‹_›] at mayGet
    obtain ⟨tick, later, below, drawn⟩ := mayGet
    exact ⟨tick, elapsed.trans later, below, drawn⟩

/-- A merged message gets one of these identifiers. -/
theorem mayGet_idAt {limit : Nat} {item : Json} {world : World}
    (inTime : world.tick + (idAt environment item world.tick).2 ≤ limit) :
    MayGet environment limit item world (idAt environment item world.tick).1 := by
  unfold MayGet
  unfold idAt at inTime ⊢
  split
  · simp [*]
  · rename_i drawn
    rw [if_neg drawn] at inTime
    exact ⟨world.tick, Nat.le_refl _, inTime, rfl⟩

theorem elapsed_mergeMessages (items : List Json) (progress : MessageIndex × Counts)
    (world : World) :
    world.tick ≤ ((items.foldlM (mergeMessage suite environment account) progress).after
      world).tick :=
  keeps_foldlM (fun progress item _ => permissive_elapsing.mergeMessage progress item)
    progress world

/-- Contacts do not touch the messages. -/
theorem keeps_aside_contacts (items : List Json) (counts : Counts) :
    Keeps aside (mergeContacts suite environment account items counts) :=
  keeps_mergeContacts (fun _ _ => keeps_mergeContact receptive_aside.quiet
    fun _ _ _ _ _ _ => ⟨rfl, rfl, Nat.le_refl _⟩) counts

namespace Ingestion

variable (ingestion : Ingestion suite environment account)

/-- The items of a bundle are accepted, once its contacts are filed. -/
def AcceptsBundle (limit : Nat) (bundle : Json) (world : World) : Prop :=
  ∀ contacts messages counts middle,
    itemsOf bundle "contacts" = .ok contacts →
    itemsOf bundle "messages" = .ok messages →
    (mergeContacts suite environment account contacts {}).run world =
      (.ok counts, middle) →
    EachItem suite environment account (ingestion.accepts limit) messages
      (messageIndex suite middle.store (account.identity.identityId suite), counts) middle

/-- The message item of an opened record is accepted. -/
def AcceptsPayload (limit kind : Nat) (payload : Json) (world : World) : Prop :=
  (kind = Channel.item → payload.getD "kind" = .str "message" →
    ingestion.accepts limit (payload.eraseField "kind") (indexOf suite account world)
      world) ∧
  (kind = Channel.mirror → payload.getD "kind" = .str "mirror" →
    ingestion.accepts limit (payload.getD "message")
      (messageIndex suite world.store (account.identity.identityId suite)) world)

/-- The message item of a record is accepted, whatever it opens to. -/
def AcceptsRecord (limit : Nat) (blob : Bytes) (world : World) : Prop :=
  ∀ sagreePrivate sdev deviceId kind header plaintext payload,
    Channel.openRecord suite blob sagreePrivate sdev deviceId =
      .ok (kind, header, plaintext) →
    Sync.loads plaintext = .ok payload →
      ingestion.AcceptsPayload limit kind payload world

/-- Staying within the frame under a condition that nothing aside touches. -/
def whenever (limit : Nat) (condition : World → Prop)
    (stable : ∀ first second, Aside first second → condition first → condition second) :
    Action Core.aside where
  rel := fun first second =>
    condition first → second.tick ≤ limit → ingestion.frame.rel first second
  idle := fun _ _ _ => ingestion.frame.refl _
  before := fun passed acts holds inTime =>
    ingestion.frame.trans (ingestion.aside passed) (acts (stable _ _ passed holds) inTime)
  after := fun acts passed holds inTime =>
    ingestion.frame.trans (acts holds (passed.tick.trans inTime)) (ingestion.aside passed)

variable {ingestion} {limit : Nat} {world : World}

theorem mergeMessages {items : List Json} {progress : MessageIndex × Counts}
    (accepted : EachItem suite environment account (ingestion.accepts limit) items
      progress world)
    (inTime : ((items.foldlM (mergeMessage suite environment account) progress).after
      world).tick ≤ limit) :
    ingestion.frame.rel world
      ((items.foldlM (mergeMessage suite environment account) progress).after world) := by
  induction items generalizing progress world with
  | nil => exact ingestion.frame.refl world
  | cons item items induction =>
      rw [List.foldlM_cons] at inTime ⊢
      obtain ⟨itemAccepted, rest⟩ := accepted
      rcases ran : (mergeMessage suite environment account progress item).run world with
        ⟨result, later⟩
      have first : later.tick ≤ limit → ingestion.frame.rel world later := by
        have merged := ingestion.merge itemAccepted
        rwa [after_eq ran] at merged
      cases result with
      | ok next =>
          rw [after_bind_ok ran] at inTime ⊢
          have elapsed := @elapsed_mergeMessages suite environment account items next later
          exact ingestion.frame.trans (first (elapsed.trans inTime))
            (induction (rest next later ran) inTime)
      | error raised =>
          rw [after_bind_error ran] at inTime ⊢
          exact first inTime

theorem mergeIndexed {items : List Json} {counts : Counts}
    (accepted : EachItem suite environment account (ingestion.accepts limit) items
      (messageIndex suite world.store (account.identity.identityId suite), counts) world)
    (inTime : ((mergeIndexed suite environment account items counts).after world).tick ≤
      limit) :
    ingestion.frame.rel world
      ((mergeIndexed suite environment account items counts).after world) := by
  rw [after_mergeIndexed] at inTime ⊢
  exact mergeMessages accepted inTime

/-- One back-fill item against the index of its transfer. -/
theorem mergeTransferMessage {payload : Json}
    (accepted : ingestion.accepts limit payload (indexOf suite account world) world)
    (inTime : ((Sync.mergeTransferMessage suite environment account payload).after
      world).tick ≤ limit) :
    ingestion.frame.rel world
      ((Sync.mergeTransferMessage suite environment account payload).after world) := by
  have merged := @ingestion.merge limit payload (indexOf suite account world, {})
    { world with syncMessageIndex := some (indexOf suite account world) }
    (@ingestion.later limit payload _ world _ rfl (Nat.le_refl _) accepted)
  have started := ingestion.index world (some (indexOf suite account world))
  unfold Prog.after at inTime merged ⊢
  rw [run_mergeTransferMessage] at inTime ⊢
  split at inTime
  · rename_i ran
    rw [ran] at merged
    exact ingestion.frame.trans (ingestion.frame.trans started (merged inTime))
      (ingestion.index _ _)
  · rename_i ran
    rw [ran] at merged
    exact ingestion.frame.trans started (merged inTime)

theorem mergeBundle {bundle : Json}
    (accepted : ingestion.AcceptsBundle limit bundle world)
    (inTime : ((History.mergeBundle suite environment account bundle).after world).tick ≤
      limit) :
    ingestion.frame.rel world
      ((History.mergeBundle suite environment account bundle).after world) := by
  have acted : (ingestion.whenever limit (fun _ => True) fun _ _ _ _ => trivial).rel world
      ((History.mergeBundle suite environment account bundle).after world) := by
    apply acts_bind_run (keeps_lift _ world)
    intro contacts middle read
    obtain ⟨contactsRead, rfl⟩ := lift_returns read
    apply acts_bind_run (keeps_aside_contacts contacts {} middle)
    intro counts later merged
    apply acts_bind_run (keeps_lift _ later)
    intro messages last returned
    obtain ⟨messagesRead, rfl⟩ := lift_returns returned
    refine rel_bind (fun _ below => mergeIndexed
      (accepted contacts messages counts last contactsRead messagesRead merged) below) ?_
    intro counts
    exact keeps_bind (keeps_lift _) fun chunks => receptive_aside.mergeChunks chunks _
  exact acted trivial inTime

theorem AcceptsRecord.later {blob : Bytes} {first second : World}
    (passed : Aside first second) (accepted : ingestion.AcceptsRecord limit blob first) :
    ingestion.AcceptsRecord limit blob second := by
  intro sagreePrivate sdev deviceId kind header plaintext payload opened loaded
  obtain ⟨item, mirror⟩ := accepted sagreePrivate sdev deviceId kind header plaintext
    payload opened loaded
  constructor
  · intro isItem isMessage
    rw [indexOf_congr passed]
    exact ingestion.later passed.messages passed.tick (item isItem isMessage)
  · intro isMirror isMessage
    rw [messageIndex_congr passed.messages]
    exact ingestion.later passed.messages passed.tick (mirror isMirror isMessage)

theorem handleRecord {blob : Bytes} (accepted : ingestion.AcceptsRecord limit blob world)
    (inTime : ((Sync.handleRecord suite environment account blob).after world).tick ≤
      limit) :
    ingestion.frame.rel world
      ((Sync.handleRecord suite environment account blob).after world) := by
  refine @Receptive.handleRecord _
    (ingestion.whenever limit _ fun _ _ => AcceptsRecord.later) _ _ _ receptive_aside
    blob ?_ world accepted inTime
  intro sagreePrivate sdev deviceId kind header plaintext opened
  exact {
    approval := fun _ => (receptive_aside.quiet.markApproved
      (fun _ _ => ⟨rfl, rfl, Nat.le_refl _⟩) _ _ _ _).acts
    offer := by
      intro _ previous current _ _
      unfold Sync.startTransfer
      split
      · exact ingestion.index current none
      · exact ingestion.frame.refl current
    incoming := fun _ _ _ => ⟨rfl, rfl, Nat.le_refl _⟩
    contacts := fun payload _ => keeps_aside_contacts _ _
    item := by
      intro isItem payload loaded isMessage current holds currentInTime
      exact mergeTransferMessage
        ((holds _ _ _ kind header plaintext payload opened loaded).1 isItem isMessage)
        currentInTime
    mirror := by
      intro isMirror payload loaded isMessage current holds currentInTime
      exact mergeIndexed
        ⟨(holds _ _ _ kind header plaintext payload opened loaded).2 isMirror isMessage,
          fun _ _ _ => trivial⟩ currentInTime
    state := fun _ payload _ _ current _ _ => ingestion.state _ current }

end Ingestion

end NoKnowledge.Core

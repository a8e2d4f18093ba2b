import NoKnowledge.Crypto.SymbolicSuite
import NoKnowledge.Server.Noticeboard

/-!
# Idle mailboxes

Housekeeping removes the mailboxes whose `last_seen` is too old.  Only the
creation of a mailbox and a message stored in it set this time, so it is the
time of the last write and not of the last use.
-/

namespace NoKnowledge.Server

open Prog

/-- A request with what it finds outside the relay. -/
structure Visit where
  moment : Moment
  request : HttpRequest
  endpoint : Endpoint

inductive Event where
  | served (visit : Visit)
  | housekeeping (now mailboxTtl blobTtl : Int)

section Runs

variable (suite : Suite) (settings : Settings)

/-- What the handler of a request comes to. -/
def Visit.outcome (visit : Visit) (relay : Relay) : Except HttpError HttpResponse :=
  ((visit.endpoint.handler suite settings visit.moment visit.request).run relay).1

def Relay.step (relay : Relay) : Event → Relay
  | .served visit =>
      (visit.endpoint.handler suite settings visit.moment visit.request).after relay
  | .housekeeping now mailboxTtl blobTtl =>
      { relay with
        database := (Database.housekeeping now mailboxTtl blobTtl).after relay.database }

def Relay.steps (relay : Relay) (events : List Event) : Relay :=
  events.foldl (Relay.step suite settings) relay

/-- The mailbox that a reply to a creation names. -/
def HttpResponse.mailboxId : HttpResponse → Option String
  | .json _ body =>
      match body.get? "mailbox_id" with
      | some (.str mailboxId) => some mailboxId
      | _ => none
  | .content _ => none

/-- The mailbox a request presents a capability for. -/
def Visit.presented (visit : Visit) : Option (String × Capability) :=
  match visit.endpoint with
  | .getMailbox mailboxId _ _ => some (mailboxId, .read)
  | .putMessage mailboxId => some (mailboxId, .write)
  | .ackMessages mailboxId => some (mailboxId, .read)
  | .deleteMailbox mailboxId => some (mailboxId, .read)
  | .uploadBlob =>
      (visit.request.header "x-nk-mailbox").map fun mailboxId => (mailboxId, .write)
  | .downloadBlob _ =>
      (visit.request.header "x-nk-mailbox").map fun mailboxId => (mailboxId, .read)
  | _ => none

/-- The mailbox that an authenticated request uses. -/
def Visit.uses (visit : Visit) (relay : Relay) : Option String :=
  match visit.endpoint with
  | .createMailbox => (visit.outcome suite settings relay).toOption.bind HttpResponse.mailboxId
  | _ =>
      visit.presented.bind fun (mailboxId, capability) =>
        match ((authenticateMailbox suite visit.request mailboxId capability).run relay).1 with
        | .ok _ => some mailboxId
        | .error _ => none

/-- The mailbox that a request creates or stores a message in. -/
def Visit.writes (visit : Visit) (relay : Relay) : Option String :=
  match visit.endpoint with
  | .createMailbox =>
      ((visit.outcome suite settings relay).toOption.bind HttpResponse.mailboxId).filter
        fun mailboxId => !relay.database.mailboxes.any fun row => row.id = mailboxId
  | .putMessage mailboxId =>
      (visit.outcome suite settings relay).toOption.map fun _ => mailboxId
  | _ => none

/-- The mailbox that a step of a run writes to, with the time it leaves there. -/
def Event.writes (event : Event) (relay : Relay) : Option (String × Int) :=
  match event with
  | .served visit =>
      (visit.writes suite settings relay).map fun mailboxId => (mailboxId, visit.moment.now)
  | .housekeeping _ _ _ => none

/-- The time of the last write to a mailbox, once a step has written. -/
def rewritten (mailboxId : String) (found : Option Int) :
    Option (String × Int) → Option Int
  | some (written, time) => if written = mailboxId then some time else found
  | none => found

/-- The time of the last write to a mailbox in a run. -/
def lastWrite (start : Relay) (events : List Event) (mailboxId : String) : Option Int :=
  (events.foldl (fun (progress : Relay × Option Int) event =>
    (progress.1.step suite settings event,
      rewritten mailboxId progress.2 (event.writes suite settings progress.1)))
    (start, none)).2

/-- An authenticated request has used a mailbox at a time or later. -/
def UsedSince (start : Relay) (events : List Event) (mailboxId : String) (time : Int) : Prop :=
  ∃ before visit later, events = before ++ .served visit :: later ∧
    visit.uses suite settings (start.steps suite settings before) = some mailboxId ∧
    time ≤ visit.moment.now

end Runs

namespace Database

variable {database after : Database}

/-- Mailboxes only go away. -/
def fewerMailboxes : Frame Database where
  rel before after := after.mailboxes.Sublist before.mailboxes
  refl _ := List.Sublist.refl _
  trans first second := second.trans first

/-- The requests that neither create a mailbox nor mark one as seen. -/
def Unseen : Request → Prop
  | .createMailbox .. => False
  | .touchMailbox .. => False
  | .putMessage .. => False
  | _ => True

theorem Outcome.fewer {request : Request} {response : Except Failure Response}
    (outcome : Outcome database request response after) (unseen : Unseen request) :
    after.mailboxes.Sublist database.mailboxes := by
  cases outcome with
  | created free first => exact unseen.elim
  | touched mailboxId now => exact unseen.elim
  | stored ciphertext now found fewer smaller unused => exact unseen.elim
  | deletedMailbox mailboxId => exact List.filter_sublist
  | cleaned now mailboxTtl blobTtl stale stray removed =>
      rw [foldl_without]
      exact List.filter_sublist
  | _ => exact List.Sublist.refl _

/-- An operation that is run for a request which does not mark a mailbox. -/
theorem keeps_fewer {α : Type} {operation : Transaction α} (request : Request)
    (runs : ∀ database, database.serve request = operation.after database)
    (unseen : Unseen request) : Keeps fewerMailboxes operation := by
  intro database
  rw [← runs]
  exact (outcome database request).fewer unseen

end Database

/-- The frame of a relay whose mailboxes only go away. -/
def fewerMailboxes : Frame Relay where
  rel before after := after.database.mailboxes.Sublist before.database.mailboxes
  refl _ := List.Sublist.refl _
  trans first second := second.trans first

section Routes

variable {suite : Suite} {settings : Settings} {moment : Moment} {request : HttpRequest}
  {relay after : Relay}

theorem keeps_fewer_of_database {α : Type} {route : RouteProg α}
    (keeps : Keeps (keeping Relay.database) route) : Keeps fewerMailboxes route := by
  intro relay
  show (route.after relay).database.mailboxes.Sublist relay.database.mailboxes
  rw [show (route.after relay).database = relay.database from keeps relay]

theorem keeps_fewer_onDatabase {α : Type} {operation : Transaction α}
    (keeps : Keeps Database.fewerMailboxes operation) :
    Keeps fewerMailboxes (onDatabase operation) := by
  intro relay
  have kept := keeps relay.database
  rcases ran : operation.run relay.database with ⟨result, database⟩
  rw [after_eq ran] at kept
  cases result with
  | ok value =>
      rw [after_eq (run_onDatabase_ok ran)]
      exact kept
  | error failure =>
      rw [after_eq (run_onDatabase_error ran)]
      exact kept

theorem keeps_answering {α : Type} {body : RouteProg α}
    {status : Failure → Option (Nat × String)} {frame : Frame Relay}
    (keeps : Keeps frame body) : Keeps frame (answering body status) := by
  apply keeps_tryCatch keeps
  intro raised
  split
  · exact keeps_throw _
  · split <;> exact keeps_throw _

theorem keeps_onGetMailbox (mailboxId : String) :
    Keeps (keeping Relay.database) (onDatabase (Database.getMailbox mailboxId)) :=
  fun _ => rfl

theorem keeps_authenticateMailbox (mailboxId : String) (capability : Capability) :
    Keeps (keeping Relay.database)
      (authenticateMailbox suite request mailboxId capability) := by
  unfold authenticateMailbox
  split
  · exact keeps_throw _
  · apply keeps_bind (keeps_onGetMailbox mailboxId)
    intro found
    split
    · exact keeps_throw _
    · exact keeps_ite (fun _ => keeps_pure _) fun _ => keeps_throw _

theorem keeps_allowedWrite (key : String) (now : Int) (detail : String) :
    Keeps (keeping Relay.database)
      (allowed Relay.write (fun relay write => { relay with write }) key now detail) :=
  @keeps_allowed Relay.write (fun relay write => { relay with write })
    (fun _ _ => rfl) key now detail

theorem keeps_allowedCreate (key : String) (now : Int) (detail : String) :
    Keeps (keeping Relay.database)
      (allowed Relay.create (fun relay create => { relay with create }) key now detail) :=
  @keeps_allowed Relay.create (fun relay create => { relay with create })
    (fun _ _ => rfl) key now detail

theorem keeps_pollMessages (mailboxId : String) (afterSeq : Int) (polls : Nat) :
    Keeps fewerMailboxes (pollMessages settings mailboxId afterSeq polls) := by
  have looks : Keeps fewerMailboxes
      (onDatabase (Database.getMessages mailboxId afterSeq settings.maxMessagesPerFetch)) :=
    keeps_fewer_onDatabase (Database.keeps_fewer
      (.getMessages mailboxId afterSeq settings.maxMessagesPerFetch)
      (after_bind_idle fun _ _ => rfl) trivial)
  induction polls with
  | zero => exact looks
  | succ polls induction =>
      apply keeps_bind looks
      intro rows
      exact keeps_ite (fun _ => induction) fun _ => keeps_pure _

theorem keeps_mailboxIdFromHeader :
    Keeps fewerMailboxes (mailboxIdFromHeader request) := by
  unfold mailboxIdFromHeader
  split
  · exact keeps_throw _
  · exact keeps_pure _

theorem keeps_readChunkId : Keeps fewerMailboxes (readChunkId moment request) := by
  unfold readChunkId
  split
  · exact keeps_pure _
  · split
    · exact keeps_throw _
    · exact keeps_ite (fun _ => keeps_throw _) fun _ => keeps_pure _

theorem keeps_onGetBlob (chunkId : String) :
    Keeps fewerMailboxes (onDatabase (Database.getBlob chunkId)) :=
  keeps_fewer_onDatabase (Database.keeps_fewer (.getBlob chunkId)
    (after_bind_idle fun _ _ => rfl) trivial)

theorem keeps_chunkOwner (chunkId : String) : Keeps fewerMailboxes (chunkOwner chunkId) := by
  apply keeps_tryCatch
  · exact keeps_bind (keeps_onGetBlob chunkId) fun _ => keeps_pure _
  · intro raised
    split
    · exact keeps_pure _
    · exact keeps_throw _

/-- The endpoints other than a creation and a message. -/
def Endpoint.Unseen : Endpoint → Prop
  | .createMailbox => False
  | .putMessage _ => False
  | _ => True

theorem keeps_handler {endpoint : Endpoint} (unseen : endpoint.Unseen) :
    Keeps fewerMailboxes (endpoint.handler suite settings moment request) := by
  cases endpoint with
  | createMailbox => exact unseen.elim
  | putMessage mailboxId => exact unseen.elim
  | getMailbox mailboxId afterSeq wait =>
      apply keeps_bind (keeps_fewer_of_database (keeps_authenticateMailbox mailboxId .read))
      intro _
      apply keeps_bind (keeps_pollMessages mailboxId afterSeq _)
      exact fun _ => keeps_pure _
  | ackMessages mailboxId =>
      apply keeps_bind (keeps_fewer_of_database (keeps_authenticateMailbox mailboxId .read))
      intro _
      split
      · exact keeps_throw _
      · rename_i uptoSeq _
        apply keeps_bind
        · exact keeps_fewer_onDatabase (Database.keeps_fewer (.ackMessages mailboxId uptoSeq)
            (after_bind_idle fun _ _ => rfl) trivial)
        · exact fun _ => keeps_pure _
  | deleteMailbox mailboxId =>
      apply keeps_bind (keeps_fewer_of_database (keeps_authenticateMailbox mailboxId .read))
      intro _
      apply keeps_bind
      · exact keeps_fewer_onDatabase (Database.keeps_fewer (.deleteMailbox mailboxId)
          (after_bind_idle fun _ _ => rfl) trivial)
      · exact fun _ => keeps_pure _
  | uploadBlob =>
      apply keeps_bind keeps_mailboxIdFromHeader
      intro mailboxId
      apply keeps_bind (keeps_fewer_of_database (keeps_authenticateMailbox mailboxId .write))
      intro _
      apply keeps_bind (keeps_fewer_of_database (keeps_allowedWrite _ _ _))
      intro _
      apply keeps_bind (keeps_fewer_of_database (keeps_refuseWith _ _ _))
      intro _
      apply keeps_bind (keeps_fewer_of_database (keeps_refuseWith _ _ _))
      intro _
      apply keeps_bind keeps_readChunkId
      intro chunkId
      apply keeps_bind (keeps_chunkOwner chunkId)
      intro owner
      split
      · apply keeps_bind (keeps_fewer_of_database (keeps_refuseWith _ _ _))
        exact fun _ => keeps_pure _
      · apply keeps_bind
        · exact keeps_answering (keeps_fewer_onDatabase (Database.keeps_fewer
            (.putBlob chunkId mailboxId request.body moment.now)
            (after_bind_idle fun _ _ => rfl) trivial))
        · exact fun _ => keeps_pure _
  | downloadBlob chunkId =>
      apply keeps_bind keeps_mailboxIdFromHeader
      intro mailboxId
      apply keeps_bind (keeps_fewer_of_database (keeps_authenticateMailbox mailboxId .read))
      intro _
      apply keeps_bind (keeps_answering (keeps_onGetBlob chunkId))
      intro row
      apply keeps_bind (keeps_fewer_of_database (keeps_refuseWith _ _ _))
      exact fun _ => keeps_pure _
  | publishBundle =>
      apply keeps_bind (keeps_fewer_of_database (keeps_allowedBundle _ _ _))
      intro _
      apply keeps_bind (keeps_fewer_of_database (keeps_refuseWith _ _ _))
      intro _
      split
      · exact keeps_throw _
      · rename_i bundleId fields opks _
        apply keeps_bind (keeps_fewer_of_database (keeps_refuseWith _ _ _))
        intro _
        apply keeps_bind
        · exact keeps_fewer_onDatabase (Database.keeps_fewer
            (.publishBundle bundleId (storedFields fields) opks moment.now)
            (after_bind_idle fun _ _ => rfl) trivial)
        · exact fun _ => keeps_pure _
  | fetchBundle bundleId =>
      apply keeps_bind
      · exact keeps_answering (keeps_fewer_onDatabase (Database.keeps_fewer
          (.fetchBundle bundleId) (after_bind_idle fun _ _ => rfl) trivial))
      · exact fun _ => keeps_pure _
  | health => exact keeps_bind keeps_get fun _ => keeps_pure _

theorem refusing_pure {α : Type} (value : α) : Refusing (pure value : RouteProg α) := by
  intro relay error after failed
  cases failed

theorem refusing_of_pure {α β : Type} {first : RouteProg β} {result : β → α}
    (refuses : Refusing first) : Refusing (first >>= fun value => pure (result value)) := by
  intro relay raised after failed
  rw [run_bind] at failed
  split at failed
  · cases failed
  · rename_i stopped
    cases failed
    exact refuses _ _ _ stopped

theorem refusing_answering {α : Type} {body : RouteProg α}
    {status : Failure → Option (Nat × String)} (refuses : Refusing body) :
    Refusing (answering body status) := by
  intro relay raised after failed
  unfold answering at failed
  rw [run_tryCatch] at failed
  split at failed
  · cases failed
  · rename_i stopped
    have kept := refuses _ _ _ stopped
    split at failed
    · cases failed
      exact kept
    · split at failed
      · cases failed
        exact kept
      · cases failed
        exact kept

theorem keeps_loadBody : Keeps (keeping Relay.database) (loadBody request) := by
  unfold loadBody
  split
  · exact keeps_throw _
  · split
    · exact keeps_throw _
    · exact keeps_pure _

theorem keeps_providedCapability (data : Json) :
    Keeps (keeping Relay.database) (providedCapability data) := by
  unfold providedCapability
  split
  · split
    · exact keeps_throw _
    · exact keeps_throw _
  · apply keeps_bind (keeps_refuseWith _ _ _)
    intro _
    apply keeps_bind (keeps_refuseWith _ _ _)
    exact fun _ => keeps_pure _

theorem keeps_requestedCapability :
    Keeps (keeping Relay.database) (requestedCapability suite moment request) := by
  apply keeps_ite
  · exact fun _ => keeps_pure _
  intro _
  apply keeps_bind keeps_loadBody
  intro data
  apply keeps_bind (keeps_providedCapability data)
  rintro ⟨mailboxId, readToken, writeToken⟩
  apply keeps_bind (keeps_onGetMailbox mailboxId)
  intro found
  cases found with
  | none => exact keeps_pure _
  | some row => exact keeps_ite (fun _ => keeps_pure _) fun _ => keeps_throw _

/-- A mailbox that is said to be known is there. -/
theorem requestedCapability_known {mailboxId : String} {readToken writeToken : Bytes}
    (returned : (requestedCapability suite moment request).run relay =
      (.ok ((mailboxId, readToken, writeToken), true), after)) :
    ∃ row ∈ relay.database.mailboxes, row.id = mailboxId := by
  unfold requestedCapability at returned
  split at returned
  · cases returned
  obtain ⟨data, first, loaded, returned⟩ := bind_returns returned
  have firstSame : first.database = relay.database := keeps_loadBody.view loaded
  obtain ⟨⟨id, read, write⟩, second, provided, returned⟩ := bind_returns returned
  have secondSame : second.database = first.database :=
    (keeps_providedCapability data).view provided
  obtain ⟨found, third, looked, returned⟩ := bind_returns returned
  cases looked
  rw [secondSame, firstSame] at returned
  split at returned
  · cases returned
  · rename_i row found
    split at returned
    · cases returned
      exact ⟨row, Database.find_mailbox found⟩
    · cases returned

theorem refusing_createMailbox :
    Refusing (createMailbox suite settings moment request) := by
  apply refusing_bind (keeps_allowedCreate _ _ _)
  intro _
  apply refusing_bind (keeps_refuseWith _ _ _)
  intro _
  apply refusing_bind keeps_requestedCapability
  rintro ⟨⟨mailboxId, readToken, writeToken⟩, known⟩
  dsimp only
  split
  · exact refusing_pure _
  · exact refusing_of_pure (refusing_onDatabase (Database.atomic_createMailbox _ _ _ _ _ _))

theorem refusing_putMessage (mailboxId : String) :
    Refusing (putMessage suite settings moment request mailboxId) := by
  apply refusing_bind (keeps_authenticateMailbox mailboxId .write)
  intro _
  apply refusing_bind (keeps_allowedWrite _ _ _)
  intro _
  apply refusing_bind (keeps_refuseWith _ _ _)
  intro _
  apply refusing_bind (keeps_refuseWith _ _ _)
  intro _
  exact refusing_of_pure (refusing_answering (refusing_onDatabase
    (Database.atomic_transaction _)))

theorem onDatabase_returns {α : Type} {operation : Transaction α} {value : α}
    (returned : (onDatabase operation).run relay = (.ok value, after)) :
    ∃ database, operation.run relay.database = (.ok value, database) ∧
      after = { relay with database } := by
  rcases ran : operation.run relay.database with ⟨result, database⟩
  cases result with
  | ok found =>
      rw [run_onDatabase_ok ran] at returned
      cases returned
      exact ⟨database, rfl, rfl⟩
  | error failure =>
      rw [run_onDatabase_error ran] at returned
      cases returned

theorem answering_returns {α : Type} {body : RouteProg α} {value : α}
    {status : Failure → Option (Nat × String)}
    (returned : (answering body status).run relay = (.ok value, after)) :
    body.run relay = (.ok value, after) := by
  unfold answering at returned
  rw [run_tryCatch] at returned
  split at returned
  · rename_i ran
    rw [ran, returned]
  · split at returned
    · cases returned
    · split at returned
      · cases returned
      · cases returned

/-- A created mailbox is new and has been seen when it was created. -/
theorem Database.createMailbox_row {mailboxId : String} {readTokenHash writeTokenHash : Bytes}
    {now : Int} {maxMessages maxBytes : Nat} {result : Unit} {database after : Database}
    (returned : (Database.createMailbox mailboxId readTokenHash writeTokenHash now maxMessages
      maxBytes).run database = (.ok result, after)) :
    ∃ row : MailboxRow, row.id = mailboxId ∧ row.lastSeen = now ∧
      (∀ mailbox ∈ database.mailboxes, mailbox.id ≠ mailboxId) ∧
      after.mailboxes = database.mailboxes ++ [row] := by
  unfold Database.createMailbox at returned
  obtain ⟨_, _, first, afterFirst⟩ := Prog.bind_returns returned
  obtain ⟨bound, rfl⟩ := Database.bind_returns first
  obtain ⟨_, rfl⟩ := Sql.integer_eq_ok.mp bound
  obtain ⟨_, _, second, afterSecond⟩ := Prog.bind_returns afterFirst
  obtain ⟨-, rfl⟩ := Database.bind_returns second
  obtain ⟨_, _, third, afterThird⟩ := Prog.bind_returns afterSecond
  obtain ⟨-, rfl⟩ := Database.bind_returns third
  obtain ⟨free, rfl⟩ := Database.insertMailbox_returns afterThird
  exact ⟨_, rfl, rfl, free, rfl⟩

/-- What a creation that is answered has done: nothing, for a mailbox that is there
already, or it has added a mailbox. -/
theorem createMailbox_answered {response : HttpResponse}
    (returned : (createMailbox suite settings moment request).run relay =
      (.ok response, after)) :
    ∃ mailboxId readToken writeToken,
      response = capabilityReply mailboxId readToken writeToken ∧
      ((∃ row ∈ relay.database.mailboxes, row.id = mailboxId) ∧
          after.database = relay.database ∨
        ∃ row : MailboxRow, row.id = mailboxId ∧ row.lastSeen = moment.now ∧
          (∀ mailbox ∈ relay.database.mailboxes, mailbox.id ≠ mailboxId) ∧
          after.database.mailboxes = relay.database.mailboxes ++ [row]) := by
  obtain ⟨_, first, limited, returned⟩ := bind_returns returned
  have firstSame : first.database = relay.database :=
    (keeps_allowedCreate _ _ _).view limited
  obtain ⟨_, second, stamped, returned⟩ := bind_returns returned
  have secondSame : second.database = first.database :=
    (keeps_refuseWith _ _ _).view stamped
  obtain ⟨⟨⟨mailboxId, readToken, writeToken⟩, known⟩, third, requested, returned⟩ :=
    bind_returns returned
  have thirdSame : third.database = second.database :=
    keeps_requestedCapability.view requested
  cases known with
  | true =>
      cases returned
      have there := requestedCapability_known requested
      rw [secondSame, firstSame] at there
      exact ⟨mailboxId, readToken, writeToken, rfl,
        Or.inl ⟨there, thirdSame.trans (secondSame.trans firstSame)⟩⟩
  | false =>
      obtain ⟨_, last, created, returned⟩ := bind_returns returned
      cases returned
      obtain ⟨database, ran, rfl⟩ := onDatabase_returns created
      rw [thirdSame, secondSame, firstSame] at ran
      obtain ⟨row, named, seen, free, added⟩ := Database.createMailbox_row ran
      exact ⟨mailboxId, readToken, writeToken, rfl, Or.inr ⟨row, named, seen, free, added⟩⟩

/-- A message that is answered has been stored, in a mailbox that has been seen. -/
theorem putMessage_answered {mailboxId : String} {response : HttpResponse}
    (returned : (putMessage suite settings moment request mailboxId).run relay =
      (.ok response, after)) :
    ∃ mailbox ∈ relay.database.mailboxes, mailbox.id = mailboxId ∧
      after.database = relay.database.stored mailbox request.body moment.now := by
  obtain ⟨_, first, authenticated, returned⟩ := bind_returns returned
  have firstSame : first.database = relay.database :=
    (keeps_authenticateMailbox mailboxId .write).view authenticated
  obtain ⟨_, second, limited, returned⟩ := bind_returns returned
  have secondSame : second.database = first.database :=
    (keeps_allowedWrite _ _ _).view limited
  obtain ⟨_, third, filled, returned⟩ := bind_returns returned
  have thirdSame : third.database = second.database := (keeps_refuseWith _ _ _).view filled
  obtain ⟨_, fourth, small, returned⟩ := bind_returns returned
  have fourthSame : fourth.database = third.database := (keeps_refuseWith _ _ _).view small
  obtain ⟨seq, last, stored, returned⟩ := bind_returns returned
  cases returned
  obtain ⟨database, ran, rfl⟩ := onDatabase_returns (answering_returns stored)
  rw [fourthSame, thirdSame, secondSame, firstSame] at ran
  have outcome := Database.putMessage_returns ran
  generalize relay.database = before at outcome
  cases outcome with
  | stored ciphertext now found fewer smaller unused => exact ⟨_, found, rfl, rfl⟩

end Routes

/-! ## What a step does to the mailboxes -/

/-- A step only removes mailboxes, or it marks one as seen that it has created or
stored a message in. -/
inductive Marks (before : List MailboxRow) : List MailboxRow → Option (String × Int) → Prop
  | removed {after : List MailboxRow} (fewer : after.Sublist before) : Marks before after none
  | created {row : MailboxRow} (free : ∀ mailbox ∈ before, mailbox.id ≠ row.id) :
      Marks before (before ++ [row]) (some (row.id, row.lastSeen))
  | stored {mailbox : MailboxRow} (found : mailbox ∈ before) (now : Int) (next : Nat) :
      Marks before (before.map fun row =>
        if row.id = mailbox.id then { row with lastSeen := now, nextSeq := next } else row)
        (some (mailbox.id, now))

theorem Marks.distinct {before after : List MailboxRow} {written : Option (String × Int)}
    (marks : Marks before after written) (distinct : (before.map MailboxRow.id).Nodup) :
    (after.map MailboxRow.id).Nodup := by
  cases marks with
  | removed fewer => exact (fewer.map MailboxRow.id).nodup distinct
  | @created row free =>
      rw [List.map_append, List.map_singleton]
      refine List.nodup_append.mpr ⟨distinct, List.nodup_singleton _, ?_⟩
      intro mailboxId member other same
      obtain ⟨mailbox, mailboxMember, rfl⟩ := List.mem_map.mp member
      rw [List.mem_singleton.mp same]
      exact free mailbox mailboxMember
  | @stored mailbox found now next =>
      have named : MailboxRow.id ∘ (fun row : MailboxRow =>
          if row.id = mailbox.id then { row with lastSeen := now, nextSeq := next } else row) =
          MailboxRow.id := by
        funext row
        rw [Function.comp]
        split <;> rfl
      rw [List.map_map, named]
      exact distinct

/-- A time that is known for every mailbox stays known. -/
theorem Marks.seen {before after : List MailboxRow} {written : Option (String × Int)}
    (marks : Marks before after written) {last : String → Option Int}
    (seen : ∀ row ∈ before, last row.id = some row.lastSeen) :
    ∀ row ∈ after, rewritten row.id (last row.id) written = some row.lastSeen := by
  cases marks with
  | removed fewer => exact fun row member => seen row (fewer.subset member)
  | @created row free =>
      intro mailbox member
      rcases List.mem_append.mp member with old | new
      · have other : row.id ≠ mailbox.id := (free mailbox old).symm
        exact (if_neg other).trans (seen mailbox old)
      · rw [List.mem_singleton.mp new]
        exact if_pos rfl
  | @stored mailbox found now next =>
      intro row member
      obtain ⟨old, oldMember, rfl⟩ := List.mem_map.mp member
      by_cases named : old.id = mailbox.id
      · rw [if_pos named]
        exact if_pos named.symm
      · rw [if_neg named]
        exact (if_neg (Ne.symm named)).trans (seen old oldMember)

section Steps

variable {suite : Suite} {settings : Settings} {start relay : Relay}

theorem mailboxId_capabilityReply (mailboxId : String) (readToken writeToken : Bytes) :
    (capabilityReply mailboxId readToken writeToken).mailboxId = some mailboxId := by
  have named : (Json.mkObj [("mailbox_id", .str mailboxId),
      ("read_token", .str (b64e readToken)),
      ("write_token", .str (b64e writeToken))]).get? "mailbox_id" = some (.str mailboxId) := by
    rw [Json.get?_mkObj]
    rfl
  unfold capabilityReply HttpResponse.mailboxId
  simp only [named]

theorem housekeeping_fewer (now mailboxTtl blobTtl : Int) (database : Database) :
    ((Database.housekeeping now mailboxTtl blobTtl).after database).mailboxes.Sublist
      database.mailboxes :=
  Database.keeps_fewer (.housekeeping now mailboxTtl blobTtl) (after_bind_idle fun _ _ => rfl)
    trivial database

theorem creation_marks (visit : Visit) (create : visit.endpoint = .createMailbox) :
    Marks relay.database.mailboxes
      (relay.step suite settings (.served visit)).database.mailboxes
      ((Event.served visit).writes suite settings relay) := by
  obtain ⟨moment, request, endpoint⟩ := visit
  cases create
  rcases ran : (createMailbox suite settings moment request).run relay with ⟨result, after⟩
  have stepped : relay.step suite settings
      (.served ⟨moment, request, .createMailbox⟩) = after := after_eq ran
  have outcome : Visit.outcome suite settings ⟨moment, request, .createMailbox⟩ relay =
      result := congrArg Prod.fst ran
  rw [stepped]
  simp only [Event.writes, Visit.writes, outcome]
  cases result with
  | error raised =>
      rw [refusing_createMailbox _ _ _ ran]
      exact .removed (List.Sublist.refl _)
  | ok response =>
      obtain ⟨mailboxId, readToken, writeToken, rfl, known | created⟩ := createMailbox_answered ran
      · obtain ⟨⟨row, member, named⟩, same⟩ := known
        have there : (relay.database.mailboxes.any fun row => row.id = mailboxId) = true :=
          List.any_eq_true.mpr ⟨row, member, decide_eq_true named⟩
        rw [same]
        simp only [Except.toOption, Option.bind_some, mailboxId_capabilityReply,
          Option.filter_some, there]
        exact .removed (List.Sublist.refl _)
      · obtain ⟨row, rfl, seen, free, added⟩ := created
        have absent : (relay.database.mailboxes.any fun mailbox => mailbox.id = row.id) =
            false := by
          rw [List.any_eq_false]
          intro mailbox member named
          exact free mailbox member (of_decide_eq_true named)
        rw [added]
        simp only [Except.toOption, Option.bind_some, mailboxId_capabilityReply,
          Option.filter_some, absent]
        rw [← seen]
        exact .created free

theorem message_marks (visit : Visit) {mailboxId : String}
    (put : visit.endpoint = .putMessage mailboxId) :
    Marks relay.database.mailboxes
      (relay.step suite settings (.served visit)).database.mailboxes
      ((Event.served visit).writes suite settings relay) := by
  obtain ⟨moment, request, endpoint⟩ := visit
  cases put
  rcases ran : (putMessage suite settings moment request mailboxId).run relay with
    ⟨result, after⟩
  have stepped : relay.step suite settings
      (.served ⟨moment, request, .putMessage mailboxId⟩) = after := after_eq ran
  have outcome : Visit.outcome suite settings ⟨moment, request, .putMessage mailboxId⟩ relay =
      result := congrArg Prod.fst ran
  rw [stepped]
  simp only [Event.writes, Visit.writes, outcome]
  cases result with
  | error raised =>
      rw [refusing_putMessage mailboxId _ _ _ ran]
      exact .removed (List.Sublist.refl _)
  | ok response =>
      obtain ⟨mailbox, found, rfl, stored⟩ := putMessage_answered ran
      rw [stored]
      exact .stored found moment.now (mailbox.nextSeq + 1)

/-- What a step of a run does to the mailboxes. -/
theorem step_marks (event : Event) :
    Marks relay.database.mailboxes (relay.step suite settings event).database.mailboxes
      (event.writes suite settings relay) := by
  cases event with
  | housekeeping now mailboxTtl blobTtl =>
      exact .removed (housekeeping_fewer now mailboxTtl blobTtl relay.database)
  | served visit =>
      cases endpoint : visit.endpoint with
      | createMailbox => exact creation_marks visit endpoint
      | putMessage mailboxId => exact message_marks visit endpoint
      | _ =>
          have unseen : visit.endpoint.Unseen := by
            rw [endpoint]
            trivial
          have unwritten : (Event.served visit).writes suite settings relay = none := by
            simp only [Event.writes, Visit.writes, endpoint, Option.map_none]
          rw [unwritten]
          exact .removed (keeps_handler unseen relay)

theorem steps_append (events : List Event) (event : Event) :
    start.steps suite settings (events ++ [event]) =
      (start.steps suite settings events).step suite settings event :=
  List.foldl_append

theorem lastWrite_append (events : List Event) (event : Event) (mailboxId : String) :
    lastWrite suite settings start (events ++ [event]) mailboxId =
      rewritten mailboxId (lastWrite suite settings start events mailboxId)
        (event.writes suite settings (start.steps suite settings events)) := by
  have relays : ∀ events : List Event, ∀ relay found,
      (events.foldl (fun (progress : Relay × Option Int) event =>
        (progress.1.step suite settings event,
          rewritten mailboxId progress.2 (event.writes suite settings progress.1)))
        (relay, found)).1 = relay.steps suite settings events := by
    intro events
    induction events with
    | nil => exact fun _ _ => rfl
    | cons event events induction => exact fun relay found => induction _ _
  unfold lastWrite
  rw [List.foldl_append, List.foldl_cons, List.foldl_nil]
  dsimp only
  rw [relays]

/-- The mailboxes of a run are distinct, and each was seen last when it was written
last. -/
structure Watches (suite : Suite) (settings : Settings) (start : Relay)
    (events : List Event) : Prop where
  distinct : ((start.steps suite settings events).database.mailboxes.map MailboxRow.id).Nodup
  seen : ∀ row ∈ (start.steps suite settings events).database.mailboxes,
    lastWrite suite settings start events row.id = some row.lastSeen

theorem Watches.step {events : List Event} (watches : Watches suite settings start events)
    (event : Event) : Watches suite settings start (events ++ [event]) := by
  have marks := @step_marks suite settings (start.steps suite settings events) event
  constructor
  · rw [steps_append]
    exact marks.distinct watches.distinct
  · rw [steps_append]
    intro row member
    rw [lastWrite_append]
    exact marks.seen watches.seen row member

theorem watches_run (fresh : start.database = {}) (events : List Event) :
    Watches suite settings start events := by
  induction events using List.reverseRecOn with
  | nil =>
      constructor
      · show (start.database.mailboxes.map MailboxRow.id).Nodup
        rw [fresh]
        exact List.nodup_nil
      · show ∀ row ∈ start.database.mailboxes, _
        rw [fresh]
        intro row member
        cases member
  | append_singleton events event induction => exact induction.step event

end Steps

/-! ## Housekeeping -/

namespace Database

variable {database after : Database}

/-- The mailboxes last seen before a time. -/
def seenBefore (database : Database) (cutoff : Int) : List String :=
  (database.mailboxes.filter fun row => row.lastSeen < cutoff).map MailboxRow.id

theorem housekeeping_after {now mailboxTtl blobTtl : Int} {removed : Removed}
    (returned : (housekeeping now mailboxTtl blobTtl).run database = (.ok removed, after)) :
    ∃ kept : BlobRow → Bool,
      (∀ blob, (∃ mailbox ∈ after.mailboxes, mailbox.id = blob.mailboxId) →
        kept blob = true) ∧
      after = { (database.seenBefore (now - mailboxTtl)).foldl without database with
        blobs := ((database.seenBefore (now - mailboxTtl)).foldl without database).blobs.filter
          kept } := by
  obtain ⟨_, _, first, afterFirst⟩ := Prog.bind_returns (transaction_returns returned)
  obtain ⟨bound, same⟩ := bind_returns first
  obtain ⟨_, rfl⟩ := Sql.integer_eq_ok.mp bound
  rw [same] at afterFirst
  obtain ⟨_, _, got, afterGet⟩ := Prog.bind_returns afterFirst
  cases got
  obtain ⟨_, middle, loop, afterLoop⟩ := Prog.bind_returns afterGet
  obtain ⟨counted, loopRun⟩ := removeMailboxes_after _ _
  rw [loopRun] at loop
  cases loop
  obtain ⟨cutoff, _, second, afterSecond⟩ := Prog.bind_returns afterLoop
  obtain ⟨_, sameAgain⟩ := bind_returns second
  rw [sameAgain] at afterSecond
  cases afterSecond
  refine ⟨_, ?_, rfl⟩
  rintro blob ⟨mailbox, member, owner⟩
  simp only [Bool.not_eq_true', Bool.and_eq_false_iff, Bool.not_eq_false']
  exact Or.inr (List.any_eq_true.mpr ⟨mailbox, member, decide_eq_true owner⟩)

theorem not_mem_seenBefore (distinct : (database.mailboxes.map MailboxRow.id).Nodup)
    {row : MailboxRow} (member : row ∈ database.mailboxes) (cutoff : Int) :
    row.id ∉ database.seenBefore cutoff ↔ cutoff ≤ row.lastSeen := by
  constructor
  · intro absent
    by_contra old
    exact absent (List.mem_map_of_mem (List.mem_filter.mpr
      ⟨member, decide_eq_true (not_le.mp old)⟩))
  · intro recent listed
    obtain ⟨other, otherListed, named⟩ := List.mem_map.mp listed
    obtain ⟨otherMember, old⟩ := List.mem_filter.mp otherListed
    have same := List.inj_on_of_nodup_map distinct otherMember member named
    rw [same] at old
    exact absurd recent (not_le.mpr (of_decide_eq_true old))

/-- Housekeeping removes the mailboxes last seen before the cutoff, and keeps the
chunks of the others. -/
theorem housekeeping_removes {now mailboxTtl blobTtl : Int} {removed : Removed}
    (distinct : (database.mailboxes.map MailboxRow.id).Nodup)
    (returned : (housekeeping now mailboxTtl blobTtl).run database = (.ok removed, after)) :
    (∀ row, row ∈ after.mailboxes ↔
      row ∈ database.mailboxes ∧ now - mailboxTtl ≤ row.lastSeen) ∧
    ∀ row ∈ after.mailboxes, after.blobsOf row.id = database.blobsOf row.id := by
  obtain ⟨keeps, owned, same⟩ := housekeeping_after returned
  rw [foldl_without] at same
  have kept : ∀ row, row ∈ after.mailboxes ↔
      row ∈ database.mailboxes ∧ now - mailboxTtl ≤ row.lastSeen := by
    intro row
    rw [same, List.mem_filter]
    constructor
    · rintro ⟨member, absent⟩
      exact ⟨member, (not_mem_seenBefore distinct member _).mp (by simpa using absent)⟩
    · rintro ⟨member, recent⟩
      exact ⟨member, by simpa using (not_mem_seenBefore distinct member _).mpr recent⟩
  refine ⟨kept, fun row member => ?_⟩
  obtain ⟨old, recent⟩ := (kept row).mp member
  have absent := (not_mem_seenBefore distinct old _).mpr recent
  have stored : after.blobs = (database.blobs.filter fun blob =>
      !decide (blob.mailboxId ∈ database.seenBefore (now - mailboxTtl))).filter keeps := by
    rw [same]
  unfold blobsOf
  rw [stored, List.filter_filter, List.filter_filter]
  apply List.filter_congr
  intro blob _
  by_cases owner : blob.mailboxId = row.id
  · have keeping := owned blob ⟨row, member, owner.symm⟩
    simp [owner, absent, keeping]
  · simp [owner]

end Database

section Steps

variable {suite : Suite} {settings : Settings} {start : Relay}

/-- Every mailbox that is in use survives housekeeping, with its pending chunks,
exactly when every mailbox in use was written last at the cutoff or later. -/
theorem used_mailboxes_survive_iff (fresh : start.database = {}) {events : List Event}
    {now mailboxTtl blobTtl : Int} {removed : Database.Removed} {after : Database}
    (cleaned : (Database.housekeeping now mailboxTtl blobTtl).run
      (start.steps suite settings events).database = (.ok removed, after)) :
    (∀ row ∈ (start.steps suite settings events).database.mailboxes,
      UsedSince suite settings start events row.id (now - mailboxTtl) →
        row ∈ after.mailboxes ∧ after.blobsOf row.id =
          (start.steps suite settings events).database.blobsOf row.id) ↔
    ∀ row ∈ (start.steps suite settings events).database.mailboxes,
      UsedSince suite settings start events row.id (now - mailboxTtl) →
        ∃ time, lastWrite suite settings start events row.id = some time ∧
          now - mailboxTtl ≤ time := by
  have watches := @watches_run suite settings start fresh events
  obtain ⟨kept, chunks⟩ := Database.housekeeping_removes watches.distinct cleaned
  constructor
  · intro survives row member used
    obtain ⟨remains, -⟩ := survives row member used
    exact ⟨row.lastSeen, watches.seen row member, ((kept row).mp remains).2⟩
  · intro written row member used
    obtain ⟨time, last, recent⟩ := written row member used
    have same := Option.some.inj ((watches.seen row member).symm.trans last)
    have remains := (kept row).mpr ⟨member, same ▸ recent⟩
    exact ⟨remains, chunks row remains⟩

end Steps

namespace IdleSpecimen

def momentAt (now : Int) : Moment where
  now
  monotonic := now * 1000000
  polls _ := 0
  draw place size := List.replicate size (UInt8.ofNat place)

def mailboxId : String := b64e (List.replicate 16 0)

def creation : Event := .served {
  moment := momentAt 0
  request := {}
  endpoint := .createMailbox }

/-- A contact leaves a chunk. -/
def chunk : Event := .served {
  moment := momentAt 9999999
  request := {
    headers := [("x-nk-mailbox", mailboxId), ("x-nk-write", b64e (List.replicate 32 2))]
    body := [9] }
  endpoint := .uploadBlob }

/-- A contact leaves a message. -/
def message : Event := .served {
  moment := momentAt 9000000
  request := { headers := [("x-nk-write", b64e (List.replicate 32 2))], body := [7] }
  endpoint := .putMessage mailboxId }

/-- The owner looks for messages. -/
def poll : Visit where
  moment := momentAt 10000000
  request := { headers := [("x-nk-read", b64e (List.replicate 32 1))] }
  endpoint := .getMailbox mailboxId 0 0

/-- The relay after a run of its own. -/
def relayAfter (events : List Event) : Relay :=
  ({} : Relay).steps Symbolic.suite {} events

/-- Housekeeping with the default settings. -/
def sweep (relay : Relay) : Except Failure Database.Removed × Database :=
  (Database.housekeeping 10000000 7776000 2592000).run relay.database

theorem poll_uses {before : List Event}
    (used : poll.uses Symbolic.suite {} (relayAfter before) = some mailboxId) :
    UsedSince Symbolic.suite {} {} (before ++ [.served poll]) mailboxId
      (10000000 - 7776000) :=
  ⟨before, poll, [], rfl, used, by decide⟩

end IdleSpecimen

open IdleSpecimen in
/-- A mailbox that is polled and has been written lately survives. -/
theorem used_mailboxes_survive_iff_written :
    ∃ removed after, sweep (relayAfter [creation, message, .served poll]) =
        (.ok removed, after) ∧
      ∀ row ∈ (relayAfter [creation, message, .served poll]).database.mailboxes,
        row ∈ after.mailboxes ∧ after.blobsOf row.id =
          (relayAfter [creation, message, .served poll]).database.blobsOf row.id := by
  have cleaned : sweep (relayAfter [creation, message, .served poll]) =
      (.ok ⟨0, 0, 0⟩, (sweep (relayAfter [creation, message, .served poll])).2) := by
    decide +kernel
  refine ⟨_, _, cleaned, fun row member => ?_⟩
  have ids : ∀ row ∈ (relayAfter [creation, message, .served poll]).database.mailboxes,
      row.id = mailboxId := by
    decide +kernel
  have last : lastWrite Symbolic.suite {} {} [creation, message, .served poll] mailboxId =
      some 9000000 := by
    decide +kernel
  have used : UsedSince Symbolic.suite {} {} [creation, message, .served poll] mailboxId
      (10000000 - 7776000) :=
    @poll_uses [creation, message] (by decide +kernel)
  rw [← ids row member] at used
  unfold relayAfter at ids cleaned member ⊢
  apply (used_mailboxes_survive_iff rfl cleaned).mpr _ row member used
  intro other otherMember _
  refine ⟨9000000, ?_, by decide⟩
  rw [ids other otherMember]
  exact last

open IdleSpecimen in
/-- A mailbox that its owner has just polled is removed, with a chunk of a second
ago. -/
theorem polled_mailbox_is_removed :
    ∃ removed after, sweep (relayAfter [creation, chunk, .served poll]) =
        (.ok removed, after) ∧
      ∃ row ∈ (relayAfter [creation, chunk, .served poll]).database.mailboxes,
        UsedSince Symbolic.suite {} {} [creation, chunk, .served poll] row.id
          (10000000 - 7776000) ∧
        row ∉ after.mailboxes ∧ after.blobsOf row.id ≠
          (relayAfter [creation, chunk, .served poll]).database.blobsOf row.id := by
  have cleaned : sweep (relayAfter [creation, chunk, .served poll]) =
      (.ok ⟨1, 0, 1⟩, (sweep (relayAfter [creation, chunk, .served poll])).2) := by
    decide +kernel
  have used : UsedSince Symbolic.suite {} {} [creation, chunk, .served poll] mailboxId
      (10000000 - 7776000) :=
    @poll_uses [creation, chunk] (by decide +kernel)
  have gone : ∃ row ∈ (relayAfter [creation, chunk, .served poll]).database.mailboxes,
      row.id = mailboxId ∧
      row ∉ (sweep (relayAfter [creation, chunk, .served poll])).2.mailboxes ∧
      (sweep (relayAfter [creation, chunk, .served poll])).2.blobsOf row.id ≠
        (relayAfter [creation, chunk, .served poll]).database.blobsOf row.id := by
    decide +kernel
  obtain ⟨row, member, named, absent, chunks⟩ := gone
  rw [← named] at used
  exact ⟨_, _, cleaned, row, member, used, absent, chunks⟩

end NoKnowledge.Server

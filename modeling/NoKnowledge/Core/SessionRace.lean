import NoKnowledge.Core.SignedRecords
import NoKnowledge.Core.Threads

/-!
# A card update beside the worker

The interface files a card of a contact while the worker sends to this contact
or receives from it.  Filing a card reads the contact and writes the whole row
back, with the session column it has read.  The column the worker saved last
stays in place as long as no such write comes after a save it has not seen.
-/

namespace NoKnowledge.Core.SessionRace

open Prog NoKnowledge.Wire NoKnowledge.Core.Client

variable (suite : Suite) (environment : Environment) (account : Account)
  (contactId : String)

/-- The column as a thread has last got it with the contact, or saved it. -/
def remembered : {β : Type} → ContactAccess β → Except Raised β → Option SessionBlob →
    Option SessionBlob
  | _, .getContact id, .ok found, known =>
      if id = contactId then found.bind ContactRow.session else known
  | _, .setContactSession id session, _, known =>
      if id = contactId then session else known
  | _, _, _, known => known

/-- The column as the worker has last saved it. -/
def saved : {β : Type} → ContactAccess β → Option SessionBlob → Option SessionBlob
  | _, .setContactSession id session, before =>
      if id = contactId then session else before
  | _, _, before => before

/-- A row is written with the session column that was read before. -/
def required (maySave : Prop) (known : Option SessionBlob) :
    {β : Type} → ContactAccess β → Prop
  | _, .upsertContact row =>
      row.identityId = identityId suite account ∧
        (row.id = contactId → row.session = known)
  | _, .setContactSession _ _ => maySave
  | _, _ => True

def contract (maySave : Prop) :
    Thread.Contract ContactAccess Raised (Option SessionBlob) where
  requires := fun known _ access => required suite account contactId maySave known access
  ensures := fun known _ access reply later =>
    later = remembered contactId access reply known

/-- The thread writes no row with a column other than the one it has read. -/
abbrev Follows (maySave : Prop) {α : Type} (thread : ClientThread α)
    (known : Option SessionBlob) : Prop :=
  thread.Meets (contract suite account contactId maySave) (fun _ _ => True) known

variable {suite environment account contactId} {maySave : Prop}
  {known : Option SessionBlob}

theorem follows_pure {α : Type} (value : α) :
    Follows suite account contactId maySave (pure value : ClientThread α) known := trivial

theorem follows_throw {α : Type} (raised : Raised) :
    Follows suite account contactId maySave (throw raised : ClientThread α) known := trivial

theorem follows_bind {α β : Type} {first : ClientThread β} {next : β → ClientThread α}
    (firstFollows : Follows suite account contactId maySave first known)
    (nextFollows : ∀ value later,
      Follows suite account contactId maySave (next value) later) :
    Follows suite account contactId maySave (first >>= next) known := by
  apply Thread.meets_bind
  apply Thread.Meets.weaken firstFollows
  intro result later _
  cases result with
  | ok value => exact nextFollows value later
  | error raised => exact trivial

theorem follows_lift_bind {α β : Type} {outcome : Except Raised β}
    {next : β → ClientThread α}
    (nextFollows : ∀ value, Follows suite account contactId maySave (next value) known) :
    Follows suite account contactId maySave (Thread.lift outcome >>= next) known := by
  cases outcome with
  | ok value => exact nextFollows value
  | error raised => exact trivial

theorem follows_piece_bind {α β : Type} {program : ClientProg β}
    {leaves : Keeps apart program} {next : β → ClientThread α}
    (nextFollows : ∀ value, Follows suite account contactId maySave (next value) known) :
    Follows suite account contactId maySave (Threads.piece program leaves >>= next)
      known := by
  refine Thread.meets_once_bind trivial ?_
  rintro reply later rfl
  cases reply with
  | ok value => exact nextFollows value
  | error raised => exact trivial

theorem follows_piece {α : Type} (program : ClientProg α) (leaves : Keeps apart program) :
    Follows suite account contactId maySave (Threads.piece program leaves) known :=
  ⟨trivial, fun _ _ _ => trivial⟩

theorem follows_getContact_bind {α : Type} {id : String}
    {next : Option ContactRow → ClientThread α}
    (nextFollows : ∀ found, Follows suite account contactId maySave (next found)
      (if id = contactId then found.bind ContactRow.session else known)) :
    Follows suite account contactId maySave
      (Thread.once (ContactAccess.getContact id) >>= next) known := by
  refine Thread.meets_once_bind trivial ?_
  rintro reply later rfl
  cases reply with
  | ok found => exact nextFollows found
  | error raised => exact trivial

theorem follows_listContacts_bind {α : Type} {next : List ContactRow → ClientThread α}
    (nextFollows : ∀ contacts, Follows suite account contactId maySave (next contacts)
      known) :
    Follows suite account contactId maySave
      (Thread.once ContactAccess.listContacts >>= next) known := by
  refine Thread.meets_once_bind trivial ?_
  rintro reply later rfl
  cases reply with
  | ok contacts => exact nextFollows contacts
  | error raised => exact trivial

theorem follows_attempt {α : Type} {body : ClientThread α}
    (bodyFollows : Follows suite account contactId maySave body known) :
    Follows suite account contactId maySave (Threads.attempt body) known := by
  apply Thread.meets_tryCatch
  have given : Follows suite account contactId maySave (body >>= fun value =>
      (pure (some value) : ClientThread (Option α))) known :=
    follows_bind bodyFollows fun value _ => follows_pure _
  apply Thread.Meets.weaken given
  intro result later _
  cases result <;> exact trivial

theorem follows_storeCard (card : ContactCard) (nickname : Option String) :
    Follows suite account contactId maySave
      (Threads.storeCard suite environment account card nickname) known := by
  apply follows_getContact_bind
  intro existing
  apply follows_lift_bind
  intro shown
  apply follows_piece_bind
  intro now
  refine Thread.meets_once_bind ⟨rfl, fun same => (if_pos same).symm⟩ ?_
  intro reply later _
  cases reply with
  | ok done => exact follows_getContact_bind fun _ => follows_pure _
  | error raised => exact trivial

theorem follows_addContact (data : Json) (nickname : Option String) :
    Follows suite account contactId maySave
      (Threads.addContact suite environment account data nickname) known := by
  apply follows_lift_bind
  intro card
  split
  · exact follows_throw _
  · exact follows_storeCard card nickname

theorem follows_saveState (id : String) (state : SessionState) :
    Follows suite account contactId True (Threads.saveState id state) known :=
  ⟨trivial, fun _ _ _ => trivial⟩

theorem follows_sendText (id text : String) :
    Follows suite account contactId True
      (Threads.sendText suite environment account id text) known := by
  apply follows_bind
  · apply follows_getContact_bind
    intro found
    cases found with
    | none => exact follows_throw _
    | some contact => exact follows_pure _
  intro contact known
  apply follows_piece_bind
  intro state
  apply follows_piece_bind
  intro messageId
  apply follows_piece_bind
  intro now
  apply follows_piece_bind
  intro sent
  apply follows_bind (follows_saveState _ _)
  intro _ known
  exact follows_piece_bind fun _ => follows_pure _

theorem follows_sendReceipt (contact : ContactRow) (ofId : Json) (kind : String) :
    Follows suite account contactId True
      (Threads.sendReceipt suite environment account contact ofId kind) known := by
  apply follows_piece_bind
  intro receiptId
  apply follows_piece_bind
  intro now
  refine follows_bind (follows_attempt ?_) fun _ _ => follows_pure _
  apply follows_getContact_bind
  intro reread
  apply follows_piece_bind
  intro state
  apply follows_piece_bind
  intro sent
  exact follows_saveState _ _

theorem follows_receiveMessage (contact : ContactRow) (kind : String)
    (envelope body : Json) :
    Follows suite account contactId True
      (Threads.receiveMessage suite environment account contact kind envelope body)
      known := by
  unfold Threads.receiveMessage
  dsimp only
  split
  · exact follows_pure _
  · apply follows_piece_bind
    intro found
    cases found with
    | some row => exact follows_pure _
    | none => exact follows_piece_bind fun _ => follows_sendReceipt _ _ _

theorem follows_processEnvelope (contact : ContactRow) (envelope : Json) :
    Follows suite account contactId True
      (Threads.processEnvelope suite environment account contact envelope) known := by
  unfold Threads.processEnvelope
  dsimp only
  split
  · exact follows_receiveMessage _ _ _ _
  · split
    · exact follows_receiveMessage _ _ _ _
    · split
      · exact follows_piece _ _
      · exact follows_pure _

theorem follows_finishInbound (session : Session) (envelope opkId : Json) :
    Follows suite account contactId maySave
      (Threads.finishInbound suite environment account session envelope opkId) known := by
  apply follows_lift_bind
  intro proven
  cases proven with
  | none => exact follows_pure _
  | some card =>
      apply follows_bind (follows_storeCard card none)
      intro contact known
      exact follows_piece_bind fun _ => follows_pure _

theorem follows_receiveKnown (contact : ContactRow) (bucket : SessionState.Bucket)
    (key : String) (session : Session) (blob : Bytes) :
    Follows suite account contactId True
      (Threads.receiveKnown suite environment account contact bucket key session blob)
      known := by
  apply follows_piece_bind
  intro newPrivate
  split
  · split
    · exact follows_pure _
    · exact follows_throw _
  · exact follows_bind (follows_saveState _ _) fun _ _ => follows_processEnvelope _ _

theorem follows_receiveFresh (session : Session) (opkId : Json) (blob : Bytes) :
    Follows suite account contactId True
      (Threads.receiveFresh suite environment account session opkId blob) known := by
  apply follows_piece_bind
  intro newPrivate
  split
  · split
    · exact follows_pure _
    · exact follows_throw _
  · apply follows_bind (follows_finishInbound _ _ _)
    intro contact known
    cases contact with
    | none => exact follows_pure _
    | some contact =>
        exact follows_bind (follows_saveState _ _) fun _ _ => follows_processEnvelope _ _

theorem follows_handleBlob (blob : Bytes) :
    Follows suite account contactId True
      (Threads.handleBlob suite environment account blob) known := by
  apply follows_lift_bind
  intro wire
  apply follows_lift_bind
  intro sid
  apply follows_listContacts_bind
  intro contacts
  split
  · exact follows_receiveKnown _ _ _ _ _
  · split
    · exact follows_pure _
    · apply follows_piece_bind
      intro started
      cases started with
      | none => exact follows_pure _
      | some started => exact follows_receiveFresh _ _ _

/-- What the worker is asked to do. -/
inductive Work where
  | sendText (contactId text : String)
  | handleBlob (blob : Bytes)

variable (suite environment account) in
def Work.thread : Work → ClientThread Unit
  | sendText contactId text => do
      let _ ← Threads.sendText suite environment account contactId text
  | handleBlob blob => Threads.handleBlob suite environment account blob

/-- The shared world, the two threads and what they have done to the column. -/
structure System where
  world : World
  interface : ClientThread ContactRow
  worker : ClientThread Unit
  /-- The column as the interface has last read it. -/
  seen : Option SessionBlob
  /-- The column as the worker has last saved it, or as it was at the start. -/
  saved : Option SessionBlob

variable (suite environment account contactId)

def storedContact (world : World) : Option ContactRow :=
  world.store.getContact (identityId suite account) contactId

/-- The access writes the whole row of the contact. -/
def writesRow : {β : Type} → ContactAccess β → Prop
  | _, .upsertContact row => row.id = contactId
  | _, _ => False

/-- The next thing a thread does is to write the row of the contact. -/
def AboutToWrite {α : Type} : ClientThread α → Prop
  | .step access _ => writesRow contactId access
  | .done _ => False

/-- Who makes a step. -/
inductive Turn where
  | interface
  | worker
deriving DecidableEq

/-- One access of one thread, or a new call in a thread that has none. -/
inductive Step : Turn → System → System → Prop
  | interface {system : System} {β : Type} {access : ContactAccess β}
      {next : Except Raised β → ClientThread ContactRow}
      (running : system.interface = .step access next) :
      Step .interface system { system with
        world := (access.perform suite account).after system.world
        interface := next ((access.perform suite account).run system.world).1
        seen := remembered contactId access
          ((access.perform suite account).run system.world).1 system.seen }
  | worker {system : System} {β : Type} {access : ContactAccess β}
      {next : Except Raised β → ClientThread Unit}
      (running : system.worker = .step access next) :
      Step .worker system { system with
        world := (access.perform suite account).after system.world
        worker := next ((access.perform suite account).run system.world).1
        saved := saved contactId access system.saved }
  | addContact {system : System} {result : Except Raised ContactRow}
      (idle : system.interface = .done result) (data : Json) (nickname : Option String) :
      Step .interface system { system with
        interface := Threads.addContact suite environment account data nickname }
  | work {system : System} {result : Except Raised Unit}
      (idle : system.worker = .done result) (work : Work) :
      Step .worker system { system with worker := work.thread suite environment account }

/-- When the interface writes the row of the contact, the stored column is the
one it has read. -/
def Undisturbed (system : System) : Prop :=
  AboutToWrite contactId system.interface →
    (storedContact suite account contactId system.world).bind ContactRow.session =
      system.seen

/-- A contact is known, no call is running and nothing was saved yet. -/
structure Initial (system : System) : Prop where
  known : (storedContact suite account contactId system.world).map ContactRow.session =
    some system.saved
  interface : ∃ result, system.interface = .done result
  worker : ∃ result, system.worker = .done result

/-- The states of the runs in which the interface is undisturbed. -/
inductive Reachable : System → Prop
  | initial {system : System} (initial : Initial suite account contactId system) :
      Reachable system
  | step {turn : Turn} {before after : System} (reached : Reachable before)
      (undisturbed : turn = .interface → Undisturbed suite account contactId before)
      (step : Step suite environment account contactId turn before after) :
      Reachable after

/-- One step of either thread. -/
def AnyStep (before after : System) : Prop :=
  ∃ turn, Step suite environment account contactId turn before after

structure Invariant (system : System) : Prop where
  stored : (storedContact suite account contactId system.world).map ContactRow.session =
    some system.saved
  interface : Follows suite account contactId False system.interface system.seen
  worker : Follows suite account contactId True system.worker system.saved

variable {suite environment account contactId}

theorem Reachable.worker {before after : System}
    (reached : Reachable suite environment account contactId before)
    (step : Step suite environment account contactId .worker before after) :
    Reachable suite environment account contactId after :=
  reached.step (by simp) step

theorem saved_of_required {β : Type} {access : ContactAccess β}
    (meets : required suite account contactId False known access)
    (column : Option SessionBlob) : saved contactId access column = column := by
  cases access with
  | setContactSession id session => exact meets.elim
  | _ => rfl

/-- What one access does to the column of the contact. -/
theorem stored_after {β : Type} {access : ContactAccess β} {world : World}
    {column : Option SessionBlob}
    (stored : (storedContact suite account contactId world).map ContactRow.session =
      some column)
    (meets : required suite account contactId maySave known access)
    (fresh : writesRow contactId access → column = known) :
    (storedContact suite account contactId
        ((access.perform suite account).after world)).map ContactRow.session =
      some (saved contactId access column) := by
  cases access with
  | getContact id => exact stored
  | listContacts => exact stored
  | elsewhere program leaves =>
      have same : (program.after world).store.contacts = world.store.contacts :=
        leaves world
      show ((program.after world).store.contacts.get? _).map _ = _
      rw [same]
      exact stored
  | setContactSession id session =>
      obtain ⟨row, found, rfl⟩ := Option.map_eq_some_iff.mp stored
      show ((world.store.contacts.update _).get? _).map _ = _
      rw [Table.get?_update, Option.map_map]
      have key := (Table.get?_eq_some.mp found).2
      rw [show world.store.contacts.get? _ = some row from found, Option.map_some]
      by_cases same : id = contactId
      · simp [Table.Change.at, key, same, saved, Store.withSession]
      · simp [Table.Change.at, key, Ne.symm same, saved, same]
  | upsertContact row =>
      obtain ⟨owner, keepsColumn⟩ := meets
      show (storedContact suite account contactId
        ((onStore (Store.upsertContact row)).after world)).map _ = some column
      by_cases fits : Sql.fits row.createdAt = true
      · rw [Prog.after, run_upsertContact fits]
        show ((world.store.contacts.upsert row (Store.takeOver row)).get? _).map _ = _
        by_cases same : row.id = contactId
        · have key : (identityId suite account, contactId) = row.key := by
            rw [ContactRow.key, owner, same]
          rw [key, Table.get?_upsert_self, fresh same, ← keepsColumn same]
          cases world.store.contacts.get? row.key <;> rfl
        · rw [Table.get?_upsert_other]
          · exact stored
          · intro key
            exact same (congrArg Prod.snd key).symm
      · rw [Prog.after, run_upsertContact_refused fits]
        exact stored

theorem Work.follows (work : Work) :
    Follows suite account contactId True (work.thread suite environment account) known := by
  cases work with
  | sendText id text => exact follows_bind (follows_sendText id text) fun _ _ => follows_pure _
  | handleBlob blob => exact follows_handleBlob blob

theorem Invariant.initial {system : System}
    (initial : Initial suite account contactId system) :
    Invariant suite account contactId system := by
  refine ⟨initial.known, ?_, ?_⟩
  · obtain ⟨result, idle⟩ := initial.interface
    rw [idle]
    exact trivial
  · obtain ⟨result, idle⟩ := initial.worker
    rw [idle]
    exact trivial

/-- What the worker remembers of the column is what is stored. -/
theorem remembered_of_stored {β : Type} {access : ContactAccess β} {world : World}
    {column : Option SessionBlob}
    (stored : (storedContact suite account contactId world).map ContactRow.session =
      some column) :
    remembered contactId access ((access.perform suite account).run world).1 column =
      saved contactId access column := by
  cases access with
  | getContact id =>
      obtain ⟨row, found, rfl⟩ := Option.map_eq_some_iff.mp stored
      by_cases same : id = contactId
      · subst same
        show (if id = id then Option.bind (storedContact suite account id world) _ else _) = _
        rw [if_pos rfl, found]
        rfl
      · exact if_neg same
  | _ => rfl

theorem Invariant.step {turn : Turn} {before after : System}
    (invariant : Invariant suite account contactId before)
    (undisturbed : turn = .interface → Undisturbed suite account contactId before)
    (step : Step suite environment account contactId turn before after) :
    Invariant suite account contactId after := by
  cases step with
  | @interface _ β access next running =>
      have meets := invariant.interface
      rw [running] at meets
      refine ⟨?_, meets.2 _ _ rfl, invariant.worker⟩
      have fresh : writesRow contactId access → before.saved = before.seen := by
        intro writes
        have read : AboutToWrite contactId before.interface := by
          rw [running]
          exact writes
        obtain ⟨row, found, saved⟩ := Option.map_eq_some_iff.mp invariant.stored
        rw [← undisturbed rfl read, found, ← saved]
        rfl
      have same := stored_after invariant.stored meets.1 fresh
      rw [saved_of_required meets.1] at same
      exact same
  | @worker _ β access next running =>
      have meets := invariant.worker
      rw [running] at meets
      refine ⟨stored_after invariant.stored meets.1 fun _ => rfl, invariant.interface, ?_⟩
      exact meets.2 _ _ (remembered_of_stored invariant.stored).symm
  | addContact idle data nickname =>
      exact ⟨invariant.stored, follows_addContact data nickname, invariant.worker⟩
  | work idle work => exact ⟨invariant.stored, invariant.interface, work.follows⟩

/-- In every run whose writes are undisturbed, the stored column is the one the
worker has saved last. -/
theorem last_saved_session_is_stored {system : System}
    (reached : Reachable suite environment account contactId system) :
    (storedContact suite account contactId system.world).map ContactRow.session =
      some system.saved := by
  suffices invariant : Invariant suite account contactId system from invariant.stored
  induction reached with
  | initial initial => exact Invariant.initial initial
  | step _ undisturbed step induction => exact induction.step undisturbed step

section Turns

variable (suite account contactId)

/-- The next access of the interface. -/
def interfaceTurn (system : System) : System :=
  match system.interface with
  | .done _ => system
  | .step access next => { system with
      world := (access.perform suite account).after system.world
      interface := next ((access.perform suite account).run system.world).1
      seen := remembered contactId access
        ((access.perform suite account).run system.world).1 system.seen }

/-- The next access of the worker. -/
def workerTurn (system : System) : System :=
  match system.worker with
  | .done _ => system
  | .step access next => { system with
      world := (access.perform suite account).after system.world
      worker := next ((access.perform suite account).run system.world).1
      saved := saved contactId access system.saved }

variable {suite account contactId} {system : System}

theorem interfaceTurn_steps :
    Relation.ReflTransGen (AnyStep suite environment account contactId) system
      (interfaceTurn suite account contactId system) := by
  unfold interfaceTurn
  split
  · exact Relation.ReflTransGen.refl
  · rename_i running
    exact Relation.ReflTransGen.single ⟨_, Step.interface running⟩

theorem workerTurn_steps :
    Relation.ReflTransGen (AnyStep suite environment account contactId) system
      (workerTurn suite account contactId system) := by
  unfold workerTurn
  split
  · exact Relation.ReflTransGen.refl
  · rename_i running
    exact Relation.ReflTransGen.single ⟨_, Step.worker running⟩

theorem Reachable.interfaceTurn
    (reached : Reachable suite environment account contactId system)
    (undisturbed : Undisturbed suite account contactId system) :
    Reachable suite environment account contactId
      (interfaceTurn suite account contactId system) := by
  unfold SessionRace.interfaceTurn
  split
  · exact reached
  · rename_i running
    exact reached.step (fun _ => undisturbed) (Step.interface running)

theorem Reachable.workerTurn
    (reached : Reachable suite environment account contactId system) :
    Reachable suite environment account contactId
      (workerTurn suite account contactId system) := by
  unfold SessionRace.workerTurn
  split
  · exact reached
  · rename_i running
    exact reached.worker (Step.worker running)

theorem interface_workerTurn :
    (workerTurn suite account contactId system).interface = system.interface := by
  unfold workerTurn
  split <;> rfl

theorem undisturbed_of_done {result : Except Raised ContactRow}
    (idle : system.interface = .done result) :
    Undisturbed suite account contactId system := by
  intro writes
  rw [idle] at writes
  exact writes.elim

end Turns

def peer : Identity := ⟨[3], [4]⟩

def peerInbox : MailboxCapability where
  mailboxId := "inbox"
  writeToken := b64e (List.replicate 32 0)

def peerCard : ContactCard :=
  ContactCard.create Symbolic.suite peer "bundle" peerInbox ["https://relay"] "peer"

/-- The session before anything is sent. -/
def firstSession : Session where
  sid := [1]
  ratchet := { rootKey := [1], sendingChain := some [2] }
  established := true

def peerRow : ContactRow where
  identityId := Client.identityId Symbolic.suite .specimen
  id := peerCard.identityId
  nickname := none
  isign := peerCard.isign
  idh := peerCard.idh
  bundleId := some "bundle"
  inbox := peerCard.inbox.cardView
  relays := peerCard.relays
  session := some (.v1 firstSession)
  verified := false
  createdAt := 1

def idleSystem : System where
  world := { store := { contacts := ⟨[peerRow], List.nodup_singleton _⟩ } }
  interface := .done (.error { class_ := .client })
  worker := .done (.ok ())
  seen := none
  saved := some (.v1 firstSession)

/-- The interface is asked to add the card again, under a name. -/
def filing (system : System) : System :=
  { system with
    interface :=
      Threads.storeCard Symbolic.suite .idle .specimen peerCard (some "renamed") }

/-- The worker is asked to send a text. -/
def sending (system : System) : System :=
  { system with
    worker := (Work.sendText peerCard.identityId "x").thread Symbolic.suite .idle .specimen }

/-- One access of the interface. -/
def cardTurn (system : System) : System :=
  interfaceTurn Symbolic.suite .specimen peerCard.identityId system

/-- The worker sends the text and records it. -/
def workerTurns : Nat → System → System
  | 0, system => system
  | turns + 1, system =>
      workerTurns turns (workerTurn Symbolic.suite .specimen peerCard.identityId system)

theorem initial_idleSystem :
    Initial Symbolic.suite .specimen peerCard.identityId idleSystem where
  known := by decide +kernel
  interface := ⟨_, rfl⟩
  worker := ⟨_, rfl⟩

theorem peerCard_parses :
    ContactCard.fromDict Symbolic.suite peerCard.signedDict = .ok peerCard := by
  have named : { peerCard with name := peerCard.shownName } = peerCard := rfl
  rw [ContactCard.fromDict_signedDict, named]
  · exact List.cons_ne_nil _ _
  · rfl
  · rfl
  · show (do
      MailboxCapability.validateToken "write_token" (b64e (List.replicate 32 0))
      pure ()) = _
    rw [MailboxCapability.validateToken, b64d_b64e]
    rfl
  · exact beq_self_eq_true _

/-- The card is one of somebody else and is filed. -/
theorem addContact_peerCard :
    Threads.addContact Symbolic.suite .idle .specimen peerCard.signedDict
        (some "renamed") =
      Threads.storeCard Symbolic.suite .idle .specimen peerCard (some "renamed") := by
  unfold Threads.addContact
  rw [peerCard_parses]
  have other : peerCard.identityId ≠ Client.identityId Symbolic.suite .specimen := by
    decide +kernel
  exact @if_neg _ _ other _
    (throw (clientError "cannot add your own card as a contact"))
    (Threads.storeCard Symbolic.suite .idle .specimen peerCard (some "renamed"))

/-- The contact is read, a text is sent, and the card is written. -/
def overtaken : System :=
  cardTurn (cardTurn (cardTurn (workerTurns 7 (sending (cardTurn (filing idleSystem))))))

def returned {α : Type} : ClientThread α → Bool
  | .done (.ok _) => true
  | _ => false

theorem filing_step {system : System} {result : Except Raised ContactRow}
    (idle : system.interface = .done result) :
    Step Symbolic.suite .idle .specimen peerCard.identityId .interface system
      (filing system) := by
  rw [filing, ← addContact_peerCard]
  exact Step.addContact idle _ _

theorem sending_step {system : System} {result : Except Raised Unit}
    (idle : system.worker = .done result) :
    Step Symbolic.suite .idle .specimen peerCard.identityId .worker system
      (sending system) :=
  Step.work idle _

theorem cardTurn_steps (system : System) :
    Relation.ReflTransGen (AnyStep Symbolic.suite .idle .specimen peerCard.identityId) system
      (cardTurn system) :=
  interfaceTurn_steps

theorem workerTurns_steps (turns : Nat) (system : System) :
    Relation.ReflTransGen (AnyStep Symbolic.suite .idle .specimen peerCard.identityId) system
      (workerTurns turns system) := by
  induction turns generalizing system with
  | zero => exact Relation.ReflTransGen.refl
  | succ turns induction => exact workerTurn_steps.trans (induction _)

theorem overtaken_restores :
    returned overtaken.interface = true ∧ returned overtaken.worker = true ∧
      (storedContact Symbolic.suite .specimen peerCard.identityId overtaken.world).map
        ContactRow.session = some idleSystem.saved ∧
      overtaken.saved ≠ idleSystem.saved := by
  decide +kernel

/-- A send between the read and the write of a card update is lost: the session
from before it is back in place when both calls have returned. -/
theorem card_update_restores_old_session :
    ∃ start final,
      Initial Symbolic.suite .specimen peerCard.identityId start ∧
        Relation.ReflTransGen (AnyStep Symbolic.suite .idle .specimen peerCard.identityId)
          start final ∧
        returned final.interface = true ∧ returned final.worker = true ∧
        (storedContact Symbolic.suite .specimen peerCard.identityId final.world).map
          ContactRow.session = some start.saved ∧
        final.saved ≠ start.saved := by
  refine ⟨idleSystem, overtaken, initial_idleSystem, ?_, overtaken_restores⟩
  have first : AnyStep Symbolic.suite .idle .specimen peerCard.identityId idleSystem
      (filing idleSystem) := ⟨_, filing_step rfl⟩
  have asked := Relation.ReflTransGen.single first
  have read := asked.trans (cardTurn_steps _)
  have idle : (cardTurn (filing idleSystem)).worker = .done (.ok ()) := rfl
  have sent := (read.tail ⟨_, sending_step idle⟩).trans (workerTurns_steps 7 _)
  exact ((sent.trans (cardTurn_steps _)).trans (cardTurn_steps _)).trans (cardTurn_steps _)

abbrev ReachableHere (system : System) : Prop :=
  Reachable Symbolic.suite .idle .specimen peerCard.identityId system

theorem reachable_workerTurns {system : System} {result : Except Raised ContactRow}
    (reached : ReachableHere system) (idle : system.interface = .done result)
    (turns : Nat) : ReachableHere (workerTurns turns system) := by
  induction turns generalizing system with
  | zero => exact reached
  | succ turns induction =>
      apply induction reached.workerTurn
      rw [interface_workerTurn, idle]

theorem interface_workerTurns (turns : Nat) (system : System) :
    (workerTurns turns system).interface = system.interface := by
  induction turns generalizing system with
  | zero => rfl
  | succ turns induction => exact (induction _).trans interface_workerTurn

/-- A card that is read and written at once is filed undisturbed. -/
theorem reachable_filed {system : System} {result : Except Raised ContactRow}
    (reached : ReachableHere system) (idle : system.interface = .done result) :
    ReachableHere (cardTurn (cardTurn (cardTurn (filing system)))) := by
  have asked : ReachableHere (filing system) :=
    reached.step (fun _ => undisturbed_of_done idle) (filing_step idle)
  have read : ReachableHere (cardTurn (filing system)) :=
    asked.interfaceTurn fun writes => writes.elim
  have timed : ReachableHere (cardTurn (cardTurn (filing system))) :=
    read.interfaceTurn fun writes => writes.elim
  exact timed.interfaceTurn fun _ => rfl

/-- A text is sent, and the card is filed after it. -/
def inTurn : System :=
  cardTurn (cardTurn (cardTurn (filing (workerTurns 7 (sending idleSystem)))))

theorem reachable_inTurn : ReachableHere inTurn := by
  have start : ReachableHere idleSystem := Reachable.initial initial_idleSystem
  have asked : ReachableHere (sending idleSystem) :=
    start.worker (sending_step rfl)
  exact reachable_filed (reachable_workerTurns asked rfl 7) (interface_workerTurns 7 _)

theorem last_saved_session_is_stored_inTurn :
    (storedContact Symbolic.suite .specimen peerCard.identityId inTurn.world).map
      ContactRow.session = some inTurn.saved :=
  last_saved_session_is_stored reachable_inTurn

end NoKnowledge.Core.SessionRace

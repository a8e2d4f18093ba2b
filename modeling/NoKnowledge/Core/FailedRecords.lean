import NoKnowledge.Core.Acknowledgement
import NoKnowledge.Core.DeviceSteps
import NoKnowledge.Crypto.SymbolicSuite

/-!
# Records that could not be processed

A synchronisation handles every blob of a page and then acknowledges the page
of every relay as a whole, whatever became of its blobs.  A device record that
could not be processed is still held by its relay exactly when that relay does not
answer the acknowledgement.
-/

namespace NoKnowledge.Core.FailedRecords

open Prog NoKnowledge.Wire NoKnowledge.Server

variable {suite : Suite} {environment : Environment} {account : Account}

/-- One relay carries an acknowledgement out. -/
def acknowledge (mailboxId : String) (relays : String → Database)
    (target : String × Int) : String → Database :=
  Acknowledgement.serveAt relays target.1 (.ackMessages mailboxId target.2)

/-- The relays after the acknowledgements they have carried out. -/
def acknowledged (mailboxId : String) (relays : String → Database)
    (acks : List (String × Int)) : String → Database :=
  acks.foldl (acknowledge mailboxId) relays

/-- The relay an item came from holds it. -/
def Held (mailboxId : String) (relays : String → Database) (item : FetchedMessage) :
    Prop :=
  ∃ row ∈ (relays item.relay).messages,
    row.mailboxId = mailboxId ∧ (row.seq : Int) = item.seq ∧ row.ciphertext = item.blob

/-- The sequence numbers of a relay are those of an integer column. -/
def SeqFits (relays : String → Database) : Prop :=
  ∀ url, ∀ row ∈ (relays url).messages, Sql.fits row.seq = true

/-- The relays hold what they answer a fetch of the own inbox with. -/
structure Serving (environment : Environment) (account : Account) (tick : Nat)
    (relays : String → Database) : Prop where
  fits : SeqFits relays
  held : ∀ place url rows seq blob, account.relays[place]? = some url →
    environment.fetchInbox (tick + place) url = some rows → (seq, blob) ∈ rows →
      Held account.inbox.mailboxId relays { relay := url, seq, blob }

theorem ackMessages_messages {database : Database} {mailboxId : String} {upto : Int}
    (fits : Sql.fits upto = true) :
    (database.serve (.ackMessages mailboxId upto)).messages =
      database.messages.filter fun row =>
        !(decide (row.mailboxId = mailboxId) && decide ((row.seq : Int) ≤ upto)) := by
  have bound : Sql.integer upto = .ok upto := Sql.integer_eq_ok.mpr ⟨fits, rfl⟩
  simp only [Database.serve, Request.execute, Database.ackMessages, Database.bind, bound]
  rfl

theorem mem_serve_ackMessages {database : Database} {mailboxId : String} {upto : Int}
    {row : MessageRow} (member : row ∈ (database.serve (.ackMessages mailboxId
      upto)).messages) : row ∈ database.messages := by
  have happened := database.outcome (.ackMessages mailboxId upto)
  generalize database.answer (.ackMessages mailboxId upto) = answer at happened
  generalize database.serve (.ackMessages mailboxId upto) = after at happened member
  cases happened with
  | failed => exact member
  | acknowledged => exact (List.mem_filter.mp member).1

theorem acknowledge_self (mailboxId : String) (relays : String → Database)
    (target : String × Int) :
    acknowledge mailboxId relays target target.1 =
      (relays target.1).serve (.ackMessages mailboxId target.2) :=
  if_pos rfl

theorem acknowledge_other {mailboxId : String} {relays : String → Database}
    {target : String × Int} {url : String} (other : url ≠ target.1) :
    acknowledge mailboxId relays target url = relays url :=
  if_neg other

theorem mem_acknowledged {mailboxId : String} {relays : String → Database}
    {acks : List (String × Int)} {url : String} {row : MessageRow}
    (member : row ∈ (acknowledged mailboxId relays acks url).messages) :
    row ∈ (relays url).messages := by
  induction acks generalizing relays with
  | nil => exact member
  | cons target acks induction =>
      have earlier := induction member
      by_cases same : url = target.1
      · subst same
        rw [acknowledge_self] at earlier
        exact mem_serve_ackMessages earlier
      · rwa [acknowledge_other same] at earlier

/-- Relays that were not asked hold what they held. -/
theorem acknowledged_unasked {mailboxId : String} {relays : String → Database}
    {acks : List (String × Int)} {url : String}
    (unasked : ∀ upto, (url, upto) ∉ acks) :
    acknowledged mailboxId relays acks url = relays url := by
  induction acks generalizing relays with
  | nil => rfl
  | cons target acks induction =>
      have other : url ≠ target.1 := by
        rintro rfl
        exact unasked target.2 List.mem_cons_self
      show acknowledged mailboxId (acknowledge mailboxId relays target) acks url = _
      rw [induction fun upto member => unasked upto (List.mem_cons_of_mem _ member)]
      exact acknowledge_other other

/-- What an acknowledgement covers is gone. -/
theorem acknowledged_removes {mailboxId : String} {relays : String → Database}
    {acks : List (String × Int)} {url : String} {upto : Int}
    (asked : (url, upto) ∈ acks) (fits : Sql.fits upto = true) {row : MessageRow}
    (own : row.mailboxId = mailboxId) (covered : (row.seq : Int) ≤ upto) :
    row ∉ (acknowledged mailboxId relays acks url).messages := by
  induction acks generalizing relays with
  | nil => cases asked
  | cons target acks induction =>
      rcases List.mem_cons.mp asked with rfl | later
      · intro member
        have held : row ∈ (acknowledge mailboxId relays (url, upto) url).messages :=
          mem_acknowledged member
        rw [acknowledge_self, ackMessages_messages fits, List.mem_filter] at held
        simp [own, covered] at held
      · exact induction later

variable (suite environment account) in
/-- An item that is a device record whose handling raises when its turn comes. -/
def Raises : List FetchedMessage → World → FetchedMessage → Prop
  | [], _, _ => False
  | item :: items, world, failed =>
      (failed = item ∧ Channel.isDeviceRecord item.blob = true ∧
        ∃ raised middle, (Sync.handleRecord suite environment account item.blob).run
          world = (.error raised, middle)) ∨
      Raises items ((Client.handleItem suite environment account item).after world) failed

theorem Raises.mem {items : List FetchedMessage} {world : World} {failed : FetchedMessage}
    (raises : Raises suite environment account items world failed) : failed ∈ items := by
  induction items generalizing world with
  | nil => cases raises
  | cons item items induction =>
      rcases raises with ⟨rfl, -⟩ | later
      · exact List.mem_cons_self
      · exact List.mem_cons_of_mem _ (induction later)

/-- Handling blobs acknowledges nothing. -/
theorem permissive_acks : Permissive (keeping World.acks) where
  quiet := {
    tick := fun _ _ => rfl
    put := fun _ _ => rfl
    siblingKeys := fun _ _ => rfl
    deviceList := fun _ _ _ => rfl
    deviceKeys := fun _ _ => rfl }
  mirror := AllowsRecord.mirrors fun _ _ _ => rfl
  sessions := fun _ _ _ => rfl
  outbox := fun _ _ => rfl
  localBlobs := fun _ _ => rfl
  prekeys := fun _ _ _ _ => rfl
  state := fun _ _ _ _ _ => rfl
  messages := fun _ _ => rfl
  index := fun _ _ => rfl

theorem keeps_handleItem (item : FetchedMessage) :
    Keeps (keeping World.acks) (Client.handleItem suite environment account item) := by
  have contacts : AllowsContacts (keeping World.acks) := fun _ _ => rfl
  refine keeps_bind (keeps_attempt (keeps_ite (fun _ => ?_) fun _ => ?_)) fun _ =>
    keeps_pure _
  · exact permissive_acks.handleRecord (fun _ _ => rfl)
      (fun _ _ _ _ => permissive_acks.quiet.markApproved (fun _ _ => rfl) _ _ _ _)
      (fun _ _ _ _ _ _ _ _ _ => permissive_acks.mergeAnyContacts contacts _ _)
  · exact permissive_acks.receiveBlob contacts _

/-- The blobs of a fetch, in the order they are handled. -/
def fetchedIn (environment : Environment) (account : Account) (world : World) :
    List FetchedMessage :=
  collect account.relays (account.relays.zipIdx.foldl (fun answers (url, place) =>
    match environment.fetchInbox (world.tick + place) url with
    | some rows => answers.insert url rows
    | none => answers) Dict.empty)

theorem run_fetchInbox (world : World) :
    (fetchInbox environment account.relays).run world =
      (.ok (fetchedIn environment account world),
        { world with tick := world.tick + account.relays.length }) :=
  rfl

theorem get?_answers {entries : List (String × Nat)} {answer : Nat → String → Option Rows}
    {answers : Dict String Rows} {url : String} {rows : Rows}
    (answered : (entries.foldl (fun answers (url, place) =>
      match answer place url with
      | some rows => answers.insert url rows
      | none => answers) answers).get? url = some rows) :
    answers.get? url = some rows ∨
      ∃ place, (url, place) ∈ entries ∧ answer place url = some rows := by
  induction entries generalizing answers with
  | nil => exact Or.inl answered
  | cons entry entries induction =>
      obtain ⟨asked, place⟩ := entry
      rw [List.foldl_cons] at answered
      rcases induction answered with earlier | ⟨found, member, given⟩
      · dsimp only at earlier
        cases given : answer place asked with
        | none =>
            rw [given] at earlier
            exact Or.inl earlier
        | some other =>
            rw [given, Dict.get?_insert] at earlier
            by_cases same : url = asked
            · subst same
              rw [if_pos rfl] at earlier
              cases earlier
              exact Or.inr ⟨place, List.mem_cons_self, given⟩
            · rw [if_neg same] at earlier
              exact Or.inl earlier
      · exact Or.inr ⟨found, List.mem_cons_of_mem _ member, given⟩

/-- Every fetched item is held by its relay. -/
theorem Serving.fetched {world : World} {relays : String → Database}
    (serving : Serving environment account world.tick relays) {item : FetchedMessage}
    (member : item ∈ fetchedIn environment account world) :
    item.relay ∈ account.relays ∧ Held account.inbox.mailboxId relays item := by
  obtain ⟨known, rows, answered, listed⟩ := mem_collect.mp member
  have answer : ∃ place, (item.relay, place) ∈ account.relays.zipIdx ∧
      environment.fetchInbox (world.tick + place) item.relay = some rows := by
    rcases @get?_answers _
      (fun place url => environment.fetchInbox (world.tick + place) url) _ _ _ answered with
      impossible | found
    · cases impossible
    · exact found
  obtain ⟨place, entry, answered⟩ := answer
  exact ⟨known, serving.held place item.relay rows item.seq item.blob
    (List.mem_zipIdx_iff_getElem?.mp entry) answered listed⟩

/-- The acknowledgements of a page, in the order the relays are asked for them. -/
def targetsOf (account : Account) (page : List FetchedMessage) : List (String × Int) :=
  acknowledgements account.relays (page.foldl tally Dict.empty)

/-- A relay answers the acknowledgement of a page, when the first relay is asked for
one at this tick. -/
def CarriesOut (environment : Environment) (account : Account)
    (page : List FetchedMessage) (tick : Nat) (url : String) : Prop :=
  ∃ place upto, (targetsOf account page)[place]? = some (url, upto) ∧
    environment.ack (tick + place) url = true

variable (suite environment account) in
/-- The world when the blobs of a fetch have been handled. -/
def handledFrom (world : World) : World :=
  ((fetchedIn environment account world).forM
    (Client.handleItem suite environment account)).after
      { world with tick := world.tick + account.relays.length }

/-- The exceptions of an item stop nothing. -/
theorem run_handleItem (item : FetchedMessage) (world : World) :
    (Client.handleItem suite environment account item).run world =
      (.ok (), (Client.handleItem suite environment account item).after world) := by
  rcases ran : (if Channel.isDeviceRecord item.blob then
      Sync.handleRecord suite environment account item.blob
    else Client.handleBlob suite environment account item.blob).run world with
    ⟨raised | value, final⟩
  · simp only [Client.handleItem, Sync.attempt, after, run_bind, run_tryCatch, ran]
    rfl
  · simp only [Client.handleItem, Sync.attempt, after, run_bind, run_tryCatch, ran]
    rfl

theorem run_handleItems (items : List FetchedMessage) (world : World) :
    (items.forM (Client.handleItem suite environment account)).run world =
      (.ok (), (items.forM (Client.handleItem suite environment account)).after world) := by
  induction items generalizing world with
  | nil => rfl
  | cons item items induction =>
      show (Client.handleItem suite environment account item >>= fun _ =>
          items.forM (Client.handleItem suite environment account)).run world =
        (.ok (), (Client.handleItem suite environment account item >>= fun _ =>
          items.forM (Client.handleItem suite environment account)).after world)
      rw [after_bind_ok (run_handleItem item world),
        run_bind_ok (run_handleItem item world)]
      exact induction _

/-- Without tallied numbers no relay is asked. -/
theorem acknowledgements_nil {urls : List String} {cursors : Dict String Int}
    (nothing : cursors.entries.isEmpty = true) : acknowledgements urls cursors = [] := by
  apply List.eq_nil_iff_forall_not_mem.mpr
  rintro ⟨url, upto⟩ member
  obtain ⟨-, found⟩ := mem_acknowledgements.mp member
  rw [Dict.get?, List.isEmpty_iff.mp nothing] at found
  cases found

/-- A synchronisation acknowledges the page of every relay that answers. -/
theorem sync_acks (world : World) :
    ∃ done, ((Client.sync suite environment account).after world).acks =
        world.acks ++ done ∧
      ∀ url upto, (url, upto) ∈ done ↔
        ∃ place, (targetsOf account (fetchedIn environment account world))[place]? =
            some (url, upto) ∧
          environment.ack ((handledFrom suite environment account world).tick + place) url =
            true := by
  have handled := @run_handleItems suite environment account
    (fetchedIn environment account world)
    { world with tick := world.tick + account.relays.length }
  have kept : Keeps (keeping World.acks) ((fetchedIn environment account world).forM
      (Client.handleItem suite environment account)) :=
    keeps_forM fun item _ => keeps_handleItem item
  have same := kept.view handled
  unfold Client.sync
  rw [after_bind_ok (run_fetchInbox world), after_bind_ok handled]
  dsimp only
  split
  · rename_i nothing
    refine ⟨[], by rw [List.append_nil]; exact same, fun url upto => ?_⟩
    rw [targetsOf, acknowledgements_nil nothing]
    simp
  · refine ⟨_, congrArg (· ++ _) same, fun url upto => ?_⟩
    constructor
    · intro member
      obtain ⟨entry, kept, isTarget⟩ := List.mem_map.mp member
      obtain ⟨target, place⟩ := entry
      subst isTarget
      obtain ⟨listed, answered⟩ := List.mem_filter.mp kept
      exact ⟨place, List.mem_zipIdx_iff_getElem?.mp listed, answered⟩
    · rintro ⟨place, listed, answered⟩
      exact List.mem_map.mpr ⟨((url, upto), place),
        List.mem_filter.mpr ⟨List.mem_zipIdx_iff_getElem?.mpr listed, answered⟩, rfl⟩

/-- A device record whose handling raises is held by its relay after the
synchronisation exactly when the relay does not answer the acknowledgement of the
page. -/
theorem failed_records_are_held_unacknowledged {world : World}
    {relays : String → Database}
    (serving : Serving environment account world.tick relays) {failed : FetchedMessage}
    (raises : Raises suite environment account (fetchedIn environment account world)
      { world with tick := world.tick + account.relays.length } failed) :
    ∃ done, ((Client.sync suite environment account).after world).acks =
        world.acks ++ done ∧
      (Held account.inbox.mailboxId
          (acknowledged account.inbox.mailboxId relays done) failed ↔
        ¬ CarriesOut environment account (fetchedIn environment account world)
          (handledFrom suite environment account world).tick failed.relay) := by
  obtain ⟨known, row, stored, own, sameSeq, sameBlob⟩ := serving.fetched raises.mem
  obtain ⟨done, acks, carried⟩ := @sync_acks suite environment account world
  refine ⟨done, acks, ?_, ?_⟩
  · rintro ⟨row, stored, own, sameSeq, -⟩ ⟨place, upto, asked, answered⟩
    obtain ⟨-, tallied⟩ := mem_acknowledgements.mp (List.mem_of_getElem? asked)
    obtain ⟨highest, found, bounded⟩ := tally_bounds _ raises.mem
    rw [tallied] at found
    cases found
    have fits : Sql.fits upto = true := by
      by_cases positive : 0 < upto
      · obtain ⟨last, member, sameRelay, lastSeq⟩ := tally_attained _ tallied positive
        obtain ⟨-, lastRow, lastStored, -, lastSame, -⟩ := serving.fetched member
        rw [← lastSeq, ← lastSame]
        exact serving.fits _ lastRow lastStored
      · have zero : upto = 0 := by omega
        rw [zero]
        rfl
    exact acknowledged_removes ((carried _ _).mpr ⟨place, asked, answered⟩) fits own
      (sameSeq ▸ bounded) stored
  · intro unanswered
    have unasked : ∀ upto, (failed.relay, upto) ∉ done := by
      intro upto member
      obtain ⟨place, asked, answered⟩ := (carried _ _).mp member
      exact unanswered ⟨place, upto, asked, answered⟩
    unfold Held
    rw [acknowledged_unasked unasked]
    exact ⟨row, stored, own, sameSeq, sameBlob⟩

/-- A record from a sibling, cut off after its header. -/
def siblingRecord : Bytes :=
  Channel.magic ++ [1, 4, 0, 0, 0, 0, 0, 12] ++ utf8 "\x7b\"from\":\"e\"\x7d"

/-- A relay with the record and nothing else; it answers acknowledgements or not. -/
def holding (acks : Bool) : Environment :=
  { Environment.idle with
    fetchInbox := fun _ _ => some [(1, siblingRecord)]
    ack := fun _ _ => acks }

def inboxes : String → Database := fun _ =>
  { messages := [{ mailboxId := "inbox", seq := 1, ciphertext := siblingRecord
                   createdAt := 0, size := siblingRecord.length }] }

def siblingItem : FetchedMessage :=
  { relay := "https://relay", seq := 1, blob := siblingRecord }

theorem holding_serving (acks : Bool) : Serving (holding acks) .specimen 0 inboxes where
  fits := by
    intro url row member
    rw [List.mem_singleton.mp member]
    rfl
  held := by
    intro place url rows seq blob _ answered listed
    cases answered
    cases List.mem_singleton.mp listed
    exact ⟨_, List.mem_singleton_self _, rfl, rfl, rfl⟩

theorem holding_fetched (acks : Bool) :
    fetchedIn (holding acks) .specimen { store := {} } = [siblingItem] := rfl

/-- The device list is not reachable, so the record cannot be processed. -/
theorem siblingRecord_raises (acks : Bool) :
    Raises Symbolic.suite (holding acks) .specimen
      (fetchedIn (holding acks) .specimen { store := {} })
      { store := {}, tick := 1 } siblingItem := by
  have isRecord : Channel.isDeviceRecord siblingItem.blob = true := by decide +kernel
  have raised : ((Sync.handleRecord Symbolic.suite (holding acks) .specimen
      siblingItem.blob).run { store := {}, tick := 1 }).1 =
        .error (Sync.unavailable "record from unknown device: e") := by
    cases acks <;> decide +kernel
  rcases ran : (Sync.handleRecord Symbolic.suite (holding acks) .specimen
    siblingItem.blob).run { store := {}, tick := 1 } with ⟨result, middle⟩
  rw [ran] at raised
  subst raised
  rw [holding_fetched]
  exact Or.inl ⟨rfl, isRecord, _, middle, ran⟩

/-- The relay does not carry the acknowledgement out and still holds the record. -/
theorem failed_records_are_held_unacknowledged_down :
    ∃ done, ((Client.sync Symbolic.suite (holding false) .specimen).after
        { store := {} }).acks = done ∧
      Held "inbox" (acknowledged "inbox" inboxes done) siblingItem := by
  obtain ⟨done, acks, held⟩ := failed_records_are_held_unacknowledged
    (holding_serving false) (siblingRecord_raises false)
  have unanswered : ∀ page tick url,
      ¬ CarriesOut (holding false) .specimen page tick url := by
    rintro page tick url ⟨place, upto, -, answered⟩
    cases answered
  have none : ((Client.sync Symbolic.suite (holding false) .specimen).after
      { store := {} }).acks = [] := by decide +kernel
  rw [none] at acks
  cases acks
  exact ⟨[], none, held.mpr (unanswered _ _ _)⟩

/-- The relay carries it out, and the record is lost. -/
theorem failed_record_is_acknowledged :
    Raises Symbolic.suite (holding true) .specimen
        (fetchedIn (holding true) .specimen { store := {} })
        { store := {}, tick := 1 } siblingItem ∧
      ¬ Held "inbox" (acknowledged "inbox" inboxes
        ((Client.sync Symbolic.suite (holding true) .specimen).after
          { store := {} }).acks) siblingItem := by
  refine ⟨siblingRecord_raises true, ?_⟩
  rintro ⟨row, stored, -⟩
  have gone : (acknowledged "inbox" inboxes
      ((Client.sync Symbolic.suite (holding true) .specimen).after
        { store := {} }).acks "https://relay").messages = [] := by decide +kernel
  have nothing : row ∈ ([] : List MessageRow) := gone ▸ stored
  cases nothing

end NoKnowledge.Core.FailedRecords

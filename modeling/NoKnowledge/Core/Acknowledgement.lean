import NoKnowledge.Server.StoreInvariant
import NoKnowledge.Wire.MultiRelay

/-!
# Fetching and acknowledging an inbox while others write

One synchronisation asks every relay of the set for a page of the inbox, hands
the blobs to their handlers one by one and then acknowledges, relay by relay,
the highest number it has seen.  Meanwhile every relay serves anyone else:
the requests of other clients, those the handlers make and the relay's own
housekeeping come in at any point.
-/

namespace NoKnowledge.Core.Acknowledgement

open NoKnowledge.Server NoKnowledge.Wire

/-- The inbox of a client: its mailbox and the relays that hold it. -/
structure Inbox where
  mailboxId : String
  urls : List String
  /-- How many messages a relay returns at once. -/
  maxMessagesPerFetch : Int

inductive Phase where
  /-- Waiting for the answers to the fetch. -/
  | fetching
  /-- Going through the fetched blobs. -/
  | handling (todo : List FetchedMessage)
  /-- Waiting for the answers to the acknowledgements. -/
  | acking (waiting : List (String × Int))
deriving DecidableEq

/-- A message an acknowledgement removed, and what had been handled by then. -/
structure Deletion where
  relay : String
  row : MessageRow
  handledBefore : List FetchedMessage
deriving DecidableEq

structure State where
  relays : String → Database
  /-- Relays whose fetch has been answered or has failed. -/
  asked : List String
  answers : Dict String Rows
  handled : List FetchedMessage
  phase : Phase
  deletions : List Deletion

/-- The start of a synchronisation against relays with any history. -/
def start (histories : String → List Request) : State where
  relays := fun url => Database.initial.serveAll (histories url)
  asked := []
  answers := Dict.empty
  handled := []
  phase := .fetching
  deletions := []

inductive Event where
  /-- A relay serves somebody else's request. -/
  | other (url : String) (request : Request)
  | fetch (url : String)
  | fetchFails (url : String)
  /-- All answers are there. -/
  | collected
  /-- The next blob goes to its handler. -/
  | handle
  | ack (url : String) (upto : Int)
  | ackFails (url : String) (upto : Int)

/-- The request would create the mailbox anew on a relay that has been asked. -/
def recreates (inbox : Inbox) (state : State) (url : String) : Request → Bool
  | .createMailbox mailboxId _ _ _ _ _ =>
      mailboxId = inbox.mailboxId && state.asked.contains url &&
        !(state.relays url).mailboxes.any fun mailbox => mailbox.id = inbox.mailboxId
  | _ => false

def serveAt (relays : String → Database) (url : String) (request : Request) :
    String → Database := fun other =>
  if other = url then (relays url).serve request else relays other

/-- The sequence numbers and blobs of a page. -/
def rowsOf : Except Failure Response → Option Rows
  | .ok (.messages rows) => some (rows.map fun row => ((row.seq : Int), row.ciphertext))
  | _ => none

def fetchRequest (inbox : Inbox) : Request :=
  .getMessages inbox.mailboxId 0 inbox.maxMessagesPerFetch

/-- What an acknowledgement removes from a relay. -/
def removedBy (before after : Database) : List MessageRow :=
  before.messages.filter fun row => !after.messages.contains row

/-- One step of the synchronisation or of its surroundings; an event that
cannot happen now changes nothing. -/
def step (inbox : Inbox) (state : State) : Event → State
  | .other url request =>
      if recreates inbox state url request then state
      else { state with relays := serveAt state.relays url request }
  | .fetch url =>
      if state.phase = .fetching ∧ url ∈ inbox.urls ∧ url ∉ state.asked then
        match rowsOf ((state.relays url).answer (fetchRequest inbox)) with
        | some rows =>
            { state with
              asked := url :: state.asked
              answers := state.answers.insert url rows }
        | none => { state with asked := url :: state.asked }
      else state
  | .fetchFails url =>
      if state.phase = .fetching then { state with asked := url :: state.asked }
      else state
  | .collected =>
      if state.phase = .fetching ∧ ∀ url ∈ inbox.urls, url ∈ state.asked then
        { state with phase := .handling (collect inbox.urls state.answers) }
      else state
  | .handle =>
      match state.phase with
      | .handling (item :: todo) =>
          { state with
            handled := state.handled ++ [item]
            phase := .handling todo }
      | .handling [] =>
          { state with
            phase := .acking (acknowledgements inbox.urls
              (state.handled.foldl tally Dict.empty)) }
      | _ => state
  | .ack url upto =>
      match state.phase with
      | .acking waiting =>
          if (url, upto) ∈ waiting then
            let relays := serveAt state.relays url
              (.ackMessages inbox.mailboxId upto)
            { state with
              relays
              phase := .acking (waiting.erase (url, upto))
              deletions := state.deletions ++
                (removedBy (state.relays url) (relays url)).map fun row =>
                  ⟨url, row, state.handled⟩ }
          else state
      | _ => state
  | .ackFails url upto =>
      match state.phase with
      | .acking waiting =>
          { state with phase := .acking (waiting.erase (url, upto)) }
      | _ => state

def run (inbox : Inbox) (state : State) (events : List Event) : State :=
  events.foldl (step inbox) state

/-- A message of the mailbox is on the page or newer than all of it, and later
messages will be newer still. -/
structure Covers (mailboxId : String) (rows : Rows) (database : Database) :
    Prop where
  covered : ∀ row ∈ database.messagesOf mailboxId,
    ((row.seq : Int), row.ciphertext) ∈ rows ∨ ∀ listed ∈ rows, listed.1 < row.seq
  below : ∀ mailbox ∈ database.mailboxes, mailbox.id = mailboxId →
    ∀ listed ∈ rows, listed.1 < mailbox.nextSeq

variable {mailboxId : String} {rows : Rows} {database : Database}

theorem mem_page {row : MessageRow} {afterSeq limit : Int}
    (member : row ∈ database.page mailboxId afterSeq limit) :
    row ∈ database.messagesOf mailboxId := by
  have sorted : row ∈ ((database.messagesOf mailboxId).filter fun row =>
      afterSeq < row.seq).mergeSort fun left right => left.seq ≤ right.seq := by
    unfold Database.page Database.limited at member
    split at member
    · exact member
    · exact List.mem_of_mem_take member
  exact (List.mem_filter.mp (List.mem_mergeSort.mp sorted)).1

theorem page_covers (sound : database.Sound) (limit : Int) {row : MessageRow}
    (member : row ∈ database.messagesOf mailboxId) :
    row ∈ database.page mailboxId 0 limit ∨
      ∀ listed ∈ database.page mailboxId 0 limit, listed.seq < row.seq := by
  have positive := sound.seqPositive row (Database.mem_messagesOf.mp member).1
  have sorted : row ∈ ((database.messagesOf mailboxId).filter fun row =>
      (0 : Int) < row.seq).mergeSort fun left right => left.seq ≤ right.seq := by
    refine List.mem_mergeSort.mpr (List.mem_filter.mpr ⟨member, ?_⟩)
    simpa using Nat.lt_of_succ_le positive
  have ordered : (((database.messagesOf mailboxId).filter fun row =>
      (0 : Int) < row.seq).mergeSort fun left right =>
        decide (left.seq ≤ right.seq)).Pairwise fun left right =>
          decide (left.seq ≤ right.seq) = true :=
    List.pairwise_mergeSort
      (fun first second third => by simpa using le_trans)
      (fun first second => by simpa using le_total first.seq second.seq) _
  by_cases onPage : row ∈ database.page mailboxId 0 limit
  · exact Or.inl onPage
  · refine Or.inr fun listed listedMember => ?_
    have listedStored := mem_page listedMember
    unfold Database.page Database.limited at onPage listedMember
    split at onPage
    · exact (onPage sorted).elim
    · rename_i finite
      rw [if_neg finite] at listedMember
      rw [← List.take_append_drop limit.toNat (List.mergeSort _ _),
        List.mem_append] at sorted
      have dropped := sorted.resolve_left onPage
      rw [← List.take_append_drop limit.toNat (List.mergeSort _ _),
        List.pairwise_append] at ordered
      have older : listed.seq ≤ row.seq := by
        simpa using ordered.2.2 listed listedMember row dropped
      refine lt_of_le_of_ne older fun same => ?_
      have equal := List.inj_on_of_nodup_map (sound.seqDistinct mailboxId)
        listedStored member same
      exact onPage (equal ▸ listedMember)

theorem covers_page (sound : database.Sound) (limit : Int) :
    Covers mailboxId ((database.page mailboxId 0 limit).map fun row =>
      ((row.seq : Int), row.ciphertext)) database where
  covered := by
    intro row member
    rcases page_covers sound limit member with onPage | newer
    · exact Or.inl (List.mem_map_of_mem onPage)
    · refine Or.inr fun listed listedMember => ?_
      obtain ⟨found, foundMember, rfl⟩ := List.mem_map.mp listedMember
      exact Int.ofNat_lt.mpr (newer found foundMember)
  below := by
    intro mailbox mailboxMember same listed listedMember
    obtain ⟨found, foundMember, rfl⟩ := List.mem_map.mp listedMember
    obtain ⟨stored, owner⟩ := Database.mem_messagesOf.mp (mem_page foundMember)
    exact Int.ofNat_lt.mpr (sound.seqBelow mailbox mailboxMember found stored
      (owner.trans same.symm))

theorem Covers.restrict {smaller : Database} (covers : Covers mailboxId rows database)
    (messages : smaller.messages ⊆ database.messages)
    (mailboxes : smaller.mailboxes ⊆ database.mailboxes) :
    Covers mailboxId rows smaller where
  covered := by
    intro row member
    obtain ⟨stored, owner⟩ := Database.mem_messagesOf.mp member
    exact covers.covered row (Database.mem_messagesOf.mpr ⟨messages stored, owner⟩)
  below := fun mailbox member => covers.below mailbox (mailboxes member)

/-- What others do to a relay keeps a page covering, as long as the mailbox is
not created anew. -/
theorem Covers.serve (covers : Covers mailboxId rows database) {request : Request}
    (kept : ∀ readTokenHash writeTokenHash now maxMessages maxBytes,
      request = .createMailbox mailboxId readTokenHash writeTokenHash now
        maxMessages maxBytes →
      ∃ mailbox ∈ database.mailboxes, mailbox.id = mailboxId) :
    Covers mailboxId rows (database.serve request) := by
  have happened := database.outcome request
  generalize database.answer request = answer at happened
  generalize database.serve request = after at happened
  cases happened with
  | @created row free first =>
      refine ⟨covers.covered, ?_⟩
      intro mailbox member same
      rcases List.mem_append.mp member with old | new
      · exact covers.below mailbox old same
      · rw [List.mem_singleton] at new
        subst new
        subst same
        obtain ⟨existing, existingMember, sameId⟩ := kept _ _ _ _ _ rfl
        exact (free existing existingMember sameId).elim
  | touched touchedId now =>
      refine ⟨covers.covered, ?_⟩
      intro mailbox member same
      obtain ⟨old, oldMember, rfl⟩ := List.mem_map.mp member
      split at same
      · rw [if_pos ‹_›]
        exact covers.below old oldMember same
      · rw [if_neg ‹_›]
        exact covers.below old oldMember same
  | deletedMailbox =>
      exact covers.restrict List.filter_sublist.subset List.filter_sublist.subset
  | @stored mailbox ciphertext now found =>
      constructor
      · intro row member
        obtain ⟨stored, owner⟩ := Database.mem_messagesOf.mp member
        rcases List.mem_append.mp stored with old | new
        · exact covers.covered row (Database.mem_messagesOf.mpr ⟨old, owner⟩)
        · rw [List.mem_singleton] at new
          subst new
          exact Or.inr (covers.below mailbox found owner)
      · intro row member same listed listedMember
        obtain ⟨old, oldMember, rfl⟩ := List.mem_map.mp member
        split at same
        · rename_i sameId
          rw [if_pos sameId]
          have earlier := covers.below mailbox found (sameId ▸ same) listed listedMember
          exact earlier.trans (by exact_mod_cast Nat.lt_succ_self mailbox.nextSeq)
        · rename_i different
          rw [if_neg different]
          exact covers.below old oldMember same listed listedMember
  | acknowledged =>
      exact covers.restrict List.filter_sublist.subset fun _ member => member
  | cleaned now mailboxTtl blobTtl stale stray removed =>
      rw [Database.foldl_without]
      exact covers.restrict List.filter_sublist.subset List.filter_sublist.subset
  | _ => exact ⟨covers.covered, covers.below⟩

variable {inbox : Inbox} {state : State}

/-- How far the blobs have got in each phase. -/
def Progress (inbox : Inbox) (state : State) : Prop :=
  match state.phase with
  | .fetching => state.handled = []
  | .handling todo => state.handled ++ todo = collect inbox.urls state.answers
  | .acking waiting =>
      state.handled = collect inbox.urls state.answers ∧
        ∀ target ∈ waiting,
          (state.handled.foldl tally Dict.empty).get? target.1 = some target.2

/-- The removed message had been returned by this fetch and handled. -/
def Deletion.Fetched (answers : Dict String Rows) (deletion : Deletion) : Prop :=
  (∃ rows, answers.get? deletion.relay = some rows ∧
    ((deletion.row.seq : Int), deletion.row.ciphertext) ∈ rows) ∧
  { relay := deletion.relay, seq := deletion.row.seq
    blob := deletion.row.ciphertext : FetchedMessage } ∈ deletion.handledBefore

structure Invariant (inbox : Inbox) (state : State) : Prop where
  sound : ∀ url, (state.relays url).Sound
  asked : ∀ url rows, state.answers.get? url = some rows → url ∈ state.asked
  covers : ∀ url rows, state.answers.get? url = some rows →
    Covers inbox.mailboxId rows (state.relays url)
  progress : Progress inbox state
  fetched : ∀ deletion ∈ state.deletions, deletion.Fetched state.answers
  early : state.phase = .fetching → state.deletions = []

theorem invariant_start (histories : String → List Request) :
    Invariant inbox (start histories) where
  sound := fun url => Database.sound_of_reachable ⟨histories url, rfl⟩
  asked := by
    intro url rows answered
    cases answered
  covers := by
    intro url rows answered
    cases answered
  progress := rfl
  fetched := by
    intro deletion member
    cases member
  early := fun _ => rfl

theorem sound_serveAt {relays : String → Database}
    (sound : ∀ url, (relays url).Sound) (url : String) (request : Request) :
    ∀ other, (serveAt relays url request other).Sound := by
  intro other
  unfold serveAt
  split
  · exact (sound url).serve request
  · exact sound other

theorem Invariant.other (invariant : Invariant inbox state) {url : String}
    {request : Request} (allowed : recreates inbox state url request = false) :
    Invariant inbox { state with relays := serveAt state.relays url request } where
  sound := sound_serveAt invariant.sound url request
  asked := invariant.asked
  covers := by
    intro other rows answered
    have covers := invariant.covers other rows answered
    simp only [serveAt]
    split
    · rename_i same
      subst same
      apply covers.serve
      rintro readTokenHash writeTokenHash now maxMessages maxBytes rfl
      have wasAsked := invariant.asked other rows answered
      simpa [recreates, wasAsked] using allowed
    · exact covers
  progress := invariant.progress
  fetched := invariant.fetched
  early := invariant.early

theorem rowsOf_answer {url : String} {rows : Rows}
    (answered : rowsOf ((state.relays url).answer (fetchRequest inbox)) =
      some rows) :
    rows = ((state.relays url).page inbox.mailboxId 0 inbox.maxMessagesPerFetch).map
      fun row => ((row.seq : Int), row.ciphertext) := by
  have happened := (state.relays url).outcome (fetchRequest inbox)
  generalize (state.relays url).answer (fetchRequest inbox) = answer
    at happened answered
  generalize (state.relays url).serve (fetchRequest inbox) = after at happened
  unfold fetchRequest at happened
  cases happened with
  | failed => cases answered
  | listed =>
      cases answered
      rfl

theorem Invariant.fetch (invariant : Invariant inbox state)
    (waiting : state.phase = .fetching) {url : String} {rows : Rows}
    (answered : rowsOf ((state.relays url).answer (fetchRequest inbox)) =
      some rows) :
    Invariant inbox { state with
      asked := url :: state.asked, answers := state.answers.insert url rows } where
  sound := invariant.sound
  asked := by
    intro other found foundEq
    rw [Dict.get?_insert] at foundEq
    split at foundEq
    · rename_i same
      rw [same]
      exact List.mem_cons_self
    · exact List.mem_cons_of_mem _ (invariant.asked other found foundEq)
  covers := by
    intro other found foundEq
    rw [Dict.get?_insert] at foundEq
    split at foundEq
    · rename_i same
      cases foundEq
      rw [same, rowsOf_answer answered]
      exact covers_page (invariant.sound url) _
    · exact invariant.covers other found foundEq
  progress := by
    have progress := invariant.progress
    simp only [Progress, waiting] at progress ⊢
    exact progress
  fetched := by
    rw [invariant.early waiting]
    intro deletion member
    cases member
  early := invariant.early

theorem Invariant.askedMore (invariant : Invariant inbox state) (url : String) :
    Invariant inbox { state with asked := url :: state.asked } :=
  { invariant with
    asked := fun other rows answered =>
      List.mem_cons_of_mem _ (invariant.asked other rows answered) }

theorem Invariant.collected (invariant : Invariant inbox state)
    (waiting : state.phase = .fetching) :
    Invariant inbox { state with
      phase := .handling (collect inbox.urls state.answers) } :=
  { invariant with
    progress := by
      have progress := invariant.progress
      simp only [Progress, waiting] at progress ⊢
      rw [progress, List.nil_append]
    early := by
      intro impossible
      cases impossible }

theorem Invariant.handle (invariant : Invariant inbox state)
    {item : FetchedMessage} {todo : List FetchedMessage}
    (phase : state.phase = .handling (item :: todo)) :
    Invariant inbox { state with
      handled := state.handled ++ [item], phase := .handling todo } :=
  { invariant with
    progress := by
      have progress := invariant.progress
      simp only [Progress, phase] at progress ⊢
      rw [List.append_assoc]
      exact progress
    early := by
      intro impossible
      cases impossible }

theorem Invariant.handledAll (invariant : Invariant inbox state)
    (phase : state.phase = .handling []) :
    Invariant inbox { state with
      phase := .acking (acknowledgements inbox.urls
        (state.handled.foldl tally Dict.empty)) } :=
  { invariant with
    progress := by
      have progress := invariant.progress
      simp only [Progress, phase, List.append_nil] at progress ⊢
      refine ⟨progress, ?_⟩
      intro target member
      exact (mem_acknowledgements.mp member).2
    early := by
      intro impossible
      cases impossible }

theorem Invariant.answeredAck (invariant : Invariant inbox state)
    {waiting remaining : List (String × Int)} (phase : state.phase = .acking waiting)
    (fewer : remaining ⊆ waiting) :
    Invariant inbox { state with phase := .acking remaining } :=
  { invariant with
    progress := by
      have progress := invariant.progress
      simp only [Progress, phase] at progress ⊢
      exact ⟨progress.1, fun target member => progress.2 target (fewer member)⟩
    early := by
      intro impossible
      cases impossible }

/-- What an acknowledgement removes is a message of the inbox with a number up
to the acknowledged one. -/
theorem mem_removedBy {mailboxId : String} {upto : Int} {row : MessageRow}
    (removed : row ∈ removedBy database
      (database.serve (.ackMessages mailboxId upto))) :
    row ∈ database.messagesOf mailboxId ∧ (row.seq : Int) ≤ upto := by
  obtain ⟨stored, gone⟩ := List.mem_filter.mp removed
  have absent : row ∉ (database.serve (.ackMessages mailboxId upto)).messages := by
    simpa using gone
  have happened := database.outcome (.ackMessages mailboxId upto)
  generalize database.answer (.ackMessages mailboxId upto) = answer at happened
  generalize database.serve (.ackMessages mailboxId upto) = after
    at happened absent
  cases happened with
  | failed => exact (absent stored).elim
  | acknowledged =>
      by_contra outside
      apply absent
      refine List.mem_filter.mpr ⟨stored, ?_⟩
      by_cases owner : row.mailboxId = mailboxId
      · have later : ¬ (row.seq : Int) ≤ upto := fun earlier =>
          outside ⟨Database.mem_messagesOf.mpr ⟨stored, owner⟩, earlier⟩
        simpa [owner] using later
      · simp [owner]

/-- The acknowledged number was seen on a fetched page of that relay, so an
older message of the inbox is on the same page. -/
theorem Invariant.removed_fetched (invariant : Invariant inbox state)
    {waiting : List (String × Int)} (phase : state.phase = .acking waiting)
    {url : String} {upto : Int} (target : (url, upto) ∈ waiting) {row : MessageRow}
    (removed : row ∈ removedBy (state.relays url)
      ((state.relays url).serve (.ackMessages inbox.mailboxId upto))) :
    Deletion.Fetched state.answers ⟨url, row, state.handled⟩ := by
  obtain ⟨stored, acknowledged⟩ := mem_removedBy removed
  have progress := invariant.progress
  simp only [Progress, phase] at progress
  obtain ⟨handledAll, tallied⟩ := progress
  have positive : (0 : Int) < upto := by
    have first := (invariant.sound url).seqPositive row (Database.mem_messagesOf.mp stored).1
    have numbered : (0 : Int) < row.seq := Int.ofNat_lt.mpr first
    exact numbered.trans_le acknowledged
  obtain ⟨item, itemHandled, rfl, rfl⟩ :=
    tally_attained state.handled (tallied _ target) positive
  rw [handledAll] at itemHandled
  obtain ⟨known, rows, answered, listed⟩ := mem_collect.mp itemHandled
  have onPage : ((row.seq : Int), row.ciphertext) ∈ rows := by
    rcases (invariant.covers _ rows answered).covered row stored with
      onPage | newer
    · exact onPage
    · exact absurd (newer _ listed) (not_lt.mpr acknowledged)
  refine ⟨⟨rows, answered, onPage⟩, ?_⟩
  rw [handledAll]
  exact mem_collect.mpr ⟨known, rows, answered, onPage⟩

theorem Invariant.ack (invariant : Invariant inbox state)
    {waiting : List (String × Int)} (phase : state.phase = .acking waiting)
    {url : String} {upto : Int} (target : (url, upto) ∈ waiting) :
    Invariant inbox { state with
      relays := serveAt state.relays url (.ackMessages inbox.mailboxId upto)
      phase := .acking (waiting.erase (url, upto))
      deletions := state.deletions ++
        (removedBy (state.relays url)
          (serveAt state.relays url (.ackMessages inbox.mailboxId upto) url)).map
            fun row => ⟨url, row, state.handled⟩ } := by
  have allowed : recreates inbox state url (.ackMessages inbox.mailboxId upto) =
      false := rfl
  have served := (invariant.other allowed).answeredAck phase
    (List.erase_subset : waiting.erase (url, upto) ⊆ waiting)
  refine { served with fetched := ?_, early := ?_ }
  · intro deletion member
    rcases List.mem_append.mp member with old | new
    · exact invariant.fetched deletion old
    · obtain ⟨row, removed, rfl⟩ := List.mem_map.mp new
      apply invariant.removed_fetched phase target
      simpa [serveAt] using removed
  · intro impossible
    cases impossible

theorem Invariant.step (invariant : Invariant inbox state) (event : Event) :
    Invariant inbox (step inbox state event) := by
  cases event with
  | other url request =>
      simp only [Acknowledgement.step]
      split
      · exact invariant
      · exact invariant.other (Bool.eq_false_iff.mpr ‹_›)
  | fetch url =>
      simp only [Acknowledgement.step]
      split
      · rename_i enabled
        split
        · exact invariant.fetch enabled.1 ‹_›
        · exact invariant.askedMore url
      · exact invariant
  | fetchFails url =>
      simp only [Acknowledgement.step]
      split
      · exact invariant.askedMore url
      · exact invariant
  | collected =>
      simp only [Acknowledgement.step]
      split
      · rename_i enabled
        exact invariant.collected enabled.1
      · exact invariant
  | handle =>
      simp only [Acknowledgement.step]
      split
      · exact invariant.handle ‹_›
      · exact invariant.handledAll ‹_›
      · exact invariant
  | ack url upto =>
      simp only [Acknowledgement.step]
      split
      · split
        · exact invariant.ack ‹_› ‹_›
        · exact invariant
      · exact invariant
  | ackFails url upto =>
      simp only [Acknowledgement.step]
      split
      · exact invariant.answeredAck ‹_› List.erase_subset
      · exact invariant

theorem Invariant.run (invariant : Invariant inbox state) (events : List Event) :
    Invariant inbox (run inbox state events) := by
  induction events generalizing state with
  | nil => exact invariant
  | cons event events induction => exact induction (invariant.step event)

/-- Whatever happens between the fetch and the acknowledgement, a message the
acknowledgement removes from a relay was returned by that relay in this fetch
and handed to its handler before. -/
theorem removed_messages_were_handled (inbox : Inbox)
    (histories : String → List Request) (events : List Event) :
    ∀ deletion ∈ (run inbox (start histories) events).deletions,
      deletion.Fetched (run inbox (start histories) events).answers := by
  have invariant : Invariant inbox (start histories) := invariant_start histories
  exact (invariant.run events).fetched

/-- An inbox on one relay. -/
def onlyInbox : Inbox where
  mailboxId := "inbox"
  urls := ["relay"]
  maxMessagesPerFetch := 200

/-- The relay has one message for the inbox. -/
def oneMessage : String → List Request := fun _ =>
  [.createMailbox "inbox" [1] [2] 0 10 100, .putMessage "inbox" [7] 1]

def fetchedAndAcked : List Event :=
  [.fetch "relay", .collected, .handle, .handle, .ack "relay" 1]

def removedMessage : Deletion where
  relay := "relay"
  row := { mailboxId := "inbox", seq := 1, ciphertext := [7], createdAt := 1, size := 1 }
  handledBefore := [⟨"relay", 1, [7]⟩]

theorem removed_message_was_handled :
    removedMessage ∈ (run onlyInbox (start oneMessage) fetchedAndAcked).deletions ∧
      removedMessage.Fetched (run onlyInbox (start oneMessage) fetchedAndAcked).answers := by
  have removed : removedMessage ∈
      (run onlyInbox (start oneMessage) fetchedAndAcked).deletions := by
    decide +kernel
  exact ⟨removed, removed_messages_were_handled onlyInbox oneMessage fetchedAndAcked
    removedMessage removed⟩

end NoKnowledge.Core.Acknowledgement

import NoKnowledge.Foundation.Transitions
import NoKnowledge.Server.Shelf
import NoKnowledge.Server.StoreInvariant

/-!
# A mailbox is a numbered log

Every transcript of a relay is a transcript of the shelf, and the tables hold
what is on the shelf after every request.
-/

namespace NoKnowledge.Server

namespace Database

/-- What went over the wire while the requests were served. -/
def transcript : Database → List Request → List Exchange
  | _, [] => []
  | database, request :: requests =>
      (request, database.answer request) ::
        (database.serve request).transcript requests

/-- A box has the caps, the next number and the time of a row. -/
structure Describes (mailbox : MailboxRow) (box : Box) : Prop where
  maxMessages : box.maxMessages = mailbox.maxMessages
  maxBytes : box.maxBytes = mailbox.maxBytes
  lastSeen : box.lastSeen = mailbox.lastSeen
  next : box.log.next = mailbox.nextSeq

/-- An attachment chunk under its id. -/
def labelled (row : BlobRow) : String × Bytes := (row.chunkId, row.ciphertext)

/-- The tables hold the boxes of a shelf. -/
structure Represents (database : Database) (shelf : Shelf) : Prop where
  shelved : ∀ mailbox ∈ database.mailboxes,
    ∃ box, shelf mailbox.id = some box ∧ Describes mailbox box
  present : ∀ mailboxId box, shelf mailboxId = some box →
    ∃ mailbox ∈ database.mailboxes, mailbox.id = mailboxId
  held : ∀ mailboxId,
    (database.messagesOf mailboxId).map Shelf.numbered = shelf.held mailboxId
  chunks : ∀ mailboxId, (database.blobsOf mailboxId).map labelled = shelf.chunks mailboxId
  messagesSized : ∀ row ∈ database.messages, row.size = row.ciphertext.length
  blobsSized : ∀ row ∈ database.blobs, row.size = row.ciphertext.length

section Simulation

variable {database after : Database} {shelf : Shelf}

theorem represents_initial : initial.Represents Shelf.empty where
  shelved := by
    intro mailbox member
    cases member
  present := by
    intro mailboxId box found
    cases found
  held := fun _ => rfl
  chunks := fun _ => rfl
  messagesSized := by
    intro row member
    cases member
  blobsSized := by
    intro row member
    cases member

/-- A mailbox that is not on the shelf is not in the tables. -/
theorem Represents.absent (represents : database.Represents shelf) {mailboxId : String}
    (nowhere : ∀ mailbox ∈ database.mailboxes, mailbox.id ≠ mailboxId) :
    shelf mailboxId = none := by
  cases found : shelf mailboxId with
  | none => rfl
  | some box =>
      obtain ⟨mailbox, member, same⟩ := represents.present _ _ found
      exact absurd same (nowhere mailbox member)

theorem Represents.chunk_mem (represents : database.Represents shelf) {row : BlobRow}
    (member : row ∈ database.blobs) :
    (row.chunkId, row.ciphertext) ∈ shelf.chunks row.mailboxId := by
  rw [← represents.chunks]
  exact List.mem_map.mpr ⟨row, mem_blobsOf.mpr ⟨member, rfl⟩, rfl⟩

theorem Represents.exists_chunk (represents : database.Represents shelf)
    {chunkId mailboxId : String} {ciphertext : Bytes}
    (member : (chunkId, ciphertext) ∈ shelf.chunks mailboxId) :
    ∃ row ∈ database.blobs, row.chunkId = chunkId ∧ row.mailboxId = mailboxId := by
  rw [← represents.chunks] at member
  obtain ⟨row, rowMember, same⟩ := List.mem_map.mp member
  obtain ⟨stored, owner⟩ := mem_blobsOf.mp rowMember
  exact ⟨row, stored, congrArg Prod.fst same, owner⟩

/-- The bytes that are counted are the bytes on the shelf. -/
theorem Represents.bytesOf_eq (represents : database.Represents shelf) {mailboxId : String}
    {box : Box} (found : shelf mailboxId = some box) :
    database.bytesOf mailboxId = volume box.log box.chunks := by
  have messages : (database.messagesOf mailboxId).map MessageRow.size =
      (shelf.held mailboxId).map fun item => item.1.length := by
    rw [← represents.held, List.map_map]
    apply List.map_congr_left
    intro row member
    exact represents.messagesSized row (List.mem_filter.mp member).1
  have blobs : (database.blobsOf mailboxId).map BlobRow.size =
      (shelf.chunks mailboxId).map fun chunk => chunk.2.length := by
    rw [← represents.chunks, List.map_map]
    apply List.map_congr_left
    intro row member
    exact represents.blobsSized row (mem_blobsOf.mp member).1
  rw [bytesOf, messages, blobs, Shelf.held_of_some found, Shelf.chunks_of_some found, volume]

theorem Represents.count_eq (represents : database.Represents shelf) {mailboxId : String}
    {box : Box} (found : shelf mailboxId = some box) :
    (database.messagesOf mailboxId).length = box.log.held.length := by
  rw [← Shelf.held_of_some found, ← represents.held, List.length_map]

/-- The quota of a mailbox is the one of its box. -/
theorem Represents.takes_iff (represents : database.Represents shelf)
    {mailbox : MailboxRow} {box : Box} (found : shelf mailbox.id = some box)
    (describes : Describes mailbox box) (ciphertext : Bytes) :
    box.Takes ciphertext ↔
      (database.messagesOf mailbox.id).length < mailbox.maxMessages ∧
        database.bytesOf mailbox.id + ciphertext.length ≤ mailbox.maxBytes := by
  rw [Box.Takes, Box.HasRoom, represents.count_eq found, represents.bytesOf_eq found,
    describes.maxMessages, describes.maxBytes]

theorem Represents.hasRoom_iff (represents : database.Represents shelf)
    {mailbox : MailboxRow} {box : Box} (found : shelf mailbox.id = some box)
    (describes : Describes mailbox box) (ciphertext : Bytes) :
    box.HasRoom ciphertext ↔
      database.bytesOf mailbox.id + ciphertext.length ≤ mailbox.maxBytes := by
  rw [Box.HasRoom, represents.bytesOf_eq found, describes.maxBytes]

/-- The messages of a mailbox stand in the order of their numbers. -/
theorem Represents.sorted (represents : database.Represents shelf)
    (mailboxId : String) :
    (database.messagesOf mailboxId).Pairwise fun left right => left.seq < right.seq := by
  have sorted : ((database.messagesOf mailboxId).map Shelf.numbered).Pairwise
      fun left right => left.2 < right.2 := by
    rw [represents.held]
    cases found : shelf mailboxId with
    | none =>
        rw [Shelf.held_of_none found]
        exact List.Pairwise.nil
    | some box =>
        rw [Shelf.held_of_some found]
        exact box.log.held_sorted
  rw [List.pairwise_map] at sorted
  exact sorted

theorem map_limited {α β : Type} (change : α → β) (limit : Int) (rows : List α) :
    (limited limit rows).map change = limited limit (rows.map change) := by
  unfold limited
  split
  · rfl
  · exact List.map_take

theorem Represents.held_newer (represents : database.Represents shelf) (mailboxId : String)
    (afterSeq : Int) :
    ((database.messagesOf mailboxId).filter fun row => afterSeq < row.seq).map Shelf.numbered =
      (shelf.held mailboxId).filter fun item => afterSeq < item.2 := by
  rw [← represents.held, List.filter_map]
  rfl

/-- A page shows the log: sorting finds the rows in order already. -/
theorem Represents.page (represents : database.Represents shelf) (mailboxId : String)
    (afterSeq limit : Int) :
    (database.page mailboxId afterSeq limit).map Shelf.numbered =
      limited limit ((shelf.held mailboxId).filter fun item => afterSeq < item.2) := by
  have ordered : ((database.messagesOf mailboxId).filter fun row =>
      afterSeq < row.seq).Pairwise fun left right => decide (left.seq ≤ right.seq) = true := by
    refine List.Pairwise.imp ?_ ((represents.sorted mailboxId).filter _)
    intro left right less
    exact decide_eq_true (Nat.le_of_lt less)
  rw [Database.page, List.mergeSort_of_pairwise ordered, map_limited, represents.held_newer]

theorem answer_getMessages (database : Database) (mailboxId : String)
    {afterSeq limit : Int} (afterFits : Sql.fits afterSeq = true)
    (limitFits : Sql.fits limit = true) :
    database.answer (.getMessages mailboxId afterSeq limit) =
      .ok (.messages (database.page mailboxId afterSeq limit)) := by
  have afterBound := Sql.integer_eq_ok.mpr ⟨afterFits, rfl⟩
  have limitBound := Sql.integer_eq_ok.mpr ⟨limitFits, rfl⟩
  rw [answer, Request.execute, getMessages, afterBound, limitBound]
  rfl

theorem Represents.created (represents : database.Represents shelf) {row : MailboxRow}
    (free : ∀ mailbox ∈ database.mailboxes, mailbox.id ≠ row.id)
    (first : row.nextSeq = 1) (seen : row.lastSeen = row.createdAt) :
    Represents { database with mailboxes := database.mailboxes ++ [row] }
      (shelf.put row.id (some (.new row.maxMessages row.maxBytes row.createdAt))) := by
  have absent := represents.absent free
  refine ⟨?_, ?_, ?_, ?_, represents.messagesSized, represents.blobsSized⟩
  · intro mailbox member
    rcases List.mem_append.mp member with old | new
    · rw [Shelf.put_other (free mailbox old)]
      exact represents.shelved mailbox old
    · rw [List.mem_singleton] at new
      subst new
      exact ⟨_, Shelf.put_self _ _ _, rfl, rfl, seen.symm, first.symm⟩
  · intro mailboxId box found
    by_cases same : mailboxId = row.id
    · exact ⟨row, List.mem_append_right _ List.mem_cons_self, same.symm⟩
    · rw [Shelf.put_other same] at found
      obtain ⟨mailbox, member, owner⟩ := represents.present _ _ found
      exact ⟨mailbox, List.mem_append_left _ member, owner⟩
  · intro mailboxId
    have before := represents.held mailboxId
    by_cases same : mailboxId = row.id
    · subst same
      rw [Shelf.held_of_none absent] at before
      rw [Shelf.held, Shelf.put_self]
      exact before
    · rw [Shelf.held, Shelf.put_other same]
      exact before
  · intro mailboxId
    have before := represents.chunks mailboxId
    by_cases same : mailboxId = row.id
    · subst same
      rw [Shelf.chunks_of_none absent] at before
      rw [Shelf.chunks, Shelf.put_self]
      exact before
    · rw [Shelf.chunks, Shelf.put_other same]
      exact before

/-- One box and its row are changed. -/
theorem Represents.put (represents : database.Represents shelf) {mailboxId : String}
    {box new : Box} (found : shelf mailboxId = some box)
    {change : MailboxRow → MailboxRow} {messages : List MessageRow} {blobs : List BlobRow}
    (named : ∀ row, (change row).id = row.id)
    (here : ∀ row, row.id = mailboxId → Describes row box → Describes (change row) new)
    (elsewhere : ∀ row, row.id ≠ mailboxId → change row = row)
    (held : ∀ other, (messages.filter fun row => row.mailboxId = other).map Shelf.numbered =
      (shelf.put mailboxId (some new)).held other)
    (chunks : ∀ other, (blobs.filter fun row => row.mailboxId = other).map labelled =
      (shelf.put mailboxId (some new)).chunks other)
    (messagesSized : ∀ row ∈ messages, row.size = row.ciphertext.length)
    (blobsSized : ∀ row ∈ blobs, row.size = row.ciphertext.length) :
    Represents
      { database with mailboxes := database.mailboxes.map change, messages, blobs }
      (shelf.put mailboxId (some new)) where
  shelved := by
    intro mailbox member
    obtain ⟨old, oldMember, rfl⟩ := List.mem_map.mp member
    obtain ⟨oldBox, oldFound, describes⟩ := represents.shelved old oldMember
    by_cases same : old.id = mailboxId
    · rw [same, found] at oldFound
      cases oldFound
      refine ⟨new, ?_, here old same describes⟩
      rw [named, same, Shelf.put_self]
    · rw [elsewhere old same, Shelf.put_other same]
      exact ⟨oldBox, oldFound, describes⟩
  present := by
    intro other otherBox isBox
    have somewhere : ∃ row ∈ database.mailboxes, row.id = other := by
      by_cases same : other = mailboxId
      · subst same
        exact represents.present _ _ found
      · rw [Shelf.put_other same] at isBox
        exact represents.present _ _ isBox
    obtain ⟨row, member, owner⟩ := somewhere
    exact ⟨change row, List.mem_map_of_mem member, (named row).trans owner⟩
  held := held
  chunks := chunks
  messagesSized := messagesSized
  blobsSized := blobsSized

/-- The box of a mailbox keeps its content. -/
theorem Represents.held_put (represents : database.Represents shelf) {mailboxId : String}
    {box new : Box} (found : shelf mailboxId = some box) (same : new.log = box.log)
    (other : String) :
    (database.messagesOf other).map Shelf.numbered =
      (shelf.put mailboxId (some new)).held other := by
  rw [represents.held, Shelf.held_put]
  split
  · rename_i here
    rw [here, Shelf.held_of_some found, same]
  · rfl

theorem Represents.chunks_put (represents : database.Represents shelf) {mailboxId : String}
    {box new : Box} (found : shelf mailboxId = some box) (same : new.chunks = box.chunks)
    (other : String) :
    (database.blobsOf other).map labelled =
      (shelf.put mailboxId (some new)).chunks other := by
  rw [represents.chunks, Shelf.chunks_put]
  split
  · rename_i here
    rw [here, Shelf.chunks_of_some found, same]
  · rfl

theorem Represents.touched (represents : database.Represents shelf) (mailboxId : String)
    (now : Int) :
    Represents
      { database with
        mailboxes := database.mailboxes.map fun row =>
          if row.id = mailboxId then { row with lastSeen := now } else row }
      (shelf.change mailboxId fun box => box.touch now) := by
  cases found : shelf mailboxId with
  | none =>
      rw [Shelf.change_of_none found]
      have same : (database.mailboxes.map fun row : MailboxRow =>
          if row.id = mailboxId then { row with lastSeen := now } else row) =
            database.mailboxes := by
        apply List.map_congr_left _ |>.trans (List.map_id _)
        intro row member
        apply if_neg
        intro here
        obtain ⟨box, present, -⟩ := represents.shelved row member
        rw [here, found] at present
        cases present
      rw [same]
      exact represents
  | some box =>
      rw [Shelf.change_of_some found]
      apply represents.put found
      · intro row
        split <;> rfl
      · intro row same describes
        rw [if_pos same]
        exact ⟨describes.maxMessages, describes.maxBytes, rfl, describes.next⟩
      · exact fun row different => if_neg different
      · exact represents.held_put found rfl
      · exact represents.chunks_put found rfl
      · exact represents.messagesSized
      · exact represents.blobsSized

theorem Represents.stored (represents : database.Represents shelf)
    {mailbox : MailboxRow} {box : Box} (found : shelf mailbox.id = some box)
    (describes : Describes mailbox box) {ciphertext : Bytes} (now : Int)
    (takes : box.Takes ciphertext) :
    (database.stored mailbox ciphertext now).Represents
      (shelf.put mailbox.id (some (box.push ciphertext now takes))) := by
  apply represents.put found
  · intro row
    split <;> rfl
  · intro row same rowDescribes
    rw [if_pos same]
    refine ⟨rowDescribes.maxMessages, rowDescribes.maxBytes, rfl, ?_⟩
    show (box.log.push ciphertext).next = mailbox.nextSeq + 1
    rw [← describes.next]
    simp [NumberedLog.next, NumberedLog.push]
  · exact fun row different => if_neg different
  · intro other
    have appended : (database.stored mailbox ciphertext now).messagesOf other =
        database.messagesOf other ++
          if mailbox.id = other then
            [⟨mailbox.id, mailbox.nextSeq, ciphertext, now, ciphertext.length⟩] else [] :=
      messagesOf_append database _ other
    show ((database.stored mailbox ciphertext now).messagesOf other).map _ = _
    rw [appended, List.map_append, represents.held, Shelf.held_put]
    by_cases same : other = mailbox.id
    · subst same
      rw [if_pos rfl, if_pos rfl, Shelf.held_of_some found]
      show box.log.held ++ [(ciphertext, mailbox.nextSeq)] = (box.log.push ciphertext).held
      rw [NumberedLog.held_push, describes.next]
    · rw [if_neg (Ne.symm same), if_neg same]
      exact List.append_nil _
  · exact represents.chunks_put found rfl
  · intro row member
    rcases List.mem_append.mp member with old | new
    · exact represents.messagesSized row old
    · rw [List.mem_singleton] at new
      rw [new]
  · exact represents.blobsSized

theorem messagesOf_acknowledged (database : Database) (mailboxId other : String)
    (uptoSeq : Int) :
    (database.messages.filter fun row =>
        !(decide (row.mailboxId = mailboxId) && decide (row.seq ≤ uptoSeq))).filter
        (fun row => row.mailboxId = other) =
      if other = mailboxId then
        (database.messagesOf mailboxId).filter fun row => uptoSeq < row.seq
      else database.messagesOf other := by
  split
  · rename_i here
    subst here
    rw [messagesOf, List.filter_filter, List.filter_filter]
    apply List.filter_congr
    intro row member
    by_cases owner : row.mailboxId = other
    · by_cases low : (row.seq : Int) ≤ uptoSeq
      · simp [owner, low, Int.not_lt.mpr low]
      · simp [owner, low, Int.not_le.mp low]
    · simp [owner]
  · rename_i different
    rw [messagesOf, List.filter_filter]
    apply List.filter_congr
    intro row member
    by_cases owner : row.mailboxId = other
    · simp [owner, different]
    · simp [owner]

/-- Where there is no mailbox, there is nothing to acknowledge. -/
theorem Represents.acknowledges_nothing (represents : database.Represents shelf)
    {mailboxId : String} (absent : shelf mailboxId = none) (uptoSeq : Int) :
    (database.messages.filter fun row =>
        !(decide (row.mailboxId = mailboxId) && decide (row.seq ≤ uptoSeq))) =
      database.messages := by
  have nobody : database.messagesOf mailboxId = [] :=
    List.map_eq_nil_iff.mp ((represents.held mailboxId).trans (Shelf.held_of_none absent))
  apply List.filter_eq_self.mpr
  intro row member
  have other : row.mailboxId ≠ mailboxId := by
    intro owner
    have listed := mem_messagesOf.mpr ⟨member, owner⟩
    rw [nobody] at listed
    cases listed
  simp [other]

theorem Represents.acknowledged (represents : database.Represents shelf)
    (mailboxId : String) (uptoSeq : Int) :
    Represents
      { database with
        messages := database.messages.filter fun row =>
          !(decide (row.mailboxId = mailboxId) && decide (row.seq ≤ uptoSeq)) }
      (shelf.change mailboxId fun box => box.ack uptoSeq) := by
  cases found : shelf mailboxId with
  | none =>
      rw [Shelf.change_of_none found, represents.acknowledges_nothing found]
      exact represents
  | some box =>
      rw [Shelf.change_of_some found, ← List.map_id database.mailboxes]
      apply represents.put found
      · exact fun _ => rfl
      · intro row _ describes
        exact ⟨describes.maxMessages, describes.maxBytes, describes.lastSeen, describes.next⟩
      · exact fun _ _ => rfl
      · intro other
        rw [Shelf.held_put, messagesOf_acknowledged]
        split
        · rw [represents.held_newer, Shelf.held_of_some found]
          exact (box.log.held_ack uptoSeq).symm
        · exact represents.held other
      · exact represents.chunks_put found rfl
      · intro row member
        exact represents.messagesSized row (List.mem_filter.mp member).1
      · exact represents.blobsSized

theorem Represents.count_acknowledged (represents : database.Represents shelf)
    (mailboxId : String) (uptoSeq : Int) :
    (database.messages.countP fun row =>
        decide (row.mailboxId = mailboxId) && decide (row.seq ≤ uptoSeq)) =
      (shelf.held mailboxId).countP fun item => item.2 ≤ uptoSeq := by
  rw [← represents.held, List.countP_map, messagesOf, List.countP_filter]
  apply List.countP_congr
  intro row _
  by_cases owner : row.mailboxId = mailboxId
  · simp only [owner, decide_true, Bool.true_and, Bool.and_true]
    exact Iff.rfl
  · simp [owner]

theorem Represents.attached (represents : database.Represents shelf) {row : BlobRow}
    {box : Box} (found : shelf row.mailboxId = some box)
    (sized : row.size = row.ciphertext.length) (room : box.HasRoom row.ciphertext) :
    Represents { database with blobs := database.blobs ++ [row] }
      (shelf.put row.mailboxId (some (box.attach row.chunkId row.ciphertext room))) := by
  rw [← List.map_id database.mailboxes]
  apply represents.put found
  · exact fun _ => rfl
  · intro row _ describes
    exact ⟨describes.maxMessages, describes.maxBytes, describes.lastSeen, describes.next⟩
  · exact fun _ _ => rfl
  · exact represents.held_put found rfl
  · intro other
    rw [List.filter_append, List.map_append, Shelf.chunks_put]
    change (database.blobsOf other).map labelled ++ _ = _
    rw [represents.chunks]
    split
    · rename_i here
      subst here
      rw [Shelf.chunks_of_some found]
      simp [labelled, Box.attach]
    · rename_i different
      simp [Ne.symm different]
  · exact represents.messagesSized
  · intro blob member
    rcases List.mem_append.mp member with old | new
    · exact represents.blobsSized blob old
    · rw [List.mem_singleton] at new
      rw [new, sized]

theorem Represents.detached (represents : database.Represents shelf) (chunkId : String) :
    Represents
      { database with
        blobs := database.blobs.filter fun row => !decide (row.chunkId = chunkId) }
      (shelf.detach chunkId) where
  shelved := by
    intro mailbox member
    obtain ⟨box, found, describes⟩ := represents.shelved mailbox member
    refine ⟨box.detach chunkId, ?_, describes.maxMessages, describes.maxBytes,
      describes.lastSeen, describes.next⟩
    rw [Shelf.detach, found]
    rfl
  present := by
    intro mailboxId box found
    obtain ⟨old, before, -⟩ := Option.map_eq_some_iff.mp found
    exact represents.present mailboxId old before
  held := by
    intro mailboxId
    rw [Shelf.held, Shelf.detach, Option.map_map]
    exact represents.held mailboxId
  chunks := by
    intro mailboxId
    have before := represents.chunks mailboxId
    rw [Shelf.chunks, Shelf.detach, Option.map_map]
    rw [Shelf.chunks] at before
    have kept : ((database.blobs.filter fun row => !decide (row.chunkId = chunkId)).filter
          fun row => row.mailboxId = mailboxId).map labelled =
        ((database.blobsOf mailboxId).map labelled).filter fun chunk => chunk.1 ≠ chunkId := by
      rw [List.filter_map, blobsOf, List.filter_filter, List.filter_filter]
      congr 1
      apply List.filter_congr
      intro row _
      by_cases named : row.chunkId = chunkId <;> simp [labelled, named]
    show (List.filter _ (List.filter _ _)).map labelled = _
    rw [kept, before]
    cases shelf mailboxId <;> rfl
  messagesSized := represents.messagesSized
  blobsSized := fun row member => represents.blobsSized row (List.mem_filter.mp member).1

/-- Some mailboxes are removed with everything in them. -/
theorem Represents.removed (represents : database.Represents shelf) (gone : String → Prop)
    [DecidablePred gone] :
    Represents
      { database with
        messages := database.messages.filter fun row => !decide (gone row.mailboxId)
        blobs := database.blobs.filter fun row => !decide (gone row.mailboxId)
        mailboxes := database.mailboxes.filter fun row => !decide (gone row.id) }
      (fun mailboxId => if gone mailboxId then none else shelf mailboxId) where
  shelved := by
    intro mailbox member
    obtain ⟨old, kept⟩ := List.mem_filter.mp member
    have stays : ¬ gone mailbox.id := by simpa using kept
    rw [if_neg stays]
    exact represents.shelved mailbox old
  present := by
    intro mailboxId box found
    split at found
    · cases found
    · rename_i stays
      obtain ⟨mailbox, member, owner⟩ := represents.present _ _ found
      exact ⟨mailbox, List.mem_filter.mpr ⟨member, by simpa [owner] using stays⟩, owner⟩
  held := by
    intro mailboxId
    by_cases removed : gone mailboxId
    · rw [Shelf.held_of_none (if_pos removed), messagesOf, List.filter_filter,
        List.map_eq_nil_iff]
      apply List.filter_eq_nil_iff.mpr
      intro row _
      by_cases owner : row.mailboxId = mailboxId <;> simp [owner, removed]
    · rw [Shelf.held, if_neg removed, ← Shelf.held, ← represents.held, messagesOf,
        messagesOf, List.filter_filter]
      congr 1
      apply List.filter_congr
      intro row _
      by_cases owner : row.mailboxId = mailboxId <;> simp [owner, removed]
  chunks := by
    intro mailboxId
    by_cases removed : gone mailboxId
    · rw [Shelf.chunks_of_none (if_pos removed), blobsOf, List.filter_filter,
        List.map_eq_nil_iff]
      apply List.filter_eq_nil_iff.mpr
      intro row _
      by_cases owner : row.mailboxId = mailboxId <;> simp [owner, removed]
    · rw [Shelf.chunks, if_neg removed, ← Shelf.chunks, ← represents.chunks, blobsOf,
        blobsOf, List.filter_filter]
      congr 1
      apply List.filter_congr
      intro row _
      by_cases owner : row.mailboxId = mailboxId <;> simp [owner, removed]
  messagesSized := fun row member => represents.messagesSized row (List.mem_filter.mp member).1
  blobsSized := fun row member => represents.blobsSized row (List.mem_filter.mp member).1

/-- Chunks that have a mailbox are all there are. -/
theorem Represents.unstrayed (represents : database.Represents shelf)
    {stray : BlobRow → Bool}
    (owned : ∀ row : BlobRow, (∃ mailbox ∈ database.mailboxes,
      mailbox.id = row.mailboxId) → stray row = true) :
    Represents { database with blobs := database.blobs.filter stray } shelf := by
  have all : database.blobs.filter stray = database.blobs := by
    apply List.filter_eq_self.mpr
    intro row member
    apply owned
    have chunk := represents.chunk_mem member
    cases found : shelf row.mailboxId with
    | none =>
        rw [Shelf.chunks_of_none found] at chunk
        cases chunk
    | some box => exact represents.present _ _ found
  rw [all]
  exact represents

/-- Housekeeping removes the boxes that were not used for long. -/
theorem Represents.cleaned (represents : database.Represents shelf) {stale : List String}
    {stray : BlobRow → Bool} {cutoff : Int}
    (idle : ∀ mailboxId, mailboxId ∈ stale ↔ ∃ row ∈ database.mailboxes,
      row.id = mailboxId ∧ row.lastSeen < cutoff)
    (owned : ∀ row : BlobRow, (∃ mailbox ∈ (stale.foldl without database).mailboxes,
      mailbox.id = row.mailboxId) → stray row = true) :
    Represents
      { stale.foldl without database with
        blobs := (stale.foldl without database).blobs.filter stray }
      (shelf.sweep cutoff) := by
  have swept : shelf.sweep cutoff =
      fun mailboxId => if mailboxId ∈ stale then none else shelf mailboxId := by
    funext mailboxId
    rw [Shelf.sweep]
    cases found : shelf mailboxId with
    | none => simp
    | some box =>
        obtain ⟨mailbox, member, owner⟩ := represents.present _ _ found
        have expired : mailboxId ∈ stale ↔ box.lastSeen < cutoff := by
          rw [idle]
          constructor
          · rintro ⟨row, rowMember, rfl, old⟩
            obtain ⟨other, present, describes⟩ := represents.shelved row rowMember
            rw [found] at present
            cases present
            rwa [describes.lastSeen]
          · intro old
            obtain ⟨other, present, describes⟩ := represents.shelved mailbox member
            rw [owner, found] at present
            cases present
            exact ⟨mailbox, member, owner, describes.lastSeen ▸ old⟩
        by_cases old : box.lastSeen < cutoff
        · rw [if_pos (expired.mpr old), Option.filter_some, if_neg (by simpa using old)]
        · rw [if_neg (old ∘ expired.mp), Option.filter_some, if_pos (by simpa using old)]
  rw [swept]
  rw [foldl_without] at owned ⊢
  exact (represents.removed (· ∈ stale)).unstrayed owned

theorem integer_raises {number : Int} {failure : Failure}
    (failed : (Database.bind (Sql.integer number)).run database = (.error failure, after)) :
    Sql.fits number = false ∧ ∃ raised, failure = .raised raised := by
  unfold Sql.integer at failed
  split at failed
  · cases failed
  · rename_i overflow
    cases failed
    exact ⟨Bool.eq_false_iff.mpr overflow, _, rfl⟩

theorem transaction_raises {α : Type} {body : Transaction α} {failure : Failure}
    (failed : (transaction body).run database = (.error failure, after)) :
    ∃ middle, body.run database = (.error failure, middle) := by
  rw [run_transaction] at failed
  split at failed <;> cases failed
  exact ⟨_, ‹_›⟩

/-- What a first operation of a request is refused for. -/
theorem first_raises {α β : Type} {first : Transaction α} {result : α → β}
    {failure : Failure}
    (failed : (first >>= fun value => pure (result value)).run database =
      (.error failure, after)) : first.run database = (.error failure, after) := by
  rcases Prog.bind_raises failed with here | ⟨_, _, _, there⟩
  · exact here
  · cases there

theorem find_none {mailboxId : String}
    (found : database.mailboxes.find? (fun row => row.id = mailboxId) = none) :
    ∀ mailbox ∈ database.mailboxes, mailbox.id ≠ mailboxId := by
  simpa using found

theorem Represents.createMailbox_refused (represents : database.Represents shelf)
    {mailboxId : String} {readTokenHash writeTokenHash : Bytes} {now : Int}
    {maxMessages maxBytes : Nat} {failure : Failure}
    (failed : (createMailbox mailboxId readTokenHash writeTokenHash now maxMessages
      maxBytes).run database = (.error failure, after)) :
    shelf.Refused
      (.createMailbox mailboxId readTokenHash writeTokenHash now maxMessages maxBytes)
      failure := by
  rcases Prog.bind_raises failed with first | ⟨_, _, bound, afterFirst⟩
  · obtain ⟨overflow, raised, rfl⟩ := integer_raises first
    exact .unfit raised (by simp [Request.fits, overflow])
  obtain ⟨_, rfl⟩ := bind_returns bound
  rcases Prog.bind_raises afterFirst with second | ⟨_, _, bound, afterSecond⟩
  · obtain ⟨overflow, raised, rfl⟩ := integer_raises second
    exact .unfit raised (by simp [Request.fits, overflow])
  obtain ⟨_, rfl⟩ := bind_returns bound
  rcases Prog.bind_raises afterSecond with third | ⟨_, _, bound, afterThird⟩
  · obtain ⟨overflow, raised, rfl⟩ := integer_raises third
    exact .unfit raised (by simp [Request.fits, overflow])
  obtain ⟨_, rfl⟩ := bind_returns bound
  rcases Prog.bind_raises afterThird with read | ⟨_, _, got, insertion⟩
  · cases read
  cases got
  split at insertion
  · rename_i taken
    cases insertion
    obtain ⟨mailbox, member, same⟩ := List.any_eq_true.mp taken
    obtain ⟨box, present, -⟩ := represents.shelved mailbox member
    rw [of_decide_eq_true same] at present
    exact .taken present
  · cases insertion

theorem Represents.storeMessage_refused (represents : database.Represents shelf)
    {mailbox : MailboxRow} {box : Box} (found : shelf mailbox.id = some box)
    (describes : Describes mailbox box) {ciphertext : Bytes} {now : Int} {failure : Failure}
    (failed : (storeMessage mailbox ciphertext now).run database = (.error failure, after)) :
    shelf.Refused (.putMessage mailbox.id ciphertext now) failure := by
  rcases Prog.bind_raises failed with first | ⟨_, _, bound, afterFirst⟩
  · obtain ⟨overflow, raised, rfl⟩ := integer_raises first
    exact .unfit raised overflow
  obtain ⟨_, rfl⟩ := bind_returns bound
  rcases Prog.bind_raises afterFirst with insertion | ⟨_, _, inserted, afterInsertion⟩
  · rcases Prog.bind_raises insertion with read | ⟨_, _, got, checked⟩
    · cases read
    cases got
    split at checked
    · rename_i taken
      -- The number that comes next has not been given yet.
      obtain ⟨row, member, same⟩ := List.any_eq_true.mp taken
      obtain ⟨owner, number⟩ := Bool.and_eq_true_iff.mp same
      have listed : Shelf.numbered row ∈ box.log.held := by
        rw [← Shelf.held_of_some found, ← represents.held]
        exact List.mem_map_of_mem (mem_messagesOf.mpr ⟨member, of_decide_eq_true owner⟩)
      have earlier := NumberedLog.below_next listed
      rw [describes.next] at earlier
      exact absurd (of_decide_eq_true number) (Nat.ne_of_lt earlier)
    · cases checked
  · rcases Prog.bind_raises afterInsertion with second | ⟨_, _, _, afterSecond⟩
    · obtain ⟨overflow, raised, rfl⟩ := integer_raises second
      rw [← describes.next] at overflow
      exact .exhausted raised found overflow
    · rcases Prog.bind_raises afterSecond with update | ⟨_, _, _, result⟩
      · cases update
      · cases result

theorem Represents.putMessage_refused (represents : database.Represents shelf)
    {mailboxId : String} {ciphertext : Bytes} {now : Int} {failure : Failure}
    (failed : (putMessage mailboxId ciphertext now).run database = (.error failure, after)) :
    shelf.Refused (.putMessage mailboxId ciphertext now) failure := by
  obtain ⟨middle, body⟩ := transaction_raises failed
  rcases Prog.bind_raises body with selected | ⟨found, _, selected, body⟩
  · cases selected
  obtain ⟨isFound, rfl⟩ := selectMailbox_returns selected
  cases found with
  | none =>
      cases body
      exact .nowhere (represents.absent (find_none isFound.symm))
  | some mailbox =>
      obtain ⟨member, rfl⟩ := find_mailbox isFound.symm
      obtain ⟨box, present, describes⟩ := represents.shelved mailbox member
      rcases Prog.bind_raises body with counted | ⟨_, _, counted, checked⟩
      · cases counted
      cases counted
      dsimp only at checked
      split at checked
      · rename_i beyond
        cases checked
        refine .full present fun takes => ?_
        obtain ⟨fewer, smaller⟩ := (represents.takes_iff present describes ciphertext).mp takes
        rcases beyond with many | large
        · exact absurd many (Nat.not_le.mpr fewer)
        · exact absurd large (Nat.not_lt.mpr smaller)
      · exact represents.storeMessage_refused present describes checked

theorem Represents.putBlob_refused (represents : database.Represents shelf)
    {chunkId mailboxId : String} {ciphertext : Bytes} {now : Int} {failure : Failure}
    (failed : (putBlob chunkId mailboxId ciphertext now).run database =
      (.error failure, after)) :
    shelf.Refused (.putBlob chunkId mailboxId ciphertext now) failure := by
  obtain ⟨middle, body⟩ := transaction_raises failed
  rcases Prog.bind_raises body with selected | ⟨found, _, selected, body⟩
  · cases selected
  obtain ⟨isFound, rfl⟩ := selectMailbox_returns selected
  cases found with
  | none =>
      cases body
      exact .unattached (represents.absent (find_none isFound.symm))
  | some mailbox =>
      obtain ⟨member, rfl⟩ := find_mailbox isFound.symm
      obtain ⟨box, present, describes⟩ := represents.shelved mailbox member
      rcases Prog.bind_raises body with counted | ⟨_, _, counted, checked⟩
      · cases counted
      cases counted
      dsimp only at checked
      split at checked
      · rename_i large
        cases checked
        refine .crowded present fun room => ?_
        exact absurd large (Nat.not_lt.mpr
          ((represents.hasRoom_iff present describes ciphertext).mp room))
      · rcases Prog.bind_raises checked with first | ⟨_, _, bound, insertion⟩
        · obtain ⟨overflow, raised, rfl⟩ := integer_raises first
          exact .unfit raised overflow
        obtain ⟨_, rfl⟩ := bind_returns bound
        rcases Prog.bind_raises insertion with read | ⟨_, _, got, inserted⟩
        · cases read
        cases got
        split at inserted
        · rename_i taken
          cases inserted
          obtain ⟨row, rowMember, same⟩ := List.any_eq_true.mp taken
          have chunk := represents.chunk_mem rowMember
          rw [of_decide_eq_true same] at chunk
          exact .named chunk
        · cases inserted

theorem Represents.getBlob_refused (represents : database.Represents shelf)
    {chunkId : String} {failure : Failure}
    (failed : (getBlob chunkId).run database = (.error failure, after)) :
    shelf.Refused (.getBlob chunkId) failure := by
  rcases Prog.bind_raises failed with read | ⟨_, _, got, looked⟩
  · cases read
  cases got
  split at looked
  · rename_i unheld
    cases looked
    refine .unheld fun mailboxId ciphertext member => ?_
    obtain ⟨row, rowMember, named, -⟩ := represents.exists_chunk member
    exact absurd named (by simpa using List.find?_eq_none.mp unheld row rowMember)
  · cases looked

theorem housekeeping_refused {now mailboxTtl blobTtl : Int} {failure : Failure}
    (failed : (housekeeping now mailboxTtl blobTtl).run database = (.error failure, after)) :
    shelf.Refused (.housekeeping now mailboxTtl blobTtl) failure := by
  obtain ⟨middle, body⟩ := transaction_raises failed
  rcases Prog.bind_raises body with first | ⟨_, _, _, afterFirst⟩
  · obtain ⟨overflow, raised, rfl⟩ := integer_raises first
    exact .unfit raised (by simp [Request.fits, overflow])
  rcases Prog.bind_raises afterFirst with read | ⟨_, _, got, afterGet⟩
  · cases read
  rcases Prog.bind_raises afterGet with loop | ⟨_, _, _, afterLoop⟩
  · obtain ⟨counted, ran⟩ := removeMailboxes_after _ _
    rw [ran] at loop
    cases loop
  rcases Prog.bind_raises afterLoop with second | ⟨_, _, _, afterSecond⟩
  · obtain ⟨overflow, raised, rfl⟩ := integer_raises second
    exact .unfit raised (by simp [Request.fits, overflow])
  · cases afterSecond

/-- A relay refuses a request for a reason that the shelf shows. -/
theorem Represents.refused (represents : database.Represents shelf) {request : Request}
    {failure : Failure} (answered : database.answer request = .error failure) :
    shelf.Refused request failure := by
  have failed : request.execute.run database =
      (.error failure, (request.execute.run database).2) :=
    Prod.ext answered rfl
  cases request with
  | createMailbox mailboxId readTokenHash writeTokenHash now maxMessages maxBytes =>
      exact represents.createMailbox_refused (first_raises failed)
  | touchMailbox mailboxId now =>
      rcases Prog.bind_raises (first_raises failed) with first | ⟨_, _, _, update⟩
      · obtain ⟨overflow, raised, rfl⟩ := integer_raises first
        exact .unfit raised overflow
      · cases update
  | deleteMailbox mailboxId => cases failed
  | putMessage mailboxId ciphertext now =>
      exact represents.putMessage_refused (first_raises failed)
  | getMessages mailboxId afterSeq limit =>
      rcases Prog.bind_raises (first_raises failed) with first | ⟨_, _, _, afterFirst⟩
      · obtain ⟨overflow, raised, rfl⟩ := integer_raises first
        exact .unfit raised (by simp [Request.fits, overflow])
      rcases Prog.bind_raises afterFirst with second | ⟨_, _, _, rest⟩
      · obtain ⟨overflow, raised, rfl⟩ := integer_raises second
        exact .unfit raised (by simp [Request.fits, overflow])
      · cases rest
  | ackMessages mailboxId uptoSeq =>
      obtain ⟨middle, body⟩ := transaction_raises (first_raises failed)
      rcases Prog.bind_raises body with first | ⟨_, _, _, deletion⟩
      · obtain ⟨overflow, raised, rfl⟩ := integer_raises first
        exact .unfit raised overflow
      · cases deletion
  | publishBundle bundleId payload opks now => exact .beside failure rfl
  | fetchBundle bundleId => exact .beside failure rfl
  | putBlob chunkId mailboxId ciphertext now =>
      exact represents.putBlob_refused (first_raises failed)
  | getBlob chunkId => exact represents.getBlob_refused (first_raises failed)
  | deleteBlob chunkId => cases failed
  | housekeeping now mailboxTtl blobTtl => exact housekeeping_refused (first_raises failed)

/-! ## Runs -/

/-- One request of a relay is one step of the shelf. -/
theorem Represents.serve (represents : database.Represents shelf) (request : Request) :
    ∃ next, Shelf.Step shelf (request, database.answer request) next ∧
      (database.serve request).Represents next := by
  have happened := outcome database request
  have refusals := @Represents.refused database shelf represents request
  generalize database.answer request = answer at happened refusals
  generalize database.serve request = after at happened
  cases happened with
  | failed failure => exact ⟨shelf, .refused (refusals rfl), represents⟩
  | created free first seen =>
      exact ⟨_, .created (represents.absent free), represents.created free first seen⟩
  | touched mailboxId now => exact ⟨_, .touched _ _, represents.touched mailboxId now⟩
  | deletedMailbox mailboxId =>
      have messages : (database.messagesOf mailboxId).length =
          (shelf.held mailboxId).length := by rw [← represents.held, List.length_map]
      have blobs : (database.blobsOf mailboxId).length =
          (shelf.chunks mailboxId).length := by rw [← represents.chunks, List.length_map]
      rw [messages, blobs]
      exact ⟨_, .deleted _, represents.removed (· = mailboxId)⟩
  | stored ciphertext now found fewer smaller unused =>
      obtain ⟨box, present, describes⟩ := represents.shelved _ found
      have takes := (represents.takes_iff present describes ciphertext).mpr ⟨fewer, smaller⟩
      rw [← describes.next]
      exact ⟨_, .appended present takes, represents.stored present describes now takes⟩
  | listed mailboxId afterSeq limit =>
      exact ⟨shelf, .listed (represents.page mailboxId afterSeq limit), represents⟩
  | acknowledged mailboxId uptoSeq =>
      rw [represents.count_acknowledged]
      exact ⟨_, .acknowledged _ _, represents.acknowledged mailboxId uptoSeq⟩
  | published => exact ⟨shelf, .beside _ rfl, { represents with }⟩
  | fetchedNone => exact ⟨shelf, .beside _ rfl, represents⟩
  | fetchedOne => exact ⟨shelf, .beside _ rfl, { represents with }⟩
  | uploaded now found owner sized smaller free =>
      rename_i row mailbox
      obtain ⟨box, present, describes⟩ := represents.shelved mailbox found
      have room := (represents.hasRoom_iff present describes row.ciphertext).mpr
        (by rwa [← sized])
      rw [owner] at present
      refine ⟨_, .attached present room fun other held member => ?_,
        represents.attached present sized room⟩
      obtain ⟨blob, blobMember, named, -⟩ := represents.exists_chunk member
      exact free blob blobMember named
  | downloaded row held =>
      exact ⟨shelf, .fetched (represents.chunk_mem held), represents⟩
  | deletedBlob chunkId => exact ⟨_, .detached chunkId, represents.detached chunkId⟩
  | cleaned now mailboxTtl blobTtl stale stray removed idle owned =>
      exact ⟨_, .cleaned removed, represents.cleaned idle owned⟩

theorem Represents.serveAll (represents : database.Represents shelf)
    (requests : List Request) :
    ∃ last, Run Shelf.Step shelf (database.transcript requests) last ∧
      (database.serveAll requests).Represents last := by
  induction requests generalizing database shelf with
  | nil => exact ⟨shelf, .done shelf, represents⟩
  | cons request requests induction =>
      obtain ⟨next, first, served⟩ := represents.serve request
      obtain ⟨last, later, all⟩ := induction served
      exact ⟨last, .step first later, all⟩

/-- Whatever a relay is asked, in any order by any clients, what it answers is
a transcript of the shelf. -/
theorem relay_refines_shelf (requests : List Request) :
    ∃ shelf, Run Shelf.Step Shelf.empty (initial.transcript requests) shelf ∧
      (initial.serveAll requests).Represents shelf :=
  represents_initial.serveAll requests

end Simulation

/-! ## Reading a mailbox page by page -/

section Reading

open NumberedLog

/-- What the reader of a mailbox takes from an exchange: a page it asked for
where it stands. -/
def observe (mailboxId : String) (reader : Reader Bytes) : Exchange → Reader Bytes
  | (.getMessages asked afterSeq _, .ok (.messages rows)) =>
      if asked = mailboxId ∧ afterSeq = reader.cursor then
        reader.take (rows.map Shelf.numbered)
      else reader
  | _ => reader

/-- The ciphertexts a mailbox accepted, oldest first. -/
def accept (mailboxId : String) (bodies : List Bytes) : Exchange → List Bytes
  | (.putMessage target ciphertext _, .ok _) =>
      if target = mailboxId then bodies ++ [ciphertext] else bodies
  | _ => bodies

/-- Nobody acknowledges a message before the reader has seen it. -/
def Considerate (mailboxId : String) : Reader Bytes → List Exchange → Prop
  | _, [] => True
  | reader, exchange :: rest =>
      (∀ uptoSeq, exchange.1 = .ackMessages mailboxId uptoSeq →
        uptoSeq ≤ reader.cursor) ∧
      Considerate mailboxId (observe mailboxId reader exchange) rest

/-- The mailbox is there before, between and after the requests. -/
def Lives (mailboxId : String) : Database → List Request → Prop
  | database, [] => ∃ mailbox ∈ database.mailboxes, mailbox.id = mailboxId
  | database, request :: requests =>
      (∃ mailbox ∈ database.mailboxes, mailbox.id = mailboxId) ∧
      Lives mailboxId (database.serve request) requests

/-- The reader follows the log of its mailbox. -/
def Reads (mailboxId : String) (shelf : Shelf) (reader : Reader Bytes)
    (bodies : List Bytes) : Prop :=
  ∃ box, shelf mailboxId = some box ∧ reader.Follows box.log ∧ box.log.history = bodies

variable {mailboxId : String} {reader : Reader Bytes} {bodies : List Bytes}

theorem lives_first {database : Database} {requests : List Request}
    (lives : Lives mailboxId database requests) :
    ∃ mailbox ∈ database.mailboxes, mailbox.id = mailboxId := by
  cases requests with
  | nil => exact lives
  | cons request requests => exact lives.1

theorem limited_eq_take {α : Type} (limit : Int) (rows : List α) :
    ∃ count, limited limit rows = rows.take count := by
  unfold limited
  split
  · exact ⟨rows.length, List.take_length.symm⟩
  · exact ⟨limit.toNat, rfl⟩

theorem observe_listed (asked : String) (afterSeq limit : Int) (rows : List MessageRow) :
    observe mailboxId reader (.getMessages asked afterSeq limit, .ok (.messages rows)) =
      if asked = mailboxId ∧ afterSeq = reader.cursor then
        reader.take (rows.map Shelf.numbered)
      else reader := rfl

theorem accept_put (target : String) (ciphertext : Bytes) (now : Int)
    (response : Response) :
    accept mailboxId bodies (.putMessage target ciphertext now, .ok response) =
      if target = mailboxId then bodies ++ [ciphertext] else bodies := rfl

theorem Reads.listed {shelf : Shelf} (reads : Reads mailboxId shelf reader bodies)
    {asked : String} {afterSeq limit : Int} {rows : List MessageRow}
    (page : rows.map Shelf.numbered = limited limit
      ((shelf.held asked).filter fun item => afterSeq < item.2)) :
    Reads mailboxId shelf
      (observe mailboxId reader (.getMessages asked afterSeq limit, .ok (.messages rows)))
      bodies := by
  obtain ⟨box, found, follows, history⟩ := reads
  rw [observe_listed]
  split
  · rename_i here
    obtain ⟨rfl, rfl⟩ := here
    obtain ⟨count, taken⟩ := limited_eq_take limit (box.log.newer reader.cursor)
    rw [Shelf.held_of_some found] at page
    rw [page]
    change Reads asked shelf (reader.take (limited limit (box.log.newer reader.cursor)))
      bodies
    rw [taken]
    exact ⟨box, found, (follows.take count).1, history⟩
  · exact ⟨box, found, follows, history⟩

/-- The requests that neither read nor change a log. -/
def besideLogs : Request → Bool
  | .touchMailbox .. | .publishBundle .. | .fetchBundle .. | .putBlob .. | .getBlob ..
  | .deleteBlob .. => true
  | _ => false

theorem observe_beside (answer : Except Failure Response) {request : Request}
    (beside : besideLogs request = true) :
    observe mailboxId reader (request, answer) = reader ∧
      accept mailboxId bodies (request, answer) = bodies := by
  cases request <;> first | exact ⟨rfl, rfl⟩ | cases beside

theorem observe_error (request : Request) (failure : Failure) :
    observe mailboxId reader (request, .error failure) = reader ∧
      accept mailboxId bodies (request, .error failure) = bodies := by
  cases request <;> exact ⟨rfl, rfl⟩

theorem Reads.elsewhere {shelf : Shelf} (reads : Reads mailboxId shelf reader bodies)
    {target : String} (other : mailboxId ≠ target) (changed : Option Box) :
    Reads mailboxId (shelf.put target changed) reader bodies := by
  obtain ⟨box, found, follows⟩ := reads
  exact ⟨box, (Shelf.put_other other changed).trans found, follows⟩

/-- A change of a box under which the reader goes on following its log. -/
theorem Reads.change {shelf : Shelf} (reads : Reads mailboxId shelf reader bodies)
    {target : String} {edit : Box → Box}
    (keeps : mailboxId = target → ∀ box : Box, reader.Follows box.log →
      reader.Follows (edit box).log ∧ (edit box).log.history = box.log.history) :
    Reads mailboxId (shelf.change target edit) reader bodies := by
  by_cases here : mailboxId = target
  · obtain ⟨box, found, follows, history⟩ := reads
    obtain ⟨still, same⟩ := keeps here box follows
    subst here
    rw [Shelf.change_of_some found]
    exact ⟨edit box, Shelf.put_self _ _ _, still, same.trans history⟩
  · exact reads.elsewhere here _

theorem Reads.beside {shelf : Shelf} (reads : Reads mailboxId shelf reader bodies)
    (answer : Except Failure Response) {request : Request}
    (beside : besideLogs request = true) :
    Reads mailboxId shelf (observe mailboxId reader (request, answer))
      (accept mailboxId bodies (request, answer)) := by
  obtain ⟨same, kept⟩ := @observe_beside mailboxId reader bodies answer request beside
  rw [same, kept]
  exact reads

/-- One step of the shelf keeps a reader on its log. -/
theorem Reads.step {shelf next : Shelf} {exchange : Exchange}
    (reads : Reads mailboxId shelf reader bodies) (step : Shelf.Step shelf exchange next)
    (lives : next mailboxId ≠ none)
    (considerate : ∀ uptoSeq, exchange.1 = .ackMessages mailboxId uptoSeq →
      uptoSeq ≤ reader.cursor) :
    Reads mailboxId next (observe mailboxId reader exchange)
      (accept mailboxId bodies exchange) := by
  obtain ⟨box, found, follows, history⟩ := reads
  have unchanged : Reads mailboxId shelf reader bodies := ⟨box, found, follows, history⟩
  cases step with
  | refused refused =>
      rename_i request failure
      obtain ⟨same, kept⟩ := @observe_error mailboxId reader bodies request failure
      rw [same, kept]
      exact unchanged
  | beside response other =>
      rename_i request
      have noLog : besideLogs request = true := by
        cases request <;> first | rfl | cases other
      exact unchanged.beside _ noLog
  | created free =>
      rename_i created _ _ _ _ _
      have other : mailboxId ≠ created := by
        rintro rfl
        rw [free] at found
        cases found
      exact unchanged.elsewhere other _
  | touched touched now =>
      refine Reads.beside ?_ _ rfl
      exact unchanged.change fun _ _ follows => ⟨follows, rfl⟩
  | deleted deleted =>
      have other : mailboxId ≠ deleted := by
        rintro rfl
        exact lives (Shelf.put_self _ _ _)
      exact unchanged.elsewhere other _
  | appended present takes =>
      rename_i target ciphertext now other
      rw [accept_put]
      split
      · rename_i here
        subst here
        rw [found] at present
        cases present
        refine ⟨box.push ciphertext now takes, Shelf.put_self _ _ _, follows.push ciphertext,
          ?_⟩
        rw [← history]
        rfl
      · rename_i here
        exact unchanged.elsewhere (Ne.symm here) _
  | listed page => exact unchanged.listed page
  | acknowledged target uptoSeq =>
      apply unchanged.change
      intro here box follows
      subst here
      exact ⟨follows.ack (considerate uptoSeq rfl), rfl⟩
  | attached present room unheld =>
      rename_i chunkId target ciphertext now other
      refine Reads.beside ?_ _ rfl
      by_cases here : mailboxId = target
      · subst here
        rw [found] at present
        cases present
        exact ⟨box.attach chunkId ciphertext room, Shelf.put_self _ _ _, follows, history⟩
      · exact unchanged.elsewhere here _
  | fetched held => exact unchanged.beside _ rfl
  | detached chunkId =>
      refine Reads.beside ?_ _ rfl
      refine ⟨box.detach chunkId, ?_, follows, history⟩
      rw [Shelf.detach, found]
      rfl
  | cleaned removed =>
      rcases Option.ne_none_iff_exists'.mp lives with ⟨left, swept⟩
      have kept := (Option.filter_eq_some_iff.mp swept).1
      rw [found] at kept
      cases kept
      exact ⟨box, swept, follows, history⟩

theorem Reads.serveAll {database : Database} {shelf : Shelf}
    (represents : database.Represents shelf)
    (reads : Reads mailboxId shelf reader bodies) (requests : List Request)
    (lives : Lives mailboxId database requests)
    (considerate : Considerate mailboxId reader (database.transcript requests)) :
    ∃ last, (database.serveAll requests).Represents last ∧
      Reads mailboxId last
        ((database.transcript requests).foldl (observe mailboxId) reader)
        ((database.transcript requests).foldl (accept mailboxId) bodies) := by
  induction requests generalizing database shelf reader bodies with
  | nil => exact ⟨shelf, represents, reads⟩
  | cons request requests induction =>
      obtain ⟨next, step, served⟩ := represents.serve request
      obtain ⟨first, later⟩ := considerate
      have alive : next mailboxId ≠ none := by
        obtain ⟨mailbox, member, same⟩ := lives_first lives.2
        obtain ⟨box, found, -⟩ := served.shelved mailbox member
        rw [← same, found]
        exact Option.some_ne_none box
      exact induction served (reads.step step alive first) lives.2 later

/-- The page a reader gets where it stands continues what it has collected. -/
theorem Reads.next_page {database : Database} {shelf : Shelf}
    (represents : database.Represents shelf)
    (reads : Reads mailboxId shelf reader bodies) (limit : Nat) :
    (database.page mailboxId reader.cursor limit).map MessageRow.ciphertext =
      (bodies.drop reader.cursor).take limit := by
  obtain ⟨box, found, follows, rfl⟩ := reads
  have earlier := follows.acknowledged
  have bound : max box.log.acknowledged (reader.cursor : Int).toNat = reader.cursor := by
    omega
  have page := represents.page mailboxId reader.cursor limit
  rw [Shelf.held_of_some found] at page
  change _ = limited limit (box.log.newer reader.cursor) at page
  have count : ¬ (limit : Int) < 0 := Int.not_lt.mpr (Int.natCast_nonneg limit)
  rw [limited, if_neg count, NumberedLog.newer_eq, bound, NumberedLog.take_zipIdx] at page
  have bodies := congrArg (List.map Prod.fst) page
  rw [List.map_map, List.zipIdx_map_fst] at bodies
  exact bodies

/-- A reader that asks for one page after another, each from where the last
one ended, collects what its mailbox accepted: every ciphertext once, in
order and without a gap, however its requests mix with those of others, as
long as the mailbox lives and nobody acknowledges ahead of the reader.  The
next page continues there. -/
theorem reader_collects_accepted (before requests : List Request) (mailboxId : String)
    (fresh : ∃ mailbox ∈ (initial.serveAll before).mailboxes,
      mailbox.id = mailboxId ∧ mailbox.nextSeq = 1)
    (lives : Lives mailboxId (initial.serveAll before) requests)
    (considerate : Considerate mailboxId NumberedLog.Reader.start
      ((initial.serveAll before).transcript requests)) :
    let exchanges := (initial.serveAll before).transcript requests
    let reader := exchanges.foldl (observe mailboxId) NumberedLog.Reader.start
    let bodies := exchanges.foldl (accept mailboxId) []
    reader.cursor ≤ bodies.length ∧ reader.collected = bodies.take reader.cursor ∧
      ∀ limit : Nat, Sql.fits limit = true → Sql.fits reader.cursor = true →
        ∃ rows, (initial.serveAll (before ++ requests)).answer
            (.getMessages mailboxId reader.cursor limit) = .ok (.messages rows) ∧
          rows.map MessageRow.ciphertext = (bodies.drop reader.cursor).take limit := by
  obtain ⟨shelf, -, represents⟩ := relay_refines_shelf before
  have start : Reads mailboxId shelf NumberedLog.Reader.start [] := by
    obtain ⟨mailbox, member, rfl, first⟩ := fresh
    obtain ⟨box, found, describes⟩ := represents.shelved mailbox member
    have none : box.log.history.length = 0 := by
      have next := describes.next
      rw [first] at next
      exact Nat.succ.inj next
    refine ⟨box, found, ⟨?_, Nat.zero_le _, rfl⟩, List.length_eq_zero_iff.mp none⟩
    exact box.log.within.trans (Nat.le_of_eq none)
  obtain ⟨last, served, box, found, follows, history⟩ :=
    start.serveAll represents requests lives considerate
  obtain ⟨inside, collected⟩ : _ ∧ _ := ⟨follows.cursor, follows.collected⟩
  rw [history] at inside collected
  refine ⟨inside, collected, ?_⟩
  intro limit limitFits cursorFits
  rw [serveAll_append]
  exact ⟨_, answer_getMessages _ _ cursorFits limitFits,
    Reads.next_page served ⟨box, found, follows, history⟩ limit⟩

theorem reader_collects_accepted_two :
    ∃ reader : Reader Bytes, ∃ rows,
      reader.cursor ≤ 2 ∧ reader.collected = [[1], [2]].take reader.cursor ∧
      (initial.serveAll [.createMailbox "m" [] [] 0 10 1000, .putMessage "m" [1] 0,
          .getMessages "m" 0 1, .ackMessages "m" 0, .putMessage "m" [2] 0]).answer
        (.getMessages "m" reader.cursor 1) = .ok (.messages rows) := by
  have lives : Lives "m" (initial.serveAll [.createMailbox "m" [] [] 0 10 1000])
      [.putMessage "m" [1] 0, .getMessages "m" 0 1, .ackMessages "m" 0,
        .putMessage "m" [2] 0] := by
    refine ⟨⟨⟨"m", [], [], 0, 0, 10, 1000, 1⟩, List.mem_cons_self, rfl⟩,
      ⟨⟨"m", [], [], 0, 0, 10, 1000, 2⟩, List.mem_cons_self, rfl⟩,
      ⟨⟨"m", [], [], 0, 0, 10, 1000, 2⟩, List.mem_cons_self, rfl⟩,
      ⟨⟨"m", [], [], 0, 0, 10, 1000, 2⟩, List.mem_cons_self, rfl⟩,
      ⟨⟨"m", [], [], 0, 0, 10, 1000, 3⟩, List.mem_cons_self, rfl⟩⟩
  have considerate : Considerate "m" NumberedLog.Reader.start
      ((initial.serveAll [.createMailbox "m" [] [] 0 10 1000]).transcript
        [.putMessage "m" [1] 0, .getMessages "m" 0 1, .ackMessages "m" 0,
          .putMessage "m" [2] 0]) := by
    simp only [transcript, Considerate, and_true]
    refine ⟨?_, ?_, ?_, ?_⟩ <;> intro uptoSeq same <;> cases same
    exact Int.natCast_nonneg _
  obtain ⟨inside, collected, page⟩ :=
    reader_collects_accepted _ _ "m"
      ⟨⟨"m", [], [], 0, 0, 10, 1000, 1⟩, List.mem_cons_self, rfl, rfl⟩ lives considerate
  have small : ∀ cursor : Nat, cursor ≤ 2 → Sql.fits cursor = true := by decide
  obtain ⟨rows, answered, -⟩ := page 1 rfl (small _ inside)
  exact ⟨_, rows, inside, collected, answered⟩

end Reading

end Database

end NoKnowledge.Server

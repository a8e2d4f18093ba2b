import Mathlib.Algebra.Order.BigOperators.Group.List
import NoKnowledge.Server.Outcomes

/-!
# The invariant of the relay's store

Messages and attachment chunks share a mailbox's byte quota and go away with
the mailbox.  Every request keeps all parts of `Sound` at once; a request that
only removes rows keeps it because `Sound` is inherited by smaller tables.
-/

namespace NoKnowledge.Server.Database

/-- What holds of the tables of a relay between two requests. -/
structure Sound (database : Database) : Prop where
  mailboxesDistinct : (database.mailboxes.map MailboxRow.id).Nodup
  messagesOwned : ∀ row ∈ database.messages,
    ∃ mailbox ∈ database.mailboxes, mailbox.id = row.mailboxId
  blobsOwned : ∀ row ∈ database.blobs,
    ∃ mailbox ∈ database.mailboxes, mailbox.id = row.mailboxId
  seqDistinct : ∀ mailboxId,
    ((database.messagesOf mailboxId).map MessageRow.seq).Nodup
  seqPositive : ∀ row ∈ database.messages, 1 ≤ row.seq
  seqBelow : ∀ mailbox ∈ database.mailboxes, ∀ row ∈ database.messages,
    row.mailboxId = mailbox.id → row.seq < mailbox.nextSeq
  nextPositive : ∀ mailbox ∈ database.mailboxes, 1 ≤ mailbox.nextSeq
  countBounded : ∀ mailbox ∈ database.mailboxes,
    (database.messagesOf mailbox.id).length ≤ mailbox.maxMessages
  bytesBounded : ∀ mailbox ∈ database.mailboxes,
    database.bytesOf mailbox.id ≤ mailbox.maxBytes

theorem sound_initial : initial.Sound := by
  constructor <;> simp [initial, messagesOf, bytesOf, blobsOf]

/-- Fewer rows, none of them without its mailbox. -/
structure Restricts (smaller database : Database) : Prop where
  mailboxes : smaller.mailboxes.Sublist database.mailboxes
  messages : smaller.messages.Sublist database.messages
  blobs : smaller.blobs.Sublist database.blobs
  messagesOwned : ∀ row ∈ smaller.messages,
    ∀ mailbox ∈ database.mailboxes, mailbox.id = row.mailboxId →
      mailbox ∈ smaller.mailboxes
  blobsOwned : ∀ row ∈ smaller.blobs,
    ∀ mailbox ∈ database.mailboxes, mailbox.id = row.mailboxId →
      mailbox ∈ smaller.mailboxes

theorem bytesOf_le {smaller database : Database}
    (messages : smaller.messages.Sublist database.messages)
    (blobs : smaller.blobs.Sublist database.blobs) (mailboxId : String) :
    smaller.bytesOf mailboxId ≤ database.bytesOf mailboxId := by
  apply Nat.add_le_add
  · exact ((messages.filter _).map _).sum_le_sum fun size _ => Nat.zero_le size
  · exact ((blobs.filter _).map _).sum_le_sum fun size _ => Nat.zero_le size

theorem Sound.restrict {smaller database : Database} (sound : database.Sound)
    (restricts : Restricts smaller database) : smaller.Sound where
  mailboxesDistinct :=
    (restricts.mailboxes.map MailboxRow.id).nodup sound.mailboxesDistinct
  messagesOwned := by
    intro row member
    obtain ⟨mailbox, mailboxMember, owner⟩ :=
      sound.messagesOwned row (restricts.messages.subset member)
    exact ⟨mailbox,
      restricts.messagesOwned row member mailbox mailboxMember owner, owner⟩
  blobsOwned := by
    intro row member
    obtain ⟨mailbox, mailboxMember, owner⟩ :=
      sound.blobsOwned row (restricts.blobs.subset member)
    exact ⟨mailbox,
      restricts.blobsOwned row member mailbox mailboxMember owner, owner⟩
  seqDistinct := fun mailboxId =>
    ((restricts.messages.filter _).map _).nodup (sound.seqDistinct mailboxId)
  seqPositive := fun row member =>
    sound.seqPositive row (restricts.messages.subset member)
  seqBelow := fun mailbox mailboxMember row member =>
    sound.seqBelow mailbox (restricts.mailboxes.subset mailboxMember) row
      (restricts.messages.subset member)
  nextPositive := fun mailbox member =>
    sound.nextPositive mailbox (restricts.mailboxes.subset member)
  countBounded := fun mailbox member =>
    (restricts.messages.filter _).length_le.trans
      (sound.countBounded mailbox (restricts.mailboxes.subset member))
  bytesBounded := fun mailbox member =>
    (bytesOf_le restricts.messages restricts.blobs mailbox.id).trans
      (sound.bytesBounded mailbox (restricts.mailboxes.subset member))

theorem restricts_without (database : Database) (mailboxId : String) :
    Restricts (database.without mailboxId) database where
  mailboxes := List.filter_sublist
  messages := List.filter_sublist
  blobs := List.filter_sublist
  messagesOwned := by
    intro row member mailbox mailboxMember owner
    have kept := (List.mem_filter.mp member).2
    refine List.mem_filter.mpr ⟨mailboxMember, ?_⟩
    simpa [owner] using kept
  blobsOwned := by
    intro row member mailbox mailboxMember owner
    have kept := (List.mem_filter.mp member).2
    refine List.mem_filter.mpr ⟨mailboxMember, ?_⟩
    simpa [owner] using kept

theorem sound_withoutAll {database : Database} (sound : database.Sound)
    (mailboxIds : List String) : (mailboxIds.foldl without database).Sound := by
  induction mailboxIds generalizing database with
  | nil => exact sound
  | cons mailboxId mailboxIds induction =>
      exact induction (sound.restrict (restricts_without database mailboxId))

theorem restricts_messages (database : Database) (kept : MessageRow → Bool) :
    Restricts { database with messages := database.messages.filter kept }
      database where
  mailboxes := List.Sublist.refl _
  messages := List.filter_sublist
  blobs := List.Sublist.refl _
  messagesOwned := fun _ _ _ mailboxMember _ => mailboxMember
  blobsOwned := fun _ _ _ mailboxMember _ => mailboxMember

theorem restricts_blobs (database : Database) (kept : BlobRow → Bool) :
    Restricts { database with blobs := database.blobs.filter kept } database where
  mailboxes := List.Sublist.refl _
  messages := List.Sublist.refl _
  blobs := List.filter_sublist
  messagesOwned := fun _ _ _ mailboxMember _ => mailboxMember
  blobsOwned := fun _ _ _ mailboxMember _ => mailboxMember

/-- A new mailbox is empty: every stored row belongs to another one. -/
theorem Sound.created {database : Database} (sound : database.Sound)
    {row : MailboxRow} (free : ∀ mailbox ∈ database.mailboxes, mailbox.id ≠ row.id)
    (first : row.nextSeq = 1) :
    Sound { database with mailboxes := database.mailboxes ++ [row] } := by
  have noMessages : database.messagesOf row.id = [] := by
    apply List.filter_eq_nil_iff.mpr
    intro message member owner
    obtain ⟨mailbox, mailboxMember, same⟩ := sound.messagesOwned message member
    exact free mailbox mailboxMember (same.trans (by simpa using owner))
  have noBlobs : database.blobsOf row.id = [] := by
    apply List.filter_eq_nil_iff.mpr
    intro blob member owner
    obtain ⟨mailbox, mailboxMember, same⟩ := sound.blobsOwned blob member
    exact free mailbox mailboxMember (same.trans (by simpa using owner))
  constructor
  · rw [List.map_append, List.nodup_append]
    refine ⟨sound.mailboxesDistinct, by simp, ?_⟩
    intro mailboxId member other otherMember same
    obtain ⟨mailbox, mailboxMember, rfl⟩ := List.mem_map.mp member
    rw [List.map_singleton, List.mem_singleton] at otherMember
    exact free mailbox mailboxMember (same.trans otherMember)
  · intro message member
    obtain ⟨mailbox, mailboxMember, owner⟩ := sound.messagesOwned message member
    exact ⟨mailbox, List.mem_append_left _ mailboxMember, owner⟩
  · intro blob member
    obtain ⟨mailbox, mailboxMember, owner⟩ := sound.blobsOwned blob member
    exact ⟨mailbox, List.mem_append_left _ mailboxMember, owner⟩
  · exact sound.seqDistinct
  · exact sound.seqPositive
  · intro mailbox member message messageMember owner
    rcases List.mem_append.mp member with old | new
    · exact sound.seqBelow mailbox old message messageMember owner
    · rw [List.mem_singleton] at new
      subst new
      have listed : message ∈ database.messagesOf mailbox.id :=
        List.mem_filter.mpr ⟨messageMember, by simpa using owner⟩
      rw [noMessages] at listed
      cases listed
  · intro mailbox member
    rcases List.mem_append.mp member with old | new
    · exact sound.nextPositive mailbox old
    · rw [List.mem_singleton] at new
      rw [new, first]
  · intro mailbox member
    rcases List.mem_append.mp member with old | new
    · exact sound.countBounded mailbox old
    · rw [List.mem_singleton] at new
      subst new
      change (database.messagesOf mailbox.id).length ≤ _
      simp [noMessages]
  · intro mailbox member
    rcases List.mem_append.mp member with old | new
    · exact sound.bytesBounded mailbox old
    · rw [List.mem_singleton] at new
      subst new
      change database.bytesOf mailbox.id ≤ _
      simp [bytesOf, noMessages, noBlobs]

/-- Only the limits and the counter of a mailbox matter. -/
theorem Sound.mapMailboxes {database : Database} (sound : database.Sound)
    {change : MailboxRow → MailboxRow}
    (same : ∀ row ∈ database.mailboxes, (change row).id = row.id ∧
      (change row).maxMessages = row.maxMessages ∧
      (change row).maxBytes = row.maxBytes ∧ row.nextSeq ≤ (change row).nextSeq) :
    Sound { database with mailboxes := database.mailboxes.map change } := by
  constructor
  · have ids : (database.mailboxes.map change).map MailboxRow.id =
        database.mailboxes.map MailboxRow.id := by
      rw [List.map_map]
      exact List.map_congr_left fun row member => (same row member).1
    rw [ids]
    exact sound.mailboxesDistinct
  · intro message member
    obtain ⟨mailbox, mailboxMember, owner⟩ := sound.messagesOwned message member
    exact ⟨change mailbox, List.mem_map_of_mem mailboxMember,
      (same mailbox mailboxMember).1.trans owner⟩
  · intro blob member
    obtain ⟨mailbox, mailboxMember, owner⟩ := sound.blobsOwned blob member
    exact ⟨change mailbox, List.mem_map_of_mem mailboxMember,
      (same mailbox mailboxMember).1.trans owner⟩
  · exact sound.seqDistinct
  · exact sound.seqPositive
  · intro mailbox member message messageMember owner
    obtain ⟨old, oldMember, rfl⟩ := List.mem_map.mp member
    obtain ⟨sameId, -, -, later⟩ := same old oldMember
    exact (sound.seqBelow old oldMember message messageMember
      (owner.trans sameId)).trans_le later
  · intro mailbox member
    obtain ⟨old, oldMember, rfl⟩ := List.mem_map.mp member
    exact (sound.nextPositive old oldMember).trans (same old oldMember).2.2.2
  · intro mailbox member
    obtain ⟨old, oldMember, rfl⟩ := List.mem_map.mp member
    obtain ⟨sameId, sameCount, -, -⟩ := same old oldMember
    rw [sameId, sameCount]
    exact sound.countBounded old oldMember
  · intro mailbox member
    obtain ⟨old, oldMember, rfl⟩ := List.mem_map.mp member
    obtain ⟨sameId, -, sameBytes, -⟩ := same old oldMember
    rw [sameId, sameBytes]
    exact sound.bytesBounded old oldMember

theorem Sound.mailbox_unique {database : Database} (sound : database.Sound)
    {left right : MailboxRow} (leftMember : left ∈ database.mailboxes)
    (rightMember : right ∈ database.mailboxes) (same : left.id = right.id) :
    left = right :=
  List.inj_on_of_nodup_map sound.mailboxesDistinct leftMember rightMember same

theorem messagesOf_append (database : Database) (row : MessageRow)
    (mailboxId : String) :
    messagesOf { database with messages := database.messages ++ [row] } mailboxId =
      database.messagesOf mailboxId ++
        if row.mailboxId = mailboxId then [row] else [] := by
  simp only [messagesOf, List.filter_append, List.filter_cons, List.filter_nil,
    decide_eq_true_eq]

theorem blobsOf_append (database : Database) (row : BlobRow) (mailboxId : String) :
    blobsOf { database with blobs := database.blobs ++ [row] } mailboxId =
      database.blobsOf mailboxId ++
        if row.mailboxId = mailboxId then [row] else [] := by
  simp only [blobsOf, List.filter_append, List.filter_cons, List.filter_nil,
    decide_eq_true_eq]

/-- A message with a new number, within both quotas. -/
theorem Sound.inserted {database : Database} (sound : database.Sound)
    {mailbox : MailboxRow} (found : mailbox ∈ database.mailboxes)
    {row : MessageRow} (owner : row.mailboxId = mailbox.id)
    (positive : 1 ≤ row.seq) (below : row.seq < mailbox.nextSeq)
    (unused : ∀ message ∈ database.messages, message.mailboxId = mailbox.id →
      message.seq ≠ row.seq)
    (fewer : (database.messagesOf mailbox.id).length < mailbox.maxMessages)
    (smaller : database.bytesOf mailbox.id + row.size ≤ mailbox.maxBytes) :
    Sound { database with messages := database.messages ++ [row] } := by
  have only : ∀ other ∈ database.mailboxes, row.mailboxId = other.id →
      other = mailbox := fun other member same =>
    sound.mailbox_unique member found (same.symm.trans owner)
  constructor
  · exact sound.mailboxesDistinct
  · intro message member
    rcases List.mem_append.mp member with old | new
    · exact sound.messagesOwned message old
    · rw [List.mem_singleton] at new
      exact ⟨mailbox, found, new ▸ owner.symm⟩
  · exact sound.blobsOwned
  · intro mailboxId
    rw [messagesOf_append]
    split
    · rename_i same
      rw [List.map_append, List.nodup_append]
      refine ⟨sound.seqDistinct mailboxId, by simp, ?_⟩
      intro seq member other otherMember equal
      obtain ⟨message, messageMember, rfl⟩ := List.mem_map.mp member
      rw [List.map_singleton, List.mem_singleton] at otherMember
      obtain ⟨stored, its⟩ := List.mem_filter.mp messageMember
      apply unused message stored
      · rw [← owner, same]
        simpa using its
      · exact equal.trans otherMember
    · simpa using sound.seqDistinct mailboxId
  · intro message member
    rcases List.mem_append.mp member with old | new
    · exact sound.seqPositive message old
    · rw [List.mem_singleton] at new
      exact new ▸ positive
  · intro other otherMember message member its
    rcases List.mem_append.mp member with old | new
    · exact sound.seqBelow other otherMember message old its
    · rw [List.mem_singleton] at new
      subst new
      rw [only other otherMember its]
      exact below
  · exact sound.nextPositive
  · intro other otherMember
    rw [messagesOf_append]
    split
    · rename_i same
      rw [only other otherMember same, List.length_append]
      exact fewer
    · rw [List.append_nil]
      exact sound.countBounded other otherMember
  · intro other otherMember
    rw [bytesOf, messagesOf_append]
    split
    · rename_i same
      rw [only other otherMember same, List.map_append, List.sum_append]
      change _ + row.size + _ ≤ _
      rw [Nat.add_right_comm]
      exact smaller
    · rw [List.append_nil]
      exact sound.bytesBounded other otherMember

theorem Sound.stored {database : Database} (sound : database.Sound)
    {mailbox : MailboxRow} (ciphertext : Bytes) (now : Int)
    (found : mailbox ∈ database.mailboxes)
    (fewer : (database.messagesOf mailbox.id).length < mailbox.maxMessages)
    (smaller : database.bytesOf mailbox.id + ciphertext.length ≤ mailbox.maxBytes)
    (unused : ∀ row ∈ database.messages, row.mailboxId = mailbox.id →
      row.seq ≠ mailbox.nextSeq) :
    (database.stored mailbox ciphertext now).Sound := by
  have bumped : Sound { database with
      mailboxes := database.mailboxes.map fun row => if row.id = mailbox.id then
        { row with lastSeen := now, nextSeq := mailbox.nextSeq + 1 } else row } := by
    apply sound.mapMailboxes
    intro row member
    split
    · rename_i same
      rw [sound.mailbox_unique member found same]
      exact ⟨rfl, rfl, rfl, Nat.le_succ _⟩
    · exact ⟨rfl, rfl, rfl, le_refl _⟩
  have listed : { mailbox with lastSeen := now, nextSeq := mailbox.nextSeq + 1 } ∈
      database.mailboxes.map fun row => if row.id = mailbox.id then
        { row with lastSeen := now, nextSeq := mailbox.nextSeq + 1 } else row :=
    List.mem_map.mpr ⟨mailbox, found, if_pos rfl⟩
  exact bumped.inserted listed rfl (sound.nextPositive mailbox found)
    (Nat.lt_succ_self _) unused fewer smaller

theorem Sound.uploaded {database : Database} (sound : database.Sound)
    {mailbox : MailboxRow} (found : mailbox ∈ database.mailboxes)
    {row : BlobRow} (owner : mailbox.id = row.mailboxId)
    (smaller : database.bytesOf mailbox.id + row.size ≤ mailbox.maxBytes) :
    Sound { database with blobs := database.blobs ++ [row] } := by
  constructor
  · exact sound.mailboxesDistinct
  · exact sound.messagesOwned
  · intro blob member
    rcases List.mem_append.mp member with old | new
    · exact sound.blobsOwned blob old
    · rw [List.mem_singleton] at new
      exact ⟨mailbox, found, new ▸ owner⟩
  · exact sound.seqDistinct
  · exact sound.seqPositive
  · exact sound.seqBelow
  · exact sound.nextPositive
  · exact sound.countBounded
  · intro other otherMember
    rw [bytesOf, blobsOf_append]
    split
    · rename_i same
      rw [sound.mailbox_unique otherMember found (same.symm.trans owner.symm),
        List.map_append, List.sum_append, ← Nat.add_assoc]
      exact smaller
    · rw [List.append_nil]
      exact sound.bytesBounded other otherMember

theorem Sound.serve {database : Database} (sound : database.Sound)
    (request : Request) : (database.serve request).Sound := by
  have happened := outcome database request
  generalize database.answer request = answer at happened
  generalize database.serve request = after at happened
  cases happened with
  | failed => exact sound
  | created free first => exact sound.created free first
  | touched mailboxId now =>
      apply sound.mapMailboxes
      intro row _
      split <;> exact ⟨rfl, rfl, rfl, le_refl _⟩
  | deletedMailbox mailboxId =>
      exact sound.restrict (restricts_without database mailboxId)
  | stored ciphertext now found fewer smaller unused =>
      exact sound.stored ciphertext now found fewer smaller unused
  | listed => exact sound
  | acknowledged => exact sound.restrict (restricts_messages database _)
  | published => exact { sound with }
  | fetchedNone => exact sound
  | fetchedOne => exact { sound with }
  | uploaded now found owner sized smaller free =>
      exact sound.uploaded found owner smaller
  | downloaded => exact sound
  | deletedBlob => exact sound.restrict (restricts_blobs database _)
  | cleaned now mailboxTtl blobTtl stale stray =>
      exact (sound_withoutAll sound stale).restrict (restricts_blobs _ stray)

theorem sound_of_reachable {database : Database} (reachable : database.Reachable) :
    database.Sound :=
  reachable.induct sound_initial fun _ request sound => sound.serve request

theorem serve_of_error {database : Database} {request : Request} {failure : Failure}
    (failed : database.answer request = .error failure) :
    database.serve request = database := by
  have happened := outcome database request
  rw [failed] at happened
  generalize database.serve request = after at happened
  cases happened
  rfl

/-- Whatever requests a relay has served, its store is sound, and a request it
refuses leaves every table as it was. -/
theorem served_requests_sound (requests : List Request) :
    (initial.serveAll requests).Sound ∧
      ∀ request failure,
        (initial.serveAll requests).answer request = .error failure →
        (initial.serveAll requests).serve request = initial.serveAll requests := by
  refine ⟨sound_of_reachable ⟨requests, rfl⟩, ?_⟩
  intro request failure failed
  exact serve_of_error failed

end NoKnowledge.Server.Database

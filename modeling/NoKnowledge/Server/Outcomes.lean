import NoKnowledge.Server.Requests

/-!
# What a request does

`Outcome` says once what each request can do to the tables; the invariants of
the relay are case analyses over it.
-/

namespace NoKnowledge.Server.Database

/-- The tables once a message has been stored. -/
def stored (database : Database) (mailbox : MailboxRow) (ciphertext : Bytes)
    (now : Int) : Database :=
  { database with
    messages := database.messages ++
      [{ mailboxId := mailbox.id, seq := mailbox.nextSeq, ciphertext
         createdAt := now, size := ciphertext.length }]
    mailboxes := database.mailboxes.map fun row =>
      if row.id = mailbox.id then
        { row with lastSeen := now, nextSeq := mailbox.nextSeq + 1 }
      else row }

/-- The tables without a mailbox and everything stored in it. -/
def without (database : Database) (mailboxId : String) : Database :=
  { database with
    messages := database.messages.filter fun row => !decide (row.mailboxId = mailboxId)
    blobs := database.blobs.filter fun row => !decide (row.mailboxId = mailboxId)
    mailboxes := database.mailboxes.filter fun row => !decide (row.id = mailboxId) }

/-- One page of a mailbox, oldest message first. -/
def page (database : Database) (mailboxId : String) (afterSeq limit : Int) :
    List MessageRow :=
  limited limit
    (((database.messagesOf mailboxId).filter fun row => afterSeq < row.seq).mergeSort
      fun left right => left.seq ≤ right.seq)

/-- The one-time prekeys once one entry has been published. -/
def withOneTime (bundleId : String) (rows : List OneTimeRow)
    (entry : Int × Option String) : List OneTimeRow :=
  match entry.2 with
  | none => rows
  | some opk =>
      if rows.any fun row => row.bundleId = bundleId && row.opkId = entry.1 then rows
      else rows ++
        [{ id := rows.length, bundleId, opkId := entry.1, opk, used := false }]

/-- The one-time prekeys with one of them marked as used. -/
def spent (rows : List OneTimeRow) (id : Nat) : List OneTimeRow :=
  rows.map fun row => if row.id = id then { row with used := true } else row

/-- What a request can do: fail and leave the tables as they are, or make the
one change of its operation under the operation's guards. -/
inductive Outcome (database : Database) :
    Request → Except Failure Response → Database → Prop where
  | failed (request : Request) (failure : Failure) :
      Outcome database request (.error failure) database
  | created {row : MailboxRow}
      (free : ∀ mailbox ∈ database.mailboxes, mailbox.id ≠ row.id)
      (first : row.nextSeq = 1) (seen : row.lastSeen = row.createdAt) :
      Outcome database
        (.createMailbox row.id row.readTokenHash row.writeTokenHash row.createdAt
          row.maxMessages row.maxBytes) (.ok .done)
        { database with mailboxes := database.mailboxes ++ [row] }
  | touched (mailboxId : String) (now : Int) :
      Outcome database (.touchMailbox mailboxId now) (.ok .done)
        { database with
          mailboxes := database.mailboxes.map fun row =>
            if row.id = mailboxId then { row with lastSeen := now } else row }
  | deletedMailbox (mailboxId : String) :
      Outcome database (.deleteMailbox mailboxId)
        (.ok (.deleted (database.messagesOf mailboxId).length
          (database.blobsOf mailboxId).length))
        (database.without mailboxId)
  | stored {mailbox : MailboxRow} (ciphertext : Bytes) (now : Int)
      (found : mailbox ∈ database.mailboxes)
      (fewer : (database.messagesOf mailbox.id).length < mailbox.maxMessages)
      (smaller : database.bytesOf mailbox.id + ciphertext.length ≤ mailbox.maxBytes)
      (unused : ∀ row ∈ database.messages, row.mailboxId = mailbox.id →
        row.seq ≠ mailbox.nextSeq) :
      Outcome database (.putMessage mailbox.id ciphertext now)
        (.ok (.count mailbox.nextSeq)) (database.stored mailbox ciphertext now)
  | listed (mailboxId : String) (afterSeq limit : Int) :
      Outcome database (.getMessages mailboxId afterSeq limit)
        (.ok (.messages (database.page mailboxId afterSeq limit))) database
  | acknowledged (mailboxId : String) (uptoSeq : Int) :
      Outcome database (.ackMessages mailboxId uptoSeq)
        (.ok (.count (database.messages.countP fun row =>
          decide (row.mailboxId = mailboxId) && decide (row.seq ≤ uptoSeq))))
        { database with
          messages := database.messages.filter fun row =>
            !(decide (row.mailboxId = mailboxId) && decide (row.seq ≤ uptoSeq)) }
  | published {bundleId : String} {payload : List (String × Json)}
      {opks : List Json} {now : Int}
      {entries : List (Int × Option String)}
      (read : opks.mapM readOneTime = .ok entries) {bundles : List BundleRow} :
      Outcome database (.publishBundle bundleId payload opks now) (.ok .done)
        { database with
          bundles
          oneTime := entries.foldl (withOneTime bundleId) database.oneTime }
  | fetchedNone {bundleId : String} {payload : List (String × Json)}
      (exhausted : database.nextOneTime bundleId = none) :
      Outcome database (.fetchBundle bundleId)
        (.ok (.bundle ((Json.obj payload).setField "opks" (.arr [])))) database
  | fetchedOne {bundleId : String} {payload : List (String × Json)}
      {opk : OneTimeRow}
      (next : database.nextOneTime bundleId = some opk) :
      Outcome database (.fetchBundle bundleId)
        (.ok (.bundle ((Json.obj payload).setField "opks"
          (.arr [OneTimeRow.published opk]))))
        { database with oneTime := spent database.oneTime opk.id }
  | uploaded {row : BlobRow} {mailbox : MailboxRow} (now : Int)
      (found : mailbox ∈ database.mailboxes) (owner : mailbox.id = row.mailboxId)
      (sized : row.size = row.ciphertext.length)
      (smaller : database.bytesOf mailbox.id + row.size ≤ mailbox.maxBytes)
      (free : ∀ blob ∈ database.blobs, blob.chunkId ≠ row.chunkId) :
      Outcome database (.putBlob row.chunkId row.mailboxId row.ciphertext now)
        (.ok .done) { database with blobs := database.blobs ++ [row] }
  | downloaded (row : BlobRow) (held : row ∈ database.blobs) :
      Outcome database (.getBlob row.chunkId) (.ok (.blob row)) database
  | deletedBlob (chunkId : String) :
      Outcome database (.deleteBlob chunkId) (.ok .done)
        { database with
          blobs := database.blobs.filter fun row => !decide (row.chunkId = chunkId) }
  | cleaned (now mailboxTtl blobTtl : Int) (stale : List String)
      (stray : BlobRow → Bool) (removed : Removed)
      (idle : ∀ mailboxId, mailboxId ∈ stale ↔ ∃ row ∈ database.mailboxes,
        row.id = mailboxId ∧ row.lastSeen < now - mailboxTtl)
      (owned : ∀ row : BlobRow, (∃ mailbox ∈ (stale.foldl without database).mailboxes,
        mailbox.id = row.mailboxId) → stray row = true) :
      Outcome database (.housekeeping now mailboxTtl blobTtl) (.ok (.removed removed))
        { stale.foldl without database with
          blobs := (stale.foldl without database).blobs.filter stray }

section Outcomes

variable {database after : Database}

theorem mem_messagesOf {row : MessageRow} {mailboxId : String} :
    row ∈ database.messagesOf mailboxId ↔
      row ∈ database.messages ∧ row.mailboxId = mailboxId := by
  rw [messagesOf, List.mem_filter, decide_eq_true_iff]

theorem mem_blobsOf {row : BlobRow} {mailboxId : String} :
    row ∈ database.blobsOf mailboxId ↔ row ∈ database.blobs ∧ row.mailboxId = mailboxId := by
  rw [blobsOf, List.mem_filter, decide_eq_true_iff]

theorem run_transaction {α : Type} (body : Transaction α) (database : Database) :
    (transaction body).run database =
      match body.run database with
      | (.ok value, changed) => (.ok value, changed)
      | (.error failure, _) => (.error failure, database) := rfl

theorem transaction_error {α : Type} {body : Transaction α} {failure : Failure}
    (failed : (transaction body).run database = (.error failure, after)) :
    after = database := by
  rw [run_transaction] at failed
  split at failed <;> cases failed
  rfl

theorem transaction_returns {α : Type} {body : Transaction α} {value : α}
    (returned : (transaction body).run database = (.ok value, after)) :
    body.run database = (.ok value, after) := by
  rw [run_transaction] at returned
  split at returned
  · rename_i equation
    rw [equation, returned]
  · cases returned

theorem bind_returns {α : Type} {parameter : Except Raised α} {value : α}
    (returned : (Database.bind parameter).run database = (.ok value, after)) :
    parameter = .ok value ∧ after = database := by
  cases parameter with
  | ok bound =>
      cases returned
      exact ⟨rfl, rfl⟩
  | error raised => cases returned

theorem selectMailbox_returns {mailboxId : String} {found : Option MailboxRow}
    (returned : (selectMailbox mailboxId).run database = (.ok found, after)) :
    found = database.mailboxes.find? (fun mailbox => mailbox.id = mailboxId) ∧
      after = database := by
  cases returned
  exact ⟨rfl, rfl⟩

/-- A program that only reads. -/
def ReadOnly {α : Type} (program : Transaction α) : Prop :=
  ∀ database, program.after database = database

/-- A failing run leaves the tables as they were. -/
def Atomic {α : Type} (program : Transaction α) : Prop :=
  ∀ database failure after, program.run database = (.error failure, after) →
    after = database

theorem atomic_transaction {α : Type} (body : Transaction α) :
    Atomic (transaction body) :=
  fun _ _ _ failed => transaction_error failed

theorem atomic_of_readOnly {α : Type} {program : Transaction α}
    (readOnly : ReadOnly program) : Atomic program := by
  intro database failure after failed
  have same := readOnly database
  rw [Prog.after, failed] at same
  exact same

theorem readOnly_bind {α : Type} (parameter : Except Raised α) : ReadOnly (Database.bind parameter) := by
  intro database
  cases parameter <;> rfl

theorem atomic_bind {α β : Type} {first : Transaction α} {next : α → Transaction β}
    (readOnly : ReadOnly first) (atomic : ∀ value, Atomic (next value)) :
    Atomic (first >>= next) := by
  intro database failure after failed
  have same := readOnly database
  rw [Prog.run_bind] at failed
  split at failed
  · rename_i value middle firstRun
    rw [Prog.after, firstRun] at same
    subst same
    exact atomic value middle failure after failed
  · rename_i raised middle firstRun
    rw [Prog.after, firstRun] at same
    cases failed
    exact same

theorem atomic_bind_pure {α β : Type} {first : Transaction α} (atomic : Atomic first)
    (result : α → β) : Atomic (first >>= fun value => pure (result value)) := by
  intro database failure after failed
  rw [Prog.run_bind] at failed
  split at failed
  · cases failed
  · rename_i raised middle firstRun
    cases failed
    exact atomic database _ _ firstRun

theorem readOnly_get : ReadOnly (get : Transaction Database) := fun _ => rfl

theorem atomic_throw {α : Type} (failure : Failure) :
    Atomic (throw failure : Transaction α) :=
  atomic_of_readOnly fun _ => rfl

theorem atomic_modify (change : Database → Database) :
    Atomic (modify change : Transaction PUnit) := by
  intro database failure after failed
  cases failed

theorem atomic_pure {α : Type} (value : α) : Atomic (pure value : Transaction α) := by
  intro database failure after failed
  cases failed

theorem atomic_createMailbox (mailboxId : String)
    (readTokenHash writeTokenHash : Bytes) (now : Int)
    (maxMessages maxBytes : Nat) :
    Atomic (createMailbox mailboxId readTokenHash writeTokenHash now
      maxMessages maxBytes) := by
  unfold createMailbox insertMailbox
  refine atomic_bind (readOnly_bind _) fun _ => ?_
  refine atomic_bind (readOnly_bind _) fun _ => ?_
  refine atomic_bind (readOnly_bind _) fun _ => ?_
  refine atomic_bind readOnly_get fun _ => ?_
  split
  · exact atomic_throw _
  · exact atomic_modify _

theorem atomic_deleteBlob (chunkId : String) : Atomic (deleteBlob chunkId) := by
  intro database failure after failed
  cases failed

theorem atomic_getMessages (mailboxId : String) (afterSeq limit : Int) :
    Atomic (getMessages mailboxId afterSeq limit) := by
  unfold getMessages
  refine atomic_bind (readOnly_bind _) fun _ => ?_
  refine atomic_bind (readOnly_bind _) fun _ => ?_
  refine atomic_bind readOnly_get fun _ => ?_
  exact atomic_pure _

theorem atomic_touchMailbox (mailboxId : String) (now : Int) :
    Atomic (touchMailbox mailboxId now) := by
  unfold touchMailbox
  exact atomic_bind (readOnly_bind _) fun _ => atomic_modify _

theorem atomic_getBlob (chunkId : String) : Atomic (getBlob chunkId) := by
  unfold getBlob
  refine atomic_bind readOnly_get fun database => ?_
  split
  · exact atomic_throw _
  · exact atomic_pure _

theorem atomic_execute (request : Request) : Atomic request.execute := by
  cases request with
  | createMailbox mailboxId readTokenHash writeTokenHash now maxMessages maxBytes =>
      exact atomic_bind_pure (atomic_createMailbox _ _ _ _ _ _) _
  | touchMailbox mailboxId now => exact atomic_bind_pure (atomic_touchMailbox _ _) _
  | deleteMailbox mailboxId => exact atomic_bind_pure (atomic_transaction _) _
  | putMessage mailboxId ciphertext now => exact atomic_bind_pure (atomic_transaction _) _
  | getMessages mailboxId afterSeq limit =>
      exact atomic_bind_pure (atomic_getMessages _ _ _) _
  | ackMessages mailboxId uptoSeq => exact atomic_bind_pure (atomic_transaction _) _
  | publishBundle bundleId payload opks now =>
      exact atomic_bind_pure (atomic_transaction _) _
  | fetchBundle bundleId => exact atomic_bind_pure (atomic_transaction _) _
  | putBlob chunkId mailboxId ciphertext now =>
      exact atomic_bind_pure (atomic_transaction _) _
  | getBlob chunkId => exact atomic_bind_pure (atomic_getBlob _) _
  | deleteBlob chunkId => exact atomic_bind_pure (atomic_deleteBlob _) _
  | housekeeping now mailboxTtl blobTtl => exact atomic_bind_pure (atomic_transaction _) _

theorem insertMailbox_returns {row : MailboxRow} {result : Unit}
    (returned : (insertMailbox row).run database = (.ok result, after)) :
    (∀ mailbox ∈ database.mailboxes, mailbox.id ≠ row.id) ∧
      after = { database with mailboxes := database.mailboxes ++ [row] } := by
  unfold insertMailbox at returned
  obtain ⟨_, _, got, returned⟩ := Prog.bind_returns returned
  cases got
  split at returned
  · cases returned
  · rename_i free
    cases returned
    refine ⟨?_, rfl⟩
    intro mailbox member same
    apply free
    exact List.any_eq_true.mpr ⟨mailbox, member, by simp [same]⟩

theorem createMailbox_returns {mailboxId : String}
    {readTokenHash writeTokenHash : Bytes} {now : Int} {maxMessages maxBytes : Nat}
    {result : Unit}
    (returned : (createMailbox mailboxId readTokenHash writeTokenHash now
      maxMessages maxBytes).run database = (.ok result, after)) :
    Outcome database
      (.createMailbox mailboxId readTokenHash writeTokenHash now maxMessages maxBytes)
      (.ok .done) after := by
  unfold createMailbox at returned
  obtain ⟨bound, _, first, afterFirst⟩ := Prog.bind_returns returned
  obtain ⟨integer, rfl⟩ := bind_returns first
  obtain ⟨_, rfl⟩ := Sql.integer_eq_ok.mp integer
  obtain ⟨_, _, second, afterSecond⟩ := Prog.bind_returns afterFirst
  obtain ⟨_, rfl⟩ := bind_returns second
  obtain ⟨_, _, third, afterThird⟩ := Prog.bind_returns afterSecond
  obtain ⟨_, rfl⟩ := bind_returns third
  obtain ⟨free, rfl⟩ := insertMailbox_returns afterThird
  exact @Outcome.created _
    ⟨mailboxId, readTokenHash, writeTokenHash, now, now, maxMessages, maxBytes, 1⟩
    free rfl rfl

theorem find_mailbox {mailboxId : String} {mailbox : MailboxRow}
    (found : database.mailboxes.find? (fun row => row.id = mailboxId) = some mailbox) :
    mailbox ∈ database.mailboxes ∧ mailbox.id = mailboxId := by
  refine ⟨List.mem_of_find?_eq_some found, ?_⟩
  simpa using List.find?_some found

theorem insertMessage_returns {row : MessageRow} {result : Unit}
    (returned : (insertMessage row).run database = (.ok result, after)) :
    (∀ message ∈ database.messages, message.mailboxId = row.mailboxId →
      message.seq ≠ row.seq) ∧
      after = { database with messages := database.messages ++ [row] } := by
  unfold insertMessage at returned
  obtain ⟨_, _, got, returned⟩ := Prog.bind_returns returned
  cases got
  split at returned
  · cases returned
  · rename_i unused
    cases returned
    refine ⟨?_, rfl⟩
    intro message member owner same
    apply unused
    exact List.any_eq_true.mpr ⟨message, member, by simp [owner, same]⟩

theorem storeMessage_returns {mailbox : MailboxRow} {ciphertext : Bytes} {now : Int}
    {seq : Nat}
    (returned : (storeMessage mailbox ciphertext now).run database = (.ok seq, after)) :
    seq = mailbox.nextSeq ∧ after = database.stored mailbox ciphertext now ∧
      ∀ row ∈ database.messages, row.mailboxId = mailbox.id →
        row.seq ≠ mailbox.nextSeq := by
  unfold storeMessage at returned
  obtain ⟨bound, _, first, afterFirst⟩ := Prog.bind_returns returned
  obtain ⟨integer, rfl⟩ := bind_returns first
  obtain ⟨_, rfl⟩ := Sql.integer_eq_ok.mp integer
  obtain ⟨_, _, insertion, afterInsertion⟩ := Prog.bind_returns afterFirst
  obtain ⟨unused, rfl⟩ := insertMessage_returns insertion
  obtain ⟨_, _, second, afterSecond⟩ := Prog.bind_returns afterInsertion
  obtain ⟨_, rfl⟩ := bind_returns second
  cases afterSecond
  exact ⟨rfl, rfl, unused⟩

theorem putMessage_returns {mailboxId : String} {ciphertext : Bytes} {now : Int}
    {seq : Nat}
    (returned : (putMessage mailboxId ciphertext now).run database =
      (.ok seq, after)) :
    Outcome database (.putMessage mailboxId ciphertext now) (.ok (.count seq))
      after := by
  obtain ⟨found, _, selected, body⟩ :=
    Prog.bind_returns (transaction_returns returned)
  obtain ⟨foundEq, rfl⟩ := selectMailbox_returns selected
  cases found with
  | none => cases body
  | some mailbox =>
      obtain ⟨member, rfl⟩ := find_mailbox foundEq.symm
      obtain ⟨⟨count, used⟩, _, usageRun, checked⟩ := Prog.bind_returns body
      cases usageRun
      simp only at checked
      split at checked
      · cases checked
      · rename_i within
        obtain ⟨rfl, rfl, unused⟩ := storeMessage_returns checked
        have fewer := not_le.mp fun few => within (Or.inl few)
        have smaller := not_lt.mp fun many => within (Or.inr many)
        exact .stored ciphertext now member fewer smaller unused

theorem storeOneTime_returns {bundleId : String} {entry : Json} {result : Unit}
    (returned : (storeOneTime bundleId entry).run database = (.ok result, after)) :
    ∃ read, readOneTime entry = .ok read ∧
      after = { database with
        oneTime := withOneTime bundleId database.oneTime read } := by
  unfold storeOneTime at returned
  obtain ⟨⟨opkId, opk⟩, _, first, inserted⟩ := Prog.bind_returns returned
  obtain ⟨read, rfl⟩ := bind_returns first
  refine ⟨(opkId, opk), read, ?_⟩
  cases inserted
  cases opk with
  | none => rfl
  | some opk =>
      simp only [withOneTime]
      split <;> rfl

theorem storeOneTimes_returns {bundleId : String} {opks : List Json} {result : Unit}
    (returned : (opks.forM (storeOneTime bundleId)).run database =
      (.ok result, after)) :
    ∃ entries, opks.mapM readOneTime = .ok entries ∧
      after = { database with
        oneTime := entries.foldl (withOneTime bundleId) database.oneTime } := by
  induction opks generalizing database with
  | nil =>
      cases returned
      exact ⟨[], rfl, rfl⟩
  | cons entry opks induction =>
      obtain ⟨_, middle, first, later⟩ := Prog.bind_returns returned
      obtain ⟨read, readEq, rfl⟩ := storeOneTime_returns first
      obtain ⟨entries, entriesEq, rfl⟩ := induction later
      refine ⟨read :: entries, ?_, rfl⟩
      rw [List.mapM_cons, readEq, entriesEq]
      rfl

theorem publishBundle_returns {bundleId : String} {payload : List (String × Json)}
    {opks : List Json} {now : Int} {result : Unit}
    (returned : (publishBundle bundleId payload opks now).run database =
      (.ok result, after)) :
    Outcome database (.publishBundle bundleId payload opks now) (.ok .done) after := by
  obtain ⟨_, _, first, afterFirst⟩ := Prog.bind_returns (transaction_returns returned)
  obtain ⟨_, rfl⟩ := bind_returns first
  obtain ⟨_, middle, second, loop⟩ := Prog.bind_returns afterFirst
  obtain ⟨entries, read, rfl⟩ := storeOneTimes_returns loop
  cases second
  simp only
  split
  · exact .published read
  · exact .published read

theorem fetchBundle_returns {bundleId : String} {payload : Json}
    (returned : (fetchBundle bundleId).run database = (.ok payload, after)) :
    Outcome database (.fetchBundle bundleId) (.ok (.bundle payload)) after := by
  obtain ⟨_, _, got, body⟩ := Prog.bind_returns (transaction_returns returned)
  cases got
  split at body
  · cases body
  · split at body
    · rename_i exhausted
      cases body
      exact .fetchedNone exhausted
    · rename_i opk next
      cases body
      exact .fetchedOne next

theorem insertBlob_returns {row : BlobRow} {result : Unit}
    (returned : (insertBlob row).run database = (.ok result, after)) :
    (∀ blob ∈ database.blobs, blob.chunkId ≠ row.chunkId) ∧
      after = { database with blobs := database.blobs ++ [row] } := by
  unfold insertBlob at returned
  obtain ⟨_, _, got, returned⟩ := Prog.bind_returns returned
  cases got
  split at returned
  · cases returned
  · rename_i free
    cases returned
    refine ⟨?_, rfl⟩
    intro blob member same
    apply free
    exact List.any_eq_true.mpr ⟨blob, member, by simp [same]⟩

theorem putBlob_returns {chunkId mailboxId : String} {ciphertext : Bytes} {now : Int}
    {result : Unit}
    (returned : (putBlob chunkId mailboxId ciphertext now).run database =
      (.ok result, after)) :
    Outcome database (.putBlob chunkId mailboxId ciphertext now) (.ok .done)
      after := by
  obtain ⟨found, middle, selected, body⟩ :=
    Prog.bind_returns (transaction_returns returned)
  obtain ⟨foundEq, rfl⟩ := selectMailbox_returns selected
  cases found with
  | none => cases body
  | some mailbox =>
      obtain ⟨member, rfl⟩ := find_mailbox foundEq.symm
      obtain ⟨⟨count, used⟩, _, usageRun, checked⟩ := Prog.bind_returns body
      cases usageRun
      simp only at checked
      split at checked
      · cases checked
      · rename_i within
        obtain ⟨createdAt, _, first, insertion⟩ := Prog.bind_returns checked
        obtain ⟨_, rfl⟩ := bind_returns first
        obtain ⟨free, rfl⟩ := insertBlob_returns insertion
        exact @Outcome.uploaded _
          ⟨chunkId, mailbox.id, ciphertext, ciphertext.length, createdAt⟩ mailbox now
          member rfl rfl (not_lt.mp within) free

theorem removeMailboxes_after (stale : List String) (removed : Removed) :
    ∃ counted, (stale.foldlM removeMailbox removed).run database =
      (.ok counted, stale.foldl without database) := by
  induction stale generalizing database removed with
  | nil => exact ⟨removed, rfl⟩
  | cons mailboxId stale induction =>
      obtain ⟨counted, rest⟩ := @induction (database.without mailboxId) _
      exact ⟨counted, rest⟩

/-- What is left without a list of mailboxes. -/
theorem foldl_without (mailboxIds : List String) (database : Database) :
    mailboxIds.foldl without database = { database with
      messages := database.messages.filter fun row => !decide (row.mailboxId ∈ mailboxIds)
      blobs := database.blobs.filter fun row => !decide (row.mailboxId ∈ mailboxIds)
      mailboxes := database.mailboxes.filter fun row => !decide (row.id ∈ mailboxIds) } := by
  induction mailboxIds generalizing database with
  | nil => simp
  | cons mailboxId mailboxIds induction =>
      rw [List.foldl_cons, induction]
      simp [without, List.filter_filter, Bool.and_comm]

theorem housekeeping_returns {now mailboxTtl blobTtl : Int} {removed : Removed}
    (returned : (housekeeping now mailboxTtl blobTtl).run database =
      (.ok removed, after)) :
    Outcome database (.housekeeping now mailboxTtl blobTtl) (.ok (.removed removed))
      after := by
  obtain ⟨cutoff, _, first, afterFirst⟩ :=
    Prog.bind_returns (transaction_returns returned)
  obtain ⟨integer, rfl⟩ := bind_returns first
  obtain ⟨-, rfl⟩ := Sql.integer_eq_ok.mp integer
  obtain ⟨_, _, got, afterGet⟩ := Prog.bind_returns afterFirst
  cases got
  obtain ⟨_, middle, loop, afterLoop⟩ := Prog.bind_returns afterGet
  obtain ⟨counted, loopRun⟩ := removeMailboxes_after _ _
  rw [loopRun] at loop
  cases loop
  obtain ⟨_, _, second, afterSecond⟩ := Prog.bind_returns afterLoop
  obtain ⟨_, rfl⟩ := bind_returns second
  cases afterSecond
  apply Outcome.cleaned
  · intro mailboxId
    simp [and_assoc, and_comm]
  · intro row owner
    obtain ⟨mailbox, member, same⟩ := owner
    have present : ((List.foldl without _ _).mailboxes.any fun mailbox =>
        decide (mailbox.id = row.mailboxId)) = true :=
      List.any_eq_true.mpr ⟨mailbox, member, decide_eq_true same⟩
    simp [present]

theorem ackMessages_returns {mailboxId : String} {uptoSeq : Int} {count : Nat}
    (returned : (ackMessages mailboxId uptoSeq).run database = (.ok count, after)) :
    Outcome database (.ackMessages mailboxId uptoSeq) (.ok (.count count)) after := by
  obtain ⟨bound, _, first, deletion⟩ :=
    Prog.bind_returns (transaction_returns returned)
  obtain ⟨integer, rfl⟩ := bind_returns first
  obtain ⟨_, rfl⟩ := Sql.integer_eq_ok.mp integer
  cases deletion
  exact .acknowledged mailboxId uptoSeq

theorem getMessages_returns {mailboxId : String} {afterSeq limit : Int}
    {rows : List MessageRow}
    (returned : (getMessages mailboxId afterSeq limit).run database =
      (.ok rows, after)) :
    rows = database.page mailboxId afterSeq limit ∧ after = database := by
  obtain ⟨lower, _, first, afterFirst⟩ := Prog.bind_returns returned
  obtain ⟨integer, rfl⟩ := bind_returns first
  obtain ⟨_, rfl⟩ := Sql.integer_eq_ok.mp integer
  obtain ⟨bound, _, second, afterSecond⟩ := Prog.bind_returns afterFirst
  obtain ⟨limitInteger, rfl⟩ := bind_returns second
  obtain ⟨_, rfl⟩ := Sql.integer_eq_ok.mp limitInteger
  cases afterSecond
  exact ⟨rfl, rfl⟩

theorem touchMailbox_returns {mailboxId : String} {now : Int} {result : Unit}
    (returned : (touchMailbox mailboxId now).run database = (.ok result, after)) :
    Outcome database (.touchMailbox mailboxId now) (.ok .done) after := by
  obtain ⟨bound, _, first, update⟩ := Prog.bind_returns returned
  obtain ⟨integer, rfl⟩ := bind_returns first
  obtain ⟨_, rfl⟩ := Sql.integer_eq_ok.mp integer
  cases update
  exact .touched mailboxId now

theorem getBlob_returns {chunkId : String} {row : BlobRow}
    (returned : (getBlob chunkId).run database = (.ok row, after)) :
    Outcome database (.getBlob chunkId) (.ok (.blob row)) after := by
  obtain ⟨_, _, got, body⟩ := Prog.bind_returns returned
  cases got
  split at body
  · cases body
  · rename_i found
    cases body
    have same : row.chunkId = chunkId := by simpa using List.find?_some found
    exact same ▸ .downloaded row (List.mem_of_find?_eq_some found)

/-- A returning request made its operation's change. -/
theorem execute_returns {request : Request} {response : Response}
    (returned : request.execute.run database = (.ok response, after)) :
    Outcome database request (.ok response) after := by
  cases request with
  | createMailbox mailboxId readTokenHash writeTokenHash now maxMessages maxBytes =>
      obtain ⟨_, _, operation, result⟩ := Prog.bind_returns returned
      cases result
      exact createMailbox_returns operation
  | touchMailbox mailboxId now =>
      obtain ⟨_, _, operation, result⟩ := Prog.bind_returns returned
      cases result
      exact touchMailbox_returns operation
  | deleteMailbox mailboxId =>
      have counted : (.deleted
          (database.messages.countP fun row => decide (row.mailboxId = mailboxId))
          (database.blobs.countP fun row => decide (row.mailboxId = mailboxId)) : Response) =
          .deleted (database.messagesOf mailboxId).length
            (database.blobsOf mailboxId).length := by
        rw [messagesOf, blobsOf, List.countP_eq_length_filter, List.countP_eq_length_filter]
      cases returned
      rw [counted]
      exact .deletedMailbox mailboxId
  | putMessage mailboxId ciphertext now =>
      obtain ⟨_, _, operation, result⟩ := Prog.bind_returns returned
      cases result
      exact putMessage_returns operation
  | getMessages mailboxId afterSeq limit =>
      obtain ⟨_, _, operation, result⟩ := Prog.bind_returns returned
      cases result
      obtain ⟨rfl, rfl⟩ := getMessages_returns operation
      exact .listed mailboxId afterSeq limit
  | ackMessages mailboxId uptoSeq =>
      obtain ⟨_, _, operation, result⟩ := Prog.bind_returns returned
      cases result
      exact ackMessages_returns operation
  | publishBundle bundleId payload opks now =>
      obtain ⟨_, _, operation, result⟩ := Prog.bind_returns returned
      cases result
      exact publishBundle_returns operation
  | fetchBundle bundleId =>
      obtain ⟨_, _, operation, result⟩ := Prog.bind_returns returned
      cases result
      exact fetchBundle_returns operation
  | putBlob chunkId mailboxId ciphertext now =>
      obtain ⟨_, _, operation, result⟩ := Prog.bind_returns returned
      cases result
      exact putBlob_returns operation
  | getBlob chunkId =>
      obtain ⟨_, _, operation, result⟩ := Prog.bind_returns returned
      cases result
      exact getBlob_returns operation
  | deleteBlob chunkId =>
      cases returned
      exact .deletedBlob chunkId
  | housekeeping now mailboxTtl blobTtl =>
      obtain ⟨_, _, operation, result⟩ := Prog.bind_returns returned
      cases result
      exact housekeeping_returns operation

/-- Every request fails without a trace or makes its operation's change. -/
theorem outcome (database : Database) (request : Request) :
    Outcome database request (database.answer request) (database.serve request) := by
  unfold answer serve Prog.after
  cases equation : request.execute.run database with
  | mk result after =>
      cases result with
      | error failure =>
          have unchanged := atomic_execute request database failure after equation
          subst unchanged
          exact .failed request failure
      | ok response => exact execute_returns equation

end Outcomes

end NoKnowledge.Server.Database

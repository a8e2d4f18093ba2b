import NoKnowledge.Foundation.Indistinguishable
import NoKnowledge.Server.Outcomes

/-!
# Databases that differ in the ciphertexts of one mailbox

No operation of the database looks at a ciphertext except to hand it out.  What
is stored for a mailbox stays until an operation on this mailbox removes it.
-/

namespace NoKnowledge.Server.Database

open Prog

section Redaction

variable (mailboxId : String)

def redactMessage (row : MessageRow) : MessageRow :=
  if row.mailboxId = mailboxId then { row with ciphertext := [] } else row

def redactBlob (row : BlobRow) : BlobRow :=
  if row.mailboxId = mailboxId then { row with ciphertext := [] } else row

/-- Two databases that differ at most in the ciphertexts stored for a mailbox. -/
structure Alike (left right : Database) : Prop where
  mailboxes : left.mailboxes = right.mailboxes
  messages : left.messages.map (redactMessage mailboxId) =
    right.messages.map (redactMessage mailboxId)
  bundles : left.bundles = right.bundles
  oneTime : left.oneTime = right.oneTime
  blobs : left.blobs.map (redactBlob mailboxId) = right.blobs.map (redactBlob mailboxId)

variable {mailboxId}

theorem redactMessage_fields (row : MessageRow) :
    (redactMessage mailboxId row).mailboxId = row.mailboxId ∧
      (redactMessage mailboxId row).seq = row.seq ∧
      (redactMessage mailboxId row).size = row.size := by
  unfold redactMessage
  split <;> exact ⟨rfl, rfl, rfl⟩

theorem redactBlob_fields (row : BlobRow) :
    (redactBlob mailboxId row).mailboxId = row.mailboxId ∧
      (redactBlob mailboxId row).chunkId = row.chunkId ∧
      (redactBlob mailboxId row).size = row.size := by
  unfold redactBlob
  split <;> exact ⟨rfl, rfl, rfl⟩

@[simp] theorem mailboxId_redactMessage (row : MessageRow) :
    (redactMessage mailboxId row).mailboxId = row.mailboxId :=
  (redactMessage_fields row).1

@[simp] theorem seq_redactMessage (row : MessageRow) :
    (redactMessage mailboxId row).seq = row.seq :=
  (redactMessage_fields row).2.1

@[simp] theorem size_redactMessage (row : MessageRow) :
    (redactMessage mailboxId row).size = row.size :=
  (redactMessage_fields row).2.2

@[simp] theorem mailboxId_redactBlob (row : BlobRow) :
    (redactBlob mailboxId row).mailboxId = row.mailboxId :=
  (redactBlob_fields row).1

@[simp] theorem chunkId_redactBlob (row : BlobRow) :
    (redactBlob mailboxId row).chunkId = row.chunkId :=
  (redactBlob_fields row).2.1

@[simp] theorem size_redactBlob (row : BlobRow) :
    (redactBlob mailboxId row).size = row.size :=
  (redactBlob_fields row).2.2

/-- Rows of another mailbox are not redacted. -/
theorem redactMessage_other {row : MessageRow} (other : row.mailboxId ≠ mailboxId) :
    redactMessage mailboxId row = row := if_neg other

theorem redactBlob_other {row : BlobRow} (other : row.mailboxId ≠ mailboxId) :
    redactBlob mailboxId row = row := if_neg other

end Redaction

/-- A question about rows that does not depend on what is hidden in them. -/
theorem asked_of_map_eq {Row γ : Type} {hide : Row → Row} {left right : List Row}
    (same : left.map hide = right.map hide) {question : List Row → γ}
    (hidden : ∀ rows, question (rows.map hide) = question rows) :
    question left = question right := by
  rw [← hidden left, ← hidden right, same]

theorem filter_map_eq {Row : Type} {hide : Row → Row} {left right : List Row}
    (same : left.map hide = right.map hide) {selected : Row → Bool}
    (hidden : ∀ row, selected (hide row) = selected row) :
    (left.filter selected).map hide = (right.filter selected).map hide := by
  have commutes : ∀ rows : List Row,
      (rows.filter selected).map hide = (rows.map hide).filter selected := by
    intro rows
    rw [List.filter_map]
    congr 1
    apply List.filter_congr
    intro row _
    exact (hidden row).symm
  rw [commutes, commutes, same]

namespace Alike

variable {mailboxId : String} {left right : Database}

theorem countP_messages (alike : Alike mailboxId left right) {selected : MessageRow → Bool}
    (hidden : ∀ row, selected (redactMessage mailboxId row) = selected row) :
    left.messages.countP selected = right.messages.countP selected := by
  apply asked_of_map_eq alike.messages
  intro rows
  rw [List.countP_map]
  exact List.countP_congr fun row _ => by rw [Function.comp, hidden row]

theorem countP_blobs (alike : Alike mailboxId left right) {selected : BlobRow → Bool}
    (hidden : ∀ row, selected (redactBlob mailboxId row) = selected row) :
    left.blobs.countP selected = right.blobs.countP selected := by
  apply asked_of_map_eq alike.blobs
  intro rows
  rw [List.countP_map]
  exact List.countP_congr fun row _ => by rw [Function.comp, hidden row]

theorem messagesOf (alike : Alike mailboxId left right) (id : String) :
    (left.messagesOf id).map (redactMessage mailboxId) =
      (right.messagesOf id).map (redactMessage mailboxId) :=
  filter_map_eq alike.messages fun row => by rw [mailboxId_redactMessage]

theorem blobsOf (alike : Alike mailboxId left right) (id : String) :
    (left.blobsOf id).map (redactBlob mailboxId) =
      (right.blobsOf id).map (redactBlob mailboxId) :=
  filter_map_eq alike.blobs fun row => by rw [mailboxId_redactBlob]

/-- The messages of another mailbox are the same. -/
theorem messagesOf_other (alike : Alike mailboxId left right) {id : String}
    (other : id ≠ mailboxId) : left.messagesOf id = right.messagesOf id := by
  have plain : ∀ database : Database,
      (database.messagesOf id).map (redactMessage mailboxId) = database.messagesOf id := by
    intro database
    apply (List.map_congr_left _).trans (List.map_id _)
    intro row member
    have owner : row.mailboxId = id := of_decide_eq_true (List.mem_filter.mp member).2
    exact redactMessage_other (owner ▸ other)
  rw [← plain left, ← plain right, alike.messagesOf]

theorem bytesOf (alike : Alike mailboxId left right) (id : String) :
    left.bytesOf id = right.bytesOf id := by
  unfold Database.bytesOf
  congr 1
  · apply @asked_of_map_eq _ _ _ _ _ (alike.messagesOf id)
      fun rows => (rows.map MessageRow.size).sum
    intro rows
    simp [Function.comp_def]
  · apply @asked_of_map_eq _ _ _ _ _ (alike.blobsOf id)
      fun rows => (rows.map BlobRow.size).sum
    intro rows
    simp [Function.comp_def]

/-- A chunk is found in both, up to its ciphertext. -/
theorem find_blob (alike : Alike mailboxId left right) (chunkId : String) :
    (left.blobs.find? fun row => row.chunkId = chunkId).map (redactBlob mailboxId) =
      (right.blobs.find? fun row => row.chunkId = chunkId).map (redactBlob mailboxId) := by
  have commutes : ∀ rows : List BlobRow,
      (rows.find? fun row => row.chunkId = chunkId).map (redactBlob mailboxId) =
        (rows.map (redactBlob mailboxId)).find? fun row => row.chunkId = chunkId := by
    intro rows
    rw [List.find?_map]
    congr 2
    funext row
    simp
  rw [commutes, commutes, alike.blobs]

theorem any_message (alike : Alike mailboxId left right) {selected : MessageRow → Bool}
    (hidden : ∀ row, selected (redactMessage mailboxId row) = selected row) :
    left.messages.any selected = right.messages.any selected := by
  apply @asked_of_map_eq _ _ _ _ _ alike.messages fun rows => rows.any selected
  intro rows
  rw [List.any_map]
  congr 1
  funext row
  exact hidden row

theorem any_blob (alike : Alike mailboxId left right) (chunkId : String) :
    (left.blobs.any fun row => row.chunkId = chunkId) =
      right.blobs.any fun row => row.chunkId = chunkId := by
  apply @asked_of_map_eq _ _ _ _ _ alike.blobs
    fun rows => rows.any fun row => row.chunkId = chunkId
  intro rows
  simp [Function.comp_def]

end Alike

section Operations

variable {mailboxId : String}

abbrev BlindTo (mailboxId : String) {α : Type} (operation : Transaction α) : Prop :=
  Blind (Alike mailboxId) operation

theorem blind_transaction {α : Type} {body : Transaction α}
    (bodyBlind : BlindTo mailboxId body) : BlindTo mailboxId (transaction body) := by
  intro left right same
  obtain ⟨matched, sameAfter⟩ := bodyBlind left right same
  unfold after at sameAfter ⊢
  rw [run_transaction, run_transaction]
  rcases leftRun : body.run left with ⟨leftResult, leftFinal⟩
  rcases rightRun : body.run right with ⟨rightResult, rightFinal⟩
  rw [leftRun, rightRun] at matched sameAfter
  cases matched with
  | ok related => exact ⟨.ok related, sameAfter⟩
  | error raised => exact ⟨.error raised, same⟩

theorem blind_parameter {α : Type} (parameter : Except Raised α) :
    BlindTo mailboxId (Database.bind parameter) := by
  cases parameter with
  | ok value => exact blind_pure value
  | error raised => exact related_throw _

/-- Ask something that is the same in databases that look alike, and go on. -/
theorem blind_ask_bind {α γ : Type} {question : Database → γ} {next : γ → Transaction α}
    (hidden : ∀ left right, Alike mailboxId left right → question left = question right)
    (nextBlind : ∀ value, BlindTo mailboxId (next value)) :
    BlindTo mailboxId (get >>= fun database => next (question database)) := by
  intro left right same
  show Matches Eq ((next (question left)).run left).1 ((next (question right)).run right).1 ∧
    Alike mailboxId ((next (question left)).after left) ((next (question right)).after right)
  rw [hidden left right same]
  exact nextBlind _ left right same

theorem blind_getMailbox (id : String) : BlindTo mailboxId (getMailbox id) := by
  apply related_ask
  intro left right same
  rw [same.mailboxes]

theorem blind_insertMailbox (row : MailboxRow) : BlindTo mailboxId (insertMailbox row) := by
  apply @blind_ask_bind _ _ _ (fun database => database.mailboxes.any fun mailbox =>
    mailbox.id = row.id) fun taken => if taken = true then throw .integrity else _
  · intro left right same
    rw [same.mailboxes]
  · intro taken
    apply blind_ite
    · exact fun _ => related_throw _
    · intro _
      apply blind_modify
      intro left right same
      exact { same with mailboxes := congrArg (· ++ [row]) same.mailboxes }

theorem blind_createMailbox (id : String) (readTokenHash writeTokenHash : Bytes)
    (now : Int) (maxMessages maxBytes : Nat) :
    BlindTo mailboxId
      (createMailbox id readTokenHash writeTokenHash now maxMessages maxBytes) := by
  apply blind_bind (blind_parameter _)
  intro bound
  apply blind_bind (blind_parameter _)
  intro _
  apply blind_bind (blind_parameter _)
  intro _
  exact blind_insertMailbox _

theorem blind_updateMailbox (id : String) (change : MailboxRow → MailboxRow) :
    BlindTo mailboxId (updateMailbox id change) := by
  apply blind_modify
  intro left right same
  refine { same with mailboxes := ?_ }
  show List.map _ left.mailboxes = List.map _ right.mailboxes
  rw [same.mailboxes]

theorem blind_deleteMailboxes (selected : MailboxRow → Bool) :
    BlindTo mailboxId (deleteMailboxes selected) := by
  apply blind_modify
  intro left right same
  refine { same with mailboxes := ?_ }
  show List.filter _ left.mailboxes = List.filter _ right.mailboxes
  rw [same.mailboxes]

theorem blind_deleteMessages {selected : MessageRow → Bool}
    (hidden : ∀ row, selected (redactMessage mailboxId row) = selected row) :
    BlindTo mailboxId (deleteMessages selected) := by
  apply @blind_ask_bind _ _ _ (fun database => database.messages.countP selected)
    fun count => do
      modify fun database =>
        { database with messages := database.messages.filter fun row => !selected row }
      pure count
  · exact fun left right same => same.countP_messages hidden
  · intro count
    apply blind_bind _ fun _ => blind_pure _
    apply blind_modify
    intro left right same
    refine { same with messages := filter_map_eq same.messages ?_ }
    intro row
    rw [hidden]

theorem blind_deleteBlobs {selected : BlobRow → Bool}
    (hidden : ∀ row, selected (redactBlob mailboxId row) = selected row) :
    BlindTo mailboxId (deleteBlobs selected) := by
  apply @blind_ask_bind _ _ _ (fun database => database.blobs.countP selected)
    fun count => do
      modify fun database =>
        { database with blobs := database.blobs.filter fun row => !selected row }
      pure count
  · exact fun left right same => same.countP_blobs hidden
  · intro count
    apply blind_bind _ fun _ => blind_pure _
    apply blind_modify
    intro left right same
    refine { same with blobs := filter_map_eq same.blobs ?_ }
    intro row
    rw [hidden]

theorem blind_deleteMailbox (id : String) : BlindTo mailboxId (deleteMailbox id) := by
  apply blind_transaction
  apply blind_bind
  · exact blind_deleteMessages fun row => by rw [mailboxId_redactMessage]
  intro messages
  apply blind_bind
  · exact blind_deleteBlobs fun row => by rw [mailboxId_redactBlob]
  intro blobs
  exact blind_bind (blind_deleteMailboxes _) fun _ => blind_pure _

theorem blind_usage (id : String) : BlindTo mailboxId (usage id) := by
  apply related_ask
  intro left right same
  rw [same.bytesOf]
  congr 1
  simpa using congrArg List.length (same.messagesOf id)

theorem blind_insertMessage (row : MessageRow) : BlindTo mailboxId (insertMessage row) := by
  apply @blind_ask_bind _ _ _ (fun database => database.messages.any fun message =>
    message.mailboxId = row.mailboxId && message.seq = row.seq)
    fun taken => if taken = true then throw .integrity else _
  · intro left right same
    exact same.any_message fun message => by
      rw [mailboxId_redactMessage, seq_redactMessage]
  · intro taken
    apply blind_ite
    · exact fun _ => related_throw _
    · intro _
      apply blind_modify
      intro left right same
      refine { same with messages := ?_ }
      show List.map _ (left.messages ++ [row]) = List.map _ (right.messages ++ [row])
      rw [List.map_append, List.map_append, same.messages]

theorem blind_putMessage (id : String) (ciphertext : Bytes) (now : Int) :
    BlindTo mailboxId (putMessage id ciphertext now) := by
  apply blind_transaction
  apply blind_bind (blind_getMailbox id)
  intro found
  cases found with
  | none => exact related_throw _
  | some mailbox =>
      apply blind_bind (blind_usage id)
      rintro ⟨count, used⟩
      apply blind_ite
      · exact fun _ => related_throw _
      intro _
      apply blind_bind (blind_parameter _)
      intro bound
      apply blind_bind (blind_insertMessage _)
      intro _
      apply blind_bind (blind_parameter _)
      intro _
      exact blind_bind (blind_updateMailbox _ _) fun _ => blind_pure _

theorem blind_getMessages {id : String} (other : id ≠ mailboxId) (afterSeq limit : Int) :
    BlindTo mailboxId (getMessages id afterSeq limit) := by
  apply blind_bind (blind_parameter _)
  intro afterSeq
  apply blind_bind (blind_parameter _)
  intro limit
  apply related_ask
  intro left right same
  rw [same.messagesOf_other other]

theorem blind_ackMessages (id : String) (uptoSeq : Int) :
    BlindTo mailboxId (ackMessages id uptoSeq) := by
  apply blind_transaction
  apply blind_bind (blind_parameter _)
  intro bound
  exact blind_deleteMessages fun row => by rw [mailboxId_redactMessage, seq_redactMessage]

theorem blind_putBlob (chunkId id : String) (ciphertext : Bytes) (now : Int) :
    BlindTo mailboxId (putBlob chunkId id ciphertext now) := by
  apply blind_transaction
  apply blind_bind (blind_getMailbox id)
  intro found
  cases found with
  | none => exact related_throw _
  | some mailbox =>
      apply blind_bind (blind_usage id)
      rintro ⟨count, used⟩
      apply blind_ite
      · exact fun _ => related_throw _
      intro _
      apply blind_bind (blind_parameter _)
      intro bound
      apply @blind_ask_bind _ _ _ (fun database => database.blobs.any fun blob =>
        blob.chunkId = chunkId) fun taken => if taken = true then throw .integrity else _
      · exact fun left right same => same.any_blob chunkId
      · intro taken
        apply blind_ite
        · exact fun _ => related_throw _
        · intro _
          apply blind_modify
          intro left right same
          refine { same with blobs := ?_ }
          show List.map _ (left.blobs ++ [_]) = List.map _ (right.blobs ++ [_])
          rw [List.map_append, List.map_append, same.blobs]

/-- The chunk is looked up before anything is said about it. -/
theorem getBlob_eq (chunkId : String) :
    getBlob chunkId = (do
      let found ← (do return (← get).blobs.find? fun row => row.chunkId = chunkId :
        Transaction (Option BlobRow))
      match found with
      | none => throw (.blobNotFound chunkId)
      | some row => return row) := rfl

/-- A chunk is handed out, up to its ciphertext. -/
theorem related_getBlob (chunkId : String) :
    Related (Alike mailboxId)
      (fun row row' => redactBlob mailboxId row = redactBlob mailboxId row')
      (getBlob chunkId) (getBlob chunkId) := by
  have asked : Related (Alike mailboxId)
      (fun found found' : Option BlobRow =>
        found.map (redactBlob mailboxId) = found'.map (redactBlob mailboxId))
      (do return (← get).blobs.find? fun row => row.chunkId = chunkId :
        Transaction (Option BlobRow))
      (do return (← get).blobs.find? fun row => row.chunkId = chunkId) :=
    related_ask fun left right same => same.find_blob chunkId
  rw [getBlob_eq]
  apply related_bind asked
  intro found found' same
  cases found <;> cases found'
  · exact related_throw _
  · cases same
  · cases same
  · exact related_pure (Option.some.inj same)

theorem blind_storeBundle (bundleId : String) (payload : List (String × Json))
    (now : Int) : BlindTo mailboxId (storeBundle bundleId payload now) := by
  apply blind_modify
  intro left right same
  rw [same.bundles]
  split
  · exact { same with bundles := rfl }
  · exact { same with bundles := rfl }

theorem blind_storeOneTime (bundleId : String) (entry : Json) :
    BlindTo mailboxId (storeOneTime bundleId entry) := by
  apply blind_bind (blind_parameter _)
  rintro ⟨opkId, opk⟩
  apply blind_modify
  intro left right same
  cases opk with
  | none => exact same
  | some opk =>
      dsimp only
      rw [same.oneTime]
      split
      · exact same
      · exact { same with oneTime := rfl }

theorem blind_publishBundle (bundleId : String) (payload : List (String × Json))
    (opks : List Json) (now : Int) :
    BlindTo mailboxId (publishBundle bundleId payload opks now) := by
  apply blind_transaction
  apply blind_bind (blind_parameter _)
  intro bound
  apply blind_bind (blind_storeBundle _ _ _)
  intro _
  exact blind_forM fun entry _ => blind_storeOneTime bundleId entry

/-- A bundle is served with the prekey that was found for it. -/
theorem blind_served (bundleId : String) (found : Option BundleRow × Option OneTimeRow) :
    BlindTo mailboxId (match found.1 with
      | none => throw (.bundleNotFound bundleId)
      | some row =>
          match found.2 with
          | none => return (Json.obj row.payload).setField "opks" (.arr [])
          | some opk => do
              markUsed opk.id
              return (Json.obj row.payload).setField "opks"
                (.arr [OneTimeRow.published opk])) := by
  obtain ⟨row, opk⟩ := found
  cases row with
  | none => exact related_throw _
  | some row =>
      cases opk with
      | none => exact blind_pure _
      | some opk =>
          apply blind_bind _ fun _ => blind_pure _
          apply blind_modify
          intro left right same
          refine { same with oneTime := ?_ }
          show List.map _ left.oneTime = List.map _ right.oneTime
          rw [same.oneTime]

theorem blind_fetchBundle (bundleId : String) :
    BlindTo mailboxId (fetchBundle bundleId) := by
  apply blind_transaction
  refine @blind_ask_bind _ _ _
    (fun database => (database.bundles.find? fun row => row.bundleId = bundleId,
      database.nextOneTime bundleId)) _ ?_ (blind_served bundleId)
  intro left right same
  rw [same.bundles, nextOneTime, nextOneTime, same.oneTime]

end Operations

end NoKnowledge.Server.Database

import NoKnowledge.Crypto.SymbolicSuite
import NoKnowledge.Server.Alike
import NoKnowledge.Server.Routes

/-!
# What a mailbox yields

A request that does not carry the read token of a mailbox removes nothing from
it, adds to it only with its write token, and neither its answer nor what it
does to the relay depends on the ciphertexts stored there.
-/

namespace NoKnowledge.Server

open Prog Database

namespace Database

def mailbox? (database : Database) (mailboxId : String) : Option MailboxRow :=
  database.mailboxes.find? fun mailbox => mailbox.id = mailboxId

/-- Nothing is lost from a mailbox, and its tokens stay; something is added only
if it may be. -/
structure Spared (mailboxId : String) (mayAdd : Prop) (before after : Database) : Prop where
  messages : ∃ added, after.messagesOf mailboxId = before.messagesOf mailboxId ++ added ∧
    (added ≠ [] → mayAdd)
  blobs : ∃ added, after.blobsOf mailboxId = before.blobsOf mailboxId ++ added ∧
    (added ≠ [] → mayAdd)
  tokens : ∀ row, before.mailbox? mailboxId = some row →
    ∃ row', after.mailbox? mailboxId = some row' ∧
      row'.readTokenHash = row.readTokenHash ∧ row'.writeTokenHash = row.writeTokenHash

variable {mailboxId : String} {mayAdd : Prop} {database after : Database}

theorem appended_trans {α : Type} {first second third : List α}
    (passed : ∃ added, second = first ++ added ∧ (added ≠ [] → mayAdd))
    (next : ∃ added, third = second ++ added ∧ (added ≠ [] → mayAdd)) :
    ∃ added, third = first ++ added ∧ (added ≠ [] → mayAdd) := by
  obtain ⟨added, rfl, allowed⟩ := passed
  obtain ⟨more, rfl, allowedMore⟩ := next
  refine ⟨added ++ more, List.append_assoc _ _ _, fun nonempty => ?_⟩
  by_cases none : added = []
  · apply allowedMore
    rintro rfl
    exact nonempty (by rw [none, List.append_nil])
  · exact allowed none

theorem appended_refl {α : Type} (rows : List α) :
    ∃ added, rows = rows ++ added ∧ (added ≠ [] → mayAdd) :=
  ⟨[], (List.append_nil rows).symm, fun nonempty => absurd rfl nonempty⟩

theorem Spared.refl (database : Database) : Spared mailboxId mayAdd database database where
  messages := appended_refl _
  blobs := appended_refl _
  tokens := fun row found => ⟨row, found, rfl, rfl⟩

def sparing (mailboxId : String) (mayAdd : Prop) : Frame Database where
  rel := Spared mailboxId mayAdd
  refl := Spared.refl
  trans := by
    intro first second third passed next
    refine ⟨appended_trans passed.messages next.messages,
      appended_trans passed.blobs next.blobs, ?_⟩
    intro row found
    obtain ⟨middle, middleFound, read, write⟩ := passed.tokens row found
    obtain ⟨last, lastFound, read', write'⟩ := next.tokens middle middleFound
    exact ⟨last, lastFound, read'.trans read, write'.trans write⟩

/-- The requests that spare a mailbox. -/
def Sparing (mailboxId : String) (mayAdd : Prop) : Request → Prop
  | .putMessage id _ _ => id = mailboxId → mayAdd
  | .putBlob _ id _ _ => id = mailboxId → mayAdd
  | .deleteMailbox id => id ≠ mailboxId
  | .ackMessages id _ => id ≠ mailboxId
  | .deleteBlob _ => False
  | .housekeeping _ _ _ => False
  | _ => True

theorem find_map_tokens {mailboxes : List MailboxRow} {change : MailboxRow → MailboxRow}
    (sameId : ∀ row, (change row).id = row.id)
    (read : ∀ row, (change row).readTokenHash = row.readTokenHash)
    (write : ∀ row, (change row).writeTokenHash = row.writeTokenHash) {row : MailboxRow}
    (found : mailboxes.find? (fun mailbox => mailbox.id = mailboxId) = some row) :
    ∃ row', (mailboxes.map change).find? (fun mailbox => mailbox.id = mailboxId) =
        some row' ∧
      row'.readTokenHash = row.readTokenHash ∧ row'.writeTokenHash = row.writeTokenHash := by
  refine ⟨change row, ?_, read row, write row⟩
  rw [List.find?_map]
  have same : ((fun mailbox : MailboxRow => decide (mailbox.id = mailboxId)) ∘ change) =
      fun mailbox => decide (mailbox.id = mailboxId) := by
    funext mailbox
    rw [Function.comp, sameId]
  rw [same, found]
  rfl

theorem find_filter_tokens {mailboxes : List MailboxRow} {selected : MailboxRow → Bool}
    (stays : ∀ row, row.id = mailboxId → selected row = true) :
    (mailboxes.filter selected).find? (fun mailbox => mailbox.id = mailboxId) =
      mailboxes.find? (fun mailbox => mailbox.id = mailboxId) := by
  rw [List.find?_filter]
  congr 1
  funext row
  by_cases same : row.id = mailboxId
  · simp [same, stays row same]
  · simp [same]

theorem filter_other {Row : Type} {owner : Row → String} {rows : List Row}
    {selected : Row → Bool} (stays : ∀ row, owner row = mailboxId → selected row = true) :
    (rows.filter selected).filter (fun row => owner row = mailboxId) =
      rows.filter fun row => owner row = mailboxId := by
  rw [List.filter_filter]
  apply List.filter_congr
  intro row _
  by_cases same : owner row = mailboxId
  · simp [same, stays row same]
  · simp [same]

theorem filter_appended {Row : Type} {owner : Row → String} {rows : List Row} {row : Row}
    (allowed : owner row = mailboxId → mayAdd) :
    ∃ added, (rows ++ [row]).filter (fun row => owner row = mailboxId) =
        rows.filter (fun row => owner row = mailboxId) ++ added ∧
      (added ≠ [] → mayAdd) := by
  rw [List.filter_append]
  refine ⟨_, rfl, fun nonempty => allowed ?_⟩
  by_contra other
  exact nonempty (by simp [other])

theorem Outcome.spared {request : Request} {response : Except Failure Response}
    (outcome : Outcome database request response after)
    (sparing : Sparing mailboxId mayAdd request) :
    Spared mailboxId mayAdd database after := by
  cases outcome with
  | failed request failure => exact Spared.refl database
  | created free first =>
      refine ⟨appended_refl _, appended_refl _, fun row found => ⟨row, ?_, rfl, rfl⟩⟩
      exact List.find?_append.trans (by rw [show List.find? _ _ = some row from found]; rfl)
  | touched id now =>
      refine ⟨appended_refl _, appended_refl _, fun row found => ?_⟩
      apply find_map_tokens _ _ _ found <;> intro row <;> split <;> rfl
  | deletedMailbox id =>
      have stays : ∀ owner, owner = mailboxId → (!decide (owner = id)) = true := by
        rintro owner rfl
        simpa using Ne.symm sparing
      refine ⟨?_, ?_, fun row found => ⟨row, ?_, rfl, rfl⟩⟩
      · show ∃ added, List.filter _ (List.filter _ _) = _ ++ added ∧ _
        rw [filter_other fun row : MessageRow => stays row.mailboxId]
        exact appended_refl _
      · show ∃ added, List.filter _ (List.filter _ _) = _ ++ added ∧ _
        rw [filter_other fun row : BlobRow => stays row.mailboxId]
        exact appended_refl _
      · exact (find_filter_tokens fun row => stays row.id).trans found
  | stored ciphertext now found fewer smaller unused =>
      refine ⟨filter_appended sparing, appended_refl _, fun row found => ?_⟩
      apply find_map_tokens _ _ _ found <;> intro row <;> split <;> rfl
  | listed id afterSeq limit => exact Spared.refl database
  | acknowledged id uptoSeq =>
      refine ⟨?_, appended_refl _, fun row found => ⟨row, found, rfl, rfl⟩⟩
      show ∃ added, List.filter _ (List.filter _ _) = _ ++ added ∧ _
      rw [filter_other]
      · exact appended_refl _
      · intro row owner
        simp [owner, Ne.symm sparing]
  | published read => exact ⟨appended_refl _, appended_refl _, fun row found => ⟨row, found, rfl, rfl⟩⟩
  | fetchedNone exhausted => exact Spared.refl database
  | fetchedOne next => exact ⟨appended_refl _, appended_refl _, fun row found => ⟨row, found, rfl, rfl⟩⟩
  | uploaded now found owner sized smaller free =>
      exact ⟨appended_refl _, filter_appended sparing, fun row found => ⟨row, found, rfl, rfl⟩⟩
  | downloaded row => exact Spared.refl database
  | deletedBlob chunkId => exact sparing.elim
  | cleaned now mailboxTtl blobTtl stale stray removed => exact sparing.elim

/-- An operation that is run for a request which spares the mailbox. -/
theorem keeps_sparing {α : Type} {operation : Transaction α} (request : Request)
    (runs : ∀ database, database.serve request = operation.after database)
    (spares : Sparing mailboxId mayAdd request) :
    Keeps (sparing mailboxId mayAdd) operation := by
  intro database
  rw [← runs]
  exact (outcome database request).spared spares

theorem spares_createMailbox (id : String) (readTokenHash writeTokenHash : Bytes)
    (now : Int) (maxMessages maxBytes : Nat) :
    Keeps (sparing mailboxId mayAdd)
      (createMailbox id readTokenHash writeTokenHash now maxMessages maxBytes) :=
  keeps_sparing
    (.createMailbox id readTokenHash writeTokenHash now maxMessages maxBytes)
    (after_bind_idle fun _ _ => rfl) trivial

theorem spares_getMailbox (id : String) :
    Keeps (sparing mailboxId mayAdd) (getMailbox id) :=
  Spared.refl

theorem spares_getMessages (id : String) (afterSeq limit : Int) :
    Keeps (sparing mailboxId mayAdd) (getMessages id afterSeq limit) :=
  keeps_sparing (.getMessages id afterSeq limit) (after_bind_idle fun _ _ => rfl) trivial

theorem spares_putMessage {id : String} (allowed : id = mailboxId → mayAdd)
    (ciphertext : Bytes) (now : Int) :
    Keeps (sparing mailboxId mayAdd) (putMessage id ciphertext now) :=
  keeps_sparing (.putMessage id ciphertext now) (after_bind_idle fun _ _ => rfl) allowed

theorem spares_ackMessages {id : String} (other : id ≠ mailboxId) (uptoSeq : Int) :
    Keeps (sparing mailboxId mayAdd) (ackMessages id uptoSeq) :=
  keeps_sparing (.ackMessages id uptoSeq) (after_bind_idle fun _ _ => rfl) other

theorem spares_deleteMailbox {id : String} (other : id ≠ mailboxId) :
    Keeps (sparing mailboxId mayAdd) (deleteMailbox id) :=
  keeps_sparing (.deleteMailbox id) (after_bind_idle fun _ _ => rfl) other

theorem spares_putBlob {id : String} (allowed : id = mailboxId → mayAdd)
    (chunkId : String) (ciphertext : Bytes) (now : Int) :
    Keeps (sparing mailboxId mayAdd) (putBlob chunkId id ciphertext now) :=
  keeps_sparing (.putBlob chunkId id ciphertext now) (after_bind_idle fun _ _ => rfl)
    allowed

theorem spares_getBlob (chunkId : String) :
    Keeps (sparing mailboxId mayAdd) (getBlob chunkId) :=
  keeps_sparing (.getBlob chunkId) (after_bind_idle fun _ _ => rfl) trivial

theorem spares_publishBundle (bundleId : String) (payload : List (String × Json))
    (opks : List Json) (now : Int) :
    Keeps (sparing mailboxId mayAdd) (publishBundle bundleId payload opks now) :=
  keeps_sparing (.publishBundle bundleId payload opks now)
    (after_bind_idle fun _ _ => rfl) trivial

theorem spares_fetchBundle (bundleId : String) :
    Keeps (sparing mailboxId mayAdd) (fetchBundle bundleId) :=
  keeps_sparing (.fetchBundle bundleId) (after_bind_idle fun _ _ => rfl) trivial

end Database

/-- Two relays that differ at most in the ciphertexts stored for a mailbox. -/
structure Relay.Alike (mailboxId : String) (left right : Relay) : Prop where
  database : Database.Alike mailboxId left.database right.database
  create : left.create = right.create
  write : left.write = right.write
  bundle : left.bundle = right.bundle

/-- The relays are alike, and the mailbox of one of them has been spared since an
origin. -/
structure Guarded (mailboxId : String) (mayAdd : Prop) (origin : Database)
    (left right : Relay) : Prop where
  alike : left.Alike mailboxId right
  spared : Spared mailboxId mayAdd origin left.database

section Routes

variable {suite : Suite} {settings : Settings} {moment : Moment} {request : HttpRequest}
  {mailboxId : String} {mayAdd : Prop} {origin : Database}

theorem related_onDatabase {α : Type} {values : α → α → Prop} {operation : Transaction α}
    (related : Related (Database.Alike mailboxId) values operation operation)
    (spares : Keeps (sparing mailboxId mayAdd) operation) :
    Related (Guarded mailboxId mayAdd origin) values (onDatabase operation)
      (onDatabase operation) := by
  intro left right guarded
  obtain ⟨matched, same⟩ := related left.database right.database guarded.alike.database
  have spared := (sparing mailboxId mayAdd).trans guarded.spared (spares left.database)
  have joined : Guarded mailboxId mayAdd origin
      { left with database := operation.after left.database }
      { right with database := operation.after right.database } :=
    ⟨{ guarded.alike with database := same }, spared⟩
  unfold after at joined ⊢
  unfold Prog.run at matched joined
  show Matches values (onDatabase operation left).1 (onDatabase operation right).1 ∧
    Guarded mailboxId mayAdd origin (onDatabase operation left).2
      (onDatabase operation right).2
  unfold onDatabase Prog.run
  rcases leftRun : operation left.database with ⟨leftResult, leftFinal⟩
  rcases rightRun : operation right.database with ⟨rightResult, rightFinal⟩
  rw [leftRun, rightRun] at matched joined
  cases matched with
  | ok related => exact ⟨.ok related, joined⟩
  | error raised => exact ⟨.error _, joined⟩

abbrev BlindRoute (mailboxId : String) (mayAdd : Prop) (origin : Database) {α : Type}
    (route : RouteProg α) : Prop :=
  Blind (Guarded mailboxId mayAdd origin) route

theorem blind_refuseWith (condition : Bool) (status : Nat) (detail : String) :
    BlindRoute mailboxId mayAdd origin (refuseWith condition status detail) :=
  blind_ite (fun _ => related_throw _) fun _ => blind_pure ()

theorem related_answering {α : Type} {values : α → α → Prop} {body body' : RouteProg α}
    (status : Failure → Option (Nat × String))
    (related : Related (Guarded mailboxId mayAdd origin) values body body') :
    Related (Guarded mailboxId mayAdd origin) values (answering body status)
      (answering body' status) := by
  apply related_tryCatch related
  intro raised
  cases raised with
  | http code detail => exact related_throw _
  | failure failure =>
      dsimp only
      cases status failure with
      | none => exact related_throw _
      | some answer => exact related_throw _

/-- A limiter is asked, whatever is stored. -/
theorem blind_allowed {select : Relay → SlidingWindowLimiter}
    {store : Relay → SlidingWindowLimiter → Relay}
    (selected : ∀ left right, left.Alike mailboxId right → select left = select right)
    (stored : ∀ left right limiter, left.Alike mailboxId right →
      (store left limiter).Alike mailboxId (store right limiter))
    (apart : ∀ relay limiter, (store relay limiter).database = relay.database)
    (key : String) (now : Int) (detail : String) :
    BlindRoute mailboxId mayAdd origin (allowed select store key now detail) := by
  intro left right guarded
  have same := selected left right guarded.alike
  have joined : Guarded mailboxId mayAdd origin
      (store left ((select left).allow key now).2)
      (store right ((select left).allow key now).2) := by
    refine ⟨stored _ _ _ guarded.alike, ?_⟩
    rw [apart]
    exact guarded.spared
  have refused := @blind_refuseWith mailboxId mayAdd origin
    (!((select left).allow key now).1) 429 detail _ _ joined
  unfold allowed
  show Matches Eq ((refuseWith _ _ _).run _).1 ((refuseWith _ _ _).run _).1 ∧
    Guarded mailboxId mayAdd origin ((refuseWith _ _ _).after _) ((refuseWith _ _ _).after _)
  rw [← same]
  exact refused

/-- The tokens of a mailbox. -/
def Owns (suite : Suite) (database : Database) (mailboxId : String)
    (readToken writeToken : Bytes) : Prop :=
  ∃ row, database.mailbox? mailboxId = some row ∧
    row.readTokenHash = tokenHash suite readToken ∧
    row.writeTokenHash = tokenHash suite writeToken

def Capability.tokenOf (readToken writeToken : Bytes) : Capability → Bytes
  | read => readToken
  | write => writeToken

variable {readToken writeToken : Bytes}

theorem tokenHash_of_owns (owned : Owns suite origin mailboxId readToken writeToken)
    {database : Database} (spared : Spared mailboxId mayAdd origin database)
    {row : MailboxRow} (found : database.mailbox? mailboxId = some row)
    (capability : Capability) :
    capability.tokenHash row =
      tokenHash suite (capability.tokenOf readToken writeToken) := by
  obtain ⟨first, firstFound, read, write⟩ := owned
  obtain ⟨row', found', read', write'⟩ := spared.tokens first firstFound
  rw [found] at found'
  cases found'
  cases capability with
  | read => exact read'.trans read
  | write => exact write'.trans write

theorem eq_of_verifyToken {token storedHash : Bytes}
    (verified : verifyToken suite token storedHash = true) :
    tokenHash suite token = storedHash := by
  unfold verifyToken at verified
  split at verified
  · cases verified
  · exact of_decide_eq_true verified

/-- Who passes for a mailbox carries its token. -/
theorem related_authenticateMailbox (injective : Function.Injective suite.sha256)
    (owned : Owns suite origin mailboxId readToken writeToken) (id : String)
    (capability : Capability) :
    Related (Guarded mailboxId mayAdd origin)
      (fun row row' => row = row' ∧ (id = mailboxId →
        request.token capability.headerName =
          some (capability.tokenOf readToken writeToken)))
      (authenticateMailbox suite request id capability)
      (authenticateMailbox suite request id capability) := by
  unfold authenticateMailbox
  cases given : request.token capability.headerName with
  | none => exact related_throw _
  | some token =>
      have asked : Related (Guarded mailboxId mayAdd origin)
          (fun found found' => found = found' ∧ (id = mailboxId → ∀ row, found = some row →
            capability.tokenHash row =
              tokenHash suite (capability.tokenOf readToken writeToken)))
          (onDatabase (Database.getMailbox id)) (onDatabase (Database.getMailbox id)) := by
        intro left right guarded
        refine ⟨.ok ⟨?_, ?_⟩, guarded⟩
        · rw [guarded.alike.database.mailboxes]
        · rintro rfl row found
          exact tokenHash_of_owns owned guarded.spared found capability
      apply related_bind asked
      rintro found _ ⟨rfl, owner⟩
      cases found with
      | none => exact related_throw _
      | some row =>
          dsimp only
          by_cases verified : verifyToken suite token (capability.tokenHash row) = true
          · rw [if_pos verified]
            apply related_pure
            refine ⟨rfl, fun same => congrArg some (injective ?_)⟩
            exact (eq_of_verifyToken verified).trans (owner same row rfl)
          · rw [if_neg verified]
            exact related_throw _

/-- Who passes for another mailbox, or with the write token, may go on. -/
theorem blind_authenticated {α : Type} (injective : Function.Injective suite.sha256)
    (owned : Owns suite origin mailboxId readToken writeToken) {id : String}
    {capability : Capability} {next : MailboxRow → RouteProg α}
    (nextBlind : (id = mailboxId → request.token capability.headerName =
        some (capability.tokenOf readToken writeToken)) →
      ∀ row, BlindRoute mailboxId mayAdd origin (next row)) :
    BlindRoute mailboxId mayAdd origin
      (authenticateMailbox suite request id capability >>= next) := by
  apply related_bind (related_authenticateMailbox injective owned id capability)
  rintro row _ ⟨rfl, carries⟩
  exact nextBlind carries row

theorem blind_allowedCreate (key : String) (now : Int) (detail : String) :
    BlindRoute mailboxId mayAdd origin
      (allowed Relay.create (fun relay create => { relay with create }) key now detail) :=
  @blind_allowed _ _ _ Relay.create (fun relay create => { relay with create })
    (fun _ _ alike => alike.create) (fun _ _ _ alike => { alike with create := rfl })
    (fun _ _ => rfl) key now detail

theorem blind_allowedWrite (key : String) (now : Int) (detail : String) :
    BlindRoute mailboxId mayAdd origin
      (allowed Relay.write (fun relay write => { relay with write }) key now detail) :=
  @blind_allowed _ _ _ Relay.write (fun relay write => { relay with write })
    (fun _ _ alike => alike.write) (fun _ _ _ alike => { alike with write := rfl })
    (fun _ _ => rfl) key now detail

theorem blind_allowedBundle (key : String) (now : Int) (detail : String) :
    BlindRoute mailboxId mayAdd origin
      (allowed Relay.bundle (fun relay bundle => { relay with bundle }) key now detail) :=
  @blind_allowed _ _ _ Relay.bundle (fun relay bundle => { relay with bundle })
    (fun _ _ alike => alike.bundle) (fun _ _ _ alike => { alike with bundle := rfl })
    (fun _ _ => rfl) key now detail

theorem stats_alike {left right : Database} (alike : Database.Alike mailboxId left right) :
    stats left = stats right := by
  have messages : left.messages.length = right.messages.length := by
    simpa using congrArg List.length alike.messages
  have blobs : left.blobs.length = right.blobs.length := by
    simpa using congrArg List.length alike.blobs
  have messageBytes : (left.messages.map MessageRow.size).sum =
      (right.messages.map MessageRow.size).sum := by
    apply @asked_of_map_eq _ _ _ _ _ alike.messages
      fun rows => (rows.map MessageRow.size).sum
    intro rows
    simp [Function.comp_def]
  have blobBytes : (left.blobs.map BlobRow.size).sum =
      (right.blobs.map BlobRow.size).sum := by
    apply @asked_of_map_eq _ _ _ _ _ alike.blobs fun rows => (rows.map BlobRow.size).sum
    intro rows
    simp [Function.comp_def]
  unfold stats
  rw [alike.mailboxes, alike.bundles, messages, blobs, messageBytes, blobBytes]

theorem blind_loadBody : BlindRoute mailboxId mayAdd origin (loadBody request) := by
  unfold loadBody
  split
  · exact related_throw _
  · split
    · exact related_throw _
    · exact blind_pure _

theorem blind_providedCapability (data : Json) :
    BlindRoute mailboxId mayAdd origin (providedCapability data) := by
  unfold providedCapability
  split
  · split
    · exact related_throw _
    · exact related_throw _
  · apply blind_bind (blind_refuseWith _ _ _)
    intro _
    apply blind_bind (blind_refuseWith _ _ _)
    intro _
    exact blind_pure _

theorem blind_onGetMailbox (id : String) :
    BlindRoute mailboxId mayAdd origin (onDatabase (Database.getMailbox id)) :=
  related_onDatabase (blind_getMailbox id) (spares_getMailbox id)

theorem blind_requestedCapability :
    BlindRoute mailboxId mayAdd origin (requestedCapability suite moment request) := by
  apply blind_ite
  · exact fun _ => blind_pure _
  intro _
  apply blind_bind blind_loadBody
  intro data
  apply blind_bind (blind_providedCapability data)
  rintro ⟨id, read, write⟩
  apply blind_bind (blind_onGetMailbox id)
  intro found
  cases found with
  | none => exact blind_pure _
  | some row => exact blind_ite (fun _ => blind_pure _) fun _ => related_throw _

theorem blind_createMailboxRoute :
    BlindRoute mailboxId mayAdd origin
      (createMailbox suite settings moment request) := by
  apply blind_bind (blind_allowedCreate _ _ _)
  intro _
  apply blind_bind (blind_refuseWith _ _ _)
  intro _
  apply blind_bind blind_requestedCapability
  rintro ⟨⟨id, read, write⟩, known⟩
  apply blind_ite
  · exact fun _ => blind_pure _
  intro _
  apply blind_bind
  · exact related_onDatabase (blind_createMailbox _ _ _ _ _ _)
      (spares_createMailbox _ _ _ _ _ _)
  exact fun _ => blind_pure _

theorem blind_pollMessages {id : String} (other : id ≠ mailboxId) (afterSeq : Int)
    (polls : Nat) :
    BlindRoute mailboxId mayAdd origin (pollMessages settings id afterSeq polls) := by
  have asked : BlindRoute mailboxId mayAdd origin
      (onDatabase (Database.getMessages id afterSeq settings.maxMessagesPerFetch)) := by
    exact related_onDatabase (blind_getMessages other _ _)
      (spares_getMessages _ _ _)
  induction polls with
  | zero => exact asked
  | succ polls induction =>
      apply blind_bind asked
      intro rows
      exact blind_ite (fun _ => induction) fun _ => blind_pure _

variable (injective : Function.Injective suite.sha256)
  (owned : Owns suite origin mailboxId readToken writeToken)

include injective owned

theorem blind_putMessageRoute (id : String) :
    BlindRoute mailboxId (request.token "x-nk-write" = some writeToken) origin
      (putMessage suite settings moment request id) := by
  apply blind_authenticated injective owned
  intro carries row
  apply blind_bind (blind_allowedWrite _ _ _)
  intro _
  apply blind_bind (blind_refuseWith _ _ _)
  intro _
  apply blind_bind (blind_refuseWith _ _ _)
  intro _
  apply blind_bind
  · apply related_answering
    exact related_onDatabase (blind_putMessage id _ _)
      (spares_putMessage carries _ _)
  exact fun _ => blind_pure _

theorem blind_uploadBlobRoute :
    BlindRoute mailboxId (request.token "x-nk-write" = some writeToken) origin
      (uploadBlob suite settings moment request) := by
  apply blind_bind
  · unfold mailboxIdFromHeader
    split
    · exact related_throw _
    · exact blind_pure _
  intro id
  apply blind_authenticated injective owned
  intro carries row
  apply blind_bind (blind_allowedWrite _ _ _)
  intro _
  apply blind_bind (blind_refuseWith _ _ _)
  intro _
  apply blind_bind (blind_refuseWith _ _ _)
  intro _
  apply blind_bind
  · unfold readChunkId
    split
    · exact blind_pure _
    · split
      · exact related_throw _
      · exact blind_ite (fun _ => related_throw _) fun _ => blind_pure _
  intro chunkId
  apply blind_bind
  · apply related_tryCatch
    · apply related_bind
      · exact related_onDatabase (related_getBlob chunkId) (spares_getBlob chunkId)
      · intro row row' same
        apply related_pure
        rw [← mailboxId_redactBlob row, same, mailboxId_redactBlob]
    · intro raised
      split
      · exact blind_pure _
      · exact related_throw _
  intro owner
  cases owner with
  | some owner => exact blind_bind (blind_refuseWith _ _ _) fun _ => blind_pure _
  | none =>
      apply blind_bind
      · apply related_answering
        exact related_onDatabase (blind_putBlob chunkId id _ _)
          (spares_putBlob carries _ _ _)
      exact fun _ => blind_pure _

variable (notHolder : request.token "x-nk-read" ≠ some readToken)

include notHolder

theorem blind_getMailboxRoute (id : String) (afterSeq wait : Int) :
    BlindRoute mailboxId mayAdd origin
      (getMailbox suite settings moment request id afterSeq wait) := by
  apply blind_authenticated injective owned
  intro carries row
  apply blind_bind (blind_pollMessages (fun same => notHolder (carries same)) _ _)
  exact fun rows => blind_pure _

theorem blind_ackMessagesRoute (id : String) :
    BlindRoute mailboxId mayAdd origin (ackMessages suite request id) := by
  apply blind_authenticated injective owned
  intro carries row
  split
  · exact related_throw _
  · apply blind_bind
    · exact related_onDatabase (blind_ackMessages id _)
        (spares_ackMessages (fun same => notHolder (carries same)) _)
    · exact fun _ => blind_pure _

theorem blind_deleteMailboxRoute (id : String) :
    BlindRoute mailboxId mayAdd origin (deleteMailbox suite request id) := by
  apply blind_authenticated injective owned
  intro carries row
  apply blind_bind
  · exact related_onDatabase (blind_deleteMailbox id)
      (spares_deleteMailbox fun same => notHolder (carries same))
  · exact fun _ => blind_pure _

theorem blind_downloadBlobRoute (chunkId : String) :
    BlindRoute mailboxId mayAdd origin (downloadBlob suite request chunkId) := by
  apply blind_bind
  · unfold mailboxIdFromHeader
    split
    · exact related_throw _
    · exact blind_pure _
  intro id
  apply blind_authenticated injective owned
  intro carries row
  have other : id ≠ mailboxId := fun same => notHolder (carries same)
  apply related_bind
  · apply related_answering
    exact related_onDatabase (related_getBlob chunkId) (spares_getBlob chunkId)
  intro row row' same
  have owner : row.mailboxId = row'.mailboxId := by
    rw [← mailboxId_redactBlob row, same, mailboxId_redactBlob]
  rw [owner]
  by_cases theirs : row'.mailboxId = id
  · rw [redactBlob_other (owner ▸ theirs ▸ other), redactBlob_other (theirs ▸ other)] at same
    rw [same]
    exact blind_bind (blind_refuseWith _ _ _) fun _ => blind_pure _
  · rw [refuseWith, if_pos (by simpa using theirs)]
    exact related_throw _

theorem blind_handler (endpoint : Endpoint) :
    BlindRoute mailboxId (request.token "x-nk-write" = some writeToken) origin
      (endpoint.handler suite settings moment request) := by
  cases endpoint with
  | createMailbox => exact blind_createMailboxRoute
  | getMailbox id afterSeq wait =>
      exact blind_getMailboxRoute injective owned notHolder id afterSeq wait
  | putMessage id => exact blind_putMessageRoute injective owned id
  | ackMessages id => exact blind_ackMessagesRoute injective owned notHolder id
  | deleteMailbox id => exact blind_deleteMailboxRoute injective owned notHolder id
  | uploadBlob => exact blind_uploadBlobRoute injective owned
  | downloadBlob chunkId => exact blind_downloadBlobRoute injective owned notHolder chunkId
  | publishBundle =>
      apply blind_bind (blind_allowedBundle _ _ _)
      intro _
      apply blind_bind (blind_refuseWith _ _ _)
      intro _
      split
      · exact related_throw _
      · apply blind_bind (blind_refuseWith _ _ _)
        intro _
        apply blind_bind
        · exact related_onDatabase (blind_publishBundle _ _ _ _)
            (spares_publishBundle _ _ _ _)
        · exact fun _ => blind_pure _
  | fetchBundle bundleId =>
      apply blind_bind
      · apply related_answering
        exact related_onDatabase (blind_fetchBundle bundleId)
          (spares_fetchBundle bundleId)
      · exact fun _ => blind_pure _
  | health =>
      apply related_ask
      intro left right guarded
      rw [stats_alike guarded.alike.database]

end Routes

/-- A request that does not carry the read token of a mailbox takes nothing from
it and changes none of its tokens, adds to it only with its write token, and is
answered and has its effect whatever the ciphertexts in the mailbox are. -/
theorem mailbox_yields_only_to_its_tokens {suite : Suite} {mailboxId : String}
    {readToken writeToken : Bytes} {left right : Relay} {request : HttpRequest}
    (settings : Settings) (moment : Moment) (endpoint : Endpoint)
    (injective : Function.Injective suite.sha256)
    (owned : Owns suite left.database mailboxId readToken writeToken)
    (notHolder : request.token "x-nk-read" ≠ some readToken)
    (alike : left.Alike mailboxId right) :
    Spared mailboxId (request.token "x-nk-write" = some writeToken) left.database
        (left.handle suite settings moment request endpoint).2.database ∧
      (left.handle suite settings moment request endpoint).1 =
        (right.handle suite settings moment request endpoint).1 ∧
      (left.handle suite settings moment request endpoint).2.Alike mailboxId
        (right.handle suite settings moment request endpoint).2 := by
  have start : Guarded mailboxId (request.token "x-nk-write" = some writeToken)
      left.database left right := ⟨alike, Spared.refl left.database⟩
  have blind := @blind_handler suite settings moment request mailboxId left.database
    readToken writeToken injective owned notHolder endpoint
  obtain ⟨sameResult, guarded⟩ := Blind.same blind start
  unfold Relay.handle
  unfold after at guarded
  rcases leftRun : (endpoint.handler suite settings moment request).run left with
    ⟨leftResult, leftFinal⟩
  rcases rightRun : (endpoint.handler suite settings moment request).run right with
    ⟨rightResult, rightFinal⟩
  rw [leftRun, rightRun] at sameResult guarded
  cases sameResult
  cases leftResult with
  | ok response => exact ⟨guarded.spared, rfl, guarded.alike⟩
  | error raised => exact ⟨guarded.spared, rfl, guarded.alike⟩

namespace MailboxSpecimen

def row : MailboxRow where
  id := "mailbox"
  readTokenHash := tokenHash Symbolic.suite [1]
  writeTokenHash := tokenHash Symbolic.suite [2]
  createdAt := 0
  lastSeen := 0
  maxMessages := 10
  maxBytes := 10
  nextSeq := 2

/-- A relay that holds one message. -/
def holding (ciphertext : Bytes) : Relay where
  database :=
    { mailboxes := [row]
      messages := [{ mailboxId := "mailbox", seq := 1, ciphertext, createdAt := 0, size := 1 }] }

def stranger : HttpRequest where
  headers := [("x-nk-read", "Aw")]

def moment : Moment where
  now := 0
  monotonic := 0
  polls := fun _ => 0
  draw := fun _ _ => []

theorem alike (first second : Bytes) :
    (holding first).Alike "mailbox" (holding second) :=
  ⟨⟨rfl, rfl, rfl, rfl, rfl⟩, rfl, rfl, rfl⟩

theorem owned (ciphertext : Bytes) :
    Owns Symbolic.suite (holding ciphertext).database "mailbox" [1] [2] :=
  ⟨row, rfl, rfl, rfl⟩

theorem injective : Function.Injective Symbolic.suite.sha256 :=
  fun _ _ same => (List.cons.inj same).2

end MailboxSpecimen

open MailboxSpecimen in
/-- A fetch with another token is answered the same whatever is stored. -/
theorem mailbox_yields_only_to_its_tokens_fetch :
    ((holding [5]).handle Symbolic.suite {} moment stranger
        (.getMailbox "mailbox" 0 0)).1 =
      ((holding [6]).handle Symbolic.suite {} moment stranger
        (.getMailbox "mailbox" 0 0)).1 :=
  (mailbox_yields_only_to_its_tokens {} moment (.getMailbox "mailbox" 0 0) injective
    (owned [5]) (by decide +kernel) (alike [5] [6])).2.1

end NoKnowledge.Server

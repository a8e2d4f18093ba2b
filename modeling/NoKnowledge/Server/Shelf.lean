import Mathlib.Algebra.Order.BigOperators.Group.List
import NoKnowledge.Foundation.NumberedLog
import NoKnowledge.Server.Requests

/-!
# The shelf of a relay

What the mailboxes of a relay are for, apart from tables and rows: a shelf with
a box for each mailbox.  A box holds a numbered log and the attachment chunks
put beside it, and never more than it was made for.  `Shelf.Step` says what a
client may expect of each answer; a request is refused for the reasons of
`Shelf.Refused` only.
-/

namespace NoKnowledge.Server

/-- A request with the answer it got. -/
abbrev Exchange := Request × Except Failure Response

/-- Every number that the request binds fits into 64 bits. -/
def Request.fits : Request → Bool
  | .createMailbox _ _ _ now maxMessages maxBytes =>
      Sql.fits now && Sql.fits maxMessages && Sql.fits maxBytes
  | .touchMailbox _ now | .putMessage _ _ now | .putBlob _ _ _ now => Sql.fits now
  | .getMessages _ afterSeq limit => Sql.fits afterSeq && Sql.fits limit
  | .ackMessages _ uptoSeq => Sql.fits uptoSeq
  | .housekeeping now mailboxTtl blobTtl =>
      Sql.fits (now - mailboxTtl) && Sql.fits (now - blobTtl)
  | _ => true

/-- The requests that have nothing to do with mailboxes. -/
def Request.besideMailboxes : Request → Bool
  | .publishBundle .. | .fetchBundle .. => true
  | _ => false

/-- The bytes of a log and of the chunks beside it. -/
def volume (log : NumberedLog Bytes) (chunks : List (String × Bytes)) : Nat :=
  (log.held.map fun item => item.1.length).sum +
    (chunks.map fun chunk => chunk.2.length).sum

/-- A mailbox: what it takes at most, when it was last used, its log, and the
attachment chunks beside the log. -/
structure Box where
  maxMessages : Nat
  maxBytes : Nat
  lastSeen : Int
  log : NumberedLog Bytes
  chunks : List (String × Bytes)
  fewer : log.held.length ≤ maxMessages
  smaller : volume log chunks ≤ maxBytes

namespace Box

/-- There is room for more bytes. -/
def HasRoom (box : Box) (ciphertext : Bytes) : Prop :=
  volume box.log box.chunks + ciphertext.length ≤ box.maxBytes

/-- There is room for one more message. -/
def Takes (box : Box) (ciphertext : Bytes) : Prop :=
  box.log.held.length < box.maxMessages ∧ box.HasRoom ciphertext

theorem held_ack_sublist (log : NumberedLog Bytes) (uptoSeq : Int) :
    (log.ack uptoSeq).held.Sublist log.held := by
  rw [log.held_ack]
  exact List.filter_sublist

theorem sum_length_le {α : Type} {size : α → Nat} {fewer items : List α}
    (sublist : fewer.Sublist items) : (fewer.map size).sum ≤ (items.map size).sum :=
  (sublist.map size).sum_le_sum fun _ _ => Nat.zero_le _

def new (maxMessages maxBytes : Nat) (now : Int) : Box where
  maxMessages := maxMessages
  maxBytes := maxBytes
  lastSeen := now
  log := .empty
  chunks := []
  fewer := Nat.zero_le _
  smaller := Nat.zero_le _

def touch (box : Box) (now : Int) : Box := { box with lastSeen := now }

def push (box : Box) (ciphertext : Bytes) (now : Int) (takes : box.Takes ciphertext) :
    Box where
  maxMessages := box.maxMessages
  maxBytes := box.maxBytes
  lastSeen := now
  log := box.log.push ciphertext
  chunks := box.chunks
  fewer := by
    rw [NumberedLog.held_push, List.length_append]
    exact takes.1
  smaller := by
    have room : volume box.log box.chunks + ciphertext.length ≤ box.maxBytes := takes.2
    rw [volume] at room ⊢
    rw [NumberedLog.held_push, List.map_append, List.sum_append]
    simp only [List.map_cons, List.map_nil, List.sum_cons, List.sum_nil]
    omega

def ack (box : Box) (uptoSeq : Int) : Box where
  maxMessages := box.maxMessages
  maxBytes := box.maxBytes
  lastSeen := box.lastSeen
  log := box.log.ack uptoSeq
  chunks := box.chunks
  fewer := (held_ack_sublist box.log uptoSeq).length_le.trans box.fewer
  smaller := (Nat.add_le_add_right (sum_length_le (held_ack_sublist box.log uptoSeq)) _).trans
    box.smaller

def attach (box : Box) (chunkId : String) (ciphertext : Bytes)
    (room : box.HasRoom ciphertext) : Box where
  maxMessages := box.maxMessages
  maxBytes := box.maxBytes
  lastSeen := box.lastSeen
  log := box.log
  chunks := box.chunks ++ [(chunkId, ciphertext)]
  fewer := box.fewer
  smaller := by
    rw [HasRoom, volume] at room
    rw [volume, List.map_append, List.sum_append]
    simp only [List.map_cons, List.map_nil, List.sum_cons, List.sum_nil]
    omega

def detach (box : Box) (chunkId : String) : Box where
  maxMessages := box.maxMessages
  maxBytes := box.maxBytes
  lastSeen := box.lastSeen
  log := box.log
  chunks := box.chunks.filter fun chunk => chunk.1 ≠ chunkId
  fewer := box.fewer
  smaller := (Nat.add_le_add_left (sum_length_le List.filter_sublist) _).trans box.smaller

end Box

/-- A box for each mailbox there is. -/
abbrev Shelf := String → Option Box

namespace Shelf

def empty : Shelf := fun _ => none

def put (shelf : Shelf) (mailboxId : String) (box : Option Box) : Shelf :=
  fun other => if other = mailboxId then box else shelf other

@[simp] theorem put_self (shelf : Shelf) (mailboxId : String) (box : Option Box) :
    shelf.put mailboxId box mailboxId = box :=
  if_pos rfl

theorem put_other {shelf : Shelf} {mailboxId other : String}
    (different : other ≠ mailboxId) (box : Option Box) :
    shelf.put mailboxId box other = shelf other :=
  if_neg different

/-- Change the box of a mailbox, if there is one. -/
def change (shelf : Shelf) (mailboxId : String) (edit : Box → Box) : Shelf :=
  shelf.put mailboxId ((shelf mailboxId).map edit)

theorem change_of_some {shelf : Shelf} {mailboxId : String} {box : Box}
    (found : shelf mailboxId = some box) (edit : Box → Box) :
    shelf.change mailboxId edit = shelf.put mailboxId (some (edit box)) := by
  rw [change, found]
  rfl

theorem change_of_none {shelf : Shelf} {mailboxId : String} (absent : shelf mailboxId = none)
    (edit : Box → Box) : shelf.change mailboxId edit = shelf := by
  funext other
  rw [change, put]
  split
  · rename_i same
    rw [same, absent]
    rfl
  · rfl

/-- The messages of a mailbox; there are none where there is no mailbox. -/
def held (shelf : Shelf) (mailboxId : String) : List (Bytes × Nat) :=
  ((shelf mailboxId).map fun box => box.log.held).getD []

/-- The attachment chunks of a mailbox. -/
def chunks (shelf : Shelf) (mailboxId : String) : List (String × Bytes) :=
  ((shelf mailboxId).map Box.chunks).getD []

def detach (shelf : Shelf) (chunkId : String) : Shelf :=
  fun mailboxId => (shelf mailboxId).map fun box => box.detach chunkId

/-- The boxes that were used since a point in time. -/
def sweep (shelf : Shelf) (cutoff : Int) : Shelf :=
  fun mailboxId => (shelf mailboxId).filter fun box => cutoff ≤ box.lastSeen

theorem held_of_some {shelf : Shelf} {mailboxId : String} {box : Box}
    (found : shelf mailboxId = some box) : shelf.held mailboxId = box.log.held := by
  rw [held, found]
  rfl

theorem chunks_of_some {shelf : Shelf} {mailboxId : String} {box : Box}
    (found : shelf mailboxId = some box) : shelf.chunks mailboxId = box.chunks := by
  rw [chunks, found]
  rfl

theorem held_of_none {shelf : Shelf} {mailboxId : String} (absent : shelf mailboxId = none) :
    shelf.held mailboxId = [] := by
  rw [held, absent]
  rfl

theorem chunks_of_none {shelf : Shelf} {mailboxId : String}
    (absent : shelf mailboxId = none) : shelf.chunks mailboxId = [] := by
  rw [chunks, absent]
  rfl

theorem held_put (shelf : Shelf) (mailboxId : String) (box : Box) (other : String) :
    (shelf.put mailboxId (some box)).held other =
      if other = mailboxId then box.log.held else shelf.held other := by
  split
  · rename_i same
    subst same
    exact held_of_some (put_self _ _ _)
  · rename_i different
    rw [held, put_other different, held]

theorem chunks_put (shelf : Shelf) (mailboxId : String) (box : Box) (other : String) :
    (shelf.put mailboxId (some box)).chunks other =
      if other = mailboxId then box.chunks else shelf.chunks other := by
  split
  · rename_i same
    subst same
    exact chunks_of_some (put_self _ _ _)
  · rename_i different
    rw [chunks, put_other different, chunks]

/-- A page as its reader sees it: ciphertexts with their numbers. -/
def numbered (row : MessageRow) : Bytes × Nat := (row.ciphertext, row.seq)

/-- What a request is refused for. -/
inductive Refused (shelf : Shelf) : Request → Failure → Prop where
  | unfit {request : Request} (raised : Raised) (overflow : request.fits = false) :
      Refused shelf request (.raised raised)
  | taken {mailboxId : String} {readTokenHash writeTokenHash : Bytes} {now : Int}
      {maxMessages maxBytes : Nat} {box : Box} (present : shelf mailboxId = some box) :
      Refused shelf
        (.createMailbox mailboxId readTokenHash writeTokenHash now maxMessages maxBytes)
        .integrity
  | nowhere {mailboxId : String} {ciphertext : Bytes} {now : Int}
      (absent : shelf mailboxId = none) :
      Refused shelf (.putMessage mailboxId ciphertext now) (.mailboxNotFound mailboxId)
  | full {mailboxId : String} {ciphertext : Bytes} {now : Int} {box : Box}
      (present : shelf mailboxId = some box) (full : ¬ box.Takes ciphertext) :
      Refused shelf (.putMessage mailboxId ciphertext now) (.quotaExceeded mailboxId)
  /-- The mailbox has run out of numbers. -/
  | exhausted {mailboxId : String} {ciphertext : Bytes} {now : Int} {box : Box}
      (raised : Raised) (present : shelf mailboxId = some box)
      (last : Sql.fits (box.log.next + 1 : Nat) = false) :
      Refused shelf (.putMessage mailboxId ciphertext now) (.raised raised)
  | unattached {chunkId mailboxId : String} {ciphertext : Bytes} {now : Int}
      (absent : shelf mailboxId = none) :
      Refused shelf (.putBlob chunkId mailboxId ciphertext now) (.mailboxNotFound mailboxId)
  | crowded {chunkId mailboxId : String} {ciphertext : Bytes} {now : Int} {box : Box}
      (present : shelf mailboxId = some box) (full : ¬ box.HasRoom ciphertext) :
      Refused shelf (.putBlob chunkId mailboxId ciphertext now) (.quotaExceeded mailboxId)
  | named {chunkId mailboxId other : String} {ciphertext held : Bytes} {now : Int}
      (member : (chunkId, held) ∈ shelf.chunks other) :
      Refused shelf (.putBlob chunkId mailboxId ciphertext now) .integrity
  | unheld {chunkId : String}
      (unheld : ∀ mailboxId ciphertext, (chunkId, ciphertext) ∉ shelf.chunks mailboxId) :
      Refused shelf (.getBlob chunkId) (.blobNotFound chunkId)
  | beside {request : Request} (failure : Failure)
      (beside : request.besideMailboxes = true) : Refused shelf request failure

/-- What a request may do to the boxes, and what its answer says about them. -/
inductive Step (shelf : Shelf) : Exchange → Shelf → Prop where
  | refused {request : Request} {failure : Failure}
      (refused : shelf.Refused request failure) : Step shelf (request, .error failure) shelf
  | created {mailboxId : String} {readTokenHash writeTokenHash : Bytes} {now : Int}
      {maxMessages maxBytes : Nat} (free : shelf mailboxId = none) :
      Step shelf
        (.createMailbox mailboxId readTokenHash writeTokenHash now maxMessages maxBytes,
          .ok .done)
        (shelf.put mailboxId (some (.new maxMessages maxBytes now)))
  | touched (mailboxId : String) (now : Int) :
      Step shelf (.touchMailbox mailboxId now, .ok .done)
        (shelf.change mailboxId fun box => box.touch now)
  | deleted (mailboxId : String) :
      Step shelf
        (.deleteMailbox mailboxId,
          .ok (.deleted (shelf.held mailboxId).length (shelf.chunks mailboxId).length))
        (shelf.put mailboxId none)
  | appended {mailboxId : String} {ciphertext : Bytes} {now : Int} {box : Box}
      (present : shelf mailboxId = some box) (takes : box.Takes ciphertext) :
      Step shelf (.putMessage mailboxId ciphertext now, .ok (.count box.log.next))
        (shelf.put mailboxId (some (box.push ciphertext now takes)))
  | listed {mailboxId : String} {afterSeq limit : Int} {rows : List MessageRow}
      (page : rows.map numbered = Database.limited limit
        ((shelf.held mailboxId).filter fun item => afterSeq < item.2)) :
      Step shelf (.getMessages mailboxId afterSeq limit, .ok (.messages rows)) shelf
  | acknowledged (mailboxId : String) (uptoSeq : Int) :
      Step shelf
        (.ackMessages mailboxId uptoSeq,
          .ok (.count ((shelf.held mailboxId).countP fun item => item.2 ≤ uptoSeq)))
        (shelf.change mailboxId fun box => box.ack uptoSeq)
  | attached {chunkId mailboxId : String} {ciphertext : Bytes} {now : Int} {box : Box}
      (present : shelf mailboxId = some box) (room : box.HasRoom ciphertext)
      (unheld : ∀ other held, (chunkId, held) ∉ shelf.chunks other) :
      Step shelf (.putBlob chunkId mailboxId ciphertext now, .ok .done)
        (shelf.put mailboxId (some (box.attach chunkId ciphertext room)))
  | fetched {row : BlobRow} (held : (row.chunkId, row.ciphertext) ∈
        shelf.chunks row.mailboxId) :
      Step shelf (.getBlob row.chunkId, .ok (.blob row)) shelf
  | detached (chunkId : String) :
      Step shelf (.deleteBlob chunkId, .ok .done) (shelf.detach chunkId)
  | cleaned {now mailboxTtl blobTtl : Int} (removed : Database.Removed) :
      Step shelf (.housekeeping now mailboxTtl blobTtl, .ok (.removed removed))
        (shelf.sweep (now - mailboxTtl))
  | beside {request : Request} (response : Response)
      (beside : request.besideMailboxes = true) :
      Step shelf (request, .ok response) shelf

end Shelf

end NoKnowledge.Server

import NoKnowledge.Server.Idleness

/-!
# Proof of work

A stamp names a time and a nonce.  It is good for the hour after its time and the
minute before, if the digest of the two, read as a number, is small enough; how its
time is spelled does not matter.  A relay that asks for stamps holds no mailbox
without one.
-/

namespace NoKnowledge.Server

/-- A stamp as it is read: its time, and everything behind the first colon. -/
structure Stamp where
  timestamp : Int
  nonce : List Char

namespace Stamp

/-- The texts of a stamp: any spelling of its time will do. -/
def Spells (stamp : Stamp) (text : String) : Prop :=
  ∃ before, text.toList = before ++ ':' :: stamp.nonce ∧ ':' ∉ before ∧
    Json.integerText before = some stamp.timestamp

/-- What is hashed. -/
def digest (suite : Suite) (stamp : Stamp) : Bytes :=
  suite.sha256 (utf8 (String.ofList (Json.dumpInt stamp.timestamp ++ ':' :: stamp.nonce)))

/-- The work that was done for a stamp. -/
def Works (suite : Suite) (bits : Nat) (stamp : Stamp) : Prop :=
  bits ≤ 8 * (stamp.digest suite).length ∧
    fromBigEndian (stamp.digest suite) < 2 ^ (8 * (stamp.digest suite).length - bits)

/-- The times at which a stamp is good. -/
def Current (now : Int) (stamp : Stamp) : Prop :=
  stamp.timestamp - 60 ≤ now ∧ now ≤ stamp.timestamp + 3600

end Stamp

open Prog

section Runs

variable {suite : Suite} {settings : Settings}

/-- Rows of one mailbox: they agree on what never changes. -/
structure SameMailbox (old row : MailboxRow) : Prop where
  id : old.id = row.id
  readTokenHash : old.readTokenHash = row.readTokenHash
  writeTokenHash : old.writeTokenHash = row.writeTokenHash
  createdAt : old.createdAt = row.createdAt

theorem SameMailbox.refl (row : MailboxRow) : SameMailbox row row := ⟨rfl, rfl, rfl, rfl⟩

theorem SameMailbox.trans {first second third : MailboxRow}
    (left : SameMailbox first second) (right : SameMailbox second third) :
    SameMailbox first third :=
  ⟨left.id.trans right.id, left.readTokenHash.trans right.readTokenHash,
    left.writeTokenHash.trans right.writeTokenHash, left.createdAt.trans right.createdAt⟩

/-- The relay has the mailbox of a row. -/
def Relay.Has (relay : Relay) (row : MailboxRow) : Prop :=
  ∃ old ∈ relay.database.mailboxes, SameMailbox old row

variable (suite settings) in
/-- A visit that adds the mailbox of a row to a relay, and carries a stamp. -/
structure Paid (relay : Relay) (visit : Visit) (row : MailboxRow) : Prop where
  creation : visit.endpoint = .createMailbox
  time : visit.moment.now = row.createdAt
  absent : ∀ old ∈ relay.database.mailboxes, old.id ≠ row.id
  added : ∃ new, SameMailbox new row ∧
    (relay.step suite settings (.served visit)).database.mailboxes =
      relay.database.mailboxes ++ [new]
  stamp : ∃ stamp : Stamp,
    (∃ text, visit.request.header "x-nk-hashcash" = some text ∧ stamp.Spells text) ∧
      stamp.Current row.createdAt ∧ stamp.Works suite settings.hashcashBits.toNat

variable (suite settings) in
/-- The mailbox of a row was added by a visit of the run that was paid for, and has
been there ever since. -/
def Bought (start : Relay) (events : List Event) (row : MailboxRow) : Prop :=
  ∃ before visit later, events = before ++ .served visit :: later ∧
    Paid suite settings (start.steps suite settings before) visit row ∧
    ∀ since, since <+: later →
      (start.steps suite settings (before ++ .served visit :: since)).Has row

theorem Bought.of_same {start : Relay} {events : List Event} {old row : MailboxRow}
    (bought : Bought suite settings start events old) (same : SameMailbox old row) :
    Bought suite settings start events row := by
  obtain ⟨before, visit, later, split, paid, present⟩ := bought
  refine ⟨before, visit, later, split, ⟨paid.creation, ?_, ?_, ?_, ?_⟩, ?_⟩
  · exact paid.time.trans same.createdAt
  · exact fun other member => same.id ▸ paid.absent other member
  · obtain ⟨new, isOld, added⟩ := paid.added
    exact ⟨new, isOld.trans same, added⟩
  · exact same.createdAt ▸ paid.stamp
  · intro since within
    obtain ⟨held, member, isOld⟩ := present since within
    exact ⟨held, member, isOld.trans same⟩

end Runs

namespace WorkSpecimen

def settings : Settings where
  requireHashcash := true
  hashcashBits := 1

def creation : Event := .served {
  moment := IdleSpecimen.momentAt 100
  request := { headers := [("x-nk-hashcash", " 90:x")] }
  endpoint := .createMailbox }

def relay : Relay :=
  ({} : Relay).steps Symbolic.suite settings [creation]

end WorkSpecimen

end NoKnowledge.Server

import NoKnowledge.Server.Database

/-!
# Runs of a relay

A relay serves one request after another, each as one transaction, from any
clients in any order.
-/

namespace NoKnowledge.Server

inductive Request where
  | createMailbox (mailboxId : String) (readTokenHash writeTokenHash : Bytes)
      (now : Int) (maxMessages maxBytes : Nat)
  | touchMailbox (mailboxId : String) (now : Int)
  | deleteMailbox (mailboxId : String)
  | putMessage (mailboxId : String) (ciphertext : Bytes) (now : Int)
  | getMessages (mailboxId : String) (afterSeq limit : Int)
  | ackMessages (mailboxId : String) (uptoSeq : Int)
  | publishBundle (bundleId : String) (payload : List (String × Json))
      (opks : List Json) (now : Int)
  | fetchBundle (bundleId : String)
  | putBlob (chunkId mailboxId : String) (ciphertext : Bytes) (now : Int)
  | getBlob (chunkId : String)
  | deleteBlob (chunkId : String)
  | housekeeping (now mailboxTtl blobTtl : Int)
deriving DecidableEq

inductive Response where
  | done
  | count (number : Nat)
  | messages (rows : List MessageRow)
  | bundle (payload : Json)
  | blob (row : BlobRow)
  | deleted (messages blobs : Nat)
  | removed (removed : Database.Removed)
deriving DecidableEq

open Database

/-- What the relay runs for a request. -/
def Request.execute : Request → Transaction Response
  | createMailbox mailboxId readTokenHash writeTokenHash now maxMessages maxBytes => do
      Database.createMailbox mailboxId readTokenHash writeTokenHash now
        maxMessages maxBytes
      return .done
  | touchMailbox mailboxId now => do
      Database.touchMailbox mailboxId now
      return .done
  | deleteMailbox mailboxId => do
      let (messages, blobs) ← Database.deleteMailbox mailboxId
      return .deleted messages blobs
  | putMessage mailboxId ciphertext now => do
      return .count (← Database.putMessage mailboxId ciphertext now)
  | getMessages mailboxId afterSeq limit => do
      return .messages (← Database.getMessages mailboxId afterSeq limit)
  | ackMessages mailboxId uptoSeq => do
      return .count (← Database.ackMessages mailboxId uptoSeq)
  | publishBundle bundleId payload opks now => do
      Database.publishBundle bundleId payload opks now
      return .done
  | fetchBundle bundleId => do
      return .bundle (← Database.fetchBundle bundleId)
  | putBlob chunkId mailboxId ciphertext now => do
      Database.putBlob chunkId mailboxId ciphertext now
      return .done
  | getBlob chunkId => do
      return .blob (← Database.getBlob chunkId)
  | deleteBlob chunkId => do
      Database.deleteBlob chunkId
      return .done
  | housekeeping now mailboxTtl blobTtl => do
      return .removed (← Database.housekeeping now mailboxTtl blobTtl)

namespace Database

/-- The tables after one request. -/
def serve (database : Database) (request : Request) : Database :=
  request.execute.after database

/-- The answer to a request. -/
def answer (database : Database) (request : Request) : Except Failure Response :=
  (request.execute.run database).1

def serveAll (database : Database) (requests : List Request) : Database :=
  requests.foldl serve database

/-- The tables a new relay can come to hold. -/
def Reachable (database : Database) : Prop :=
  ∃ requests, database = initial.serveAll requests

theorem serveAll_append (database : Database) (first second : List Request) :
    database.serveAll (first ++ second) =
      (database.serveAll first).serveAll second :=
  List.foldl_append

/-- An invariant of every request holds of every table a relay can hold. -/
theorem Reachable.induct {invariant : Database → Prop}
    (start : invariant initial)
    (step : ∀ database request, invariant database →
      invariant (database.serve request))
    {database : Database} (reachable : database.Reachable) :
    invariant database := by
  obtain ⟨requests, rfl⟩ := reachable
  suffices general : ∀ database, invariant database →
      invariant (database.serveAll requests) by
    exact general initial start
  induction requests with
  | nil => exact fun database holds => holds
  | cons request requests induction =>
      intro database holds
      exact induction (database.serve request) (step database request holds)

end Database

end NoKnowledge.Server

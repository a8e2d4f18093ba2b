import NoKnowledge.Crypto.Prekeys
import NoKnowledge.Server.Database

/-!
# The relay's endpoints

What a relay does with one HTTP request: it authenticates the request by
itself, consults its rate limiters and runs its database operations.  What a
request finds outside the relay, the clocks and the randomness, is given with
the request.

Times of the monotonic clock are microseconds.  A handler that raises keeps
what it has done before.
-/

namespace NoKnowledge.Server

structure SlidingWindowLimiter where
  limit : Nat
  window : Int
  events : Dict String (List Int) := Dict.empty
deriving DecidableEq

namespace SlidingWindowLimiter

/-- Whether one more event of a client fits into its window; if so it counts. -/
def allow (limiter : SlidingWindowLimiter) (key : String) (now : Int) :
    Bool × SlidingWindowLimiter :=
  if limiter.limit = 0 then (true, limiter)
  else
    let events := ((limiter.events.get? key).getD []).dropWhile fun event =>
      event < now - limiter.window
    if limiter.limit ≤ events.length then
      (false, { limiter with events := limiter.events.insert key events })
    else
      (true, { limiter with events := limiter.events.insert key (events ++ [now]) })

end SlidingWindowLimiter

/-- A running relay. -/
structure Relay where
  database : Database := {}
  create : SlidingWindowLimiter := ⟨30, 3600000000, Dict.empty⟩
  write : SlidingWindowLimiter := ⟨240, 60000000, Dict.empty⟩
  bundle : SlidingWindowLimiter := ⟨20, 3600000000, Dict.empty⟩
deriving DecidableEq

structure Settings where
  maxBlobBytes : Nat := 256 * 1024
  maxChunkBytes : Nat := 1024 * 1024
  maxMessagesPerMailbox : Nat := 1000
  maxBytesPerMailbox : Nat := 64 * 1024 * 1024
  maxWaitSeconds : Int := 60
  maxMessagesPerFetch : Nat := 200
  requireHashcash : Bool := false
  hashcashBits : Int := 20

structure HttpRequest where
  /-- Names in lower case. -/
  headers : List (String × String) := []
  body : Bytes := []
  /-- The address of the caller. -/
  host : String := "unknown"

/-- What a request finds outside the relay. -/
structure Moment where
  /-- `int(time.time())` -/
  now : Int
  monotonic : Int
  /-- How often a request that waits so many seconds looks again. -/
  polls : (wait : Int) → Nat
  /-- Bytes drawn from the system. -/
  draw : (place size : Nat) → Bytes

inductive HttpError where
  | http (status : Nat) (detail : String)
  | failure (failure : Failure)
deriving DecidableEq

inductive HttpResponse where
  | json (status : Nat) (body : Json)
  | content (body : Bytes)
deriving DecidableEq

abbrev RouteProg := Prog Relay HttpError

/-- Run one operation of the database. -/
def onDatabase {α : Type} (operation : Transaction α) : RouteProg α := fun relay =>
  match operation.run relay.database with
  | (.ok value, database) => (.ok value, { relay with database })
  | (.error failure, database) => (.error (.failure failure), { relay with database })

def refuseWith (condition : Bool) (status : Nat) (detail : String) : RouteProg Unit :=
  if condition then throw (.http status detail) else pure ()

/-- Answer the failures of an operation that have a status of their own. -/
def answering {α : Type} (body : RouteProg α) (status : Failure → Option (Nat × String)) :
    RouteProg α :=
  tryCatch body fun raised =>
    match raised with
    | .http code detail => throw (.http code detail)
    | .failure failure =>
        match status failure with
        | some (code, detail) => throw (.http code detail)
        | none => throw (.failure failure)

/-- Ask the limiter of a client. -/
def allowed (select : Relay → SlidingWindowLimiter)
    (store : Relay → SlidingWindowLimiter → Relay) (key : String) (now : Int)
    (detail : String) : RouteProg Unit := do
  let relay ← get
  let (fits, limiter) := (select relay).allow key now
  set (store relay limiter)
  refuseWith (!fits) 429 detail

namespace HttpRequest

/-- A header that is there and not empty. -/
def header (request : HttpRequest) (name : String) : Option String :=
  match request.headers.lookup name with
  | some "" => none
  | found => found

/-- The token in a header, when it can be decoded. -/
def token (request : HttpRequest) (name : String) : Option Bytes :=
  (request.header name).bind b64d

end HttpRequest

inductive Capability where
  | read
  | write
deriving DecidableEq

namespace Capability

def headerName : Capability → String
  | read => "x-nk-read"
  | write => "x-nk-write"

def tokenHash : Capability → MailboxRow → Bytes
  | read, row => row.readTokenHash
  | write, row => row.writeTokenHash

end Capability

variable (suite : Suite) (settings : Settings) (moment : Moment) (request : HttpRequest)

def tokenHash (token : Bytes) : Bytes := suite.sha256 token

def verifyToken (token storedHash : Bytes) : Bool :=
  if token.isEmpty || storedHash.isEmpty then false
  else decide (tokenHash suite token = storedHash)

/-- Validate a read or write capability for a mailbox. -/
def authenticateMailbox (mailboxId : String) (capability : Capability) :
    RouteProg MailboxRow := do
  match request.token capability.headerName with
  | none => throw (.http 401 "missing capability token")
  | some token =>
      match ← onDatabase (Database.getMailbox mailboxId) with
      | none => throw (.http 404 "mailbox not found")
      | some row =>
          if verifyToken suite token (capability.tokenHash row) then return row
          else throw (.http 401 "invalid capability token")

def mailboxIdFromHeader : RouteProg String :=
  match request.header "x-nk-mailbox" with
  | none => throw (.http 400 "missing X-NK-Mailbox header")
  | some mailboxId => pure mailboxId

/-- The characters of an identifier the client has chosen. -/
def isIdentifierCharacter (character : Char) : Bool :=
  let code := character.toNat
  (65 ≤ code && code ≤ 90) || (97 ≤ code && code ≤ 122) || (48 ≤ code && code ≤ 57) ||
    code = 95 || code = 45

/-- `^[A-Za-z0-9_-]{8,64}$`: a line break may follow. -/
def mailboxIdPattern (text : String) : Bool :=
  let body := match text.toList.reverse with
    | '\n' :: rest => rest
    | characters => characters
  8 ≤ body.length && body.length ≤ 64 && body.all isIdentifierCharacter

def leadingZeroBits (digest : Bytes) : Nat :=
  match digest with
  | [] => 0
  | byte :: rest =>
      if byte = 0 then 8 + leadingZeroBits rest else 7 - Nat.log2 byte.toNat

/-- Verify a stateless hashcash stamp `<timestamp>:<nonce>`. -/
def verifyHashcash (value : Option String) (bits : Int) : Bool :=
  if bits ≤ 0 then true
  else
    match value with
    | none => false
    | some value =>
        let before := value.toList.takeWhile (· ≠ ':')
        let nonce := value.toList.drop (before.length + 1)
        if value.toList.contains ':' then
          match Json.integerText before with
          | none => false
          | some timestamp =>
              if moment.now + 60 < timestamp || 3600 < moment.now - timestamp then false
              else
                let stamp := Json.dumpInt timestamp ++ ':' :: nonce
                bits ≤ leadingZeroBits (suite.sha256 (utf8 (String.ofList stamp)))
        else false

def readCapability (data : Json) : Except Raised (String × Bytes × Bytes) := do
  let mailboxId := (← data.item "mailbox_id").toText
  let readToken ← (← data.item "read_token").toBytes
  let writeToken ← (← data.item "write_token").toBytes
  return (mailboxId, readToken, writeToken)

def providedCapability (data : Json) : RouteProg (String × Bytes × Bytes) := do
  match readCapability data with
  | .error raised =>
      if raised.class_.isMalformed then throw (.http 400 "malformed capability")
      else throw (.failure (.raised raised))
  | .ok (mailboxId, readToken, writeToken) =>
      refuseWith (!mailboxIdPattern mailboxId) 400 "invalid mailbox id"
      refuseWith (readToken.length ≠ 32 || writeToken.length ≠ 32) 400
        "invalid token length"
      return (mailboxId, readToken, writeToken)

/-- A JSON body; one that is not UTF-8 is not malformed but raises. -/
def loadBody : RouteProg Json :=
  match decodeUtf8 request.body with
  | none => throw (.failure (.raised { class_ := .value }))
  | some text =>
      match Json.parse text.toList with
      | none => throw (.http 400 "malformed request body")
      | some data => pure data

/-- The identifier and tokens of the mailbox to create; the flag says that it
exists already. -/
def requestedCapability : RouteProg ((String × Bytes × Bytes) × Bool) := do
  if request.body.isEmpty then
    return ((b64e (moment.draw 0 16), moment.draw 1 32, moment.draw 2 32), false)
  else
    let data ← loadBody request
    let (mailboxId, readToken, writeToken) ← providedCapability data
    match ← onDatabase (Database.getMailbox mailboxId) with
    | none => return ((mailboxId, readToken, writeToken), false)
    | some row =>
        if verifyToken suite readToken row.readTokenHash &&
            verifyToken suite writeToken row.writeTokenHash then
          return ((mailboxId, readToken, writeToken), true)
        else throw (.http 409 "mailbox exists with different tokens")

def capabilityReply (mailboxId : String) (readToken writeToken : Bytes) : HttpResponse :=
  .json 201 (.mkObj [
    ("mailbox_id", .str mailboxId),
    ("read_token", .str (b64e readToken)),
    ("write_token", .str (b64e writeToken))])

def createMailbox : RouteProg HttpResponse := do
  allowed Relay.create (fun relay create => { relay with create }) request.host
    moment.monotonic "mailbox creation rate exceeded"
  refuseWith (settings.requireHashcash &&
      !verifyHashcash suite moment (request.header "x-nk-hashcash") settings.hashcashBits)
    400 "valid hashcash required"
  let ((mailboxId, readToken, writeToken), known) ←
    requestedCapability suite moment request
  if known then return capabilityReply mailboxId readToken writeToken
  else
    onDatabase (Database.createMailbox mailboxId (tokenHash suite readToken)
      (tokenHash suite writeToken) moment.now settings.maxMessagesPerMailbox
      settings.maxBytesPerMailbox)
    return capabilityReply mailboxId readToken writeToken

/-- Look for messages until there are some or the time is up. -/
def pollMessages (mailboxId : String) (afterSeq : Int) : Nat → RouteProg (List MessageRow)
  | 0 =>
      onDatabase (Database.getMessages mailboxId afterSeq settings.maxMessagesPerFetch)
  | polls + 1 => do
      let rows ←
        onDatabase (Database.getMessages mailboxId afterSeq settings.maxMessagesPerFetch)
      if rows.isEmpty then pollMessages mailboxId afterSeq polls else return rows

def getMailbox (mailboxId : String) (afterSeq wait : Int) : RouteProg HttpResponse := do
  let _ ← authenticateMailbox suite request mailboxId .read
  let wait := max 0 (min wait settings.maxWaitSeconds)
  let rows ← pollMessages settings mailboxId afterSeq (moment.polls wait)
  let nextSeq := (rows.getLast?.map fun row => (row.seq : Int)).getD afterSeq
  return .json 200 (.mkObj [
    ("messages", .arr (rows.map fun row =>
      .mkObj [("seq", .int row.seq), ("blob", .str (b64e row.ciphertext))])),
    ("next_seq", .int nextSeq)])

/-- The statuses of an upload the mailbox does not take. -/
def uploadStatus : Failure → Option (Nat × String)
  | .mailboxNotFound _ => some (404, "mailbox not found")
  | .quotaExceeded _ => some (429, "mailbox quota exceeded")
  | _ => none

def putMessage (mailboxId : String) : RouteProg HttpResponse := do
  let _ ← authenticateMailbox suite request mailboxId .write
  allowed Relay.write (fun relay write => { relay with write }) request.host
    moment.monotonic "write rate exceeded"
  refuseWith request.body.isEmpty 400 "empty message"
  refuseWith (settings.maxBlobBytes < request.body.length) 413 "message too large"
  let seq ← answering
    (onDatabase (Database.putMessage mailboxId request.body moment.now)) uploadStatus
  return .json 201 (.mkObj [("seq", .int seq)])

def readUptoSeq : Option Int := do
  let payload ← loadJson request.body
  match payload.item "upto_seq" with
  | .ok value => value.toInt?
  | .error _ => none

def ackMessages (mailboxId : String) : RouteProg HttpResponse := do
  let _ ← authenticateMailbox suite request mailboxId .read
  match readUptoSeq request with
  | none => throw (.http 400 "expected \x7bupto_seq: int\x7d")
  | some uptoSeq =>
      let deleted ← onDatabase (Database.ackMessages mailboxId uptoSeq)
      return .json 200 (.mkObj [("deleted", .int deleted)])

def deleteMailbox (mailboxId : String) : RouteProg HttpResponse := do
  let _ ← authenticateMailbox suite request mailboxId .read
  let (messages, blobs) ← onDatabase (Database.deleteMailbox mailboxId)
  return .json 200 (.mkObj [
    ("deleted_messages", .int messages), ("deleted_blobs", .int blobs)])

def hexText (data : Bytes) : String :=
  String.ofList (data.flatMap fun byte =>
    [Nat.digitChar (byte.toNat / 16), Nat.digitChar (byte.toNat % 16)])

/-- Accept a chunk id the client has chosen. -/
def readChunkId : RouteProg String :=
  match request.header "x-nk-chunk" with
  | none => pure (hexText (moment.draw 0 16))
  | some provided =>
      match b64d provided with
      | none => throw (.http 400 "malformed chunk id")
      | some raw =>
          if raw.length ≠ 16 then throw (.http 400 "invalid chunk id length")
          else pure provided

/-- The mailbox a stored chunk belongs to. -/
def chunkOwner (chunkId : String) : RouteProg (Option String) :=
  tryCatch (do return some (← onDatabase (Database.getBlob chunkId)).mailboxId) fun raised =>
    match raised with
    | .failure (.blobNotFound _) => pure none
    | other => throw other

def uploadBlob : RouteProg HttpResponse := do
  let mailboxId ← mailboxIdFromHeader request
  let _ ← authenticateMailbox suite request mailboxId .write
  allowed Relay.write (fun relay write => { relay with write }) request.host
    moment.monotonic "upload rate exceeded"
  refuseWith request.body.isEmpty 400 "empty chunk"
  refuseWith (settings.maxChunkBytes < request.body.length) 413 "chunk too large"
  let chunkId ← readChunkId moment request
  match ← chunkOwner chunkId with
  | some owner =>
      refuseWith (owner ≠ mailboxId) 409 "chunk id already in use"
      return .json 201 (.mkObj [("chunk_id", .str chunkId)])
  | none =>
      answering (onDatabase (Database.putBlob chunkId mailboxId request.body moment.now))
        uploadStatus
      return .json 201 (.mkObj [("chunk_id", .str chunkId)])

def blobStatus : Failure → Option (Nat × String)
  | .blobNotFound _ => some (404, "blob not found")
  | _ => none

def downloadBlob (chunkId : String) : RouteProg HttpResponse := do
  let mailboxId ← mailboxIdFromHeader request
  let _ ← authenticateMailbox suite request mailboxId .read
  let row ← answering (onDatabase (Database.getBlob chunkId)) blobStatus
  refuseWith (row.mailboxId ≠ mailboxId) 404 "blob not found"
  return .content row.ciphertext

def maxBundleBytes : Nat := 16 * 1024

/-- The bundle a body holds: its identifier, its fields and the one-time prekeys. -/
def readBundle : Option (String × List (String × Json) × List Json) := do
  let payload ← loadJson request.body
  match payload.item "bundle_id", payload with
  | .ok bundleId, .obj fields =>
      let opks ← (((Json.obj fields).getD "opks").orElse (.arr [])).elements.toOption
      some (bundleId.toText, fields, opks)
  | _, _ => none

/-- The fields without the one-time prekeys. -/
def storedFields (fields : List (String × Json)) : List (String × Json) :=
  match ((Json.obj fields).eraseField "opks").setField "opks" (.arr []) with
  | .obj stored => stored
  | _ => []

def publishBundle : RouteProg HttpResponse := do
  allowed Relay.bundle (fun relay bundle => { relay with bundle }) request.host
    moment.monotonic "prekey publish rate exceeded"
  refuseWith (request.body.isEmpty || maxBundleBytes < request.body.length) 413
    "invalid bundle size"
  match readBundle request with
  | none => throw (.http 400 "malformed bundle")
  | some (bundleId, fields, opks) =>
      refuseWith (maxOpks < opks.length) 400 "too many one-time prekeys"
      onDatabase (Database.publishBundle bundleId (storedFields fields) opks moment.now)
      return .json 201 (.mkObj [("bundle_id", .str bundleId)])

def bundleStatus : Failure → Option (Nat × String)
  | .bundleNotFound _ => some (404, "bundle not found")
  | _ => none

def fetchBundle (bundleId : String) : RouteProg HttpResponse := do
  let payload ← answering (onDatabase (Database.fetchBundle bundleId)) bundleStatus
  return .json 200 payload

def stats (database : Database) : Json :=
  .mkObj [
    ("mailboxes", .int database.mailboxes.length),
    ("messages", .int database.messages.length),
    ("blobs", .int database.blobs.length),
    ("bytes", .int ((database.messages.map MessageRow.size).sum +
      (database.blobs.map BlobRow.size).sum : Nat)),
    ("prekey_bundles", .int database.bundles.length)]

/-- The counts of the relay; the version is left out. -/
def health : RouteProg HttpResponse := do
  return .json 200 ((stats (← get).database).setField "status" (.str "ok"))

inductive Endpoint where
  | createMailbox
  | getMailbox (mailboxId : String) (afterSeq wait : Int)
  | putMessage (mailboxId : String)
  | ackMessages (mailboxId : String)
  | deleteMailbox (mailboxId : String)
  | uploadBlob
  | downloadBlob (chunkId : String)
  | publishBundle
  | fetchBundle (bundleId : String)
  | health
deriving DecidableEq

def Endpoint.handler : Endpoint → RouteProg HttpResponse
  | createMailbox => Server.createMailbox suite settings moment request
  | getMailbox mailboxId afterSeq wait =>
      Server.getMailbox suite settings moment request mailboxId afterSeq wait
  | putMessage mailboxId => Server.putMessage suite settings moment request mailboxId
  | ackMessages mailboxId => Server.ackMessages suite request mailboxId
  | deleteMailbox mailboxId => Server.deleteMailbox suite request mailboxId
  | uploadBlob => Server.uploadBlob suite settings moment request
  | downloadBlob chunkId => Server.downloadBlob suite request chunkId
  | publishBundle => Server.publishBundle moment request
  | fetchBundle bundleId => Server.fetchBundle bundleId
  | health => Server.health

def HttpError.response : HttpError → HttpResponse
  | http status detail => .json status (.mkObj [("detail", .str detail)])
  | failure _ => .json 500 (.str "Internal Server Error")

/-- The answer to a request and the relay after it. -/
def Relay.handle (relay : Relay) (endpoint : Endpoint) : HttpResponse × Relay :=
  match (endpoint.handler suite settings moment request).run relay with
  | (.ok response, relay) => (response, relay)
  | (.error raised, relay) => (raised.response, relay)

end NoKnowledge.Server

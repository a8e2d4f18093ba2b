import NoKnowledge.Core.Card
import NoKnowledge.Core.DeviceChannel
import NoKnowledge.Core.Store
import NoKnowledge.Wire.MultiRelay

/-!
# The world of a client

What a client reads and changes: its local store, its in-memory caches and the
relays.  Everything outside the client is an oracle: `Environment` fixes, for
every tick of a run, what a relay answers, which bytes are drawn and what the
clock shows.  A statement about every environment is a statement about every
behaviour of the relays.

`puts`, `records` and `acks` record what the client has handed to the relays;
the program never reads them.
-/

namespace NoKnowledge.Core

open NoKnowledge.Wire

/-- What a relay does with a blob. -/
inductive Delivery where
  | accepted
  /-- The relay has no such mailbox. -/
  | notFound
  /-- No answer, or a refusal; the blob may have been stored nevertheless. -/
  | failed
deriving DecidableEq, Repr

structure Environment where
  /-- Byte of the randomness drawn at a tick. -/
  draw : (tick place : Nat) → UInt8
  /-- Microseconds since the epoch. -/
  clock : (tick : Nat) → Int
  put : (tick : Nat) → (url : String) → MailboxCapability → Bytes → Delivery
  fetchBundle : (tick : Nat) → (url bundleId : String) → Option Json
  publishBundle : (tick : Nat) → (url bundleId : String) → Bytes → Bool
  putBlob : (tick : Nat) → (url : String) → MailboxCapability → (chunkId : String) →
    Bytes → Bool
  fetchInbox : (tick : Nat) → (url : String) → Option Rows
  /-- Whether the relay carries an acknowledgement out. -/
  ack : (tick : Nat) → (url : String) → Bool

/-- Relays that accept everything and have nothing; the bytes drawn spell the tick. -/
def Environment.idle : Environment where
  draw := fun tick _ => UInt8.ofNat tick
  clock := fun _ => 1000000000
  put := fun _ _ _ _ => .accepted
  fetchBundle := fun _ _ _ => none
  publishBundle := fun _ _ _ _ => true
  putBlob := fun _ _ _ _ _ => true
  fetchInbox := fun _ _ => none
  ack := fun _ _ => true

/-- A provisioned client. -/
structure Account where
  identity : Identity
  relays : List String
  inbox : MailboxCapability
  bundleId : String
  deviceId : String
  name : String

/-- The account of the concrete runs. -/
def Account.specimen : Account where
  identity := ⟨[1], [2]⟩
  relays := ["https://relay"]
  inbox := { mailboxId := "inbox", writeToken := "w", readToken := some "r" }
  bundleId := "bundle"
  deviceId := "d"
  name := "specimen"

/-- A blob handed to the relays of a mailbox. -/
structure Put where
  urls : List String
  capability : MailboxCapability
  blob : Bytes
deriving DecidableEq

/-- A device record handed to the relays of a device. -/
structure SentRecord where
  deviceId : String
  call : Channel.SealCall
deriving DecidableEq

/-- Identity of a message for deduplication. -/
inductive MessageKey where
  | remote (contactId direction : Json) (remoteId : String)
  | own (contactId direction : Json) (ts : Int) (type digest : String)
deriving DecidableEq

/-- The messages a merge knows, by their keys. -/
abbrev MessageIndex := Dict MessageKey Message

structure World where
  store : Store
  siblingKeys : Dict String (DeviceKeys × Int) := Dict.empty
  deviceList : Option DeviceList := none
  deviceListTs : Int := 0
  /-- The message index of an incoming transfer. -/
  syncMessageIndex : Option MessageIndex := none
  tick : Nat := 0
  puts : List Put := []
  records : List SentRecord := []
  acks : List (String × Int) := []
deriving DecidableEq

abbrev ClientProg := Prog World Raised

/-- Run a store operation. -/
def onStore {α : Type} (body : StoreProg α) : ClientProg α := fun world =>
  match body.run world.store with
  | (result, store) => (result, { world with store })

/-- Look at the store. -/
def askStore {α : Type} (question : Store → α) : ClientProg α := do
  return question (← get).store

section Effects

variable (environment : Environment)

/-- Consult the environment once. -/
def consult {α : Type} (answer : Nat → α) : ClientProg α := do
  let world ← get
  set { world with tick := world.tick + 1 }
  return answer world.tick

/-- `os.urandom(size)` -/
def urandom (size : Nat) : ClientProg Bytes :=
  consult fun tick => (List.range size).map (environment.draw tick)

/-- The bytes drawn at a tick. -/
def drawnAt (size tick : Nat) : Bytes := (List.range size).map (environment.draw tick)

/-- `time.time()`, in microseconds. -/
def time : ClientProg Int := consult environment.clock

/-- `int(time.time() * 1000)` -/
def nowMs : ClientProg Int := do return (← time environment) / 1000

/-- `int(time.time())` -/
def nowSeconds : ClientProg Int := do return (← time environment) / 1000000

/-- The version and variant bits of a random identifier. -/
def uuidBits (data : Bytes) : Bytes :=
  data.zipIdx.map fun (byte, place) =>
    if place = 6 then (byte &&& 0x0F) ||| 0x40
    else if place = 8 then (byte &&& 0x3F) ||| 0x80
    else byte

/-- `uuid.uuid4().hex` -/
def newId : ClientProg String := do
  return Channel.hex (uuidBits (← urandom environment 16))

/-- One relay URL in normal form; `none` when nothing is left of it. -/
def cleanUrl (url : String) : Option String :=
  let stripped := Json.strip url.toList
  let cleaned := (stripped.reverse.dropWhile (· = '/')).reverse
  if cleaned.isEmpty then none
  else if "http://".toList.isPrefixOf cleaned || "https://".toList.isPrefixOf cleaned
    then some (String.ofList cleaned)
  else some ("https://" ++ String.ofList cleaned)

def normalizeRelayUrls (urls : List String) : List String :=
  urls.foldl (fun seen url =>
    match cleanUrl url with
    | none => seen
    | some cleaned => if cleaned ∈ seen then seen else seen ++ [cleaned]) []

/-- The URLs among untyped relay entries. -/
def relayTexts (relays : List Json) : Except Raised (List String) :=
  relays.mapM fun relay =>
    match relay with
    | .str url => .ok url
    | _ => .error { class_ := .attribute, text := "strip" }

/-- The relays that reach a peer, or our own. -/
def backendFor (account : Account) (relays : List Json) :
    Except Raised (List String) := do
  let urls := normalizeRelayUrls (← relayTexts relays)
  return if urls.isEmpty then account.relays else urls

def putOne (urls : List String) (capability : MailboxCapability) (blob : Bytes)
    (tick : Nat) : Except Raised Unit :=
  let outcomes := urls.zipIdx.map fun (url, place) =>
    environment.put (tick + place) url capability blob
  if outcomes.contains .accepted then .ok ()
  else if outcomes.contains .failed then
    .error { class_ := .allRelaysFailed, text := "no relay accepted the message" }
  else
    .error { class_ := .relayNotFound, text := "mailbox not found on any relay" }

/-- `MultiRelayBackend.put` -/
def put (urls : List String) (capability : MailboxCapability) (blob : Bytes) :
    ClientProg Unit := do
  let world ← get
  let sent : Put := { urls, capability, blob }
  set { world with
    tick := world.tick + urls.length
    puts := world.puts ++ [sent] }
  Prog.lift (putOne environment urls capability blob world.tick)

/-- The first relay that has the bundle answers. -/
def firstBundle (bundleId : String) : List String → Nat → Option Json
  | [], _ => none
  | url :: urls, tick =>
      match environment.fetchBundle tick url bundleId with
      | some bundle => some bundle
      | none => firstBundle bundleId urls (tick + 1)

/-- `MultiRelayBackend.fetch_bundle` -/
def fetchBundle (urls : List String) (bundleId : String) : ClientProg Json := do
  let world ← get
  set { world with tick := world.tick + urls.length }
  match firstBundle environment bundleId urls world.tick with
  | some bundle => return bundle
  | none => throw { class_ := .relayNotFound, text := "bundle not found on any relay" }

/-- `MultiRelayBackend.put_blob`: the identifier the chunk was stored under. -/
def putBlob (urls : List String) (capability : MailboxCapability) (chunk : Bytes) :
    ClientProg String := do
  let chunkId := b64e (← urandom environment 16)
  let world ← get
  set { world with tick := world.tick + urls.length }
  if urls.zipIdx.any fun (url, place) =>
      environment.putBlob (world.tick + place) url capability chunkId chunk then
    return chunkId
  else throw { class_ := .allRelaysFailed, text := "could not upload chunk" }

/-- `MultiRelayBackend.fetch` of the own inbox. -/
def fetchInbox (urls : List String) : ClientProg (List FetchedMessage) := do
  let world ← get
  set { world with tick := world.tick + urls.length }
  let answers := urls.zipIdx.foldl (fun answers (url, place) =>
    match environment.fetchInbox (world.tick + place) url with
    | some rows => answers.insert url rows
    | none => answers) Dict.empty
  return collect urls answers

/-- `MultiRelayBackend.ack` of the own inbox. -/
def ack (urls : List String) (cursors : Dict String Int) : ClientProg Unit := do
  let world ← get
  let targets := acknowledgements urls cursors
  let done := (targets.zipIdx.filter fun (entry : (String × Int) × Nat) =>
    environment.ack (world.tick + entry.2) entry.1.1).map Prod.fst
  set { world with
    tick := world.tick + targets.length
    acks := world.acks ++ done }

end Effects

variable {environment : Environment}

theorem run_urandom (size : Nat) (world : World) :
    (urandom environment size).run world =
      (.ok (drawnAt environment size world.tick), { world with tick := world.tick + 1 }) := rfl

theorem length_drawnAt (size tick : Nat) : (drawnAt environment size tick).length = size := by
  simp [drawnAt]

theorem length_urandom {size : Nat} {world final : World} {data : Bytes}
    (drawn : (urandom environment size).run world = (.ok data, final)) :
    data.length = size := by
  cases drawn
  exact length_drawnAt size world.tick

end NoKnowledge.Core

import NoKnowledge.Core.TransferCompletion

/-!
# Requests of failed approvals

A sibling that asks for history is listed until its request is handled.  The
listing hides the devices of the approval table, and an approval enters that
table after its first record is out and before the history is: when a later
record cannot be written, the request stays stored and is no longer listed.
-/

namespace NoKnowledge.Core.FailedApprovals

open Prog Sync

variable {suite : Suite} {environment : Environment} {account : Account}

/-- A request as the listing shows it. -/
structure Request where
  deviceId : String
  since : Json
  ts : Json
  transfer : Json
deriving DecidableEq

/-- A listed request, with the name its device is known by. -/
structure PendingRequest extends Request where
  name : String

/-- `left < right` for the numbers and the texts of the request table. -/
def less : Json → Json → Except Raised Bool
  | .int left, .int right => .ok (left < right)
  | .str left, .str right => .ok (left < right)
  | _, _ => .error { class_ := .type }

/-- Newest first; of two requests of one time the earlier one stays ahead. -/
def insertRequest (request : Request) : List Request → Except Raised (List Request)
  | [] => .ok [request]
  | head :: tail => do
      if ← less head.ts request.ts then return request :: head :: tail
      else return head :: (← insertRequest request tail)

/-- `sorted(out, key=lambda item: item["ts"], reverse=True)` -/
def newestFirst (requests : List Request) : Except Raised (List Request) :=
  requests.foldlM (fun ordered request => insertRequest request ordered) []

/-- `device_id in approvals(client)`; the table is an object wherever it is written. -/
def holds (approved : Json) (deviceId : String) : Except Raised Bool :=
  match approved with
  | .obj fields => .ok (fields.lookup deviceId).isSome
  | _ => .error { class_ := .type }

def readRequest (deviceId : String) (request : Json) : Except Raised Request := do
  return {
    deviceId
    since := (← request.attempt "since").orElse (.int 0)
    ts := (← request.attempt "ts").orElse (.int 0)
    transfer := ← request.attempt "transfer" }

/-- The request of one device, unless it has been handled. -/
def collectRequest (approved : Json) (requests : List Request)
    (entry : String × Json) : Except Raised (List Request) := do
  if ← holds approved entry.1 then return requests
  else return requests ++ [← readRequest entry.1 entry.2]

/-- The requests that are not handled, newest first. -/
def unhandled (pending approved : Json) : Except Raised (List Request) :=
  match pending with
  | .obj fields => do
      newestFirst (← fields.foldlM (collectRequest approved) [])
  | _ => .error { class_ := .attribute, text := "items" }

def nameOf (known : List DeviceEntry) (deviceId : String) : String :=
  ((known.reverse.find? fun device => device.deviceId = deviceId).map
    DeviceEntry.name).getD ""

variable (suite environment account) in
/-- Devices asking for history, newest first, with the name we know them by.  The
name takes no part in the order and is looked up last. -/
def pendingRequests : ClientProg (List PendingRequest) := do
  let pending ← askStore fun store => stateOrEmpty store requestsState
  let known ← listedDevices suite environment account false
  let approved ← approvals
  let requests ← Prog.lift (unhandled pending approved)
  return requests.map fun request => { request with name := nameOf known request.deviceId }

/-- The tables the listing is made of. -/
def tables (world : World) : Json × Json :=
  (stateOrEmpty world.store requestsState, stateOrEmpty world.store approvalsState)

/-- A request that is stored and not handled. -/
def Awaits (tables : Json × Json) (deviceId : String) : Prop :=
  ∃ requests, unhandled tables.1 tables.2 = .ok requests ∧
    ∃ request ∈ requests, request.deviceId = deviceId

variable (suite account) in
/-- The request of a device is listed: there is a listing, and whatever the relays
answer, every listing has it. -/
def Listed (world : World) (deviceId : String) : Prop :=
  (∃ environment entries final,
    (pendingRequests suite environment account).run world = (.ok entries, final)) ∧
  ∀ environment entries final,
    (pendingRequests suite environment account).run world = (.ok entries, final) →
      ∃ entry ∈ entries, entry.deviceId = deviceId

theorem quiet_tables : Quiet (keeping tables) where
  tick := fun _ _ => rfl
  put := fun _ _ => rfl
  siblingKeys := fun _ _ => rfl
  deviceList := fun _ _ _ => rfl
  deviceKeys := by
    intro world value
    have requests : requestsState ≠ deviceKeysState := by decide
    have approvals : approvalsState ≠ deviceKeysState := by decide
    simp [keeping, tables, stateOrEmpty, World.withState, Store.getState,
      Dict.get?_insert, requests, approvals]

theorem pendingRequests_returns {world final : World} {entries : List PendingRequest}
    (returned : (pendingRequests suite environment account).run world =
      (.ok entries, final)) :
    ∃ requests, unhandled (tables world).1 (tables world).2 = .ok requests ∧
      entries.map PendingRequest.toRequest = requests := by
  obtain ⟨pending, _, asked, rest⟩ := bind_returns returned
  cases asked
  obtain ⟨known, middle, listed, rest⟩ := bind_returns rest
  have same : tables middle = tables world :=
    (@Quiet.listedDevices _ suite environment account quiet_tables false).view listed
  obtain ⟨approved, _, asked, rest⟩ := bind_returns rest
  cases asked
  obtain ⟨requests, _, lifted, rest⟩ := bind_returns rest
  obtain ⟨found, -⟩ := lift_returns lifted
  cases rest
  refine ⟨requests, ?_, ?_⟩
  · have approved : (tables middle).2 = (tables world).2 := by rw [same]
    rw [← approved]
    exact found
  · rw [List.map_map]
    exact List.map_id requests

theorem firstBundle_idle (bundleId : String) (urls : List String) (tick : Nat) :
    firstBundle .idle bundleId urls tick = none := by
  induction urls generalizing tick with
  | nil => rfl
  | cons url urls induction => exact induction (tick + 1)

/-- A client whose relays have nothing keeps the list it has cached. -/
theorem fetchOwnDeviceList_idle (world : World) :
    ∃ final, (fetchOwnDeviceList suite .idle account).run world = (.ok none, final) := by
  have fetched : (attempt (fetchBundle .idle account.relays (deviceListId suite
      (account.identity.edPublic suite) (account.identity.xPublic suite)))).run world =
        (.ok none, { world with tick := world.tick + account.relays.length }) := by
    simp [attempt, run_tryCatch, fetchBundle, run_bind, firstBundle_idle]
  exact ⟨_, run_bind_ok fetched⟩

theorem listedDevices_idle (fresh : Bool) (world : World) :
    ∃ devices final, (listedDevices suite .idle account fresh).run world =
      (.ok devices, final) := by
  have cached : ∀ maxAge, ∃ listing final,
      (ownDeviceList suite .idle account maxAge).run world = (.ok listing, final) := by
    intro maxAge
    unfold ownDeviceList
    rw [run_bind_ok (run_get world)]
    obtain ⟨now, middle, clocked⟩ : ∃ now middle,
        (time .idle).run world = (.ok now, middle) := ⟨_, _, rfl⟩
    rw [run_bind_ok clocked]
    split
    · exact ⟨_, _, rfl⟩
    · obtain ⟨final, fetched⟩ := @fetchOwnDeviceList_idle suite account middle
      rw [run_bind_ok fetched]
      exact ⟨_, _, rfl⟩
  obtain ⟨listing, final, ran⟩ := cached (if fresh then 0 else deviceListMaxAge)
  exact ⟨_, final, run_bind_ok ran⟩

/-- The listing of a client whose relays have nothing. -/
theorem pendingRequests_idle {world : World} {requests : List Request}
    (found : unhandled (tables world).1 (tables world).2 = .ok requests) :
    ∃ entries final, (pendingRequests suite .idle account).run world =
      (.ok entries, final) := by
  obtain ⟨known, middle, listed⟩ := @listedDevices_idle suite account false world
  have same : tables middle = tables world :=
    (@Quiet.listedDevices _ suite .idle account quiet_tables false).view listed
  unfold pendingRequests
  rw [run_bind_ok (run_askStore _ world), run_bind_ok listed]
  have approved : (tables middle).2 = (tables world).2 := by rw [same]
  have lifted : (Prog.lift (unhandled (stateOrEmpty world.store requestsState)
      (tables middle).2) : ClientProg (List Request)).run middle = (.ok requests, middle) :=
    run_lift_eq (approved ▸ found) middle
  have asked : approvals.run middle = (.ok (tables middle).2, middle) := rfl
  rw [run_bind_ok asked, run_bind_ok lifted]
  exact ⟨_, _, rfl⟩

theorem listed_iff {world : World} {deviceId : String} :
    Listed suite account world deviceId ↔ Awaits (tables world) deviceId := by
  constructor
  · rintro ⟨⟨environment, entries, final, returned⟩, every⟩
    obtain ⟨requests, found, same⟩ := pendingRequests_returns returned
    obtain ⟨entry, member, named⟩ := every environment entries final returned
    exact ⟨requests, found, entry.toRequest, same ▸ List.mem_map_of_mem member, named⟩
  · rintro ⟨requests, found, request, member, named⟩
    constructor
    · exact ⟨.idle, pendingRequests_idle found⟩
    · intro environment entries final returned
      obtain ⟨others, again, same⟩ := pendingRequests_returns returned
      rw [found] at again
      cases again
      rw [← same] at member
      obtain ⟨entry, listed, rfl⟩ := List.mem_map.mp member
      exact ⟨entry, listed, named⟩

theorem mem_insertRequest {request other : Request} {ordered result : List Request}
    (inserted : insertRequest request ordered = .ok result) :
    other ∈ result ↔ other = request ∨ other ∈ ordered := by
  induction ordered generalizing result with
  | nil =>
      cases inserted
      simp
  | cons head tail induction =>
      obtain ⟨before, -, inserted⟩ := except_bind_eq_ok.mp inserted
      split at inserted
      · cases inserted
        simp
      · obtain ⟨rest, later, inserted⟩ := except_bind_eq_ok.mp inserted
        cases inserted
        rw [List.mem_cons, induction later, List.mem_cons]
        tauto

/-- Sorting keeps the requests. -/
theorem mem_newestFirst {requests result : List Request} {request : Request}
    (sorted : newestFirst requests = .ok result) (member : request ∈ result) :
    request ∈ requests := by
  have every : ∀ other ∈ result, other ∈ requests := by
    apply foldlM_preserves _ _ sorted
    · intro ordered item here next earlier inserted other found
      rcases (mem_insertRequest inserted).mp found with rfl | old
      · exact here
      · exact earlier other old
    · intro other impossible
      cases impossible
  exact every request member

/-- What is collected was not handled, by a table that says what is. -/
theorem collected_unhandled {approved : Json} {fields : List (String × Json)}
    {requests : List Request}
    (collected : fields.foldlM (collectRequest approved) [] = .ok requests) :
    ∀ request ∈ requests, holds approved request.deviceId = .ok false := by
  apply foldlM_preserves _ _ collected
  · intro earlier entry _ next spared ran
    obtain ⟨handled, held, ran⟩ := except_bind_eq_ok.mp ran
    split at ran
    · cases ran
      exact spared
    · rename_i open_
      obtain ⟨request, read, ran⟩ := except_bind_eq_ok.mp ran
      cases ran
      intro other member
      rcases List.mem_append.mp member with old | last
      · exact spared other old
      · rw [List.mem_singleton.mp last]
        have named : request.deviceId = entry.1 := by
          simp only [readRequest, except_bind_eq_ok] at read
          obtain ⟨_, -, _, -, _, -, read⟩ := read
          cases read
          rfl
        rw [named, held]
        exact congrArg _ (Bool.not_eq_true _ ▸ open_)
  · intro request impossible
    cases impossible

/-- A listed device is not in the approval table. -/
theorem Awaits.unhandled {found : Json × Json} {deviceId : String}
    (awaits : Awaits found deviceId) : holds found.2 deviceId = .ok false := by
  obtain ⟨requests, listed, request, member, rfl⟩ := awaits
  unfold FailedApprovals.unhandled at listed
  split at listed
  · obtain ⟨collected, ran, sorted⟩ := except_bind_eq_ok.mp listed
    exact collected_unhandled ran request (mem_newestFirst sorted member)
  · cases listed

theorem holds_eq_false {approved : Json} {deviceId : String}
    (open_ : holds approved deviceId = .ok false) :
    ∃ fields, approved = .obj fields := by
  cases approved with
  | obj fields => exact ⟨fields, rfl⟩
  | _ => cases open_

theorem insertField_ne_nil (key : String) (value : Json) (fields : List (String × Json)) :
    Json.insertField key value fields ≠ [] := by
  cases fields with
  | nil => exact List.cons_ne_nil _ _
  | cons field fields =>
      unfold Json.insertField
      split
      · exact List.cons_ne_nil _ _
      · split
        · exact List.cons_ne_nil _ _
        · exact List.cons_ne_nil _ _

/-- A device that is set in the table is in the table that is read. -/
theorem holds_withState {world : World} {fields : List (String × Json)} {entry : Json}
    (deviceId : String) :
    holds (tables (world.withState approvalsState
      ((Json.obj fields).setField deviceId entry))).2 deviceId = .ok true := by
  have stored : (world.withState approvalsState
      ((Json.obj fields).setField deviceId entry)).store.getState approvalsState =
        .obj (Json.insertField deviceId entry fields) := by
    simp [World.withState, Store.getState, Json.setField]
  have filled : (Json.insertField deviceId entry fields).isEmpty = false := by
    rw [List.isEmpty_eq_false_iff]
    exact insertField_ne_nil deviceId entry fields
  have read : (tables (world.withState approvalsState
      ((Json.obj fields).setField deviceId entry))).2 =
        .obj (Json.insertField deviceId entry fields) := by
    show (Store.getState _ approvalsState).orElse (.obj []) = _
    rw [stored]
    simp [Json.orElse, Json.truthy, filled]
  rw [read]
  simp [holds, Json.lookup_insertField]

theorem integerOr_int (value default : Int) :
    ∃ number, integerOr (.int value) default = .ok number := by
  unfold integerOr Json.orElse
  split
  · exact ⟨value, rfl⟩
  · exact ⟨default, rfl⟩

/-- Marking a device approved enters it in the table. -/
theorem markApproved_enters {world : World} {deviceId transfer : String}
    {since until_ : Int} (open_ : holds (tables world).2 deviceId = .ok false) :
    ∃ marked, (markApproved environment deviceId transfer (.int since) (.int until_)).run
        world = (.ok (), marked) ∧
      holds (tables marked).2 deviceId = .ok true := by
  obtain ⟨fields, table⟩ := holds_eq_false open_
  have asked : approvals.run world = (.ok (.obj fields), world) := by
    rw [← table]
    rfl
  obtain ⟨start, began⟩ := integerOr_int since 0
  unfold markApproved
  rw [run_bind_ok asked, run_bind_ok (run_lift_eq began world),
    run_bind_ok (run_nowMs world)]
  obtain ⟨finish, ended⟩ := integerOr_int until_ (environment.clock world.tick / 1000)
  rw [run_bind_ok (run_lift_eq ended _), run_bind_ok (run_nowMs _)]
  exact ⟨_, rfl, holds_withState deviceId⟩

/-- What an approval has announced to the device. -/
structure Announcement where
  device : DeviceEntry
  pending : Json
  since : Int
  budget : Int
  transfer : String
  until_ : Int

variable (suite environment account) in
/-- An approval up to its first record. -/
def announceApproval (deviceId : String) (since budget : Option Int) :
    ClientProg Announcement := do
  match ← locateDevice suite environment account deviceId with
  | none => throw (unavailable ("unknown device: " ++ deviceId))
  | some device =>
      let pending ← askStore fun store => stateOrEmpty store requestsState
      let since ← Prog.lift (grantedSince pending deviceId since)
      let budget := budget.getD History.defaultBudgetBytes
      let transfer ← newTransferId environment
      let until_ ← nowMs environment
      writeRecord suite environment account device Channel.approval
        (canonicalJson (.mkObj [
          ("device", .str deviceId), ("since", .int since), ("until", .int until_),
          ("budget", .int budget)]))
        transfer 0 (rangeFields since until_)
      return { device, pending, since, budget, transfer, until_ }

variable (suite environment account) in
/-- An approval after its first record. -/
def grantHistory (deviceId : String) (announcement : Announcement) :
    ClientProg (Nat × Nat) := do
  markApproved environment deviceId announcement.transfer (.int announcement.since)
    (.int announcement.until_)
  let counts ← sendHistory suite environment account announcement.device
    announcement.since announcement.until_ announcement.budget announcement.transfer
  onStore (Store.setState requestsState (announcement.pending.eraseField deviceId))
  return counts

theorem approveDevice_eq (deviceId : String) (since budget : Option Int) :
    approveDevice suite environment account deviceId since budget =
      announceApproval suite environment account deviceId since budget >>=
        grantHistory suite environment account deviceId := by
  unfold approveDevice announceApproval
  have := lawful (σ := World) (ε := Raised)
  simp only [bind_assoc]
  congr 1
  funext located
  cases located with
  | none => rfl
  | some device =>
      simp only [bind_assoc, pure_bind]
      rfl

theorem announceApproval_keeps (deviceId : String) (since budget : Option Int) :
    Keeps (keeping tables)
      (announceApproval suite environment account deviceId since budget) := by
  apply keeps_bind (quiet_tables.locateDevice deviceId)
  intro located
  split
  · exact keeps_throw _
  · apply keeps_bind (keeps_askStore _)
    intro pending
    apply keeps_bind (keeps_lift _)
    intro since
    apply keeps_bind (quiet_tables.newTransferId)
    intro transfer
    apply keeps_bind quiet_tables.nowMs
    intro until_
    exact keeps_bind (quiet_tables.writeRecord fun _ _ _ => rfl) fun _ => keeps_pure _

theorem sendHistory_keeps (announcement : Announcement) :
    Keeps (keeping tables)
      (sendHistory suite environment account announcement.device announcement.since
        announcement.until_ announcement.budget announcement.transfer) := fun _ =>
  Permissive.rel_sendHistory quiet_tables (fun _ _ _ _ _ => rfl)
    (fun _ _ _ _ _ _ _ _ _ => rfl) (fun _ _ _ _ _ => rfl)

theorem tables_withRequests (world : World) (value : Json) :
    (tables (world.withState requestsState value)).2 = (tables world).2 := by
  have other : approvalsState ≠ requestsState := by decide
  simp [tables, stateOrEmpty, World.withState, Store.getState, Dict.get?_insert, other]

/-- Once it is announced, an approval leaves the device in the table. -/
theorem grantHistory_enters {world : World} {deviceId : String}
    {announcement : Announcement}
    (open_ : holds (tables world).2 deviceId = .ok false) :
    holds (tables ((grantHistory suite environment account deviceId announcement).after
      world)).2 deviceId = .ok true := by
  obtain ⟨marked, ran, entered⟩ := @markApproved_enters environment world deviceId
    announcement.transfer announcement.since announcement.until_ open_
  have kept : Keeps (keeping fun world : World => (tables world).2)
      (sendHistory suite environment account announcement.device announcement.since
          announcement.until_ announcement.budget announcement.transfer >>= fun counts =>
        onStore (Store.setState requestsState (announcement.pending.eraseField deviceId))
          >>= fun _ => pure counts) := by
    apply keeps_bind
    · intro world
      exact congrArg Prod.snd (sendHistory_keeps announcement world)
    · intro counts
      apply keeps_bind
      · intro world
        exact tables_withRequests world _
      · exact fun _ => keeps_pure _
  have same := kept marked
  unfold grantHistory
  rw [after_bind_ok ran]
  rw [← entered]
  exact congrArg (holds · deviceId) same

variable (suite environment account) in
/-- The approval fails by its first record. -/
def AnnouncementFails (world : World) (deviceId : String) (since budget : Option Int) :
    Prop :=
  ∃ raised stopped,
    (announceApproval suite environment account deviceId since budget).run world =
      (.error raised, stopped)

/-- A request whose approval was announced is not listed any more. -/
theorem announced_unlisted {world middle final : World} {deviceId : String}
    {since budget : Option Int} {announcement : Announcement}
    {outcome : Except Raised (Nat × Nat)}
    (listed : Listed suite account world deviceId)
    (announced : (announceApproval suite environment account deviceId since budget).run
      world = (.ok announcement, middle))
    (ended : (approveDevice suite environment account deviceId since budget).run world =
      (outcome, final)) : ¬ Listed suite account final deviceId := by
  rw [approveDevice_eq, run_bind_ok announced] at ended
  have same : tables middle = tables world :=
    (announceApproval_keeps deviceId since budget).view announced
  have open_ : holds (tables middle).2 deviceId = .ok false := by
    rw [same]
    exact (listed_iff.mp listed).unhandled
  have entered := @grantHistory_enters suite environment account middle deviceId
    announcement open_
  rw [after_eq ended] at entered
  intro still
  rw [(listed_iff.mp still).unhandled] at entered
  cases entered

/-- The request of a device whose approval has failed is listed exactly when the
approval failed by its first record: it is hidden once a later one fails. -/
theorem failed_approvals_stay_listed {world final : World} {deviceId : String}
    {since budget : Option Int} {raised : Raised}
    (listed : Listed suite account world deviceId)
    (failed : (approveDevice suite environment account deviceId since budget).run world =
      (.error raised, final)) :
    Listed suite account final deviceId ↔
      AnnouncementFails suite environment account world deviceId since budget := by
  rcases ran : (announceApproval suite environment account deviceId since budget).run world
    with ⟨outcome, middle⟩
  cases outcome with
  | ok announcement =>
      constructor
      · intro still
        exact absurd still (announced_unlisted listed ran failed)
      · rintro ⟨other, stopped, fails⟩
        rw [ran] at fails
        cases fails
  | error other =>
      constructor
      · exact fun _ => ⟨other, middle, ran⟩
      · intro _
        rw [approveDevice_eq, run_bind_error ran] at failed
        cases failed
        apply listed_iff.mpr
        rw [(announceApproval_keeps deviceId since budget).view ran]
        exact listed_iff.mp listed

/-- Relays that accept nothing from some tick on. -/
def failingFrom (tick : Nat) : Environment :=
  { Environment.idle with
    put := fun now _ _ _ => if now < tick then .accepted else .failed }

/-- A device whose sibling has asked for history. -/
def asked : World :=
  (TransferCompletion.deviceBeside "r").withState requestsState (.obj [("r", .obj [
    ("since", .int 0), ("transfer", .str "t"), ("ts", .int 5)])])

theorem asked_listed : Listed TransferCompletion.plain (TransferCompletion.accountOf "s")
    asked "r" := by
  apply listed_iff.mpr
  exact ⟨[⟨"r", .int 0, .int 5, .str "t"⟩], by rfl, _, List.mem_singleton_self _, rfl⟩

section Runs

open TransferCompletion

attribute [local irreducible] blobOf

def refusal : Raised :=
  { class_ := .allRelaysFailed, text := "no relay accepted the message" }

/-- What the relays answer to a record of the sender. -/
def answerTo (first tick : Nat) : Except Raised Unit :=
  if tick + 4 < first then .ok () else .error refusal

/-- The sender when it has written a record, to relays that fail at some point. -/
theorem run_write {world : World} {first : Nat} {shape : RecordShape}
    (own : world.store.getState deviceKeysState =
      (deviceBeside "r").store.getState deviceKeysState)
    (keys : world.siblingKeys = (deviceBeside "r").siblingKeys)
    (sealed : Channel.sealRecord plain (friendCall shape world.tick) =
      .ok (blobOf (friendCall shape world.tick))) :
    (writeRecord plain (failingFrom first) (accountOf "s") (deviceNamed "r") shape.kind
      shape.plaintext shape.transferId shape.seq shape.extra).run world =
      (answerTo first world.tick,
        world.withRecord ⟨"r", friendCall shape world.tick⟩
          (sentTo (friendCall shape world.tick))) := by
  have cached : world.siblingKeys.get? (deviceNamed "r").deviceId =
      some (keysOf "r", 1000000000) := by
    rw [keys]
    decide
  have answered : putOne (failingFrom first) ["https://relay"]
      { mailboxId := "r", writeToken := "w" } (blobOf (friendCall shape world.tick))
        (world.tick + 4) = answerTo first world.tick := by
    unfold answerTo putOne failingFrom refusal
    by_cases early : world.tick + 4 < first <;> simp [early]
  rw [← answered]
  exact @run_writeRecord plain (failingFrom first) (accountOf "s") world (deviceNamed "r")
    (keysOf "r") [5] [2] 1000000000 (own_keys own) cached
    (Int.lt_trans recent (by decide)) _ _ _ _ _ _ sealed ["https://relay"]
    (by decide) _ (by decide +kernel)

/-- The announcement to the sibling that waits. -/
def announcement : Announcement where
  device := deviceNamed "r"
  pending := stateOrEmpty asked.store requestsState
  since := 0
  budget := History.defaultBudgetBytes
  transfer := friendTransfer
  until_ := 1000000

def askedAt (tick : Nat) : World := { asked with tick }

/-- The sender when the approval is written. -/
def allowed : World := (askedAt 3).withRecord ⟨"r", friendApproval⟩ (sentTo friendApproval)

theorem run_announcement (first : Nat) :
    (announceApproval plain (failingFrom first) (accountOf "s") "r" none none).run asked =
      ((answerTo first 3).map fun _ => announcement, allowed) := by
  have acquainted : Acquainted (failingFrom first) asked (deviceNamed "r") (keysOf "r") [2] :=
    acquainted_of rfl rfl rfl rfl (by decide)
  have located : (locateDevice plain (failingFrom first) (accountOf "s") "r").run asked =
      (.ok (some (deviceNamed "r")), askedAt 1) := acquainted.run_locateDevice
  have pending : (askStore fun store => stateOrEmpty store requestsState).run (askedAt 1) =
      (.ok (stateOrEmpty asked.store requestsState), askedAt 1) := rfl
  have granted : grantedSince (stateOrEmpty asked.store requestsState) "r" none = .ok 0 := by
    rfl
  have drawn : (newTransferId (failingFrom first)).run (askedAt 1) =
      (.ok friendTransfer, askedAt 2) := by
    have text : b64e (drawnAt Environment.idle 16 1) = friendTransfer := by
      decide
    rw [← text]
    rfl
  have clocked : (nowMs (failingFrom first)).run (askedAt 2) =
      (.ok 1000000, askedAt 3) := by
    rfl
  have written : (writeRecord plain (failingFrom first) (accountOf "s") (deviceNamed "r")
      approvalShaped.kind approvalShaped.plaintext approvalShaped.transferId
      approvalShaped.seq approvalShaped.extra).run (askedAt 3) =
        (answerTo first 3, allowed) :=
    @run_write (askedAt 3) first approvalShaped (by decide) rfl sealed_approval
  unfold announceApproval
  rw [run_bind_ok located]
  dsimp only
  rw [run_bind_ok pending, run_bind_ok (run_lift_eq granted _), run_bind_ok drawn,
    run_bind_ok clocked]
  cases answer : answerTo first 3 with
  | ok done =>
      rw [answer] at written
      exact run_bind_ok written
  | error raised =>
      rw [answer] at written
      exact run_bind_error written

/-- The relays refuse the first record of the approval: the request stays listed. -/
theorem failed_approvals_stay_listed_refused :
    (approveDevice plain (failingFrom 0) (accountOf "s") "r" none none).run asked =
      (.error refusal, allowed) ∧ Listed plain (accountOf "s") allowed "r" := by
  have fails : (announceApproval plain (failingFrom 0) (accountOf "s") "r" none none).run
      asked = (.error refusal, allowed) := run_announcement 0
  have failed : (approveDevice plain (failingFrom 0) (accountOf "s") "r" none none).run
      asked = (.error refusal, allowed) := by
    rw [approveDevice_eq]
    exact run_bind_error fails
  exact ⟨failed, (failed_approvals_stay_listed asked_listed failed).mpr ⟨_, _, fails⟩⟩

/-- The sender when the approval is filed. -/
def marked : World :=
  { allowed.withState approvalsState (.mkObj [("r", .mkObj [
      ("transfer", .str friendTransfer), ("since", .int 0), ("until", .int 1000000),
      ("ts", .int 1000000)])]) with tick := 10 }

theorem marked_items : buildItems marked.store
    ((accountOf "s").identity.identityId plain) 0 1000000 History.defaultBudgetBytes =
      .ok ([friendPayload], 0) :=
  TransferCompletion.marked_items

def refused : World := marked.withRecord ⟨"r", friendOffer⟩ (sentTo friendOffer)

/-- The relays refuse the offer: the request of a listed device is no longer listed,
though its approval has failed. -/
theorem request_is_hidden_after_failure :
    ∃ environment raised final,
      Listed plain (accountOf "s") asked "r" ∧
      (approveDevice plain environment (accountOf "s") "r" none none).run asked =
        (.error raised, final) ∧
      ¬ Listed plain (accountOf "s") final "r" := by
  have announced : (announceApproval plain (failingFrom 10) (accountOf "s") "r" none
      none).run asked = (.ok announcement, allowed) := run_announcement 10
  have marks : (markApproved (failingFrom 10) "r" friendTransfer (.int 0)
      (.int 1000000)).run allowed = (.ok (), marked) := by
    rfl
  have offered : (writeRecord plain (failingFrom 10) (accountOf "s") (deviceNamed "r")
      offerShaped.kind offerShaped.plaintext offerShaped.transferId offerShaped.seq
      offerShaped.extra).run marked = (.error refusal, refused) :=
    @run_write marked 10 offerShaped (by decide) rfl sealed_offer
  have sends : (sendHistory plain (failingFrom 10) (accountOf "s") (deviceNamed "r") 0
      1000000 History.defaultBudgetBytes friendTransfer).run marked =
        (.error refusal, refused) := by
    unfold sendHistory
    rw [run_bind_ok (run_askStore id marked)]
    dsimp only [id]
    rw [run_bind_ok (run_lift_eq marked_items marked)]
    exact run_bind_error offered
  have failed : (approveDevice plain (failingFrom 10) (accountOf "s") "r" none none).run
      asked = (.error refusal, refused) := by
    rw [approveDevice_eq, run_bind_ok announced]
    unfold grantHistory
    rw [show announcement.transfer = friendTransfer from rfl]
    refine (run_bind_ok marks).trans ?_
    exact run_bind_error sends
  exact ⟨failingFrom 10, refusal, refused, asked_listed, failed,
    announced_unlisted asked_listed announced failed⟩

end Runs

end NoKnowledge.Core.FailedApprovals

import NoKnowledge.Core.DeviceSteps
import NoKnowledge.Core.RecordDelivery

/-!
# Mirrors and consent

A mirror goes to the devices of the approval table.  The user of a device writes
that table by approving and revoking; so does an approval that arrives from a
sibling, which is filed without asking whether the user has asked for it.
Mirrors follow the user's consent along the runs in which every such approval
comes from a device that was approved or asked since it was last revoked.
-/

namespace NoKnowledge.Core.Consent

open Prog Sync

variable {suite : Suite} {environment : Environment} {account : Account}

theorem approvedIn_withState {world : World} {key : String} (other : key ≠ approvalsState)
    (value : Json) (deviceId : String) :
    approvedIn (world.withState key value).store deviceId =
      approvedIn world.store deviceId := by
  have same : (world.withState key value).store.getState approvalsState =
      world.store.getState approvalsState := by
    simp [World.withState, Store.getState, Dict.get?_insert, other.symm]
  simp only [approvedIn, stateOrEmpty, same]

/-- What a written approval table names is what was written. -/
theorem approvedIn_written {world : World} {value : Json} {deviceId : String}
    (approved : approvedIn (world.withState approvalsState value).store deviceId = true) :
    (value.get? deviceId).isSome = true := by
  have written : (world.withState approvalsState value).store.getState approvalsState =
      value := by
    simp [World.withState, Store.getState]
  simp only [approvedIn, stateOrEmpty, written, Json.orElse] at approved
  split at approved
  · exact approved
  · cases approved

theorem isSome_get?_setField {value entry : Json} {key other : String}
    (found : ((value.setField key entry).get? other).isSome = true) :
    (value.get? other).isSome = true ∨ other = key := by
  cases value with
  | obj fields =>
      rw [Json.get?_setField] at found
      split at found
      · exact Or.inr ‹_›
      · exact Or.inl found
  | _ => cases found

/-- Approvals are old or granted, and new mirrors go to devices with one. -/
structure Discreet (granted : String → Prop) (first second : World) : Prop where
  approvals : ∀ deviceId, approvedIn second.store deviceId = true →
    approvedIn first.store deviceId = true ∨ granted deviceId
  records : ∃ new, second.records = first.records ++ new ∧
    ∀ record ∈ new, record.call.kind = Channel.mirror →
      approvedIn first.store record.deviceId = true ∨ granted record.deviceId

variable {granted : String → Prop}

theorem Discreet.of_same {first second : World}
    (approvals : ∀ deviceId, approvedIn second.store deviceId =
      approvedIn first.store deviceId)
    (records : second.records = first.records) : Discreet granted first second where
  approvals := fun deviceId approved => Or.inl (approvals deviceId ▸ approved)
  records := ⟨[], by simp [records], by simp⟩

theorem Discreet.trans {first second third : World}
    (left : Discreet granted first second) (right : Discreet granted second third) :
    Discreet granted first third where
  approvals := by
    intro deviceId approved
    rcases right.approvals deviceId approved with earlier | given
    · exact left.approvals deviceId earlier
    · exact Or.inr given
  records := by
    obtain ⟨leftNew, leftRecords, leftMirrors⟩ := left.records
    obtain ⟨rightNew, rightRecords, rightMirrors⟩ := right.records
    refine ⟨leftNew ++ rightNew, ?_, ?_⟩
    · rw [rightRecords, leftRecords, List.append_assoc]
    · intro record member kind
      rcases List.mem_append.mp member with inLeft | inRight
      · exact leftMirrors record inLeft kind
      · rcases rightMirrors record inRight kind with earlier | given
        · exact left.approvals record.deviceId earlier
        · exact Or.inr given

variable (granted) in
def discreet : Frame World where
  rel := Discreet granted
  refl := fun _ => .of_same (fun _ => rfl) rfl
  trans := Discreet.trans

/-- A record that is no mirror. -/
theorem discreet_record {kind : Nat} (other : kind ≠ Channel.mirror) :
    AllowsRecord (discreet granted) kind := by
  intro world record same
  refine ⟨fun deviceId approved => Or.inl approved, [record], rfl, ?_⟩
  intro new member isMirror
  rw [List.mem_singleton.mp member, same] at isMirror
  exact absurd isMirror other

theorem discreet_mirrors : AllowsMirrors (discreet granted) := by
  intro origin world record passed _ approved
  obtain ⟨new, records, mirrors⟩ := passed.records
  refine ⟨passed.approvals, new ++ [record], ?_, ?_⟩
  · rw [records, List.append_assoc]
  · intro other member kind
    rcases List.mem_append.mp member with old | last
    · exact mirrors other old kind
    · rw [List.mem_singleton.mp last]
      exact Or.inl approved

theorem permissive_discreet : Permissive (discreet granted) where
  quiet := {
    tick := fun _ _ => .of_same (fun _ => rfl) rfl
    put := fun _ _ => .of_same (fun _ => rfl) rfl
    siblingKeys := fun _ _ => .of_same (fun _ => rfl) rfl
    deviceList := fun _ _ _ => .of_same (fun _ => rfl) rfl
    deviceKeys := fun _ value => .of_same (approvedIn_withState (by decide) value) rfl }
  mirror := discreet_mirrors
  sessions := fun _ _ _ => .of_same (fun _ => rfl) rfl
  outbox := fun _ _ => .of_same (fun _ => rfl) rfl
  localBlobs := fun _ _ => .of_same (fun _ => rfl) rfl
  prekeys := fun _ _ _ _ => .of_same (fun _ => rfl) rfl
  state := fun _ other _ _ value => .of_same (approvedIn_withState other value) rfl
  messages := fun _ _ => .of_same (fun _ => rfl) rfl
  index := fun _ _ => .of_same (fun _ => rfl) rfl

theorem discreet_contacts : AllowsContacts (discreet granted) :=
  fun _ _ => .of_same (fun _ => rfl) rfl

/-- Approving a device that is granted an approval. -/
theorem discreet_markApproved {deviceId : String} (given : granted deviceId)
    (transfer : String) (since until_ : Json) :
    Keeps (discreet granted)
      (markApproved environment deviceId transfer since until_) := by
  intro world
  refine keeps_bind_run (keeps_askStore _ world) ?_
  rintro value _ ⟨⟩
  refine keeps_bind_run (keeps_lift _ world) ?_
  intro since middle returned
  obtain ⟨-, rfl⟩ := lift_returns returned
  refine keeps_bind_run (permissive_discreet.quiet.nowMs middle) ?_
  rintro now _ ⟨⟩
  refine keeps_bind_run (keeps_lift _ _) ?_
  intro until_ later returned
  obtain ⟨-, rfl⟩ := lift_returns returned
  refine keeps_bind_run (permissive_discreet.quiet.nowMs _) ?_
  rintro ts _ ⟨⟩
  refine ⟨?_, [], (List.append_nil _).symm, by simp⟩
  intro other approved
  rcases isSome_get?_setField (approvedIn_written approved) with earlier | rfl
  · exact Or.inl earlier
  · exact Or.inr given

theorem revokeApproval_discreet (deviceId : String) (world : World) :
    Discreet granted world ((revokeApproval deviceId).after world) ∧
      approvedIn ((revokeApproval deviceId).after world).store deviceId = false := by
  have written : (revokeApproval deviceId).after world = world.withState approvalsState
      ((stateOrEmpty world.store approvalsState).eraseField deviceId) := rfl
  rw [written]
  refine ⟨⟨?_, [], (List.append_nil _).symm, by simp⟩, ?_⟩
  · intro other approved
    have found := approvedIn_written approved
    rw [Json.get?_eraseField] at found
    split at found
    · cases found
    · exact Or.inl found
  · rw [← Bool.not_eq_true]
    intro approved
    have found := approvedIn_written approved
    rw [Json.get?_eraseField, if_pos rfl] at found
    cases found

/-- What happens on a device, as far as consent is concerned. -/
inductive Event where
  /-- The user approves a device. -/
  | approved (deviceId : String)
  | revoked (deviceId : String)
  /-- The user asks devices for history. -/
  | asked (deviceIds : List String)
  /-- A mirror is written to a device. -/
  | mirrored (deviceId : String)
deriving DecidableEq

/-- Since its last revocation a device was approved or asked; the events are
listed from the newest to the oldest. -/
def Entitled (deviceId : String) : List Event → Prop
  | [] => False
  | .approved other :: earlier => other = deviceId ∨ Entitled deviceId earlier
  | .revoked other :: earlier => other ≠ deviceId ∧ Entitled deviceId earlier
  | .asked others :: earlier => deviceId ∈ others ∨ Entitled deviceId earlier
  | .mirrored _ :: earlier => Entitled deviceId earlier

/-- Every mirror was written to a device that was entitled by then. -/
def Consented : List Event → Prop
  | [] => True
  | .mirrored deviceId :: earlier => Entitled deviceId earlier ∧ Consented earlier
  | _ :: earlier => Consented earlier

variable (suite environment account)

/-- What the user does by a step. -/
def callEvents (world : World) : DeviceStep → List Event
  | .approveDevice deviceId _ _ => [.approved deviceId]
  | .revokeApproval deviceId => [.revoked deviceId]
  | .requestHistory since budget =>
      match (requestHistory suite environment account since budget).run world with
      | (.ok asked, _) => [.asked asked]
      | (.error _, _) => []
  | _ => []

/-- The mirrors that were written from one world to a later one. -/
def mirrorEvents (first second : World) : List Event :=
  (((second.records.drop first.records.length).filter fun record =>
    record.call.kind = Channel.mirror).map fun record =>
      .mirrored record.deviceId).reverse

/-- Runs of a device whose steps are admitted when their turn comes. -/
inductive Run (admits : World → List Event → DeviceStep → Prop) :
    World → List Event → Prop
  | start {world : World} (none : ∀ deviceId, approvedIn world.store deviceId = false) :
      Run admits world []
  | step {world : World} {trace : List Event} (step : DeviceStep)
      (reached : Run admits world trace) (admitted : admits world trace step) :
      Run admits ((step.program suite environment account).after world)
        (mirrorEvents world ((step.program suite environment account).after world) ++
          callEvents suite environment account world step ++ trace)

/-- An approval that arrives comes from a device that was approved or asked, or
has been handled already. -/
def Invited (world : World) (trace : List Event) : DeviceStep → Prop
  | .handleRecord blob => ∀ deviceId header plaintext middle,
      (openInbound suite environment account blob).run world =
        (.ok (deviceId, Channel.approval, header, plaintext), middle) →
      listed (world.store.getState seenState)
        ((header.getD "transfer").orElse (.str "")).toText = false →
      Entitled deviceId trace
  | _ => True

variable {suite environment account}

theorem entitled_mirrored {deviceId : String} (deviceIds : List String)
    (trace : List Event) :
    Entitled deviceId (deviceIds.map Event.mirrored ++ trace) ↔
      Entitled deviceId trace := by
  induction deviceIds with
  | nil => exact Iff.rfl
  | cons other others induction => exact induction

theorem consented_mirrored {deviceIds : List String} {trace : List Event}
    (entitled : ∀ deviceId ∈ deviceIds, Entitled deviceId trace)
    (consented : Consented trace) :
    Consented (deviceIds.map Event.mirrored ++ trace) := by
  induction deviceIds with
  | nil => exact consented
  | cons deviceId deviceIds induction =>
      refine ⟨(entitled_mirrored deviceIds trace).mpr (entitled deviceId (by simp)), ?_⟩
      exact induction fun other member => entitled other (by simp [member])

/-- A step that grants approvals to entitled devices only. -/
theorem Discreet.consented {first second : World} {trace : List Event}
    (passed : Discreet granted first second)
    (approvals : ∀ deviceId, approvedIn first.store deviceId = true →
      Entitled deviceId trace)
    (given : ∀ deviceId, granted deviceId → Entitled deviceId trace)
    (consented : Consented trace) :
    (∀ deviceId, approvedIn second.store deviceId = true →
      Entitled deviceId (mirrorEvents first second ++ trace)) ∧
    Consented (mirrorEvents first second ++ trace) := by
  have either : ∀ deviceId, approvedIn first.store deviceId = true ∨ granted deviceId →
      Entitled deviceId trace :=
    fun deviceId known => known.elim (approvals deviceId) (given deviceId)
  obtain ⟨new, records, mirrors⟩ := passed.records
  have events : mirrorEvents first second = ((new.filter fun record =>
      record.call.kind = Channel.mirror).map SentRecord.deviceId).reverse.map
        Event.mirrored := by
    simp [mirrorEvents, records, List.map_reverse]
  rw [events]
  constructor
  · intro deviceId approved
    exact (entitled_mirrored _ trace).mpr
      (either deviceId (passed.approvals deviceId approved))
  · apply consented_mirrored _ consented
    intro deviceId member
    obtain ⟨record, filtered, rfl⟩ := List.mem_map.mp (List.mem_reverse.mp member)
    obtain ⟨written, kind⟩ := List.mem_filter.mp filtered
    exact either _ (mirrors record written (of_decide_eq_true kind))

/-- The states a record is opened in are those it arrived in. -/
theorem quiet_tables :
    Quiet (keeping fun world : World =>
      (world.store.getState seenState, world.store.getState approvalsState,
        world.records)) where
  tick := fun _ _ => rfl
  put := fun _ _ => rfl
  siblingKeys := fun _ _ => rfl
  deviceList := fun _ _ _ => rfl
  deviceKeys := by
    intro world value
    have seen : seenState ≠ deviceKeysState := by decide
    have approvals : approvalsState ≠ deviceKeysState := by decide
    simp [keeping, World.withState, Store.getState, Dict.get?_insert, seen, approvals]

/-- An approval that arrives is filed once, for a device that may have it. -/
theorem discreet_approval {deviceId transfer : String} {world : World}
    (given : listed (world.store.getState seenState) transfer = false →
      granted deviceId) (header : Json) (plaintext : Bytes) :
    (discreet granted).rel world ((dispatch suite environment account deviceId transfer
      Channel.approval header plaintext).after world) := by
  rw [Permissive.dispatch_approval]
  refine keeps_bind_run (permissive_discreet.markSeen transfer world) ?_
  intro fresh middle returned
  split
  · apply discreet_markApproved (given ?_)
    rw [← Bool.not_eq_true]
    intro seen
    unfold markSeen at returned
    rw [run_bind_ok (run_askStore _ _), if_pos seen] at returned
    cases returned
    contradiction
  · exact (discreet granted).refl middle

theorem discreet_handleRecord {blob : Bytes} {world : World}
    (invited : ∀ deviceId header plaintext middle,
      (openInbound suite environment account blob).run world =
        (.ok (deviceId, Channel.approval, header, plaintext), middle) →
      listed (world.store.getState seenState)
        ((header.getD "transfer").orElse (.str "")).toText = false →
      granted deviceId) :
    Discreet granted world ((handleRecord suite environment account blob).after world) := by
  have handled : Handled suite environment account _ blob world _ :=
    quiet_tables.handleRecord blob world
  generalize (handleRecord suite environment account blob).after world = final
    at handled ⊢
  have early : ∀ {middle : World}, (keeping fun world : World =>
      (world.store.getState seenState, world.store.getState approvalsState,
        world.records)).rel world middle →
      Discreet granted world middle ∧
        middle.store.getState seenState = world.store.getState seenState := by
    intro middle passed
    obtain ⟨seen, rest⟩ := Prod.mk.inj passed
    obtain ⟨approvals, records⟩ := Prod.mk.inj rest
    refine ⟨.of_same (fun deviceId => ?_) records, seen⟩
    simp only [approvedIn, stateOrEmpty, approvals]
  cases handled with
  | stopped passed => exact (early passed).1
  | @opened middle passed plaintext deviceId kind header returned =>
      refine (early passed).1.trans ?_
      by_cases isApproval : kind = Channel.approval
      · subst isApproval
        apply discreet_approval
        rw [(early passed).2]
        exact invited _ _ _ _ returned
      · exact permissive_discreet.dispatch discreet_contacts isApproval
          (fun _ _ value => .of_same (approvedIn_withState (by decide) value) rfl)
          _ _ _ _ middle

/-- A step that does not write approvals. -/
theorem discreet_plain {step : DeviceStep} {world : World} (plain : ¬ step.Approves) :
    Discreet granted world ((step.program suite environment account).after world) :=
  permissive_discreet.step discreet_contacts (discreet_record (by decide)) plain world

theorem discreet_approveDevice {deviceId : String} {world : World}
    (given : granted deviceId) (since budget : Option Int) :
    Discreet granted world ((DeviceStep.program suite environment account
      (.approveDevice deviceId since budget)).after world) :=
  keeps_discard (permissive_discreet.approveDevice (fun _ => discreet_record)
    (fun _ _ _ => discreet_markApproved given _ _ _) since budget) world

/-- Calls that revoke nothing keep every entitlement. -/
theorem entitled_requestHistory {deviceId : String} {trace : List Event}
    (entitled : Entitled deviceId trace) (world : World) (since : Int)
    (budget : Option Int) :
    Entitled deviceId (callEvents suite environment account world
      (.requestHistory since budget) ++ trace) := by
  rcases ran : (requestHistory suite environment account since budget).run world
    with ⟨_ | asked, after⟩
  · simp only [callEvents, ran]
    exact entitled
  · simp only [callEvents, ran]
    exact Or.inr entitled

theorem consented_callEvents {trace : List Event} (consented : Consented trace)
    (world : World) (step : DeviceStep) :
    Consented (callEvents suite environment account world step ++ trace) := by
  cases step with
  | requestHistory since budget =>
      rcases ran : (requestHistory suite environment account since budget).run world
        with ⟨_ | asked, after⟩ <;>
      · simp only [callEvents, ran]
        exact consented
  | _ => exact consented

theorem Run.invariant {world : World} {trace : List Event}
    (run : Run suite environment account (Invited suite environment account) world
      trace) :
    (∀ deviceId, approvedIn world.store deviceId = true → Entitled deviceId trace) ∧
      Consented trace := by
  induction run with
  | start none =>
      refine ⟨fun deviceId approved => ?_, trivial⟩
      rw [none deviceId] at approved
      cases approved
  | @step world trace step reached admitted induction =>
      obtain ⟨approvals, earlier⟩ := induction
      have consented := @consented_callEvents suite environment account _ earlier world step
      rw [List.append_assoc]
      cases step with
      | approveDevice deviceId since budget =>
          exact Discreet.consented (discreet_approveDevice (Or.inl rfl) since budget)
            (fun other approved => Or.inr (approvals other approved)) (fun _ => id)
            consented
      | revokeApproval deviceId =>
          obtain ⟨passed, gone⟩ := @revokeApproval_discreet (fun _ => False) deviceId world
          have quiet : mirrorEvents world ((DeviceStep.program suite environment account
              (.revokeApproval deviceId)).after world) = [] := by
            have records : ((revokeApproval deviceId).after world).records =
                world.records := rfl
            show mirrorEvents world ((revokeApproval deviceId).after world) = []
            simp [mirrorEvents, records]
          rw [quiet]
          refine ⟨fun other approved => ⟨?_, ?_⟩, earlier⟩
          · rintro rfl
            exact absurd (gone ▸ approved) Bool.false_ne_true
          · exact (passed.approvals other approved).elim (approvals other) False.elim
      | requestHistory since budget =>
          exact Discreet.consented (discreet_plain fun impossible => impossible)
            (fun other approved =>
              entitled_requestHistory (approvals other approved) world since budget)
            (fun _ => id) consented
      | handleRecord blob =>
          exact Discreet.consented (discreet_handleRecord admitted) approvals (fun _ => id)
            consented
      | _ =>
          exact Discreet.consented (discreet_plain fun impossible => impossible) approvals
            (fun _ => id) consented

/-- In every run in which the approvals that arrive are invited, every mirror is
written to a device that the user has approved or asked since its last
revocation. -/
theorem mirrors_follow_consent {world : World} {trace : List Event}
    (run : Run suite environment account (Invited suite environment account) world
      trace) :
    ∀ later deviceId earlier, trace = later ++ .mirrored deviceId :: earlier →
      Entitled deviceId earlier := by
  have consented := run.invariant.2
  clear run
  intro later deviceId earlier split
  subst split
  induction later with
  | nil => exact consented.1
  | cons event later induction =>
      cases event with
      | mirrored other => exact induction consented.2
      | _ => exact induction consented

/-- A device of the account that its user has neither approved nor asked. -/
def stranger : DeviceEntry where
  deviceId := "e"
  inbox := .mkObj [("id", .str "e"), ("w", .str "w")]
  relays := [.str "https://relay"]
  bundleId := "e"

def strangerKeys : DeviceKeys where
  deviceId := "e"
  sdev := Channel.tokens.signingPublic [3]
  sagree := Channel.tokens.dhPublic [4]
  isign := []
  idh := []

/-- The stranger's approval of the device. -/
def approvalCall : Channel.SealCall where
  kind := Channel.approval
  plaintext := utf8 "{}"
  recipientSagree := Channel.tokens.dhPublic [2]
  senderDeviceId := "e"
  senderSdevPrivate := [3]
  transferId := "t"
  extra := rangeFields 0 0
  ephemeralPrivate := [1]
  nonce := List.replicate 12 0
  timestamp := 0

def approvalBlob : Bytes :=
  (Channel.sealRecord Channel.tokens approvalCall).toOption.getD []

def correspondent : ContactRow where
  identityId := Account.specimen.identity.identityId Symbolic.suite
  id := "peer"
  nickname := none
  isign := []
  idh := []
  bundleId := none
  inbox := .obj []
  relays := []
  session := none
  verified := false
  createdAt := 1

def unreadMessage : Message where
  id := "m"
  identityId := Account.specimen.identity.identityId Symbolic.suite
  contactId := "peer"
  direction := "received"
  type := "text"
  body := .obj []
  remoteId := some "r"
  ts := 5
  state := some "received"

/-- A device with one sibling, the stranger, and a message that has not been read. -/
def watched : World where
  store := {
    contacts := ⟨[correspondent], List.nodup_singleton _⟩
    messages := ⟨[unreadMessage], List.nodup_singleton _⟩
    state := Dict.empty.insert deviceKeysState
      (.mkObj [("sdev", .str (b64e [5])), ("sagree", .str (b64e [2]))]) }
  siblingKeys := Dict.empty.insert "e" (strangerKeys, 1000000000)
  deviceList := some {
    account := "", devices := [stranger], updated := 0, isign := [], idh := [] }
  deviceListTs := 1000000000

theorem watched_acquainted : Acquainted .idle watched stranger strangerKeys [2] where
  listed := ⟨_, rfl, rfl⟩
  listRecent := by decide
  keys := ⟨1000000000, rfl, by decide⟩
  own := ⟨[5], fun _ => rfl⟩

theorem watched_unapproved (deviceId : String) :
    approvedIn watched.store deviceId = false := rfl

/-- The stranger seals its approval. -/
theorem approvalCall_sealed :
    Channel.sealRecord Channel.tokens approvalCall = .ok approvalBlob := by
  have succeeds : (Channel.sealRecord Channel.tokens approvalCall).toOption.isSome =
      true := by
    decide +kernel
  unfold approvalBlob
  cases ran : Channel.sealRecord Channel.tokens approvalCall with
  | error raised =>
      rw [ran] at succeeds
      cases succeeds
  | ok blob => rfl

def afterStep (step : DeviceStep) (world : World) : World :=
  (step.program (Channel.guarded [approvalCall]) .idle .specimen).after world

/-- What the stranger's approval does. -/
def filed : World :=
  (dispatch (Channel.guarded [approvalCall]) .idle .specimen "e" "t" Channel.approval
    (approvalCall.header Channel.tokens) (utf8 "{}")).after { watched with tick := 2 }

theorem afterStep_approval : afterStep (.handleRecord approvalBlob) watched = filed := by
  have ran : (handleRecord (Channel.guarded [approvalCall]) .idle .specimen
      approvalBlob).run watched = _ :=
    watched_acquainted.run_sealed (List.mem_singleton_self approvalCall)
      approvalCall_sealed rfl rfl rfl rfl
  unfold afterStep filed
  exact after_congr ran

/-- Relays that fail after the first records. -/
def failing : Environment :=
  { Environment.idle with
    put := fun tick _ _ _ => if tick < 8 then .accepted else .failed }

def afterFailing (step : DeviceStep) (world : World) : World :=
  (step.program (Channel.guarded [approvalCall]) failing .specimen).after world

/-- The user approves the stranger, the back-fill fails, and the message the user
reads is mirrored. -/
theorem mirrors_follow_consent_approved :
    ∃ world, Run (Channel.guarded [approvalCall]) failing .specimen
        (Invited (Channel.guarded [approvalCall]) failing .specimen) world
        [.mirrored "e", .approved "e"] ∧
      Entitled "e" [.approved "e"] := by
  have start : Run (Channel.guarded [approvalCall]) failing .specimen
      (Invited (Channel.guarded [approvalCall]) failing .specimen) watched [] :=
    .start watched_unapproved
  have read := (start.step (.approveDevice "e" (some 0) none) trivial).step
    (.markRead "peer" "m") trivial
  have written : mirrorEvents watched
        (afterFailing (.approveDevice "e" (some 0) none) watched) = [] ∧
      mirrorEvents (afterFailing (.approveDevice "e" (some 0) none) watched)
        (afterFailing (.markRead "peer" "m")
          (afterFailing (.approveDevice "e" (some 0) none) watched)) =
            [.mirrored "e"] := by
    decide +kernel
  unfold afterFailing at written
  rw [written.1, written.2] at read
  exact ⟨_, read, mirrors_follow_consent read [] "e" [.approved "e"] rfl⟩

/-- A device that was neither approved nor asked sends its own approval, and what
the user reads next is mirrored to it. -/
theorem uninvited_approval_is_mirrored :
    Run (Channel.guarded [approvalCall]) .idle .specimen (fun _ _ _ => True)
        (afterStep (.markRead "peer" "m")
          (afterStep (.handleRecord approvalBlob) watched)) [.mirrored "e"] ∧
      ¬ Entitled "e" [] := by
  have start : Run (Channel.guarded [approvalCall]) .idle .specimen (fun _ _ _ => True)
      watched [] := .start watched_unapproved
  have read := (start.step (.handleRecord approvalBlob) trivial).step
    (.markRead "peer" "m") trivial
  have written : mirrorEvents watched (afterStep (.handleRecord approvalBlob) watched) =
        [] ∧
      mirrorEvents (afterStep (.handleRecord approvalBlob) watched)
        (afterStep (.markRead "peer" "m")
          (afterStep (.handleRecord approvalBlob) watched)) = [.mirrored "e"] := by
    rw [afterStep_approval]
    decide +kernel
  unfold afterStep at written
  rw [written.1, written.2] at read
  exact ⟨read, id⟩

end NoKnowledge.Core.Consent

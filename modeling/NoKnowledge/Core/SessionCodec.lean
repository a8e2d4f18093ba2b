import NoKnowledge.Core.SignedRecords
import NoKnowledge.Core.Session
import NoKnowledge.Crypto.RatchetBound

/-!
# Stored sessions

The sessions of a contact are stored as one JSON value, and every message goes through
it.  Three encoders are nested: that of the state, of a session and of a ratchet.  What
they drop is put back by the decoders for every state a run of sessions produces.
-/

namespace NoKnowledge

/-- `f"{b64e(dh)}:{number}"` -/
def labelText (label : Bytes × Int) : String :=
  b64e label.1 ++ ":" ++ String.ofList (Json.dumpInt label.2)

/-- A character that neither prefix has separates them from the rest. -/
theorem split_at_separator {α : Type} {separator : α} {left left' right right' : List α}
    (absent : separator ∉ left) (absent' : separator ∉ left')
    (same : left ++ separator :: right = left' ++ separator :: right') :
    left = left' ∧ right = right' := by
  induction left generalizing left' with
  | nil =>
      cases left' with
      | nil => exact ⟨rfl, (List.cons.inj same).2⟩
      | cons head tail =>
          exact absurd ((List.cons.inj same).1 ▸ List.mem_cons_self) absent'
  | cons head tail induction =>
      cases left' with
      | nil => exact absurd ((List.cons.inj same).1 ▸ List.mem_cons_self) absent
      | cons head' tail' =>
          obtain ⟨heads, tails⟩ := List.cons.inj same
          obtain ⟨rest, rights⟩ := induction (fun member => absent (.tail _ member))
            (fun member => absent' (.tail _ member)) tails
          exact ⟨by rw [heads, rest], rights⟩

theorem labelText_injective : Function.Injective labelText := by
  rintro ⟨dh, number⟩ ⟨dh', number'⟩ same
  have characters := congrArg String.toList same
  simp only [labelText, b64e, String.toList_append, String.toList_ofList,
    List.append_assoc] at characters
  obtain ⟨keys, numbers⟩ := split_at_separator (colon_not_mem_encode dh)
    (colon_not_mem_encode dh') characters
  exact Prod.ext (b64e_injective (congrArg String.ofList keys))
    (Json.dumpInt_injective numbers)

/-- A ratchet state with the skipped keys under their labels as texts. -/
structure HeldRatchet where
  rootKey : Bytes
  sendingChain : Option Bytes
  receivingChain : Option Bytes
  dhSelfPrivate : Option Bytes
  dhSelfPublic : Option Bytes
  dhRemote : Option Bytes
  sendCount : Int
  recvCount : Int
  prevSendCount : Int
  skipped : Dict String Bytes

structure HeldSession where
  sid : Bytes
  ratchet : HeldRatchet
  sk : Option Bytes
  init : Option Json
  established : Bool

structure HeldState where
  devices : List DeviceEntry
  outbound : Dict String HeldSession
  inbound : Dict String HeldSession

def RatchetState.held (state : RatchetState) : HeldRatchet where
  rootKey := state.rootKey
  sendingChain := state.sendingChain
  receivingChain := state.receivingChain
  dhSelfPrivate := state.dhSelfPrivate
  dhSelfPublic := state.dhSelfPublic
  dhRemote := state.dhRemote
  sendCount := state.sendCount
  recvCount := state.recvCount
  prevSendCount := state.prevSendCount
  skipped := state.skipped.mapKeys labelText labelText_injective

def Session.held (session : Session) : HeldSession where
  sid := session.sid
  ratchet := session.ratchet.held
  sk := session.sk
  init := session.init
  established := session.established

def SessionState.held (state : SessionState) : HeldState where
  devices := state.devices
  outbound := state.outbound.mapValues Session.held
  inbound := state.inbound.mapValues Session.held

/-- What is held stands for one state only. -/
theorem RatchetState.held_injective : Function.Injective RatchetState.held := by
  intro left right same
  obtain ⟨⟩ := left
  obtain ⟨⟩ := right
  simp only [held, HeldRatchet.mk.injEq, Int.natCast_inj] at same
  obtain ⟨rfl, rfl, rfl, rfl, rfl, rfl, rfl, rfl, rfl, skipped⟩ := same
  obtain rfl := Dict.mapKeys_injective labelText_injective skipped
  rfl

theorem Session.held_injective : Function.Injective Session.held := by
  intro left right same
  obtain ⟨⟩ := left
  obtain ⟨⟩ := right
  simp only [held, HeldSession.mk.injEq] at same
  obtain ⟨rfl, ratchet, rfl, rfl, rfl⟩ := same
  obtain rfl := RatchetState.held_injective ratchet
  rfl

theorem SessionState.held_injective : Function.Injective SessionState.held := by
  intro left right same
  obtain ⟨⟩ := left
  obtain ⟨⟩ := right
  simp only [held, HeldState.mk.injEq] at same
  obtain ⟨rfl, outbound, inbound⟩ := same
  obtain rfl := Dict.mapValues_injective Session.held_injective outbound
  obtain rfl := Dict.mapValues_injective Session.held_injective inbound
  rfl

/-- `b64e(value) if value else None` -/
def optional : Option Bytes → Json
  | some (byte :: rest) => .str (b64e (byte :: rest))
  | _ => .null

/-- An object with one field for each entry, in order. -/
def writeDict {ν : Type} (write : ν → Json) (dict : Dict String ν) : Json :=
  .obj (dict.entries.map fun entry => (entry.1, write entry.2))

def HeldRatchet.toDict (state : HeldRatchet) : Json :=
  .obj [
    ("v", .int 1),
    ("rk", .str (b64e state.rootKey)),
    ("cks", optional state.sendingChain),
    ("ckr", optional state.receivingChain),
    ("dhs_priv", optional state.dhSelfPrivate),
    ("dhs_pub", optional state.dhSelfPublic),
    ("dhr", optional state.dhRemote),
    ("ns", .int state.sendCount),
    ("nr", .int state.recvCount),
    ("pn", .int state.prevSendCount),
    ("skipped", writeDict (fun key => .str (b64e key)) state.skipped)]

def HeldSession.toDict (session : HeldSession) : Json :=
  .obj [
    ("sid", .str (b64e session.sid)),
    ("state", session.ratchet.toDict),
    ("sk", optional session.sk),
    ("init", session.init.getD .null),
    ("established", .bool session.established)]

/-- What `_save_state` stores. -/
def HeldState.save (state : HeldState) : Json :=
  .obj [
    ("v", .int 2),
    ("devices", .arr (state.devices.map DeviceEntry.toDict)),
    ("outbound", writeDict HeldSession.toDict state.outbound),
    ("inbound", writeDict HeldSession.toDict state.inbound)]

/-- `b64d(data[key]) if data.get(key) else None` -/
def optionalBytes (data : Json) (key : String) : Except Raised (Option Bytes) := do
  if (← data.attempt key).truthy then return some (← (← data.item key).toBytes)
  else return none

/-- `int(data.get(key, 0))` -/
def counter (data : Json) (key : String) : Except Raised Int := do
  let _ ← data.attempt key
  ((data.get? key).getD (.int 0)).toInt

/-- `value.items()` -/
def itemPairs (value : Json) : Except Raised (List (String × Json)) :=
  match value with
  | .obj fields => .ok fields
  | _ => .error { class_ := .attribute, text := "items" }

/-- `{key: read(value) for key, value in (data.get(field) or {}).items()}` -/
def readDict {ν : Type} (read : Json → Except Raised ν) (data : Json) (field : String) :
    Except Raised (Dict String ν) := do
  let items ← itemPairs ((← data.attempt field).orElse (.obj []))
  items.foldlM (fun dict item => do return dict.insert item.1 (← read item.2)) Dict.empty

def HeldRatchet.fromDict (data : Json) : Except Raised HeldRatchet := do
  let rootKey ← (← data.item "rk").toBytes
  let sendingChain ← optionalBytes data "cks"
  let receivingChain ← optionalBytes data "ckr"
  let dhSelfPrivate ← optionalBytes data "dhs_priv"
  let dhSelfPublic ← optionalBytes data "dhs_pub"
  let dhRemote ← optionalBytes data "dhr"
  let sendCount ← counter data "ns"
  let recvCount ← counter data "nr"
  let prevSendCount ← counter data "pn"
  let skipped ← readDict Json.toBytes data "skipped"
  return { rootKey, sendingChain, receivingChain, dhSelfPrivate, dhSelfPublic, dhRemote
           sendCount, recvCount, prevSendCount, skipped }

def HeldSession.fromDict (data : Json) : Except Raised HeldSession := do
  let sid ← (← data.item "sid").toBytes
  let ratchet ← HeldRatchet.fromDict (← data.item "state")
  let sk ← optionalBytes data "sk"
  let init ← data.attempt "init"
  let established := (← data.attempt "established").truthy
  return { sid, ratchet, sk, init := if init = .null then none else some init, established }

/-- A stored device entry that is malformed is left out. -/
def readDevices (entries : List Json) : Except Raised (List DeviceEntry) :=
  entries.foldlM (fun devices data =>
    match DeviceEntry.fromDict data with
    | .ok entry => .ok (devices ++ [entry])
    | .error raised => if raised.class_ = .deviceList then .ok devices else .error raised) []

/-- What `_load_state` makes of the session column of a contact. -/
def HeldState.load (column : Option Json) : Except Raised HeldState := do
  let raw := column.getD .null
  if !raw.truthy then return ⟨[], Dict.empty, Dict.empty⟩
  else if (← raw.attempt "v").equalsInt 2 then
    let devices ← readDevices (← ((← raw.attempt "devices").orElse (.arr [])).elements)
    let outbound ← readDict HeldSession.fromDict raw "outbound"
    let inbound ← readDict HeldSession.fromDict raw "inbound"
    return { devices, outbound, inbound }
  else
    -- v1 blob: a single session, always an outbound one.
    let session ← HeldSession.fromDict raw
    return ⟨[], Dict.empty.insert legacyDevice session, Dict.empty⟩

theorem optionalBytes_eq_ok {data : Json} {key : String} {value : Option Bytes}
    (stored : data.get? key = some (optional value)) (nonempty : value ≠ some []) :
    optionalBytes data key = .ok value := by
  unfold optionalBytes
  rw [attempt_of_get? stored, Json.item_eq_ok.mpr stored]
  match value, nonempty with
  | none, _ => rfl
  | some [], nonempty => exact absurd rfl nonempty
  | some (byte :: rest), _ =>
      have present : (optional (some (byte :: rest))).truthy = true := by
        simpa [optional, Json.truthy] using b64e_ne_empty (List.cons_ne_nil byte rest)
      rw [except_ok_bind, if_pos present, except_ok_bind, optional, toBytes_b64e]
      rfl

theorem counter_eq_ok {data : Json} {key : String} {value : Int}
    (stored : data.get? key = some (.int value)) : counter data key = .ok value := by
  unfold counter
  rw [attempt_of_get? stored, stored]
  rfl

theorem readDict_eq_ok {ν : Type} {read : Json → Except Raised ν} {write : ν → Json}
    {data : Json} {field : String} {dict : Dict String ν}
    (stored : data.get? field = some (writeDict write dict))
    (reads : ∀ entry ∈ dict.entries, read (write entry.2) = .ok entry.2) :
    readDict read data field = .ok dict := by
  have same : (writeDict write dict).orElse (.obj []) = writeDict write dict := by
    unfold writeDict
    cases dict.entries <;> simp [Json.orElse, Json.truthy]
  have steps : ∀ (entries : List (String × ν)) (built : Dict String ν),
      (∀ entry ∈ entries, read (write entry.2) = .ok entry.2) →
      (entries.map fun entry => (entry.1, write entry.2)).foldlM
          (fun dict item => do return dict.insert item.1 (← read item.2)) built =
        .ok (entries.foldl (fun built entry => built.insert entry.1 entry.2) built) := by
    intro entries built reads
    induction entries generalizing built with
    | nil => rfl
    | cons entry entries induction =>
        rw [List.map_cons, List.foldlM_cons, reads entry List.mem_cons_self, except_ok_bind,
          pure_bind, List.foldl_cons]
        exact induction _ fun other member => reads other (List.mem_cons_of_mem _ member)
  unfold readDict
  rw [attempt_of_get? stored, except_ok_bind, same]
  show List.foldlM _ _ (dict.entries.map _) = _
  rw [steps dict.entries Dict.empty reads, Dict.foldl_insert_entries]

/-- Nothing that is present is empty: the encoders write an empty string as absent. -/
structure RatchetState.Full (state : RatchetState) : Prop where
  sendingChain : state.sendingChain ≠ some []
  receivingChain : state.receivingChain ≠ some []
  dhSelfPrivate : state.dhSelfPrivate ≠ some []
  dhSelfPublic : state.dhSelfPublic ≠ some []
  dhRemote : state.dhRemote ≠ some []

structure Session.Full (session : Session) : Prop where
  ratchet : session.ratchet.Full
  sk : session.sk ≠ some []
  init : session.init ≠ some .null

/-- A device entry whose fields are texts. -/
structure DeviceEntry.Textual (entry : DeviceEntry) : Prop where
  inbox : entry.inbox.toDict = .ok entry.inbox
  relays : ∃ urls : List String, entry.relays = urls.map Json.str

structure SessionState.Full (state : SessionState) : Prop where
  devices : ∀ entry ∈ state.devices, entry.Textual
  outbound : ∀ entry ∈ state.outbound.entries, entry.2.Full
  inbound : ∀ entry ∈ state.inbound.entries, entry.2.Full

theorem HeldRatchet.fromDict_toDict {state : RatchetState} (full : state.Full) :
    HeldRatchet.fromDict state.held.toDict = .ok state.held := by
  have rootKey : state.held.toDict.item "rk" = .ok (.str (b64e state.rootKey)) :=
    Json.item_eq_ok.mpr rfl
  have skipped : readDict Json.toBytes state.held.toDict "skipped" = .ok state.held.skipped :=
    readDict_eq_ok rfl fun entry _ => toBytes_b64e entry.2
  refine except_bind_eq_ok.mpr ⟨_, rootKey, ?_⟩
  refine except_bind_eq_ok.mpr ⟨_, toBytes_b64e _, ?_⟩
  refine except_bind_eq_ok.mpr ⟨_, optionalBytes_eq_ok rfl full.sendingChain, ?_⟩
  refine except_bind_eq_ok.mpr ⟨_, optionalBytes_eq_ok rfl full.receivingChain, ?_⟩
  refine except_bind_eq_ok.mpr ⟨_, optionalBytes_eq_ok rfl full.dhSelfPrivate, ?_⟩
  refine except_bind_eq_ok.mpr ⟨_, optionalBytes_eq_ok rfl full.dhSelfPublic, ?_⟩
  refine except_bind_eq_ok.mpr ⟨_, optionalBytes_eq_ok rfl full.dhRemote, ?_⟩
  refine except_bind_eq_ok.mpr ⟨_, counter_eq_ok rfl, ?_⟩
  refine except_bind_eq_ok.mpr ⟨_, counter_eq_ok rfl, ?_⟩
  refine except_bind_eq_ok.mpr ⟨_, counter_eq_ok rfl, ?_⟩
  exact except_bind_eq_ok.mpr ⟨_, skipped, rfl⟩

theorem HeldSession.fromDict_toDict {session : Session} (full : session.Full) :
    HeldSession.fromDict session.held.toDict = .ok session.held := by
  have sid : session.held.toDict.item "sid" = .ok (.str (b64e session.sid)) :=
    Json.item_eq_ok.mpr rfl
  have state : session.held.toDict.item "state" = .ok session.ratchet.held.toDict :=
    Json.item_eq_ok.mpr rfl
  have init : session.held.toDict.attempt "init" = .ok (session.init.getD .null) := rfl
  have established : session.held.toDict.attempt "established" =
      .ok (.bool session.established) := rfl
  refine except_bind_eq_ok.mpr ⟨_, sid, ?_⟩
  refine except_bind_eq_ok.mpr ⟨_, toBytes_b64e _, ?_⟩
  refine except_bind_eq_ok.mpr ⟨_, state, ?_⟩
  refine except_bind_eq_ok.mpr ⟨_, HeldRatchet.fromDict_toDict full.ratchet, ?_⟩
  refine except_bind_eq_ok.mpr ⟨_, optionalBytes_eq_ok rfl full.sk, ?_⟩
  refine except_bind_eq_ok.mpr ⟨_, init, ?_⟩
  refine except_bind_eq_ok.mpr ⟨_, established, ?_⟩
  have initial : (if session.init.getD .null = .null then none
      else some (session.init.getD .null)) = session.init := by
    cases present : session.init with
    | none => rfl
    | some value => exact if_neg fun null => full.init (present.trans (congrArg some null))
  have flag : (Json.bool session.established).truthy = session.established := by
    cases session.established <;> rfl
  rw [initial, flag]
  rfl

theorem readDevices_toDict {devices : List DeviceEntry}
    (textual : ∀ entry ∈ devices, entry.Textual) :
    readDevices (devices.map DeviceEntry.toDict) = .ok devices := by
  unfold readDevices
  induction devices using List.reverseRecOn with
  | nil => rfl
  | append_singleton devices entry induction =>
      have last := textual entry (by simp)
      rw [List.map_append, List.foldlM_append,
        induction fun other member => textual other (List.mem_append_left _ member),
        except_ok_bind, List.map_cons, List.foldlM_cons,
        DeviceEntry.fromDict_toDict_of_dict last.inbox last.relays]
      rfl

theorem writeDict_held {sessions : Dict String Session}
    (full : ∀ entry ∈ sessions.entries, entry.2.Full) {data : Json} {field : String}
    (stored : data.get? field =
      some (writeDict HeldSession.toDict (sessions.mapValues Session.held))) :
    readDict HeldSession.fromDict data field = .ok (sessions.mapValues Session.held) := by
  apply readDict_eq_ok stored
  intro entry member
  obtain ⟨⟨key, session⟩, stored, rfl⟩ := List.mem_map.mp member
  exact HeldSession.fromDict_toDict (full _ stored)

/-- What is stored loads as it was. -/
theorem load_save {state : SessionState} (full : state.Full) :
    HeldState.load (some state.held.save) = .ok state.held := by
  have version : state.held.save.attempt "v" = .ok (.int 2) := rfl
  have devices : state.held.save.attempt "devices" =
      .ok (.arr (state.devices.map DeviceEntry.toDict)) := rfl
  have entries : ((Json.arr (state.devices.map DeviceEntry.toDict)).orElse (.arr [])).elements =
      .ok (state.devices.map DeviceEntry.toDict) := by
    cases state.devices <;> rfl
  unfold HeldState.load
  show (if !state.held.save.truthy then _ else _) = _
  rw [if_neg (by simp [HeldState.save, Json.truthy])]
  refine except_bind_eq_ok.mpr ⟨_, version, ?_⟩
  rw [if_pos (by decide)]
  refine except_bind_eq_ok.mpr ⟨_, devices, ?_⟩
  refine except_bind_eq_ok.mpr ⟨_, entries, ?_⟩
  refine except_bind_eq_ok.mpr ⟨_, readDevices_toDict full.devices, ?_⟩
  refine except_bind_eq_ok.mpr ⟨_, writeDict_held full.outbound rfl, ?_⟩
  exact except_bind_eq_ok.mpr ⟨_, writeDict_held full.inbound rfl, rfl⟩

/-- A single stored session of an older client. -/
theorem load_v1 {session : Session} (full : session.Full) :
    HeldState.load (some session.held.toDict) =
      .ok (SessionState.load (some (.v1 session))).held := by
  have version : session.held.toDict.attempt "v" = .ok .null := rfl
  unfold HeldState.load
  show (if !session.held.toDict.truthy then _ else _) = _
  rw [if_neg (by simp [HeldSession.toDict, Json.truthy])]
  refine except_bind_eq_ok.mpr ⟨_, version, ?_⟩
  rw [if_neg (by decide)]
  exact except_bind_eq_ok.mpr ⟨_, HeldSession.fromDict_toDict full, rfl⟩

/-- No key that is derived or accepted is empty. -/
structure Suite.KeysPresent (suite : Suite) : Prop where
  root : ∀ rootKey dh, (suite.kdfRk rootKey dh).2 ≠ []
  chain : ∀ chainKey, (suite.kdfCk chainKey).2 ≠ []
  publicKey : ∀ private_, suite.dhPublic private_ ≠ []
  agreed : ∀ private_ public_ shared,
    suite.exchange private_ public_ = some shared → public_ ≠ []
  derived : ∀ ikm salt info, suite.hkdf ikm salt info keySize ≠ []

/-- The sessions a client comes to hold.  Private keys are drawn or were published. -/
inductive ReachableSession (suite : Suite) : Session → Prop
  | outbound {bundle : PrekeyBundle} {isign idh ephemeral sid newPrivate : Bytes}
      {initiation : Initiation} {ratchet : RatchetState}
      (initiated : X3dh.initiate suite bundle isign idh ephemeral = .ok initiation)
      (drawn : newPrivate.length = keySize)
      (started : Ratchet.initiator suite initiation.sk bundle.spk newPrivate = .ok ratchet) :
      ReachableSession suite {
        sid, ratchet, sk := some initiation.sk, init := some initiation.initDict }
  | inbound {xPrivate spkPrivate spkPublic ephemeral sessionKey sid : Bytes}
      {opkPrivate : Option Bytes} {fields : List (String × Json)}
      (responded : X3dh.respond suite xPrivate spkPrivate opkPrivate ephemeral =
        .ok sessionKey)
      (drawn : spkPrivate.length = keySize) (published : spkPublic.length = keySize) :
      ReachableSession suite {
        sid, ratchet := Ratchet.responder sessionKey spkPrivate spkPublic
        sk := some sessionKey, init := some (.obj fields) }
  | encrypt {session : Session} (reached : ReachableSession suite session)
      (nonce plaintext : Bytes) (adContext : Option Json) :
      ReachableSession suite { session with
        ratchet := (Ratchet.encrypt suite nonce plaintext adContext).after session.ratchet }
  | decrypt {session : Session} (reached : ReachableSession suite session)
      {newPrivate : Bytes} (drawn : newPrivate.length = keySize) (header : Json)
      (nonce ciphertext : Bytes) (adContext : Option Json) :
      ReachableSession suite { session with
        ratchet := (Ratchet.decrypt suite newPrivate header nonce ciphertext
          adContext).after session.ratchet }
  | confirm {session : Session} (reached : ReachableSession suite session) :
      ReachableSession suite { session with established := true, sk := none }

/-- The session states of a contact. -/
inductive ReachableState (suite : Suite) : SessionState → Prop
  | empty : ReachableState suite .empty
  | legacy {session : Session} (reached : ReachableSession suite session) :
      ReachableState suite (SessionState.load (some (.v1 session)))
  | file {state : SessionState} {session : Session} (reached : ReachableState suite state)
      (bucket : SessionState.Bucket) (key : String)
      (filed : ReachableSession suite session) :
      ReachableState suite (state.file bucket key session)
  | devices {state : SessionState} {devices : List DeviceEntry}
      (reached : ReachableState suite state)
      (textual : ∀ entry ∈ devices, entry.Textual) :
      ReachableState suite { state with devices }

section Reachable

open Ratchet Prog

variable {suite : Suite}

theorem some_ne_some {key : Bytes} (nonempty : key ≠ []) : some key ≠ some [] :=
  fun same => nonempty (Option.some.inj same)

theorem RatchetState.Full.encrypt {state : RatchetState} (laws : suite.KeysPresent)
    (full : state.Full) (nonce plaintext : Bytes) (adContext : Option Json) :
    ((Ratchet.encrypt suite nonce plaintext adContext).after state).Full := by
  cases sending : state.sendingChain with
  | none =>
      rw [after_eq (encrypt_run_none sending)]
      exact full
  | some chain =>
      have next := some_ne_some (laws.chain chain)
      cases encrypted : suite.aeadEncrypt (suite.kdfCk chain).1 nonce plaintext
          (associatedData (makeHeader state) adContext) with
      | none =>
          have raised : (Ratchet.encrypt suite nonce plaintext adContext).after state =
              { state with sendingChain := some (suite.kdfCk chain).2 } := by
            simp [Prog.after, Ratchet.encrypt, Prog.run_bind, sending, encrypted]
          rw [raised]
          exact { full with sendingChain := next }
      | some ciphertext =>
          rw [after_eq (encrypt_run sending encrypted)]
          exact { full with sendingChain := next }

theorem RatchetState.Full.skipTimes {state : RatchetState} (laws : suite.KeysPresent)
    (full : state.Full) (count : Nat) : (Ratchet.skipTimes suite count state).Full := by
  induction count generalizing state with
  | zero => exact full
  | succ count induction =>
      apply induction
      unfold skipOne
      split
      · exact full
      · exact { full with receivingChain := some_ne_some (laws.chain _) }

theorem full_dhRatchet {state final : RatchetState} {newPrivate remoteDh : Bytes}
    (laws : suite.KeysPresent) (drawn : newPrivate ≠ [])
    (returned : (dhRatchet suite newPrivate remoteDh).run state = (.ok (), final)) :
    final.Full := by
  cases localKey : state.dhSelfPrivate with
  | none => simp [dhRatchet, Prog.run_bind, localKey] at returned
  | some private_ =>
      cases agreed : suite.exchange private_ remoteDh with
      | none => simp [dhRatchet, Prog.run_bind, localKey, agree, agreed] at returned
      | some received =>
          obtain ⟨received, sent, rfl⟩ := dhRatchet_returns returned
          exact {
            sendingChain := some_ne_some (laws.root _ _)
            receivingChain := some_ne_some (laws.root _ _)
            dhSelfPrivate := some_ne_some drawn
            dhSelfPublic := some_ne_some (laws.publicKey _)
            dhRemote := some_ne_some (laws.agreed _ _ _ agreed) }

theorem full_enterChain {state final : RatchetState} {newPrivate remoteDh : Bytes}
    {prevCount : Int} (laws : suite.KeysPresent) (drawn : newPrivate ≠ [])
    (full : state.Full)
    (returned : (enterChain suite newPrivate remoteDh prevCount).run state =
      (.ok (), final)) : final.Full := by
  by_cases moves : state.dhRemote ≠ some remoteDh ∨ state.receivingChain = none
  · cases receiving : state.receivingChain with
    | none =>
        simp only [enterChain, Prog.run_bind, Prog.run_get, receiving, or_true, if_true,
          Option.isSome_none, Bool.false_eq_true, if_false] at returned
        exact full_dhRatchet laws drawn returned
    | some chain =>
        rw [receiving] at moves
        simp only [enterChain, Prog.run_bind, Prog.run_get, receiving, if_pos moves,
          Option.isSome_some, if_true] at returned
        split at returned
        · exact full_dhRatchet laws drawn returned
        · cases returned
  · simp only [enterChain, Prog.run_bind, Prog.run_get, if_neg moves,
      Prog.run_pure] at returned
    cases returned
    exact full

theorem RatchetState.Full.decrypt {state : RatchetState} (laws : suite.KeysPresent)
    (full : state.Full) {newPrivate : Bytes} (drawn : newPrivate ≠ []) (header : Json)
    (nonce ciphertext : Bytes) (adContext : Option Json) :
    ((Ratchet.decrypt suite newPrivate header nonce ciphertext adContext).after state).Full := by
  rcases ran : (Ratchet.decrypt suite newPrivate header nonce ciphertext adContext).run
    state with ⟨result, final⟩
  rw [after_eq ran]
  cases result with
  | error raised =>
      rw [decrypt_raises ran]
      exact full
  | ok plaintext =>
      obtain ⟨messageKey, selected, -⟩ := decrypt_returns ran
      obtain ⟨remoteDh, number, prevCount, middle, -, entered, taken⟩ :=
        selectKey_returns selected
      have middleFull := full_enterChain laws drawn full entered
      rcases takeKey_returns taken with ⟨-, rfl⟩ | ⟨count, chain, -, -, rfl⟩
      · exact { middleFull with }
      · exact { middleFull.skipTimes laws count with
          receivingChain := some_ne_some (laws.chain chain) }

theorem sharedSecret_nonempty (laws : suite.KeysPresent) (dh1 dh2 dh3 : Bytes) :
    X3dh.sharedSecret suite dh1 dh2 dh3 ≠ [] := laws.derived _ _ _

theorem initiate_nonempty {bundle : PrekeyBundle} {isign idh ephemeral : Bytes}
    {initiation : Initiation} (laws : suite.KeysPresent)
    (initiated : X3dh.initiate suite bundle isign idh ephemeral = .ok initiation) :
    initiation.sk ≠ [] := by
  unfold X3dh.initiate at initiated
  obtain ⟨_, _, initiated⟩ := except_bind_eq_ok.mp initiated
  obtain ⟨_, _, initiated⟩ := except_bind_eq_ok.mp initiated
  obtain ⟨dh1, _, initiated⟩ := except_bind_eq_ok.mp initiated
  obtain ⟨dh2, _, initiated⟩ := except_bind_eq_ok.mp initiated
  dsimp only at initiated
  split at initiated
  · cases initiated
    exact sharedSecret_nonempty laws dh1 dh2 []
  · obtain ⟨dh3, _, initiated⟩ := except_bind_eq_ok.mp initiated
    cases initiated
    exact sharedSecret_nonempty laws dh1 dh2 dh3

theorem respond_nonempty {xPrivate spkPrivate ephemeral sessionKey : Bytes}
    {opkPrivate : Option Bytes} (laws : suite.KeysPresent)
    (responded : X3dh.respond suite xPrivate spkPrivate opkPrivate ephemeral =
      .ok sessionKey) : sessionKey ≠ [] := by
  unfold X3dh.respond at responded
  obtain ⟨dh1, _, responded⟩ := except_bind_eq_ok.mp responded
  obtain ⟨dh2, _, responded⟩ := except_bind_eq_ok.mp responded
  dsimp only at responded
  split at responded
  · obtain ⟨dh3, _, responded⟩ := except_bind_eq_ok.mp responded
    cases responded
    exact sharedSecret_nonempty laws dh1 dh2 dh3
  · cases responded
    exact sharedSecret_nonempty laws dh1 dh2 []

theorem full_initiator {sessionKey remote newPrivate : Bytes} {state : RatchetState}
    (laws : suite.KeysPresent) (drawn : newPrivate ≠ [])
    (started : Ratchet.initiator suite sessionKey remote newPrivate = .ok state) :
    state.Full := by
  unfold Ratchet.initiator at started
  split at started
  · cases started
  · rename_i shared agreed
    cases started
    exact {
      sendingChain := some_ne_some (laws.root _ _)
      receivingChain := nofun
      dhSelfPrivate := some_ne_some drawn
      dhSelfPublic := some_ne_some (laws.publicKey _)
      dhRemote := some_ne_some (laws.agreed _ _ _ agreed) }

theorem ReachableSession.full {session : Session} (laws : suite.KeysPresent)
    (reached : ReachableSession suite session) : session.Full := by
  induction reached with
  | outbound initiated drawn started =>
      exact ⟨full_initiator laws (nonempty_of_keySize drawn) started,
        some_ne_some (initiate_nonempty laws initiated), nofun⟩
  | inbound responded drawn published =>
      refine ⟨⟨nofun, nofun, ?_, ?_, nofun⟩, ?_, nofun⟩
      · exact some_ne_some (nonempty_of_keySize drawn)
      · exact some_ne_some (nonempty_of_keySize published)
      · exact some_ne_some (respond_nonempty laws responded)
  | encrypt reached nonce plaintext adContext full =>
      exact { full with ratchet := full.ratchet.encrypt laws nonce plaintext adContext }
  | decrypt reached drawn header nonce ciphertext adContext full =>
      exact { full with
        ratchet := full.ratchet.decrypt laws (nonempty_of_keySize drawn) header nonce
          ciphertext adContext }
  | confirm reached full => exact { full with sk := nofun }

/-- Filing a session. -/
theorem full_insert {sessions : Dict String Session} {key : String} {session : Session}
    (full : ∀ entry ∈ sessions.entries, entry.2.Full) (filed : session.Full) :
    ∀ entry ∈ (sessions.insert key session).entries, entry.2.Full := by
  rintro ⟨other, found⟩ member
  rcases Dict.mem_entries_insert member with ⟨-, rfl⟩ | ⟨-, old⟩
  · exact filed
  · exact full _ old

theorem ReachableState.full {state : SessionState} (laws : suite.KeysPresent)
    (reached : ReachableState suite state) : state.Full := by
  induction reached with
  | empty => exact ⟨nofun, nofun, nofun⟩
  | legacy reached =>
      exact ⟨nofun, full_insert nofun (reached.full laws), nofun⟩
  | file reached bucket key filed full =>
      cases bucket with
      | outbound =>
          exact { full with outbound := full_insert full.outbound (filed.full laws) }
      | inbound => exact { full with inbound := full_insert full.inbound (filed.full laws) }
  | devices reached textual full => exact { full with devices := textual }

/-- What `_save_state` stores of a reachable state loads as that state and as no other,
and so does the single session of an older client. -/
theorem stored_state_loads (laws : suite.KeysPresent) :
    (∀ state, ReachableState suite state → ∀ loaded : SessionState,
      HeldState.load (some state.held.save) = .ok loaded.held ↔ loaded = state) ∧
      ∀ session, ReachableSession suite session →
        let state := SessionState.load (some (.v1 session))
        HeldState.load (some session.held.toDict) = .ok state.held ∧
          HeldState.load (some state.held.save) = .ok state.held := by
  constructor
  · intro state reached loaded
    rw [load_save (reached.full laws)]
    constructor
    · intro same
      exact (SessionState.held_injective (Except.ok.inj same)).symm
    · rintro rfl
      rfl
  · intro session reached
    exact ⟨load_v1 (reached.full laws), load_save ((ReachableState.legacy reached).full laws)⟩

theorem symbolic_keysPresent : Symbolic.suite.KeysPresent where
  root := fun _ _ => List.cons_ne_nil _ _
  chain := fun _ => List.cons_ne_nil _ _
  publicKey := fun _ => List.cons_ne_nil _ _
  agreed := by
    rintro private_ public_ shared agreed rfl
    cases agreed
  derived := fun _ _ _ => List.cons_ne_nil _ _

def drawnKey : Bytes := List.replicate 32 1

/-- The session a client starts from a handshake, before it reads the message. -/
def answering : Session where
  sid := [7]
  ratchet := Ratchet.responder
    (X3dh.sharedSecret Symbolic.suite [6, 1, 1, 0, 2] (6 :: Symbolic.unordered drawnKey [2]) [])
    drawnKey drawnKey
  sk := some (X3dh.sharedSecret Symbolic.suite [6, 1, 1, 0, 2]
    (6 :: Symbolic.unordered drawnKey [2]) [])
  init := some (.obj [("ek", .str "BQI"), ("opk_id", .null), ("spk_id", .int 1)])

theorem answering_reachable : ReachableSession Symbolic.suite answering := by
  have responded : X3dh.respond Symbolic.suite [1] drawnKey none [5, 2] =
      .ok (X3dh.sharedSecret Symbolic.suite [6, 1, 1, 0, 2]
        (6 :: Symbolic.unordered drawnKey [2]) []) := by
    rfl
  exact ReachableSession.inbound responded rfl rfl

theorem stored_state_loads_answering :
    HeldState.load (some (SessionState.file .empty .inbound "d" answering).held.save) =
        .ok (SessionState.file .empty .inbound "d" answering).held ∧
      HeldState.load (some answering.held.toDict) =
        .ok (SessionState.load (some (.v1 answering))).held :=
  ⟨((stored_state_loads symbolic_keysPresent).1 _
      (.file .empty .inbound "d" answering_reachable) _).mpr rfl,
    ((stored_state_loads symbolic_keysPresent).2 answering answering_reachable).1⟩

end Reachable

end NoKnowledge
